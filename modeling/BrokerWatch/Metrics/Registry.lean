import BrokerWatch.Metrics.Gauge
import BrokerWatch.SortedMap

/-!
# The registry

A registry holds at most one source of memory readings, and the families that others gave it. Each
gathering takes one reading if there is a source and none otherwise, and gives the families in the
order of their names.
-/

namespace BrokerWatch.Metrics

structure Registry (Source : Type) where
  /-- Where readings come from. -/
  source : Option Source := none
  /-- The families that are not of memory. -/
  others : List Family := []

namespace Registry

variable {Source : Type}

/-- The registry with a source, unless it has one. -/
def register (r : Registry Source) (source : Source) : Except Failure (Registry Source) :=
  match r.source with
  | none => .ok { r with source := some source }
  | some _ => .error (.metrics "Duplicate metrics collector registration attempted")

def sorted (families : List Family) : List Family :=
  (SortedMap.ofList (families.map fun f => (f.name, f))).values

/-- The families that a registry shows when it is asked. -/
def gather {m : Type → Type} [Monad m] (r : Registry Source)
    (read : Source → m (Except Failure Memory.Usage)) : m (List Family) := do
  let own ← match r.source with
    | none => pure []
    | some source => collect <$> read source
  return sorted (own ++ r.others)

/-! ### Uses of a registry -/

inductive Use (Source : Type)
  | register (source : Source)
  | gather
  deriving DecidableEq, Repr

inductive Reply
  | registered
  | refused (failure : Failure)
  | shows (families : List Family)

/-- A registry after a use, and what it answers. It is left as it is where a source is refused. -/
def apply {m : Type → Type} [Monad m] (r : Registry Source)
    (read : Source → m (Except Failure Memory.Usage)) : Use Source → m (Registry Source × Reply)
  | .register source =>
    match r.register source with
    | .ok next => return (next, .registered)
    | .error failure => return (r, .refused failure)
  | .gather => do
    let families ← r.gather read
    return (r, .shows families)

/-- A registry after uses in turn, and what it answered in each of them. -/
def run {m : Type → Type} [Monad m] (r : Registry Source)
    (read : Source → m (Except Failure Memory.Usage)) :
    List (Use Source) → m (Registry Source × List Reply)
  | [] => return (r, [])
  | use :: uses => do
    let (next, reply) ← r.apply read use
    let (last, replies) ← next.run read uses
    return (last, reply :: replies)

end Registry

end BrokerWatch.Metrics
