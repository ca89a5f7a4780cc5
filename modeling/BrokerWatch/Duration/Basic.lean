import BrokerWatch.Decimal.Double

/-!
# Durations

A duration is a whole number of nanoseconds that is not negative. It is shown in the largest unit of
which it holds at least one, with the digits of its fraction that are needed.
-/

namespace BrokerWatch

structure Duration where
  nanoseconds : Nat
  deriving DecidableEq, Repr, Inhabited

namespace Duration

instance : LE Duration where le a b := a.nanoseconds ≤ b.nanoseconds

instance : LT Duration where lt a b := a.nanoseconds < b.nanoseconds

instance : Add Duration where add a b := ⟨a.nanoseconds + b.nanoseconds⟩

instance (a b : Duration) : Decidable (a ≤ b) :=
  inferInstanceAs (Decidable (a.nanoseconds ≤ b.nanoseconds))

instance (a b : Duration) : Decidable (a < b) :=
  inferInstanceAs (Decidable (a.nanoseconds < b.nanoseconds))

def zero : Duration := ⟨0⟩

def ofMilliseconds (n : Nat) : Duration := ⟨n * 1000000⟩

def ofSeconds (n : Nat) : Duration := ⟨n * 1000000000⟩

def seconds (d : Duration) : Nat := d.nanoseconds / 1000000000

/-- The nanoseconds beyond the whole seconds. -/
def subsecond (d : Duration) : Nat := d.nanoseconds % 1000000000

def min (a b : Duration) : Duration := if a ≤ b then a else b

/-- The duration of a double's seconds, to the nearest nanosecond, a half to the even one. There is
none for a negative number, for no number, and from `2 ^ 64` seconds on. -/
def ofFloat? (x : Float) : Option Duration :=
  match Decimal.decompose? x with
  | some (m, q) =>
    if UInt64.size * Nat.pow 2 (-q).toNat ≤ m * Nat.pow 2 q.toNat then none
    else some ⟨Decimal.scaledDiv (m * 1000000000) 1 q⟩
  | none => none

/-- A number of `unit` nanoseconds with its fraction in `places` digits, zeros at the end left out. -/
def decimal (n unit places : Nat) : String :=
  let fraction := (n % unit).repr.toList
  let padded := List.replicate (places - fraction.length) '0' ++ fraction
  let kept := (padded.reverse.dropWhile (· == '0')).reverse
  if kept.isEmpty then (n / unit).repr else (n / unit).repr ++ "." ++ String.ofList kept

/-- A duration in its largest unit: `90s`, `1.5ms`, `2µs`, `0ns`. -/
def text (d : Duration) : String :=
  let n := d.nanoseconds
  if 1000000000 ≤ n then decimal n 1000000000 9 ++ "s"
  else if 1000000 ≤ n then decimal n 1000000 6 ++ "ms"
  else if 1000 ≤ n then decimal n 1000 3 ++ "µs"
  else n.repr ++ "ns"

end Duration

end BrokerWatch
