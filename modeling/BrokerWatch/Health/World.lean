import BrokerWatch.Admin.Session
import BrokerWatch.Cluster.Reply
import BrokerWatch.Logging

/-!
# Calls with a deadline

An evaluation sees a cluster that replies as it will, a clock, and a caller that may lose patience.
Every call is given the same time. It takes its reply's delay or that time, whichever is shorter; in
the second case its result is a timeout. A caller whose patience ends before a call does abandons the
evaluation there, and the clock stands at that moment.
-/

namespace BrokerWatch.Health

open Admin Cluster

structure Occurrence where
  time : Duration
  event : Event
  deriving DecidableEq, Repr

structure World where
  cluster : Behaviour
  now : Duration := .zero
  /-- When the caller loses patience. -/
  patience : Option Duration := none
  /-- What was seen so far. -/
  trace : List Occurrence := []
  /-- The lines that were logged so far. -/
  log : List Logging.Record := []

/-- A course of calls that ends with a value or is abandoned. -/
abbrev Eval (α : Type) := OptionT (StateM World) α

namespace World

def record (w : World) (events : List Event) : World :=
  { w with trace := w.trace ++ events.map fun event => ⟨w.now, event⟩ }

def noted (w : World) (line : Logging.Record) : World :=
  { w with log := w.log ++ [line] }

def events (w : World) : List Event :=
  w.trace.map (·.event)

/-- Whether the caller loses patience within a time from now. -/
def gaveUp (w : World) (span : Duration) : Option Duration :=
  w.patience.filter fun moment => moment < w.now + span

/-- A world at the start of an evaluation, whose caller may lose patience after a time. -/
def beginning (w : World) (patience : Option Duration) : World :=
  { w with trace := [], patience := patience.map (w.now + ·) }

end World

/-- Waits; the caller may lose patience meanwhile. -/
def wait (span : Duration) : Eval Unit := fun w =>
  match w.gaveUp span with
  | some moment => (none, { w with now := moment })
  | none => (some (), { w with now := w.now + span })

/-- The result of a call that was given too little time. -/
def deadlineExceeded (timeout : Duration) : Failure :=
  .timeout s!"deadline exceeded after {timeout.text}"

/-- How long a call takes that is given a time. -/
def spent {α : Type} (timeout : Duration) : Reply α → Duration
  | .after delay _ => delay.min timeout
  | .never => timeout

/-- What a call comes to that is given a time, as the result of an operation. -/
def outcome {α : Type} (timeout : Duration) (operation : String) : Reply α → Except Failure α
  | .after delay result =>
    if delay ≤ timeout then result.mapError (·.context operation)
    else .error ((deadlineExceeded timeout).context operation)
  | .never => .error ((deadlineExceeded timeout).context operation)

/-- Waits for the reply to a call that is given a time. -/
def bounded {α : Type} (timeout : Duration) (operation : String) (reply : Reply α) :
    Eval (Except Failure α) := do
  wait (spent timeout reply)
  return outcome timeout operation reply

def note (line : Logging.Record) : Eval Unit := fun w =>
  (some (), w.noted line)

/-- The line that is logged at either end of a session. -/
def sessionNote (message : String) : Logging.Record :=
  .of .debug "kafka_sidecar::client" [] message

/-! ### The calls -/

def takeConnect : Eval (Reply Unit) := fun w =>
  let (reply, rest) := inTurn (.now (.ok ())) w.cluster.connect
  (some reply, { w with cluster := { w.cluster with connect := rest } }.record [.connect])

def takeMetadata : Eval (Reply Metadata) := fun w =>
  let (reply, rest) := inTurn (.now (.error noReply)) w.cluster.metadata
  (some reply, { w with cluster := { w.cluster with metadata := rest } }.record [.fetchMetadata])

def takeLogDirs (id : Int32) : Eval (Reply LogDirs) := fun w =>
  let (reply, rest) := inTurn (.now (.error noReply)) w.cluster.logDirs
  (some reply,
    { w with cluster := { w.cluster with logDirs := rest } }.record [.describeLogDirs id])

def connect (timeout : Duration) : Eval (Except Failure Unit) := do
  let result ← bounded timeout "failed to create admin client" (← takeConnect)
  if let .ok () := result then
    note (sessionNote "admin session opened")
  return result

def fetchMetadata (timeout : Duration) : Eval (Except Failure Metadata) := do
  bounded timeout "failed to fetch metadata" (← takeMetadata)

def describeLogDirs (timeout : Duration) (id : Int32) : Eval (Except Failure LogDirs) := do
  bounded timeout "failed to describe log dirs" (← takeLogDirs id)

/-- Runs what is done in an open session. The session is released behind it, and where it is abandoned
the session is dropped with it. -/
def inSession {α : Type} (body : Eval α) : Eval α := fun w =>
  let (result, w) := body w
  let last := if result.isSome then Use.release else Use.drop
  (result, (w.record (Guard.closing last)).noted (sessionNote "admin session closed"))

end BrokerWatch.Health
