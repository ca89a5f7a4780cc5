import BrokerWatch.Text.Quoted

/-!
# Failures

What can go wrong, in ten kinds. A kind says which part of the program was at fault and puts its own
words in front of the reason; a failure of the cluster's connection or of a deadline is shown as it
is. Naming the operation that a failure stopped makes it a failure of the connection.
-/

namespace BrokerWatch

/-- A failure: its kind, and the reason in words. -/
inductive Failure
  /-- The broker's own number cannot be told from the host name. -/
  | identity (reason : String)
  /-- A name of the cluster's surroundings is absent or malformed. -/
  | discovery (reason : String)
  /-- The configured authentication mechanism is none of those supported. -/
  | mechanism (name : String)
  /-- A setting has no valid value. -/
  | config (reason : String)
  /-- The cluster could not be reached or refused the session. -/
  | connection (reason : String)
  /-- The cluster's client library reports a failure. -/
  | kafka (reason : String)
  /-- The bytes on the wire are malformed or unexpected. -/
  | protocol (reason : String)
  /-- A call did not end in time. -/
  | timeout (reason : String)
  /-- Metrics could not be registered or written. -/
  | metrics (reason : String)
  /-- The operating system reports a failure. -/
  | io (reason : String)
  deriving DecidableEq, Repr, Inhabited

namespace Failure

def message : Failure → String
  | identity reason => s!"invalid broker identity: {reason}"
  | discovery reason => s!"missing discovery source: {reason}"
  | mechanism name =>
    s!"unsupported SASL mechanism: {name} (supported: PLAIN, SCRAM-SHA-256, SCRAM-SHA-512)"
  | config reason => s!"configuration error: {reason}"
  | connection reason => reason
  | kafka reason => s!"kafka client error: {reason}"
  | protocol reason => s!"kafka protocol error: {reason}"
  | timeout reason => reason
  | metrics reason => s!"metrics error: {reason}"
  | io reason => s!"I/O error: {reason}"

/-- The failure of `operation` that `failure` caused. -/
def context (failure : Failure) (operation : String) : Failure :=
  .connection s!"{operation}: {failure.message}"

/-- How a background task can end without a result. -/
inductive TaskEnd
  | cancelled
  | panicked (message : String)
  deriving DecidableEq, Repr

/-- The failure of a call whose background task, of the given number, ended without a result. -/
def ofTask (task : String) : TaskEnd → Failure
  | .cancelled => .connection s!"admin task join error: task {task} was cancelled"
  | .panicked message =>
    .connection
      s!"admin task join error: task {task} panicked with message {Text.Quoted.text message}"

end Failure

end BrokerWatch
