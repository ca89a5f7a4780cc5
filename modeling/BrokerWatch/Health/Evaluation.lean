import BrokerWatch.Health.Report
import BrokerWatch.Health.World

/-!
# Evaluating a broker

Being alive means being registered. Being ready means four things, looked at in this order, each on
a snapshot of its own: the broker is registered, a controller is elected, the broker lags in no
partition, and its log directories are healthy. The first that does not hold, or cannot be looked at,
ends the evaluation and gives the report its failure text. Every setback is logged, and so is the
outcome of an evaluation whose session was opened.
-/

namespace BrokerWatch.Health

/-- Who is evaluated, and how long a call may take. -/
structure Evaluator where
  brokerId : Int32
  timeout : Duration
  deriving DecidableEq, Repr

namespace Evaluator

/-! ### Log lines -/

def line (e : Evaluator) (level : Logging.Level) (fields : List (String × Json))
    (message : String) : Logging.Record :=
  .of level "kafka_sidecar::observability::health"
    (("broker_id", .number e.brokerId.toInt) :: fields) message

def failureLine (e : Evaluator) (failure : Failure) (message : String) : Logging.Record :=
  e.line .error [("error", .string failure.message)] message

def outcomeLine (e : Evaluator) (evaluation : String) (status : Status) : Logging.Record :=
  e.line .debug [("status", .string status.title)] s!"{evaluation} evaluated"

def livenessLine (e : Evaluator) : Setback → Logging.Record
  | .blocked failure => e.failureLine failure "failed to check broker in metadata"
  | .found problem => e.line .warn [] problem.message

def readinessLine (e : Evaluator) (report : Readiness) : Setback → Logging.Record
  | .blocked failure => e.failureLine failure "readiness check failed"
  | .found problem =>
    e.line .warn [("under_replicated", .number report.underReplicated)] problem.message

def findingsLines (e : Evaluator) (f : Cluster.Findings) : List Logging.Record :=
  f.errors.map (fun (key, error) =>
    e.line .warn [("path", .string key), ("error", .string error)] "log directory reports error") ++
  f.futures.keys.map fun p =>
    e.line .warn [("path", .string p.key), ("topic", .string p.topic),
      ("partition", .number p.partition.toInt)] "future replica in log directory"

/-! ### The checks -/

def onSnapshot {α : Type} (e : Evaluator) (look : Cluster.Metadata → α) :
    Eval (Except Failure α) := do
  let snapshot ← fetchMetadata e.timeout
  return snapshot.map look

def registered (e : Evaluator) : Eval (Except Failure Bool) :=
  e.onSnapshot (·.hasBroker e.brokerId)

def controllerElected (e : Evaluator) : Eval (Except Failure Bool) :=
  e.onSnapshot (·.hasController)

def lagging (e : Evaluator) : Eval (Except Failure Nat) :=
  e.onSnapshot (·.lagging e.brokerId)

def logDirsHealthy (e : Evaluator) : Eval (Except Failure Bool) := do
  match ← describeLogDirs e.timeout e.brokerId with
  | .error failure => return .error failure
  | .ok dirs =>
    let findings := Cluster.Findings.scan dirs
    (e.findingsLines findings).forM note
    return .ok findings.isHealthy

/-! ### The evaluations -/

def livenessSetback? : Except Failure Bool → Option Setback
  | .error failure => some (.blocked failure)
  | .ok false => some (.found .notFound)
  | .ok true => none

def livenessInSession (e : Evaluator) : Eval Liveness := do
  let report : Liveness := { brokerId := e.brokerId }
  match livenessSetback? (← e.registered) with
  | some setback =>
    note (e.livenessLine setback)
    return report.failed setback
  | none => return { report with brokerFound := true, status := .healthy }

def liveness (e : Evaluator) : Eval Liveness := do
  match ← connect e.timeout with
  | .error failure =>
    note (e.failureLine failure "failed to open admin session")
    return { brokerId := e.brokerId, error := some failure.message }
  | .ok () =>
    let report ← inSession e.livenessInSession
    note (e.outcomeLine "liveness" report.status)
    return report

/-- A course of checks that ends with the report so far at the first setback. -/
abbrev Checks (α : Type) := ExceptT (Readiness × Setback) Eval α

/-- The value of a check. A check that cannot be done ends the course. -/
def valueOf {α : Type} (report : Readiness) (check : Eval (Except Failure α)) : Checks α := do
  match ← check with
  | .ok a => return a
  | .error failure => throw (report, .blocked failure)

/-- Ends the course if there is a problem. -/
def stopIf (found : Bool) (report : Readiness) (problem : Problem) : Checks PUnit :=
  if found then throw (report, .found problem) else return ⟨⟩

def readinessChecks (e : Evaluator) : Checks Readiness := do
  let report : Readiness := { brokerId := e.brokerId }
  let registered ← valueOf report e.registered
  let report := { report with brokerRegistered := registered }
  stopIf (!registered) report .notRegistered
  let elected ← valueOf report e.controllerElected
  let report := { report with controllerElected := elected }
  stopIf (!elected) report .noController
  let lagging ← valueOf report e.lagging
  let report := { report with underReplicated := lagging }
  stopIf (0 < lagging) report .underReplicated
  let healthy ← valueOf report e.logDirsHealthy
  let report := { report with logDirsHealthy := healthy }
  stopIf (!healthy) report .logDirs
  return { report with status := .healthy }

def readinessInSession (e : Evaluator) : Eval Readiness := do
  match ← e.readinessChecks.run with
  | .ok report => return report
  | .error (report, setback) =>
    note (e.readinessLine report setback)
    return report.failed setback

def readiness (e : Evaluator) : Eval Readiness := do
  match ← connect e.timeout with
  | .error failure =>
    note (e.failureLine failure "failed to open admin session")
    return { brokerId := e.brokerId, error := some failure.message }
  | .ok () =>
    let report ← inSession e.readinessInSession
    note (e.outcomeLine "readiness" report.status)
    return report

end Evaluator

end BrokerWatch.Health
