import BrokerWatch.Failure
import BrokerWatch.Json

/-!
# Reports

What an evaluation found. A report has a failure text unless the broker is healthy; what was not
looked at keeps its zero value.
-/

namespace BrokerWatch.Health

inductive Status
  | healthy
  | unhealthy
  deriving DecidableEq, Repr

def Status.name : Status → String
  | healthy => "healthy"
  | unhealthy => "unhealthy"

/-- The word for a status in a log line. -/
def Status.title : Status → String
  | healthy => "Healthy"
  | unhealthy => "Unhealthy"

/-- What an evaluation can find to be wrong. -/
inductive Problem
  | notFound
  | notRegistered
  | noController
  | underReplicated
  | logDirs
  deriving DecidableEq, Repr

def Problem.message : Problem → String
  | notFound => "broker not found in cluster metadata"
  | notRegistered => "broker not registered in cluster metadata"
  | noController => "no controller elected"
  | underReplicated => "broker has under-replicated partitions"
  | logDirs => "log directories unhealthy"

/-- What keeps a report from being healthy. -/
inductive Setback
  /-- Something cannot be looked at. -/
  | blocked (failure : Failure)
  /-- Something is wrong. -/
  | found (problem : Problem)
  deriving DecidableEq, Repr

def Setback.message : Setback → String
  | blocked failure => failure.message
  | found problem => problem.message

/-- Whether the broker is healthy, and the failure text if not. -/
structure Verdict where
  healthy : Bool
  message : String
  deriving DecidableEq, Repr

def Verdict.ofError : Option String → Verdict
  | some message => ⟨false, message⟩
  | none => ⟨true, ""⟩

/-- What was found about a broker being alive. -/
structure Liveness where
  status : Status := .unhealthy
  brokerId : Int32
  brokerFound : Bool := false
  error : Option String := none
  deriving DecidableEq, Repr

/-- What was found about a broker being ready. -/
structure Readiness where
  status : Status := .unhealthy
  brokerId : Int32
  brokerRegistered : Bool := false
  controllerElected : Bool := false
  /-- The number of partitions in which the broker lags. -/
  underReplicated : Nat := 0
  logDirsHealthy : Bool := false
  error : Option String := none
  deriving DecidableEq, Repr

def Liveness.verdict (r : Liveness) : Verdict := .ofError r.error

def Readiness.verdict (r : Readiness) : Verdict := .ofError r.error

def Liveness.failed (r : Liveness) (setback : Setback) : Liveness :=
  { r with error := some setback.message }

def Readiness.failed (r : Readiness) (setback : Setback) : Readiness :=
  { r with error := some setback.message }

def errorMember (error : Option String) : List (String × Json) :=
  (error.map fun message => ("error", Json.string message)).toList

def Liveness.toJson (r : Liveness) : Json :=
  .object ([("status", .string r.status.name), ("brokerId", .number r.brokerId.toInt),
    ("brokerFound", .bool r.brokerFound)] ++ errorMember r.error)

def Readiness.toJson (r : Readiness) : Json :=
  .object ([("status", .string r.status.name), ("brokerId", .number r.brokerId.toInt),
    ("brokerRegistered", .bool r.brokerRegistered),
    ("controllerElected", .bool r.controllerElected),
    ("underReplicatedPartitions", .number r.underReplicated),
    ("logDirsHealthy", .bool r.logDirsHealthy)] ++ errorMember r.error)

end BrokerWatch.Health
