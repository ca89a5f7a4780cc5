import BrokerWatch.Build
import BrokerWatch.Health.Evaluation
import BrokerWatch.Http.Message
import BrokerWatch.Http.Route
import BrokerWatch.Http.Target
import BrokerWatch.Metrics.Exposition

/-!
# The service

What each place answers. The two health places run an evaluation each and answer with its report; the
metrics are always answered, with nothing where they cannot be written; only `GET` is understood. A
request that is not well formed is refused.
-/

namespace BrokerWatch.Http

structure Service where
  evaluator : Health.Evaluator
  registry : Metrics.Registry Unit

structure State where
  world : Health.World
  /-- What the readings of memory will give, in turn. -/
  readings : List (Except Failure Memory.Usage) := []

abbrev Action := StateM State

def note (line : Logging.Record) : Action Unit :=
  modify fun s => { s with world := s.world.noted line }

def serverLine (level : Logging.Level) (fields : List (String × Json)) (message : String) :
    Logging.Record :=
  .of level "kafka_sidecar::http_server" fields message

def takeLog : Action (List Logging.Record) := fun s =>
  (s.world.log, { s with world := { s.world with log := [] } })

def takeReading : Action (Except Failure Memory.Usage) := fun s =>
  let (reading, readings) := inTurn (.error (.io "no reading")) s.readings
  (reading, { s with readings })

/-- The next reading of memory, which is logged if it failed. -/
def readMemory : Action (Except Failure Memory.Usage) := do
  let reading ← takeReading
  if let .error failure := reading then
    note (.of .error "kafka_sidecar::observability::metrics"
      [("error", .string failure.message)] "failed to read memory metrics")
  return reading

/-- Runs an evaluation. There is no result if the caller lost patience. -/
def evaluate {α : Type} (evaluation : Health.Eval α) : Action (Option α) := fun s =>
  let (result, world) := evaluation.run s.world
  (result, { s with world })

def statusCode : Health.Status → Nat
  | .healthy => 200
  | .unhealthy => 503

namespace Service

/-- The text of the metrics, empty if they cannot be written. -/
def metricsText (families : List Metrics.Family) : Action String := do
  match Metrics.exposition families with
  | .ok text => return text
  | .error failure =>
    note (serverLine .error [("error", .string failure.message)] "failed to encode metrics")
    return ""

def answer (s : Service) : Route → Action (Option Response)
  | .live => do
    note (serverLine .debug [] "liveness requested")
    let report ← evaluate s.evaluator.liveness
    return report.map fun r => .ofJson (statusCode r.status) r.toJson
  | .ready => do
    note (serverLine .debug [] "readiness requested")
    let report ← evaluate s.evaluator.readiness
    return report.map fun r => .ofJson (statusCode r.status) r.toJson
  | .metrics => do
    let text ← metricsText (← s.registry.gather fun _ => readMemory)
    return some ⟨200, .text Metrics.mediaType text⟩
  | .about => return some (.ofJson 200 Build.current.toJson)

/-- The answer to a request. There is none if the caller lost patience. -/
def handle (s : Service) (r : Request) : Action (Option Response) :=
  match Target.path? r.target with
  | none => return some (.refusal .malformed)
  | some path =>
    match Route.ofPath? path with
    | none => return some .notFound
    | some route => if r.method = "GET" then s.answer route else return some .badMethod

def handleAll (s : Service) (requests : List Request) : Action (List (Option Response)) :=
  requests.mapM s.handle

/-- The answer to a request that comes over a connection. -/
def respond (s : Service) (r : Request) : Action (Option Response) := do
  match r.fault? with
  | some fault => return some (.refusal fault)
  | none =>
    let response ← s.handle r
    return response.map (·.carried r.method)

def respondAll (s : Service) (requests : List Request) : Action (List (Option Response)) :=
  requests.mapM s.respond

end Service

end BrokerWatch.Http
