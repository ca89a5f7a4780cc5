import BrokerWatch.Http.Service

/-!
# The server

A server listens at a port until it is told to stop. From then on it takes no new connections and
gives the requests that are still running some time to end; those that do not end within that time are
cut off without an answer, also those that would end with it.
-/

namespace BrokerWatch.Http

/-- The time that running requests have to end. -/
def grace : Duration := .ofSeconds 10

def listenAddress (port : String) : String :=
  "0.0.0.0:" ++ port

def portTaken (port : String) : Failure :=
  .io (s!"failed to bind {listenAddress port}: " ++
    "error creating server listener: Address already in use (os error 98)")

namespace Service

/-- The answer to a request while the server is told to stop at a moment, if it is not cut off. The
clock of the state afterwards says when the server has stopped. -/
def respondUntil (s : Service) (r : Request) (stop : Duration) : Action (Option Response) := do
  let latest := stop + grace
  modify fun state => { state with world := { state.world with patience := some latest } }
  let response ← s.respond r
  let state ← get
  return if state.world.now < latest then response else none

/-- When a request first asks the cluster for a snapshot, if it is left to run. -/
def firstQuestion? (s : Service) (r : Request) (state : State) : Option Duration :=
  let (_, after) := s.handle r state
  let asked := after.world.trace.find? (·.event == .fetchMetadata)
  asked.map (·.time)

end Service

end BrokerWatch.Http
