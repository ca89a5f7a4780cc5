/-!
# Administrative sessions

A session owns a client and knows how to end: its teardown takes the client and either drops it and
reports the release, drops it, or keeps it for later. The teardown leaves a stand-in in the session's
place of the client, so ending a session again does nothing.
-/

namespace BrokerWatch.Admin

/-- What is seen of the use of sessions. -/
inductive Event
  | connect
  | fetchMetadata
  | describeLogDirs (id : Int32)
  | teardown
  | clientDropped
  | released
  deriving DecidableEq, Repr

def Event.text : Event → String
  | connect => "connect"
  | fetchMetadata => "fetch_metadata"
  | describeLogDirs id => s!"describe_log_dirs {id.toInt}"
  | teardown => "teardown"
  | clientDropped => "client_dropped"
  | released => "released"

/-- What a session holds in the place of its client. -/
inductive Held
  /-- The client that the session was opened with. -/
  | client
  /-- The stand-in, which refuses every call. -/
  | standIn
  deriving DecidableEq, Repr

inductive Teardown
  /-- The client is dropped, then the release is reported. -/
  | onRelease
  /-- The client is dropped. -/
  | drop
  /-- The client is kept and dropped by its keeper. -/
  | keep
  deriving DecidableEq, Repr

structure Session where
  held : Held := .client
  /-- The teardown, as long as it has not run. -/
  teardown : Option Teardown
  deriving DecidableEq, Repr

def Held.dropped : Held → List Event
  | client => [.clientDropped]
  | standIn => []

/-- What a call on what a session holds is seen as. The stand-in refuses it on its own. -/
def Held.called (event : Event) : Held → List Event
  | client => [event]
  | standIn => []

/-- What a teardown does with what it is given: the events, and what it keeps. -/
def Teardown.run (t : Teardown) (held : Held) : List Event × Option Held :=
  match t with
  | onRelease => (held.dropped ++ [.released], none)
  | drop => (.teardown :: held.dropped, none)
  | keep => ([.teardown], some held)

namespace Session

def opened (teardown : Teardown) : Session where
  teardown := some teardown

/-- Runs the teardown unless it has run: the session, the events, and what was kept. -/
def tearDown (s : Session) : Session × List Event × Option Held :=
  match s.teardown with
  | none => (s, [], none)
  | some t =>
    let (events, kept) := t.run s.held
    ({ held := .standIn, teardown := none }, events, kept)

def text (s : Session) : String :=
  "AdminSession \x7b released: " ++ (if s.teardown.isNone then "true" else "false") ++ " \x7d"

end Session

/-! ### Uses of a session -/

/-- A use of a session by its owner, or of the client by its keeper. -/
inductive Use
  | text
  | fetchMetadata
  | describeLogDirs (id : Int32)
  | release
  | drop
  | dropKept
  deriving DecidableEq, Repr

inductive Outcome
  | text (s : String)
  /-- The call reaches what the session holds. -/
  | call (held : Held)
  | done
  | keptDropped (wasKept : Bool)
  | noSession
  deriving DecidableEq, Repr

/-- A session that may have ended and a client that may have been kept. -/
structure Guard where
  session : Option Session
  kept : Option Held := none
  deriving DecidableEq, Repr

namespace Guard

def opened (teardown : Teardown) : Guard where
  session := some (.opened teardown)

/-- Ends a session: by hand where it is released, and in any case when it goes. -/
def finish (g : Guard) (s : Session) (byHand : Bool) : Guard × List Event :=
  let (s, first, kept) := if byHand then s.tearDown else (s, [], none)
  let (_, second, keptLast) := s.tearDown
  ({ session := none, kept := (keptLast <|> kept) <|> g.kept }, first ++ second)

/-- A use of the session or of the kept client. -/
def apply (g : Guard) (use : Use) : Guard × Outcome × List Event :=
  match use, g.session with
  | .dropKept, _ =>
    match g.kept with
    | some held => ({ g with kept := none }, .keptDropped true, held.dropped)
    | none => (g, .keptDropped false, [])
  | _, none => (g, .noSession, [])
  | .text, some s => (g, .text s.text, [])
  | .fetchMetadata, some s => (g, .call s.held, s.held.called .fetchMetadata)
  | .describeLogDirs id, some s => (g, .call s.held, s.held.called (.describeLogDirs id))
  | .release, some s =>
    let (g, events) := g.finish s true
    (g, .done, events)
  | .drop, some s =>
    let (g, events) := g.finish s false
    (g, .done, events)

/-- What is seen of the last use of a session that reports its release. -/
def closing (last : Use) : List Event :=
  ((opened .onRelease).apply last).2.2

/-- A guard after uses in turn, with what was seen. -/
def run (g : Guard) : List Use → Guard × List Event
  | [] => (g, [])
  | use :: uses =>
    let (g, _, events) := g.apply use
    let (g, more) := run g uses
    (g, events ++ more)

end Guard

end BrokerWatch.Admin
