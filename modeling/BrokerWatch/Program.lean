import BrokerWatch.Admin.Factory
import BrokerWatch.Http.Server
import BrokerWatch.Logging.Filter
import BrokerWatch.Settings.Arguments

/-!
# The program

What the program does with its arguments and its environment. It shows its version or its use, shows
the settings that it would run with, or serves until a signal stops it. A fault in the arguments ends
it with code 2, any other failure with code 1. A server writes log lines; a variable can hold a filter
for them, and the parts of it that are ignored are complained of.
-/

namespace BrokerWatch.Program

def name : String := "kafka-sidecar"

/-- What a run of the program leaves behind. -/
structure Outcome where
  code : Nat := 0
  output : String := ""
  errors : String := ""
  /-- The log lines. -/
  records : List Logging.Record := []

def lines (texts : List String) : String :=
  String.join (texts.map (· ++ "\n"))

/-- The end of a run by a failure, with what was complained of before. -/
def Outcome.failed (failure : Failure) (complaints : List String := [])
    (records : List Logging.Record := []) : Outcome where
  code := 1
  errors := lines (complaints ++ [s!"Error: {failure.message}"])
  records := records

inductive Signal
  | interrupt
  | terminate
  deriving DecidableEq, Repr

def Signal.name : Signal → String
  | interrupt => "SIGINT"
  | terminate => "SIGTERM"

/-! ### Log lines -/

def note (level : Logging.Level) (fields : List (String × Json)) (message : String) :
    Logging.Record :=
  .of level "kafka_sidecar" fields message

def serverNote (fields : List (String × Json)) (message : String) : Logging.Record :=
  Http.serverLine .info fields message

def failureNote (failure : Failure) (message : String) : Logging.Record :=
  note .error [("error", .string failure.message)] message

/-- The variable that holds a filter for log lines. -/
def filterVariable : String := "RUST_LOG"

/-- The activity within which the lines for a request are logged. The client's address and the page
that it came from are no part of a request here. -/
def requestSpan (r : Http.Request) : Logging.Span where
  name := "request"
  target := "warp::filters::trace"
  fields :=
    [("remote.addr", none), ("method", some r.method),
      ("path", (Http.Target.path? r.target).map String.ofList), ("version", some "HTTP/1.1"),
      ("referer", none)]

/-! ### Serving -/

/-- What a server runs with once all that can fail beforehand has gone well. -/
structure Launch where
  filter : Logging.Filter
  /-- What is said of the parts of the filter that are ignored. -/
  complaints : List String
  settings : Settings
  factory : Admin.Factory
  /-- The log lines so far, also those that the filter hides. -/
  records : List Logging.Record

/-- Takes a server's settings from the options, or ends the run. -/
def launch (options : Options) (environment : Discovery.Environment) : Except Outcome Launch :=
  match Logging.install false options.logLevel with
  | .error failure => .error (.failed failure)
  | .ok level =>
    let (filter, complaints) := Logging.Filter.read level ((environment filterVariable).getD "")
    let failed (failure : Failure) (before : List Logging.Record) (message : String) : Outcome :=
      .failed failure complaints (filter.shown none (before ++ [failureNote failure message]))
    let notices := options.notices environment
    match options.resolve environment with
    | .error failure => .error (failed failure notices "failed to initialize configuration")
    | .ok settings =>
      let started := notices ++ [note .info
        [("config", .string settings.summary), ("about", .string Build.current.text)]
        "starting kafka sidecar"]
      match Admin.Factory.build settings.bootstrapServers settings.sasl settings.checkTimeout with
      | .error failure => .error (failed failure started "failed to configure admin client")
      | .ok factory =>
        .ok { filter, complaints, settings, factory, records := started ++ [factory.notice] }

namespace Launch

def service (l : Launch) : Http.Service where
  evaluator := ⟨l.settings.brokerId, l.settings.checkTimeout⟩
  registry := { source := some () }

/-- A world in which no broker replies. Whether sessions can be opened is known without one. -/
def lonely (l : Launch) : Health.World where
  cluster := { connect := [.now l.factory.check], metadata := [.never] }

/-- The log lines up to the moment from which requests are answered. -/
def opening (l : Launch) : List Logging.Record :=
  let address := Http.listenAddress (toString l.settings.port.toNat)
  l.filter.shown none
    (l.records ++ [serverNote [("addr", .string address)] "HTTP server listening"])

/-- The answer to a request that comes over a connection, and the log lines for it. -/
def respond (l : Launch) (r : Http.Request) :
    Http.Action (Option Http.Response × List Logging.Record) := do
  let response ← l.service.respond r
  return (response, l.filter.shown (some (requestSpan r)) (← Http.takeLog))

/-- The log lines from the signal on. -/
def closing (l : Launch) (signal : Signal) : List Logging.Record :=
  l.filter.shown none
    [note .info [] s!"received {signal.name}",
      serverNote [] "shutting down HTTP server",
      serverNote [] "HTTP server stopped",
      note .info [] "kafka sidecar stopped"]

/-- A run that answers requests one after the other and is stopped by a signal: the answers, and what
it leaves behind. -/
def run (l : Launch) (requests : List Http.Request) (signal : Signal) :
    Http.Action (List (Option Http.Response) × Outcome) := do
  let answers ← requests.mapM l.respond
  let records := l.opening ++ answers.flatMap (·.2) ++ l.closing signal
  return (answers.map (·.1), { errors := lines l.complaints, records })

end Launch

/-! ### The commands -/

inductive Plan
  /-- The run is over. -/
  | finish (outcome : Outcome)
  /-- A server runs until it is stopped. -/
  | serve (launch : Launch)

/-- Shows the settings that options come to, if a server could run with them. -/
def validate (options : Options) (environment : Discovery.Environment) : Outcome :=
  let checked : Except Failure Settings := do
    let settings ← options.resolve environment
    let _ ← Admin.Factory.build settings.bootstrapServers settings.sasl settings.checkTimeout
    return settings
  match checked with
  | .ok settings => { output := settings.summary ++ "\n" }
  | .error failure => .failed failure

def help : Option Arguments.Command → String
  | some command => s!"Usage: {name} {command.name}\n"
  | none =>
    let list (heading : String) (items : List String) : String :=
      s!"\n{heading}:\n" ++ String.join (items.map fun item => s!"  {item}\n")
    s!"Usage: {name} [OPTIONS] [COMMAND]\n" ++
      list "Commands" (Arguments.Command.all.map (·.name) ++ [Arguments.helpWord]) ++
      list "Options" (Flag.all.map (·.usage) ++ ["--help", "--version"])

def plan (arguments : List String) (environment : Discovery.Environment) : Plan :=
  match Arguments.read Arguments.Command.all arguments environment with
  | .error e => .finish { code := 2, errors := e.message ++ "\n" }
  | .ok .showVersion => .finish { output := s!"{name} {Build.current.version}\n" }
  | .ok (.showHelp command) => .finish { output := help command }
  | .ok (.act command options) =>
    let environment := Options.withoutEmpty environment
    match command.getD .serve with
    | .version => .finish { output := s!"{name} {Build.current.text}\n" }
    | .validate => .finish (validate options environment)
    | .serve =>
      match launch options environment with
      | .error outcome => .finish outcome
      | .ok launch => .serve launch

end BrokerWatch.Program
