import BrokerWatch.Failure
import BrokerWatch.Json
import BrokerWatch.Text.Blank
import BrokerWatch.Text.Quoted

/-!
# Log levels and log lines

A log line has a level, the part of the program that wrote it, and its fields in order.
-/

namespace BrokerWatch.Logging

/-- How serious a log line is, the least serious first. -/
inductive Level
  | trace
  | debug
  | info
  | warn
  | error
  deriving DecidableEq, Repr

def Level.rank : Level → Nat
  | trace => 0
  | debug => 1
  | info => 2
  | warn => 3
  | error => 4

def Level.name : Level → String
  | trace => "TRACE"
  | debug => "DEBUG"
  | info => "INFO"
  | warn => "WARN"
  | error => "ERROR"

/-- The level of a name, blanks around it and the case of ASCII letters apart. -/
def Level.parse (text : String) : Except Failure Level :=
  match String.ofList ((Text.trimmed text.toList).map Char.toLower) with
  | "trace" => .ok trace
  | "debug" => .ok debug
  | "info" => .ok info
  | "warn" => .ok warn
  | "warning" => .ok warn
  | "error" => .ok error
  | other =>
    .error (.config s!"invalid log level {Text.Quoted.text other} {expected}")
where
  /-- The names that are accepted. -/
  expected := "(expected trace, debug, info, warn or error)"

structure Record where
  level : Level
  target : String
  fields : List (String × Json)

/-- A log line with the fields and, at the end, the message. -/
def Record.of (level : Level) (target : String) (fields : List (String × Json))
    (message : String) : Record :=
  ⟨level, target, fields ++ [("message", .string message)]⟩

/-- The value of a log line as it is written, without the time. -/
def Record.toJson (r : Record) : Json :=
  .object [("level", .string r.level.name), ("fields", .object r.fields),
    ("target", .string r.target)]

/-- Installs the log writer of a process. A process has one at most, so where `installed` says that
it has one already, only the fault can change: a bad level is reported first. -/
def install (installed : Bool) (level : String) : Except Failure Level := do
  let level ← Level.parse level
  if installed then
    throw (.config ("failed to initialize global tracing subscriber: " ++
      "a global default trace dispatcher has already been set"))
  return level

end BrokerWatch.Logging
