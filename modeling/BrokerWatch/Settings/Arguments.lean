import BrokerWatch.Settings.Flag
import BrokerWatch.Text.Split
import BrokerWatch.Text.Terminal

/-!
# Reading arguments

A flag on the command line wins over its variable, the variable over the default. Arguments are read
from the left, and the first fault ends the reading.

A value may be attached with `=` or be the next argument. An attached value is checked at once; a
value in an argument of its own is checked when the next flag begins or the arguments end, so an
unknown argument behind it is reported first.
-/

namespace BrokerWatch

inductive UsageError
  | unexpected (argument : String)
  | unexpectedValue (value argument : String)
  | unknownCommand (name : String)
  | missingValue (flag : Flag)
  | repeated (flag : Flag)
  | badValue (flag : Flag) (value cause : String)
  deriving DecidableEq, Repr

/-- The wording of a fault of the arguments. What the user gave is shown without control sequences,
and a line break in it ends the wording. -/
def UsageError.message (e : UsageError) : String :=
  String.ofList (Text.firstLine (wording e).toList)
where
  /-- A text that the user gave. -/
  shown := Text.Terminal.plain
  /-- The whole wording. -/
  wording : UsageError → String
    | unexpected argument => s!"error: unexpected argument '{shown argument}' found"
    | unexpectedValue value argument =>
      s!"error: unexpected value '{shown value}' for '{argument}' found; no more were expected"
    | unknownCommand name => s!"error: unrecognized subcommand '{shown name}'"
    | missingValue flag =>
      s!"error: a value is required for '{flag.usage}' but none was supplied"
    | repeated flag => s!"error: the argument '{flag.usage}' cannot be used multiple times"
    | badValue flag value cause =>
      s!"error: invalid value '{shown value}' for '{flag.usage}': {cause}"

namespace Arguments

/-- What is known after some arguments. -/
structure State where
  /-- The options set so far. -/
  options : Options := {}
  /-- The flags that were given. -/
  given : List Flag := []
  /-- A flag that awaits its value or the end of it: the value, if it has come. -/
  pending : Option (Flag × Option String) := none

/-- Sets an option from a value of its flag. -/
def State.assign (s : State) (flag : Flag) (value : String) : Except UsageError State :=
  match flag.set s.options value with
  | .ok options => .ok { s with options }
  | .error cause => .error (.badValue flag value cause)

/-- Settles the pending flag: its value must have come, it must be the flag's first, and be good. -/
def State.settle (s : State) : Except UsageError State :=
  match s.pending with
  | none => .ok s
  | some (flag, none) => .error (.missingValue flag)
  | some (flag, some value) =>
    if s.given.contains flag then .error (.repeated flag)
    else ({ s with pending := none, given := flag :: s.given } : State).assign flag value

/-- Whether a text behind a hyphen is a number: digits, with one point that is not in front and one
`e` that is neither in front nor at the end. -/
def isNumber (cs : List Char) : Bool :=
  let mantissa := cs.takeWhile (· != 'e')
  let wellPlaced (part : List Char) : Bool :=
    part.all (fun c => c.isDigit || c == '.') && part.count '.' ≤ 1
  match cs.drop mantissa.length with
  | [] => mantissa != [] && mantissa.head? != some '.' && wellPlaced mantissa
  | _ :: exponent =>
    mantissa != [] && mantissa.head? != some '.' && wellPlaced mantissa &&
      exponent != [] && exponent.all Char.isDigit

inductive Spelling
  | escape
  | long (name : String) (value : Option String)
  | short (name : Char) (rest : List Char)
  | plain
  deriving DecidableEq, Repr

def Spelling.of (argument : String) : Spelling :=
  match argument.toList with
  | ['-', '-'] => escape
  | '-' :: '-' :: cs =>
    match Text.splitFirst '=' cs with
    | some (name, value) => long (String.ofList name) (some (String.ofList value))
    | none => long (String.ofList cs) none
  | '-' :: c :: cs => short c cs
  | _ => plain

def State.flag (s : State) (flag : Flag) (value : Option String) : Except UsageError State := do
  let s ← s.settle
  match value with
  | none => return { s with pending := some (flag, none) }
  | some value => ({ s with pending := some (flag, some value) } : State).settle

/-- Whether an argument is the value that a pending flag awaits. -/
def State.awaits (s : State) (argument : String) : Bool :=
  match s.pending, Spelling.of argument with
  | some (_, none), .plain => true
  | some (flag, none), .short c cs => flag.takesNegative && isNumber (c :: cs)
  | _, _ => false

/-- Sets an option from its variable, unless its flag was given. -/
def State.fill (environment : Discovery.Environment) (s : State) (flag : Flag) :
    Except UsageError State :=
  match environment flag.envName with
  | some value => if s.given.contains flag then .ok s else s.assign flag value
  | none => .ok s

/-- Sets the options whose flags were not given from their variables, in the order of definition. -/
def fromEnvironment (environment : Discovery.Environment) (s : State) :
    Except UsageError Options := do
  let s ← Flag.all.foldlM (State.fill environment) s
  return s.options

/-- What the program can be asked to do. -/
inductive Command
  | serve
  | validate
  | version
  deriving DecidableEq, Repr

def Command.name : Command → String
  | serve => "serve"
  | validate => "validate"
  | version => "version"

def Command.all : List Command :=
  [serve, validate, version]

inductive Request
  /-- To act on options, by a command if one is named. -/
  | act (command : Option Command) (options : Options)
  /-- To show the program's version. -/
  | showVersion
  /-- To show how the program or one of its commands is used. -/
  | showHelp (command : Option Command)

/-- What a flag without a value asks for, by its long name. It is asked of a command if one is
named; the version is known to the program itself only, and only if it has commands. -/
def Request.ofName? (versioned : Bool) (command : Option Command) (name : String) :
    Option Request :=
  if name == "help" then some (.showHelp command)
  else if versioned && name == "version" then some .showVersion
  else none

/-- What a flag without a value asks for, by its short name. -/
def Request.ofLetter? (versioned : Bool) (command : Option Command) (letter : Char) :
    Option Request :=
  if letter == 'h' then ofName? versioned command "help"
  else if letter == 'V' then ofName? versioned command "version"
  else none

/-- Reads the arguments behind a command, which takes none: they ask for its use, if anything. -/
def readBehind (command : Command) : List String → Except UsageError (Option Request)
  | [] => .ok none
  | argument :: rest =>
    match Spelling.of argument with
    | .long name value =>
      match Request.ofName? false (some command) name, value with
      | some request, none => .ok (some request)
      | some _, some value => .error (.unexpectedValue value s!"--{name}")
      | none, _ => .error (.unexpected s!"--{name}")
    | .short letter _ =>
      match Request.ofLetter? false (some command) letter with
      | some request => .ok (some request)
      | none => .error (.unexpected s!"-{letter}")
    | .plain => .error (.unexpected argument)
    | .escape =>
      match rest with
      | [] => .ok none
      | argument :: _ => .error (.unexpected argument)

/-- The word that asks for the use of what follows it. -/
def helpWord : String := "help"

/-- Reads the arguments behind the word for help: a command at most, or the word again. -/
def readHelp (commands : List Command) : List String → Except UsageError Request
  | [] => .ok (.showHelp none)
  | name :: rest =>
    let command := commands.find? (·.name == name)
    if command.isNone && name != helpWord then .error (.unknownCommand name)
    else
      match rest with
      | [] => .ok (.showHelp command)
      | further :: _ => .error (.unknownCommand further)

/-- Settles the pending flag, then the flags left to the environment. -/
def State.finish (s : State) (environment : Discovery.Environment) (command : Option Command) :
    Except UsageError Request := do
  let s ← s.settle
  let options ← fromEnvironment environment s
  return .act command options

/-- Reads the arguments of a program that knows the commands, from the state that those before them
led to. Without commands there is no word for help either. -/
def readFrom (commands : List Command) (environment : Discovery.Environment) :
    List String → State → Except UsageError Request
  | [], s => s.finish environment none
  | argument :: rest, s =>
    if s.awaits argument then
      readFrom commands environment rest
        { s with pending := s.pending.map fun (flag, _) => (flag, some argument) }
    else
      let named := !commands.isEmpty
      match Spelling.of argument with
      | .long name value =>
        match Flag.ofName? name, Request.ofName? named none name, value with
        | some flag, _, value => s.flag flag value >>= readFrom commands environment rest
        | none, some request, none => s.settle.map fun _ => request
        | none, some _, some value => .error (.unexpectedValue value s!"--{name}")
        | none, none, _ => .error (.unexpected s!"--{name}")
      | .short letter _ =>
        match Request.ofLetter? named none letter with
        | some request => s.settle.map fun _ => request
        | none => .error (.unexpected s!"-{letter}")
      | .plain =>
        match commands.find? (·.name == argument) with
        | some command => do
          match ← readBehind command rest with
          | some request => return request
          | none => s.finish environment (some command)
        | none =>
          if !named then .error (.unexpected argument)
          else if argument == helpWord then readHelp commands rest
          else .error (.unknownCommand argument)
      | .escape =>
        match rest with
        | [] => s.finish environment none
        | argument :: _ =>
          if named && argument != helpWord && !commands.any (·.name == argument) then
            .error (.unknownCommand argument)
          else .error (.unexpected argument)

/-- What the arguments of the program ask for. -/
def read (commands : List Command) (arguments : List String)
    (environment : Discovery.Environment) : Except UsageError Request :=
  readFrom commands environment arguments {}

end Arguments

end BrokerWatch
