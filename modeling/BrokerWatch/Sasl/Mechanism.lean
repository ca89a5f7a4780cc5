import BrokerWatch.Failure
import BrokerWatch.Text.Blank
import BrokerWatch.Text.Quoted

/-!
# Authentication mechanisms and credentials
-/

namespace BrokerWatch.Sasl

inductive Mechanism
  | plain
  | scramSha256
  | scramSha512
  deriving DecidableEq, Repr

def Mechanism.name : Mechanism → String
  | plain => "PLAIN"
  | scramSha256 => "SCRAM-SHA-256"
  | scramSha512 => "SCRAM-SHA-512"

/-- The mechanism of a name, blanks around it and the case of ASCII letters apart. -/
def Mechanism.parse (text : String) : Except Failure Mechanism :=
  match String.ofList ((Text.trimmed text.toList).map Char.toUpper) with
  | "PLAIN" => .ok plain
  | "SCRAM-SHA-256" => .ok scramSha256
  | "SCRAM-SHA-512" => .ok scramSha512
  | other => .error (.mechanism other)

def mask : String := "****"

structure Credentials where
  mechanism : Mechanism
  username : String
  password : String
  deriving DecidableEq

/-- The name of a mechanism inside the text of a credential. -/
def Mechanism.label : Mechanism → String
  | plain => "Plain"
  | scramSha256 => "ScramSha256"
  | scramSha512 => "ScramSha512"

/-- A credential in a message, its password masked. -/
def Credentials.text (c : Credentials) : String :=
  "SaslCredentials \x7b mechanism: " ++ c.mechanism.label ++
    ", username: " ++ Text.Quoted.text c.username ++
    ", password: " ++ Text.Quoted.text mask ++ " \x7d"

/-- Authentication as configured, before its mechanism is known to be a supported one. -/
structure Choice where
  enabled : Bool
  mechanism : String
  username : String
  password : String
  deriving DecidableEq

/-- The credential of a choice; none if authentication is off. -/
def Choice.credentials (c : Choice) : Except Failure (Option Credentials) :=
  if c.enabled then
    (Mechanism.parse c.mechanism).map fun m => some ⟨m, c.username, c.password⟩
  else .ok none

def Choice.text (c : Choice) : String :=
  "SaslConfig \x7b enabled: " ++ (if c.enabled then "true" else "false") ++
    ", mechanism: " ++ Text.Quoted.text c.mechanism ++
    ", username: " ++ Text.Quoted.text c.username ++
    ", password: " ++ Text.Quoted.text mask ++ " \x7d"

end BrokerWatch.Sasl
