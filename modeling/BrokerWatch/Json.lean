import BrokerWatch.Text.Quoted

/-!
# JSON values

The values that answers and log lines are made of, with whole numbers only, and their compact text.
An object keeps the order of its members.
-/

namespace BrokerWatch

/-- A JSON value whose numbers are whole. -/
inductive Json
  | null
  | bool (value : Bool)
  | number (value : Int)
  | string (value : String)
  | array (items : List Json)
  | object (members : List (String × Json))
  deriving Repr, Inhabited

namespace Json

/-- A code point below `0x20` by its number. -/
def controlEscape (c : Char) : String :=
  let digits := Text.Quoted.hexDigits c.toNat
  "\\u" ++ String.ofList (List.replicate (4 - digits.length) '0') ++ digits

def character (c : Char) : String :=
  if c = '"' then "\\\""
  else if c = '\\' then "\\\\"
  else if c = '\n' then "\\n"
  else if c = '\r' then "\\r"
  else if c = '\t' then "\\t"
  else if c = '\x08' then "\\b"
  else if c = '\x0c' then "\\f"
  else if c.toNat < 0x20 then controlEscape c
  else c.toString

def quote (s : String) : String :=
  "\"" ++ String.join (s.toList.map character) ++ "\""

mutual

/-- The compact text of a value. -/
def render : Json → String
  | null => "null"
  | bool value => if value then "true" else "false"
  | number value => toString value
  | string value => quote value
  | array items => "[" ++ ",".intercalate (renderItems items) ++ "]"
  | object members => "\x7b" ++ ",".intercalate (renderMembers members) ++ "\x7d"

def renderItems : List Json → List String
  | [] => []
  | item :: items => render item :: renderItems items

def renderMembers : List (String × Json) → List String
  | [] => []
  | (key, value) :: members => (quote key ++ ":" ++ render value) :: renderMembers members

end

def member? (key : String) : Json → Option Json
  | object members => (members.find? (·.1 == key)).map (·.2)
  | _ => none

end Json

end BrokerWatch
