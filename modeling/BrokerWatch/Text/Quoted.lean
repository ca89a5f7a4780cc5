import BrokerWatch.Text.Shown

/-!
# Quoted texts

A text inside a message stands between quotes. Quotes and backslashes get a backslash, line breaks,
tabs and NUL are written by their letters, and every other character that is not shown as itself is
written by its code point in hexadecimal.
-/

namespace BrokerWatch.Text.Quoted

def hexDigits (n : Nat) : String :=
  String.ofList (Nat.toDigits 16 n)

def character (c : Char) : String :=
  if c = '"' then "\\\""
  else if c = '\\' then "\\\\"
  else if c = '\n' then "\\n"
  else if c = '\r' then "\\r"
  else if c = '\t' then "\\t"
  else if c = '\x00' then "\\0"
  else if isShown c then c.toString
  else "\\u\x7b" ++ hexDigits c.toNat ++ "\x7d"

def text (s : String) : String :=
  "\"" ++ String.join (s.toList.map character) ++ "\""

/-- Texts between quotes, in brackets. -/
def list (parts : List String) : String :=
  "[" ++ ", ".intercalate (parts.map text) ++ "]"

end BrokerWatch.Text.Quoted
