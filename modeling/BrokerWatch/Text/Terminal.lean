/-!
# Text without control sequences

A text that is not written to a terminal loses what only a terminal understands. A control sequence
starts with the escape character and goes on until a character ends it. Control characters are dropped
outside sequences too, the blank ones among them excepted. A blank one that a sequence lets through
also ends it, so that what follows is text again.
-/

namespace BrokerWatch.Text.Terminal

inductive Place
  /-- In the text. -/
  | ground
  /-- Behind the escape character. -/
  | escape
  /-- In a short sequence that has begun with a punctuation character. -/
  | short
  /-- In a sequence of numbers that a letter ends. -/
  | control
  /-- In a command to the operating system, which the bell ends too. -/
  | command
  /-- In a string that only a further control character ends. -/
  | string
  deriving DecidableEq, Repr

def escapeCharacter : Char := '\x1b'

/-- Whether a character cuts off any sequence. -/
def cancels (c : Char) : Bool :=
  c == '\x18' || c == '\x1a'

/-- Whether a character is below the space. -/
def isControl (c : Char) : Bool :=
  c.toNat < 0x20

/-- Whether a control character is kept as a blank: tab, line feed, form feed, carriage return. -/
def isKept (c : Char) : Bool :=
  c == '\t' || c == '\n' || c == '\x0c' || c == '\r'

def isBetween (low high : Nat) (c : Char) : Bool :=
  low ≤ c.toNat && c.toNat ≤ high

/-- Where the character behind the escape character leads. -/
def Place.afterEscape (c : Char) : Place :=
  if c == '[' then control
  else if c == ']' then command
  else if c == 'P' || c == 'X' || c == '^' || c == '_' then string
  else if isBetween 0x20 0x2F c then short
  else if isBetween 0x30 0x7E c then ground
  else escape

/-- Where the next character stands, if this one neither starts nor cuts off a sequence. -/
def Place.next (c : Char) : Place → Place
  | ground => ground
  | escape => afterEscape c
  | short => if isBetween 0x30 0x7E c then ground else short
  | control => if isBetween 0x40 0x7E c then ground else control
  | command => if c == '\x07' then ground else command
  | string => string

def Place.shows (c : Char) : Place → Bool
  | ground => if isControl c then isKept c else c != '\x7f'
  | escape => isKept c
  | short => isKept c
  | control => isKept c
  | command => false
  | string => false

/-- The characters of a text that are written, the first of them standing at a place. -/
def written : Place → List Char → List Char
  | _, [] => []
  | place, c :: cs =>
    if c == escapeCharacter then written .escape cs
    else if cancels c then written .ground cs
    else if place.shows c then c :: written .ground cs
    else written (place.next c) cs

/-- A text without control sequences. -/
def plain (s : String) : String :=
  String.ofList (written .ground s.toList)

end BrokerWatch.Text.Terminal
