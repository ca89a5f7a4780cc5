import BrokerWatch.Duration.Basic
import BrokerWatch.Text.Blank
import BrokerWatch.Text.Quoted
import BrokerWatch.Text.Split

/-!
# Reading durations

A written duration is `0`, or one or more components such as `1m30s` or `1.5h`: a number with at most
one point, and a unit. A component's number is the longest run of digits and points, its unit the
longest run of other characters, so a text splits into components in one way only.
-/

namespace BrokerWatch.Duration

inductive Fault
  | empty
  | noNumber
  | badNumber
  | noUnit
  | unknownUnit (text : String)
  | outOfRange
  deriving DecidableEq, Repr

def Fault.message (input : String) : Fault → String
  | empty => "empty duration"
  | noNumber => s!"invalid duration {Text.Quoted.text input}: expected number"
  | badNumber => s!"invalid duration {Text.Quoted.text input}"
  | noUnit => s!"missing unit in duration {Text.Quoted.text input}"
  | unknownUnit unit =>
    s!"unknown unit {Text.Quoted.text unit} in duration {Text.Quoted.text input}"
  | outOfRange =>
    s!"invalid duration {Text.Quoted.text input}: cannot convert float seconds to Duration: " ++
      "value is either too big or NaN"

inductive Unit
  | nanosecond
  | microsecond
  | millisecond
  | second
  | minute
  | hour
  deriving DecidableEq, Repr

def Unit.ofName? (name : List Char) : Option Unit :=
  if name = ['n', 's'] then some nanosecond
  else if name = ['u', 's'] ∨ name = ['µ', 's'] then some microsecond
  else if name = ['m', 's'] then some millisecond
  else if name = ['s'] then some second
  else if name = ['m'] then some minute
  else if name = ['h'] then some hour
  else none

def Unit.seconds : Unit → Float
  | nanosecond => 1e-9
  | microsecond => 1e-6
  | millisecond => 1e-3
  | second => 1.0
  | minute => 60.0
  | hour => 3600.0

/-- A number with a fraction of `places` digits: `digits / 10 ^ places`. -/
structure Number where
  digits : Nat
  places : Nat
  deriving DecidableEq, Repr

def digitsValue (cs : List Char) : Nat :=
  Nat.ofDigitChars 10 cs 0

/-- Digits with at most one point among them, and at least one digit. -/
def Number.read? (cs : List Char) : Option Number :=
  match Text.splitFirst '.' cs with
  | none => if cs.isEmpty || !cs.all Char.isDigit then none else some ⟨digitsValue cs, 0⟩
  | some (whole, fraction) =>
    let digits := whole ++ fraction
    if digits.isEmpty || !digits.all Char.isDigit then none
    else some ⟨digitsValue digits, fraction.length⟩

def Number.toFloat (n : Number) : Float :=
  Decimal.ofRatio n.digits (Nat.pow 10 n.places)

structure Component where
  number : Number
  unit : Unit
  deriving DecidableEq, Repr

/-- Whether a character can stand in a number. -/
def isNumeric (c : Char) : Bool :=
  c.isDigit || c == '.'

/-- The components of a text, or the first fault from the left. -/
def components : List Char → Except Fault (List Component)
  | [] => .ok []
  | c :: cs =>
    if isNumeric c then
      let rest := cs.dropWhile isNumeric
      match Number.read? (c :: cs.takeWhile isNumeric) with
      | none => .error .badNumber
      | some number =>
        let name := rest.takeWhile (!isNumeric ·)
        match Unit.ofName? name with
        | some unit => (⟨number, unit⟩ :: ·) <$> components (rest.dropWhile (!isNumeric ·))
        | none =>
          if name.isEmpty then .error .noUnit else .error (.unknownUnit (String.ofList name))
    else .error .noNumber
termination_by cs => cs.length
decreasing_by
  have first := (List.dropWhile_suffix isNumeric (l := cs)).length_le
  have second :=
    (List.dropWhile_suffix (!isNumeric ·) (l := cs.dropWhile isNumeric)).length_le
  simp only [List.length_cons]
  omega

/-- The seconds of components, summed from the left in doubles. -/
def total (parts : List Component) : Float :=
  parts.foldl (fun sum part => sum + part.number.toFloat * part.unit.seconds) 0.0

def ofComponents (parts : List Component) : Except Fault Duration :=
  match ofFloat? (total parts) with
  | some d => .ok d
  | none => .error .outOfRange

def parseTrimmed (cs : List Char) : Except Fault Duration :=
  if cs.isEmpty then .error .empty
  else if cs = ['0'] then .ok zero
  else components cs >>= ofComponents

/-- Reads a written duration; blanks around it do not matter. -/
def parse (s : String) : Except Fault Duration :=
  parseTrimmed (Text.trimmed s.toList)

/-- Reads a written duration, with the fault in words. -/
def read (s : String) : Except String Duration :=
  (parse s).mapError (·.message (Text.trim s))

end BrokerWatch.Duration
