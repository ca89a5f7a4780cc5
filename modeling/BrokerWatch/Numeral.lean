/-!
# Decimal numerals

A numeral is a run of ASCII digits, with an optional sign, that stands for a number of a given
range. Reading one says what is wrong with the text: nothing there, a character that is no digit, or
a value outside the range. The digits are taken one after the other, so a value that leaves the range
is reported before a bad character behind the digit that made it leave.
-/

namespace BrokerWatch

inductive NumeralError
  | empty
  | invalidDigit
  | tooLarge
  | tooSmall
  deriving DecidableEq, Repr

def NumeralError.message : NumeralError → String
  | .empty => "cannot parse integer from empty string"
  | .invalidDigit => "invalid digit found in string"
  | .tooLarge => "number too large to fit in target type"
  | .tooSmall => "number too small to fit in target type"

namespace Numeral

def digit? (c : Char) : Option Nat :=
  if c.isDigit then some (c.toNat - 48) else none

/-- Reads digits after those worth `acc`, up to `limit`. -/
def magnitude (limit : Nat) (excess : NumeralError) : List Char → Nat → Except NumeralError Nat
  | [], acc => .ok acc
  | c :: cs, acc =>
    match digit? c with
    | none => .error .invalidDigit
    | some d =>
      if limit < 10 * acc + d then .error excess else magnitude limit excess cs (10 * acc + d)

/-- A run of at least one digit whose value is at most `limit`; what follows a sign. -/
def digits (limit : Nat) (excess : NumeralError) : List Char → Except NumeralError Nat
  | [] => .error .invalidDigit
  | c :: cs => magnitude limit excess (c :: cs) 0

/-- A natural number up to `limit`, with an optional `+` in front. -/
def natural (limit : Nat) : List Char → Except NumeralError Nat
  | [] => .error .empty
  | '+' :: cs => digits limit .tooLarge cs
  | cs => digits limit .tooLarge cs

/-- An integer of `bits` bits in two's complement, with an optional sign in front. -/
def integer (bits : Nat) : List Char → Except NumeralError Int
  | [] => .error .empty
  | '+' :: cs => Int.ofNat <$> digits (Nat.pow 2 (bits - 1) - 1) .tooLarge cs
  | '-' :: cs => (fun n => -Int.ofNat n) <$> digits (Nat.pow 2 (bits - 1)) .tooSmall cs
  | cs => Int.ofNat <$> digits (Nat.pow 2 (bits - 1) - 1) .tooLarge cs

def int32 (cs : List Char) : Except NumeralError Int32 :=
  Int32.ofInt <$> integer 32 cs

def uint64 (cs : List Char) : Except NumeralError UInt64 :=
  UInt64.ofNat <$> natural (UInt64.size - 1) cs

end Numeral

end BrokerWatch
