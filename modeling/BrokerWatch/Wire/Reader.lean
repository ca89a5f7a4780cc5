import BrokerWatch.Bytes
import BrokerWatch.Failure
import BrokerWatch.Text.Utf8

/-!
# Reading fields

A reader takes a value off the front of bytes and leaves the rest. Every field has a name, which
stands in the fault when the bytes end before the field does, or when its text is none.
-/

namespace BrokerWatch.Wire

inductive ReadError
  | truncated (field : String) (left needed : Nat)
  | badText (field : String) (cause : Text.Utf8Error)
  | unexpectedNull (field : String)
  deriving DecidableEq, Repr

def ReadError.message : ReadError → String
  | truncated field left needed =>
    s!"truncated response reading {field} ({left} of {needed} bytes left)"
  | badText field cause => s!"invalid utf-8 in {field}: {cause.message}"
  | unexpectedNull field => s!"unexpected null {field}"

def ReadError.failure (e : ReadError) : Failure :=
  .protocol e.message

/-- Takes a value off the front of bytes. -/
abbrev Reader (α : Type) := StateT (List UInt8) (Except ReadError) α

namespace Reader

def take (field : String) (n : Nat) : Reader (List UInt8) := fun bytes =>
  if (bytes.take n).length < n then .error (.truncated field bytes.length n)
  else .ok (bytes.take n, bytes.drop n)

def byte (field : String) : Reader UInt8 := do
  return UInt8.ofNat (Bytes.toNat (← take field 1))

def int16 (field : String) : Reader Int16 := do
  return Int16.ofNat (Bytes.toNat (← take field 2))

def int32 (field : String) : Reader Int32 := do
  return Int32.ofNat (Bytes.toNat (← take field 4))

def int64 (field : String) : Reader Int64 := do
  return Int64.ofNat (Bytes.toNat (← take field 8))

/-- A text, or none where the length is negative. -/
def nullableText (field : String) : Reader (Option String) := do
  let length ← int16 field
  if length < 0 then return none
  let bytes ← take field length.toNatClampNeg
  match Text.Utf8.decode bytes with
  | .ok s => return some s
  | .error e => throw (.badText field e)

def text (field : String) : Reader String := do
  match ← nullableText field with
  | some s => return s
  | none => throw (.unexpectedNull field)

/-- A block of bytes, empty where the length is negative. -/
def block (field : String) : Reader (List UInt8) := do
  let length ← int32 field
  take field length.toNatClampNeg

/-- A value a number of times. -/
def repeated {α : Type} (item : Reader α) : Nat → Reader (List α)
  | 0 => return []
  | n + 1 => do
    let first ← item
    let rest ← repeated item n
    return first :: rest

/-- A list behind its length, empty where the length is negative. -/
def list {α : Type} (field : String) (item : Reader α) : Reader (List α) := do
  let length ← int32 field
  repeated item length.toNatClampNeg

/-- The value at the front of bytes, whatever follows it. -/
def decode {α : Type} (reader : Reader α) (bytes : List UInt8) : Except ReadError α :=
  (reader.run bytes).map (·.1)

end Reader

end BrokerWatch.Wire
