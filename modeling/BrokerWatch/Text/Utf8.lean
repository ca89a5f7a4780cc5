/-!
# Texts as bytes

The bytes of a text are its UTF-8 form. Reading bytes back either gives the text or says where they
stop being well formed: at a sequence that no continuation could mend, with its length, or at a
sequence that the end of the bytes cuts short.
-/

namespace BrokerWatch.Text

/-- Where bytes stop being UTF-8. -/
inductive Utf8Error
  /-- `length` bytes at `index` start no character. -/
  | invalid (length index : Nat)
  /-- The bytes end inside the character at `index`. -/
  | incomplete (index : Nat)
  deriving DecidableEq, Repr

def Utf8Error.message : Utf8Error → String
  | .invalid length index => s!"invalid utf-8 sequence of {length} bytes from index {index}"
  | .incomplete index => s!"incomplete utf-8 byte sequence from index {index}"

namespace Utf8

def encode (s : String) : List UInt8 :=
  s.toUTF8.data.toList

/-- The number of bytes that follow a lead byte, and the bounds of the first of them. -/
def follow? (lead : UInt8) : Option (Nat × UInt8 × UInt8) :=
  if lead < 0x80 then some (0, 0, 0)
  else if lead < 0xC2 then none
  else if lead < 0xE0 then some (1, 0x80, 0xBF)
  else if lead == 0xE0 then some (2, 0xA0, 0xBF)
  else if lead == 0xED then some (2, 0x80, 0x9F)
  else if lead < 0xF0 then some (2, 0x80, 0xBF)
  else if lead == 0xF0 then some (3, 0x90, 0xBF)
  else if lead < 0xF4 then some (3, 0x80, 0xBF)
  else if lead == 0xF4 then some (3, 0x80, 0x8F)
  else none

/-- What is wrong in a sequence at `start` after `seen` of its bytes, when `more` bytes are due and
the first of them lies between `low` and `high`; `none` if nothing is, with the bytes behind it. -/
def sequenceFault? (start seen : Nat) (low high : UInt8) :
    Nat → List UInt8 → Except Utf8Error (List UInt8)
  | 0, bytes => .ok bytes
  | _ + 1, [] => .error (.incomplete start)
  | more + 1, b :: bytes =>
    if low ≤ b && b ≤ high then sequenceFault? start (seen + 1) 0x80 0xBF more bytes
    else .error (.invalid seen start)

/-- The first fault of bytes that start at `index`; `fuel` bounds the number of characters. -/
def faultFrom (fuel index : Nat) (bytes : List UInt8) : Utf8Error :=
  match fuel, bytes with
  | fuel + 1, b :: rest =>
    match follow? b with
    | none => .invalid 1 index
    | some (more, low, high) =>
      match sequenceFault? index 1 low high more rest with
      | .error e => e
      | .ok rest => faultFrom fuel (index + 1 + more) rest
  | _, _ => .incomplete index

def decode (bytes : List UInt8) : Except Utf8Error String :=
  match String.fromUTF8? ⟨bytes.toArray⟩ with
  | some s => .ok s
  | none => .error (faultFrom bytes.length 0 bytes)

@[simp]
theorem decode_encode (s : String) : decode (encode s) = .ok s := by
  have bytes : (⟨(encode s).toArray⟩ : ByteArray) = s.toByteArray := by simp [encode]
  have back : String.fromUTF8? s.toByteArray = some s := by
    rw [String.fromUTF8?, dif_pos s.isValidUTF8]
    rfl
  rw [decode, bytes, back]

end Utf8

end BrokerWatch.Text
