import BrokerWatch.Bytes
import BrokerWatch.Text.Utf8

/-!
# Fields of requests and responses

How numbers, texts, blocks of bytes and lists are written: numbers with the most significant byte
first, texts behind a length of two bytes, blocks and lists behind a length of four. A length that
does not fit is cut to its lowest bytes. No text and no block are written as the length -1.
-/

namespace BrokerWatch.Wire.Field

def int16 (n : Int16) : List UInt8 :=
  Bytes.ofNat 2 n.toUInt16.toNat

def int32 (n : Int32) : List UInt8 :=
  Bytes.ofNat 4 n.toUInt32.toNat

def int64 (n : Int64) : List UInt8 :=
  Bytes.ofNat 8 n.toUInt64.toNat

@[simp]
theorem length_int16 (n : Int16) : (int16 n).length = 2 :=
  Bytes.length_ofNat ..

@[simp]
theorem length_int32 (n : Int32) : (int32 n).length = 4 :=
  Bytes.length_ofNat ..

@[simp]
theorem length_int64 (n : Int64) : (int64 n).length = 8 :=
  Bytes.length_ofNat ..

def text (s : String) : List UInt8 :=
  let bytes := Text.Utf8.encode s
  Bytes.ofNat 2 bytes.length ++ bytes

def nullableText : Option String → List UInt8
  | some s => text s
  | none => int16 (-1)

/-- A block of bytes behind its length. -/
def block (bytes : List UInt8) : List UInt8 :=
  Bytes.ofNat 4 bytes.length ++ bytes

def list {α : Type} (item : α → List UInt8) (items : List α) : List UInt8 :=
  Bytes.ofNat 4 items.length ++ items.flatMap item

end BrokerWatch.Wire.Field
