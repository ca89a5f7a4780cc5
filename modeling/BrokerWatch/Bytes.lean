/-!
# Bytes and numbers

A number is sent with its most significant byte first. `ofNat` writes the lowest bytes of a number
and `toNat` reads bytes back.
-/

namespace BrokerWatch.Bytes

/-- The lowest `k` bytes of a number, the most significant one first. -/
def ofNat : Nat → Nat → List UInt8
  | 0, _ => []
  | k + 1, n => UInt8.ofNat (n / Nat.pow 256 k) :: ofNat k n

/-- The number that bytes stand for, the most significant one first. -/
def toNat (bytes : List UInt8) : Nat :=
  bytes.foldl (fun n b => n * 256 + b.toNat) 0

@[simp]
theorem length_ofNat (k n : Nat) : (ofNat k n).length = k := by
  induction k with
  | zero => rfl
  | succ k ih => simp [ofNat, ih]

/-- A digit of a number in hexadecimal, in lower case. -/
def hexDigit (n : Nat) : Char :=
  Char.ofNat (if n < 10 then 48 + n else 87 + n)

def toHex (bytes : List UInt8) : String :=
  String.ofList (bytes.flatMap fun b => [hexDigit (b.toNat / 16), hexDigit (b.toNat % 16)])

def hexValue? (c : Char) : Option Nat :=
  if c.isDigit then some (c.toNat - 48)
  else if 'a' ≤ c ∧ c ≤ 'f' then some (c.toNat - 87)
  else if 'A' ≤ c ∧ c ≤ 'F' then some (c.toNat - 55)
  else none

/-- The bytes of pairs of digits in hexadecimal. -/
def ofHexDigits? : List Char → Option (List UInt8)
  | [] => some []
  | [_] => none
  | a :: b :: rest => do
    let high ← hexValue? a
    let low ← hexValue? b
    let bytes ← ofHexDigits? rest
    return UInt8.ofNat (16 * high + low) :: bytes

def ofHex? (s : String) : Option (List UInt8) :=
  ofHexDigits? s.toList

end BrokerWatch.Bytes
