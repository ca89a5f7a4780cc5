import BrokerWatch.Text.Utf8

/-!
# Base64

The standard alphabet with padding. Reading accepts exactly what writing produces: whole groups of
four characters, padding in the last group only, and no bits set that the padding stands for. What is
wrong with any other text is told by its first fault, in bytes of the text.
-/

namespace BrokerWatch.Base64

def symbol (n : Nat) : Char :=
  Char.ofNat (if n < 26 then 65 + n else if n < 52 then 71 + n else if n < 62 then n - 4
    else if n = 62 then 43 else 47)

/-- The six bits of a character, given by its code point. -/
def value? (n : Nat) : Option Nat :=
  if 65 ≤ n ∧ n ≤ 90 then some (n - 65)
  else if 97 ≤ n ∧ n ≤ 122 then some (n - 71)
  else if 48 ≤ n ∧ n ≤ 57 then some (n + 4)
  else if n = 43 then some 62
  else if n = 47 then some 63
  else none

def encodeChars : List UInt8 → List Char
  | [] => []
  | [x] => [symbol (x.toNat / 4), symbol (x.toNat % 4 * 16), '=', '=']
  | [x, y] =>
    [symbol (x.toNat / 4), symbol (x.toNat % 4 * 16 + y.toNat / 16), symbol (y.toNat % 16 * 4), '=']
  | x :: y :: z :: rest =>
    symbol (x.toNat / 4) :: symbol (x.toNat % 4 * 16 + y.toNat / 16) ::
      symbol (y.toNat % 16 * 4 + z.toNat / 64) :: symbol (z.toNat % 64) :: encodeChars rest

def encode (bytes : List UInt8) : String :=
  String.ofList (encodeChars bytes)

/-- The bytes whose base64 form the characters are. -/
def decodeChars? : List Char → Option (List UInt8)
  | [] => some []
  | [a, b, '=', '='] => do
    let a ← value? a.toNat
    let b ← value? b.toNat
    if b % 16 = 0 then some [UInt8.ofNat (a * 4 + b / 16)] else none
  | [a, b, c, '='] => do
    let a ← value? a.toNat
    let b ← value? b.toNat
    let c ← value? c.toNat
    if c % 4 = 0 then
      some [UInt8.ofNat (a * 4 + b / 16), UInt8.ofNat (b % 16 * 16 + c / 4)]
    else none
  | a :: b :: c :: d :: rest => do
    let a ← value? a.toNat
    let b ← value? b.toNat
    let c ← value? c.toNat
    let d ← value? d.toNat
    let bytes ← decodeChars? rest
    return UInt8.ofNat (a * 4 + b / 16) :: UInt8.ofNat (b % 16 * 16 + c / 4) ::
      UInt8.ofNat (c % 4 * 64 + d) :: bytes
  | _ => none

inductive Fault
  | symbol (byte : UInt8) (offset : Nat)
  | length (length : Nat)
  | padding
  | lastSymbol (byte : UInt8) (offset : Nat)
  deriving DecidableEq, Repr

def Fault.message : Fault → String
  | symbol byte offset => s!"Invalid symbol {byte.toNat}, offset {offset}."
  | length n => s!"Invalid input length: {n}"
  | padding => "Invalid padding"
  | lastSymbol byte offset => s!"Invalid last symbol {byte.toNat}, offset {offset}."

def pad : UInt8 := 61

/-- The first byte that is no symbol, from `offset` on. -/
def badSymbol? (offset : Nat) : List UInt8 → Option Fault
  | [] => none
  | b :: bytes =>
    if (value? b.toNat).isNone then some (.symbol b offset) else badSymbol? (offset + 1) bytes

/-- The fault of the last group, which starts at `offset`: the group's symbols and then its padding.
Padding may only start behind two symbols and only padding may follow it. -/
def tailFault (offset : Nat) (group : List UInt8) : Fault :=
  let symbols := group.takeWhile (· != pad)
  let rest := group.dropWhile (· != pad)
  let count := symbols.length
  match badSymbol? offset symbols with
  | some fault => fault
  | none =>
    if rest ≠ [] ∧ (count < 2 ∨ rest.any (· != pad)) then .symbol pad (offset + count)
    else if count < 2 then .length (offset + count)
    else if group.length ≠ 4 then .padding
    else .lastSymbol (symbols.getLast?.getD 0) (offset + count - 1)

/-- The first fault of bytes that start at `offset` and are not base64. -/
def groupsFault (offset : Nat) : List UInt8 → Fault
  | a :: b :: c :: d :: e :: rest =>
    match badSymbol? offset [a, b, c, d] with
    | some fault => fault
    | none => groupsFault (offset + 4) (e :: rest)
  | group => tailFault offset group

/-- The first fault of a text that is not base64. Of a text whose last byte stands alone behind whole
groups, that byte is looked at first. -/
def fault (s : String) : Fault :=
  let bytes := Text.Utf8.encode s
  match bytes.getLast? with
  | some last =>
    if bytes.length % 4 = 1 ∧ last ≠ pad ∧ (value? last.toNat).isNone then
      .symbol last (bytes.length - 1)
    else groupsFault 0 bytes
  | none => groupsFault 0 bytes

def decode (s : String) : Except Fault (List UInt8) :=
  match decodeChars? s.toList with
  | some bytes => .ok bytes
  | none => .error (fault s)

end BrokerWatch.Base64
