/-!
# Doubles as exact numbers

A finite double that is not negative is `m * 2 ^ q` for natural `m` and integer `q`. `ofRatio` gives
the double nearest to a quotient, `decompose?` the number that a double stands for, and both are plain
arithmetic on naturals.
-/

namespace BrokerWatch.Decimal

/-- The quotient rounded to the nearest natural number, a half to the even one. -/
def roundDiv (num den : Nat) : Nat :=
  let q := num / den
  let r := num % den
  if 2 * r < den then q else if den < 2 * r then q + 1 else q + q % 2

/-- The quotient times `2 ^ shift`, rounded. -/
def scaledDiv (num den : Nat) (shift : Int) : Nat :=
  if 0 ≤ shift then roundDiv (num * Nat.pow 2 shift.toNat) den
  else roundDiv num (den * Nat.pow 2 (-shift).toNat)

/-- The exponent of the largest power of two that is at most the quotient of positive numbers. -/
def floorLog2 (num den : Nat) : Int :=
  let guess : Int := (Nat.log2 num : Int) - Nat.log2 den
  if den * Nat.pow 2 guess.toNat ≤ num * Nat.pow 2 (-guess).toNat then guess else guess - 1

/-- The least mantissa of a number that is not subnormal, which its bits leave out. -/
def leadingBit : Nat := 0x10000000000000

def infinityBits : Nat := 0x7FF0000000000000

/-- The bits of the double nearest to a quotient. A mantissa that rounds up to the next power of two
carries into the exponent by itself. -/
def bitsOfRatio (num den : Nat) : Nat :=
  if num = 0 then 0
  else
    let q := max (floorLog2 num den - 52) (-1074)
    min ((q + 1074).toNat * leadingBit + scaledDiv num den (-q)) infinityBits

/-- The double nearest to a quotient. -/
def ofRatio (num den : Nat) : Float :=
  Float.ofBits (UInt64.ofNat (bitsOfRatio num den))

/-- The mantissa and exponent of bits that stand for a finite number of positive sign. -/
def decomposeBits? (bits : Nat) : Option (Nat × Int) :=
  let exponent : Nat := bits / leadingBit
  let fraction : Nat := bits % leadingBit
  if 2047 ≤ exponent then none
  else if exponent = 0 then some (fraction, -1074)
  else some (leadingBit + fraction, (exponent : Int) - 1075)

/-- The mantissa and exponent of a finite double of positive sign. -/
def decompose? (x : Float) : Option (Nat × Int) :=
  decomposeBits? x.toBits.toNat

end BrokerWatch.Decimal
