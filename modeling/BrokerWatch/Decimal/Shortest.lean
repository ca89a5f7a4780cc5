import BrokerWatch.Decimal.Double

/-!
# The shortest decimal of a double

A double is written with the fewest digits that read back as the same double, and of these the
nearest. The reals that round to `m * 2 ^ q` form an interval, its ends included when `m` is even.
For one digit, two, and so on, the value's two neighbours on the grid of that many digits are tried
against the interval; seventeen digits always suffice.
-/

namespace BrokerWatch.Decimal

/-- The reals that round to one double: the quotients by `den` from `low` to `high`. -/
structure Interval where
  /-- Four times the value of the lower end, over `den`. -/
  low : Nat
  /-- Four times the value itself, over `den`. -/
  value : Nat
  /-- Four times the value of the upper end, over `den`. -/
  high : Nat
  /-- The common denominator. -/
  den : Nat
  /-- Whether the ends round to the double too. -/
  closed : Bool

/-- The interval of `m * 2 ^ q`. Below a power of two the doubles lie twice as dense. -/
def Interval.of (m : Nat) (q : Int) : Interval :=
  let scale := Nat.pow 2 q.toNat
  let below := if m = leadingBit ∧ -1074 < q then 1 else 2
  { low := (4 * m - below) * scale
    value := 4 * m * scale
    high := (4 * m + 2) * scale
    den := 4 * Nat.pow 2 (-q).toNat
    closed := m % 2 = 0 }

/-- Whether the quotient `num / den` lies in the interval. -/
def Interval.contains (i : Interval) (num den : Nat) : Bool :=
  let x := num * i.den
  if i.closed then i.low * den ≤ x && x ≤ i.high * den else i.low * den < x && x < i.high * den

/-- The point `digits * 10 ^ exponent` of a decimal grid. -/
structure Point where
  digits : Nat
  exponent : Int

def Point.ratio (p : Point) : Nat × Nat :=
  (p.digits * Nat.pow 10 p.exponent.toNat, Nat.pow 10 (-p.exponent).toNat)

/-- The neighbour of the value on the grid of step `10 ^ exponent` that reads back, the nearer one
if both do, the upper one if they are equally near. -/
def nearestPoint? (i : Interval) (exponent : Int) : Option Point :=
  let num := i.value * Nat.pow 10 (-exponent).toNat
  let den := i.den * Nat.pow 10 exponent.toNat
  let down : Point := ⟨num / den, exponent⟩
  let up : Point := ⟨num / den + 1, exponent⟩
  let fits (p : Point) : Bool := i.contains p.ratio.1 p.ratio.2
  match fits down, fits up with
  | true, true => some (if 2 * (num % den) < den then down else up)
  | true, false => some down
  | false, true => some up
  | false, false => none

/-- The number of digits in front of the point, or minus the zeros behind it, for a positive value:
the least `e` with value below `10 ^ e`. -/
def decimalExponent (i : Interval) : Int :=
  let guess : Int := (floorLog2 i.value i.den) * 30103 / 100000
  let below (e : Int) : Bool := i.value * Nat.pow 10 (-e).toNat < i.den * Nat.pow 10 e.toNat
  if below (guess - 1) then guess - 1 else if below guess then guess
  else if below (guess + 1) then guess + 1 else guess + 2

/-- The first grid of `digits`, `digits + 1`, … digits that has a point in the interval. -/
def shortestFrom (i : Interval) (top : Int) : Nat → Nat → Point
  | 0, digits => (nearestPoint? i (top - digits)).getD ⟨0, 0⟩
  | more + 1, digits =>
    match nearestPoint? i (top - digits) with
    | some p => p
    | none => shortestFrom i top more (digits + 1)

/-- The shortest decimal that reads back as `m * 2 ^ q`. -/
def shortest (m : Nat) (q : Int) : Point :=
  if m = 0 then ⟨0, 0⟩
  else
    let i := Interval.of m q
    shortestFrom i (decimalExponent i) 16 1

/-- A point in positional notation, without zeros at the end of its fraction. -/
def Point.positional (p : Point) : String :=
  if 0 ≤ p.exponent then (p.digits * Nat.pow 10 p.exponent.toNat).repr
  else
    let places := (-p.exponent).toNat
    let whole := p.digits / Nat.pow 10 places
    let fraction := (p.digits % Nat.pow 10 places).repr.toList
    let padded := List.replicate (places - fraction.length) '0' ++ fraction
    let kept := (padded.reverse.dropWhile (· == '0')).reverse
    if kept.isEmpty then whole.repr else whole.repr ++ "." ++ String.ofList kept

/-- A finite double of positive sign in its shortest decimal form. -/
def text (x : Float) : String :=
  match decompose? x with
  | some (m, q) => (shortest m q).positional
  | none => "+Inf"

end BrokerWatch.Decimal
