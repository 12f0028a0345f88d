namespace ScenarioRunner

/-- The number `digits * 10 ^ scale`. -/
structure Decimal where
  digits : Nat
  scale : Int
  deriving DecidableEq, Repr

/-- Which of two equally close decimals of the same length is taken. -/
inductive TieRule where
  | upper
  | even
  deriving DecidableEq, Repr

/-- The numbers that round to one binary number: those between `low` and `high`, all three over
`denominator`. The ends belong to it if `closed`. -/
structure RoundingRange where
  low : Nat
  value : Nat
  high : Nat
  denominator : Nat
  closed : Bool
  deriving DecidableEq, Repr

namespace RoundingRange

/-- The range of `mantissa * 2 ^ exponent`. Below a power of two the neighbours stand half as far
apart as above it, so there the lower end is nearer. -/
def ofBinary (mantissa : Nat) (exponent : Int) (nearBelow : Bool) : RoundingRange :=
  let unit := Nat.pow 2 (exponent - 2).toNat
  { low := (4 * mantissa - if nearBelow then 1 else 2) * unit
    value := 4 * mantissa * unit
    high := (4 * mantissa + 2) * unit
    denominator := Nat.pow 2 (2 - exponent).toNat
    closed := mantissa % 2 == 0 }

/-- The range of the finite positive number with these bits, sign aside. -/
def ofBits (bits : UInt64) : RoundingRange :=
  let exponent := ((bits >>> 52) &&& 0x7FF).toNat
  let fraction := (bits &&& 0xFFFFFFFFFFFFF).toNat
  if exponent == 0 then ofBinary fraction (-1074) false
  else ofBinary (Nat.pow 2 52 + fraction) ((exponent : Int) - 1075) (fraction == 0 && exponent > 1)

/-- Compares `n * 10 ^ scale` with `m / denominator`. -/
def compareAt (range : RoundingRange) (n : Nat) (scale : Int) (m : Nat) : Ordering :=
  Ord.compare (n * Nat.pow 10 scale.toNat * range.denominator) (m * Nat.pow 10 (-scale).toNat)

def contains (range : RoundingRange) (n : Nat) (scale : Int) : Bool :=
  match range.compareAt n scale range.low, range.compareAt n scale range.high with
  | .gt, .lt => true
  | .eq, _ | _, .eq => range.closed
  | _, _ => false

/-- The multiple of `10 ^ scale` just below the value, in units of that power. -/
def below (range : RoundingRange) (scale : Int) : Nat :=
  range.value * Nat.pow 10 (-scale).toNat / (range.denominator * Nat.pow 10 scale.toNat)

/-- The closest multiple of `10 ^ scale` that lies in the range, if there is one. The two neighbours
of the value are the only candidates: if any multiple lies in the range, one of them does. -/
def onGrid? (range : RoundingRange) (tie : TieRule) (scale : Int) : Option Nat :=
  let lower := range.below scale
  let upper := lower + 1
  match range.contains lower scale, range.contains upper scale with
  | true, false => some lower
  | false, true => some upper
  | false, false => none
  | true, true =>
    match range.compareAt (lower + upper) scale (2 * range.value) with
    | .gt => some lower
    | .lt => some upper
    | .eq => if tie == .even && lower % 2 == 0 then some lower else some upper

/-- Zeros between the point and the first digit of a quotient below one. -/
def leadingZeros (denominator : Nat) : Nat → Nat → Nat
  | 0, _ => 0
  | fuel + 1, value =>
    if denominator ≤ 10 * value then 0 else leadingZeros denominator fuel (10 * value) + 1

/-- The least power of ten above the value. No binary number has more than 323 leading zeros. -/
def magnitude (range : RoundingRange) : Int :=
  if range.denominator ≤ range.value then
    (Nat.toDigits 10 (range.value / range.denominator)).length
  else -(leadingZeros range.denominator 324 range.value : Nat)

end RoundingRange

/-- Moves zeros at the end of the digits into the scale. -/
def Decimal.stripZeros (fuel : Nat) (d : Decimal) : Decimal :=
  match fuel with
  | 0 => d
  | fuel + 1 =>
    if d.digits != 0 && d.digits % 10 == 0 then
      Decimal.stripZeros fuel ⟨d.digits / 10, d.scale + 1⟩
    else d

/-- The decimal with the fewest digits among those that round to the number, and the closest of
these. Seventeen digits always suffice; the exact value stands behind them all the same. -/
def RoundingRange.shortest (range : RoundingRange) (tie : TieRule) : Decimal :=
  let found := (List.range 17).findSome? fun n =>
    let scale := range.magnitude - (n + 1 : Nat)
    (range.onGrid? tie scale).map fun digits => Decimal.mk digits scale
  match found with
  | some d => d.stripZeros 20
  | none =>
    let places := Nat.log2 range.denominator
    ⟨range.value * Nat.pow 5 places, -(places : Int)⟩

end ScenarioRunner
