import ScenarioRunner.Number.Shortest

namespace ScenarioRunner

namespace Decimal

/-- The exponent of the first digit. -/
def leadingExponent (d : Decimal) : Int := (Nat.toDigits 10 d.digits).length - 1 + d.scale

/-- All digits around the point, with zeros where none is known. -/
def plain (d : Decimal) : List Char :=
  let digits := Nat.toDigits 10 d.digits
  let behind := (-d.scale).toNat
  if behind == 0 then digits ++ List.replicate d.scale.toNat '0'
  else if behind < digits.length then
    digits.take (digits.length - behind) ++ '.' :: digits.drop (digits.length - behind)
  else '0' :: '.' :: List.replicate (behind - digits.length) '0' ++ digits

/-- One digit before the point, and a signed power of ten. -/
def scientific (d : Decimal) : List Char :=
  let mantissa := match Nat.toDigits 10 d.digits with
    | [] => []
    | [first] => [first]
    | first :: rest => first :: '.' :: rest
  let e := d.leadingExponent
  mantissa ++ 'e' :: (if e < 0 then '-' else '+') :: Nat.toDigits 10 e.natAbs

end Decimal

def isNegative (x : Float) : Bool := x.toBits >>> 63 == 1

def signOf (x : Float) : List Char := if isNegative x then ['-'] else []

/-- A number as it stands in a report: the fewest digits that identify it, never with an exponent,
and without a point if it is whole. -/
def plainText (x : Float) : String :=
  if x.isNaN then "NaN"
  else String.ofList (signOf x ++
    if x.isInf then ['i', 'n', 'f']
    else if x == 0 then ['0']
    else ((RoundingRange.ofBits x.toBits).shortest .upper).plain)

/-- A finite number as it stands in a JSON text: with a point, or with an exponent if the first
digit stands at `10 ^ 16` or above, or below `10 ^ -5`. -/
def jsonText (x : Float) : String :=
  String.ofList (signOf x ++
    if x == 0 then ['0', '.', '0']
    else
      let d := (RoundingRange.ofBits x.toBits).shortest .even
      if d.leadingExponent < -5 || 16 ≤ d.leadingExponent then d.scientific
      else if d.scale < 0 then d.plain
      else d.plain ++ ['.', '0'])

end ScenarioRunner
