import ScenarioRunner.Json.Value
import ScenarioRunner.Number.Read

namespace ScenarioRunner

/-- The spelling of a number: its digits before and behind the point, and its exponent. -/
structure JsonNumeral where
  negative : Bool
  whole : List Char
  fraction : Option (List Char) := none
  exponent : Option Int := none
  deriving DecidableEq, Repr

namespace JsonNumeral

/-- Reads the digits behind a point. At least one must be there. -/
def readFraction? (text : List Char) : Option (Option (List Char) × List Char) :=
  match text with
  | '.' :: rest =>
    match rest.takeWhile Char.isDigit with
    | [] => none
    | digits => some (some digits, rest.dropWhile Char.isDigit)
  | _ => some (none, text)

/-- Reads an exponent with its optional sign. At least one digit must be there. -/
def readExponent? (text : List Char) : Option (Option Int × List Char) :=
  match text with
  | c :: rest =>
    if c = 'e' || c = 'E' then
      let (negative, rest) := readSign rest
      match rest.takeWhile Char.isDigit with
      | [] => none
      | digits =>
        let n : Int := digitsValue digits
        some (some (if negative then -n else n), rest.dropWhile Char.isDigit)
    else some (none, text)
  | [] => some (none, [])

/-- Reads a numeral at the start of a text. Only a lone zero may come first. -/
def read? (text : List Char) : Option (JsonNumeral × List Char) := do
  let (negative, text) := match text with
    | '-' :: rest => (true, rest)
    | _ => (false, text)
  let whole := text.takeWhile Char.isDigit
  guard (!whole.isEmpty && (whole.head? != some '0' || whole.length == 1))
  let (fraction, text) ← readFraction? (text.dropWhile Char.isDigit)
  let (exponent, text) ← readExponent? text
  return ({ negative, whole, fraction, exponent }, text)

/-- Extends a significand by as many digits as keep it within 64 bits, and counts them. -/
def extend (n : Nat) : List Char → Nat × Nat
  | [] => (n, 0)
  | c :: rest =>
    let next := 10 * n + digitsValue [c]
    if next < UInt64.size then
      let (n, taken) := extend next rest
      (n, taken + 1)
    else (n, 0)

/-- Multiplies by a power of ten in steps that can be represented. Too large a result is none. -/
def scale? (fuel : Nat) (x : Float) (exponent : Int) : Option Float :=
  match fuel with
  | 0 => some 0.0
  | fuel + 1 =>
    if exponent.natAbs ≤ 308 then
      let power := Float.ofScientific 1 false exponent.natAbs
      if 0 ≤ exponent then
        let y := x * power
        if y.isInf then none else some y
      else some (x / power)
    else if x == 0.0 then some x
    else if 0 ≤ exponent then none
    else scale? fuel (x / 1e308) (exponent + 308)

/-- The number that a numeral with a point, an exponent or too many digits stands for. Digits that
do not fit the significand are dropped. -/
def real? (numeral : JsonNumeral) : Option Float :=
  let (n, whole) := extend 0 numeral.whole
  let (n, behind) := extend n (numeral.fraction.getD [])
  let exponent := (numeral.whole.length : Int) - whole - behind + numeral.exponent.getD 0
  (scale? 4 (Float.ofScientific n false 0) exponent).map fun x => if numeral.negative then -x else x

/-- The number of a numeral. One that is too large has none; a negative zero is not whole. -/
def value? (numeral : JsonNumeral) : Option JsonNumber :=
  let n := digitsValue numeral.whole
  if numeral.fraction.isSome || numeral.exponent.isSome then numeral.real?.map .real
  else if numeral.negative then
    if 0 < n && n ≤ UInt64.size / 2 then some (.whole (-(n : Int))) else numeral.real?.map .real
  else if n < UInt64.size then some (.whole n) else numeral.real?.map .real

end JsonNumeral

end ScenarioRunner
