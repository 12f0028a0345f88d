namespace ScenarioRunner

/-- The value of a run of ASCII digits. -/
def digitsValue (digits : List Char) : Nat :=
  digits.foldl (fun n c => 10 * n + (c.toNat - '0'.toNat)) 0

/-- A digit sequence that is not empty. -/
def readDigits? (text : List Char) : Option Nat :=
  if text.isEmpty || !text.all Char.isDigit then none else some (digitsValue text)

/-- Splits off one sign; the flag tells whether it is a minus. -/
def readSign : List Char → Bool × List Char
  | '+' :: rest => (false, rest)
  | '-' :: rest => (true, rest)
  | text => (false, text)

/-- A whole number in ASCII digits with at most one sign. -/
def readInt? (text : List Char) : Option Int :=
  let (negative, rest) := readSign text
  (readDigits? rest).map fun n => if negative then -(n : Int) else n

/-- A whole number of 64 bits. -/
def readInt64? (text : List Char) : Option Int64 :=
  (readInt? text).bind fun n =>
    if Int64.minValue.toInt ≤ n && n ≤ Int64.maxValue.toInt then some (Int64.ofInt n) else none

/-- The number closest to `mantissa * 10 ^ exponent`. Far outside of the representable range the
power is not computed. -/
def nearestFloat (mantissa : Nat) (exponent : Int) : Float :=
  if mantissa == 0 then 0.0
  else
    let magnitude := exponent + (Nat.toDigits 10 mantissa).length
    if magnitude > 400 then 1.0 / 0.0
    else if magnitude < -400 then 0.0
    else Float.ofScientific mantissa (exponent < 0) exponent.natAbs

/-- The exponent behind the digits: nothing, or a mark with an optional sign and digits. -/
def readExponent? : List Char → Option Int
  | [] => some 0
  | c :: rest => if c == 'e' || c == 'E' then readInt? rest else none

/-- Digits with an optional point, of which at least one digit must be there, and an exponent. -/
def readDecimal? (text : List Char) : Option Float :=
  let whole := text.takeWhile Char.isDigit
  let rest := text.dropWhile Char.isDigit
  let fraction := match rest with
    | '.' :: after => after.takeWhile Char.isDigit
    | _ => []
  let rest := match rest with
    | '.' :: after => after.dropWhile Char.isDigit
    | _ => rest
  if (whole ++ fraction).isEmpty then none
  else (readExponent? rest).map fun exponent =>
    nearestFloat (digitsValue (whole ++ fraction)) (exponent - fraction.length)

/-- A number with an optional sign; infinity and the undefined value are spelled out in letters of
either case. -/
def readFloat? (text : List Char) : Option Float :=
  let (negative, rest) := readSign text
  let magnitude? :=
    match String.ofList (rest.map Char.toLower) with
    | "inf" | "infinity" => some (1.0 / 0.0)
    | "nan" => some (0.0 / 0.0)
    | _ => readDecimal? rest
  magnitude?.map fun x => if negative then -x else x

end ScenarioRunner
