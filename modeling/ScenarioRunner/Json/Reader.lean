import ScenarioRunner.Json.Number

namespace ScenarioRunner

namespace JsonReader

/-- JSON has four blanks. -/
def skipBlanks (text : List Char) : List Char :=
  text.dropWhile fun c => c = ' ' || c = '\n' || c = '\t' || c = '\r'

def hexDigit? (c : Char) : Option Nat :=
  if c.isDigit then some (c.toNat - '0'.toNat)
  else if 'a' ≤ c && c ≤ 'f' then some (c.toNat - 'a'.toNat + 10)
  else if 'A' ≤ c && c ≤ 'F' then some (c.toNat - 'A'.toNat + 10)
  else none

def hexUnit? : List Char → Option (Nat × List Char)
  | a :: b :: c :: d :: rest => do
    let a ← hexDigit? a
    let b ← hexDigit? b
    let c ← hexDigit? c
    let d ← hexDigit? d
    return (((a * 16 + b) * 16 + c) * 16 + d, rest)
  | _ => none

/-- Reads a character that is given by its code. Two halves of a pair must stand together. -/
def codedChar? (text : List Char) : Option (Char × List Char) := do
  let (unit, rest) ← hexUnit? text
  if unit < 0xD800 || 0xDFFF < unit then return (Char.ofNat unit, rest)
  guard (unit < 0xDC00)
  match rest with
  | '\\' :: 'u' :: rest =>
    let (low, rest) ← hexUnit? rest
    guard (0xDC00 ≤ low && low ≤ 0xDFFF)
    return (Char.ofNat (0x10000 + (unit - 0xD800) * 0x400 + (low - 0xDC00)), rest)
  | _ => none

/-- Reads the character behind a backslash. -/
def escapedChar? : List Char → Option (Char × List Char)
  | '"' :: rest => some ('"', rest)
  | '\\' :: rest => some ('\\', rest)
  | '/' :: rest => some ('/', rest)
  | 'b' :: rest => some ('\x08', rest)
  | 'f' :: rest => some ('\x0c', rest)
  | 'n' :: rest => some ('\n', rest)
  | 'r' :: rest => some ('\r', rest)
  | 't' :: rest => some ('\t', rest)
  | 'u' :: rest => codedChar? rest
  | _ => none

/-- Reads a string up to its closing quote. Control characters must be escaped. Each step takes at
least one character, so the length of the text is fuel enough. -/
def readString? : Nat → List Char → Option (List Char × List Char)
  | 0, _ => none
  | _ + 1, [] => none
  | fuel + 1, c :: rest =>
    if c = '"' then some ([], rest)
    else if c = '\\' then do
      let (d, rest) ← escapedChar? rest
      let (tail, rest) ← readString? fuel rest
      return (d :: tail, rest)
    else if c.toNat < 0x20 then none
    else (readString? fuel rest).map fun (tail, rest) => (c :: tail, rest)

def readKey? (text : List Char) : Option (String × List Char) :=
  match text with
  | '"' :: rest => (readString? rest.length rest).map fun (key, rest) => (String.ofList key, rest)
  | _ => none

mutual

/-- Reads a value. `depth` counts how many arrays and objects may still be opened. -/
def readValue? (depth : Nat) : Nat → List Char → Option (JsonValue × List Char)
  | 0, _ => none
  | fuel + 1, text =>
    match skipBlanks text with
    | '"' :: rest =>
      (readString? rest.length rest).map fun (text, rest) => (.string (String.ofList text), rest)
    | '[' :: rest =>
      match depth with
      | 0 => none
      | depth + 1 =>
        match skipBlanks rest with
        | ']' :: rest => some (.array [], rest)
        | rest => (readItems? depth fuel rest).map fun (items, rest) => (.array items, rest)
    | '\x7b' :: rest =>
      match depth with
      | 0 => none
      | depth + 1 =>
        match skipBlanks rest with
        | '\x7d' :: rest => some (.object [], rest)
        | rest =>
          (readMembers? depth fuel rest).map fun (members, rest) => (.ofMembers members, rest)
    | 'n' :: 'u' :: 'l' :: 'l' :: rest => some (.null, rest)
    | 't' :: 'r' :: 'u' :: 'e' :: rest => some (.bool true, rest)
    | 'f' :: 'a' :: 'l' :: 's' :: 'e' :: rest => some (.bool false, rest)
    | text => do
      let (numeral, rest) ← JsonNumeral.read? text
      let n ← numeral.value?
      return (.number n, rest)

/-- Reads the items of an array up to its end. -/
def readItems? (depth : Nat) : Nat → List Char → Option (List JsonValue × List Char)
  | 0, _ => none
  | fuel + 1, text => do
    let (item, rest) ← readValue? depth fuel text
    match skipBlanks rest with
    | ',' :: rest =>
      let (items, rest) ← readItems? depth fuel rest
      return (item :: items, rest)
    | ']' :: rest => return ([item], rest)
    | _ => none

/-- Reads the members of an object up to its end. -/
def readMembers? (depth : Nat) : Nat → List Char → Option (List (String × JsonValue) × List Char)
  | 0, _ => none
  | fuel + 1, text => do
    let (key, rest) ← readKey? (skipBlanks text)
    match skipBlanks rest with
    | ':' :: rest =>
      let (value, rest) ← readValue? depth fuel rest
      match skipBlanks rest with
      | ',' :: rest =>
        let (members, rest) ← readMembers? depth fuel rest
        return ((key, value) :: members, rest)
      | '\x7d' :: rest => return ([(key, value)], rest)
      | _ => none
    | _ => none

end

end JsonReader

/-- How deep arrays and objects may be nested. -/
def jsonDepth : Nat := 127

/-- Reads a JSON text. Every call below reads a character before the next call of its kind, so the
length of the text bounds their nesting twice over. -/
def JsonValue.read? (text : String) : Option JsonValue :=
  let chars := text.toList
  match JsonReader.readValue? jsonDepth (2 * chars.length + 2) chars with
  | some (value, rest) => if JsonReader.skipBlanks rest = [] then some value else none
  | none => none

end ScenarioRunner
