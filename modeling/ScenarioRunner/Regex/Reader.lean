import ScenarioRunner.Number.Read
import ScenarioRunner.Regex.Syntax

namespace ScenarioRunner

/-- Settings that a group such as `(?i)` changes for what follows it. -/
structure RegexFlags where
  ignoreCase : Bool := false
  multiLine : Bool := false
  dotAll : Bool := false
  spaced : Bool := false
  deriving DecidableEq, Repr

namespace RegexReader

/-- Characters of several ranges, in all their cases if case is ignored. -/
def amongRanges (flags : RegexFlags) (ranges : List (Char × Char)) : CharSet :=
  if flags.ignoreCase then .anyCase (.among ranges) else .among ranges

/-- Skips blanks and comments where they do not count. -/
def skipSpaced (flags : RegexFlags) : Nat → List Char → List Char
  | 0, text => text
  | fuel + 1, text =>
    match text with
    | [] => []
    | c :: rest =>
      if flags.spaced && isBlank c then skipSpaced flags fuel rest
      else if flags.spaced && c = '#' then skipSpaced flags fuel (rest.dropWhile (· != '\n'))
      else text

def skip (flags : RegexFlags) (text : List Char) : List Char := skipSpaced flags text.length text

def hexValue? (digits : List Char) : Option Char := do
  guard !digits.isEmpty
  let n ← digits.foldlM (fun n c => do
    let d ← if c.isDigit then some (c.toNat - '0'.toNat)
      else if 'a' ≤ c.toLower && c.toLower ≤ 'f' then some (c.toLower.toNat - 'a'.toNat + 10)
      else none
    return 16 * n + d) 0
  if h : n.isValidChar then some (Char.ofNatAux n h) else none

/-- A character given by its code, either in braces or in a fixed number of digits. -/
def readCode? (width : Nat) (text : List Char) : Option (Char × List Char) :=
  match text with
  | '\x7b' :: rest =>
    match rest.dropWhile (· != '\x7d') with
    | _ :: after => (hexValue? (rest.takeWhile (· != '\x7d'))).map (·, after)
    | [] => none
  | _ =>
    if text.length < width then none
    else (hexValue? (text.take width)).map (·, text.drop width)

/-- What a backslash makes of the characters behind it, if they stand for one character. -/
def readEscapedChar? : List Char → Option (Char × List Char)
  | 'n' :: rest => some ('\n', rest)
  | 't' :: rest => some ('\t', rest)
  | 'r' :: rest => some ('\r', rest)
  | 'f' :: rest => some ('\x0c', rest)
  | 'v' :: rest => some ('\x0b', rest)
  | 'a' :: rest => some ('\x07', rest)
  | 'x' :: rest => readCode? 2 rest
  | 'u' :: rest => readCode? 4 rest
  | 'U' :: rest => readCode? 8 rest
  | c :: rest =>
    if c.toNat < 0x80 && !c.isAlphanum && c != '<' && c != '>' then some (c, rest) else none
  | [] => none

/-- The named classes. -/
def classOf? : Char → Option CharSet
  | 'd' => some .digit
  | 'D' => some (.complement .digit)
  | 's' => some .blank
  | 'S' => some (.complement .blank)
  | 'w' => some .word
  | 'W' => some (.complement .word)
  | _ => none

/-- Reads what stands behind a word boundary: in braces, the side of the word that it is at. Braces
that no word can be in hold the counts of a repetition. -/
def readBoundarySide? (text : List Char) : Option (Anchor × List Char) :=
  match text with
  | '\x7b' :: rest =>
    let letters := rest.takeWhile fun c => c.isAlpha || c = '-'
    if letters.isEmpty then some (.boundary, text)
    else match String.ofList letters, rest.drop letters.length with
      | "start", '\x7d' :: after => some (.wordStart, after)
      | "end", '\x7d' :: after => some (.wordEnd, after)
      | "start-half", '\x7d' :: after => some (.noWordBefore, after)
      | "end-half", '\x7d' :: after => some (.noWordAfter, after)
      | _, _ => none
  | _ => some (.boundary, text)

/-- Reads a condition behind its backslash. -/
def readAnchor? : List Char → Option (Anchor × List Char)
  | 'b' :: rest => readBoundarySide? rest
  | 'B' :: rest => some (.noBoundary, rest)
  | '<' :: rest => some (.wordStart, rest)
  | '>' :: rest => some (.wordEnd, rest)
  | 'A' :: rest => some (.textStart, rest)
  | 'z' :: rest => some (.textEnd, rest)
  | _ => none

/-- What may stand in a set by itself. Only a character can be the end of a range. -/
inductive SetAtom where
  | char (c : Char)
  | class (chars : CharSet)

def readSetAtom? : List Char → Option (SetAtom × List Char)
  | '\\' :: c :: rest =>
    match classOf? c with
    | some chars => some (.class chars, rest)
    | none => (readEscapedChar? (c :: rest)).map fun (c, rest) => (.char c, rest)
  | c :: rest => some (.char c, rest)
  | [] => none

/-- Reads a character, a class or a range. A dash makes no range before the closing bracket, nor
before another dash, since two of them stand for a difference. -/
def readSetRange? (flags : RegexFlags) (text : List Char) : Option (CharSet × List Char) := do
  let (first, rest) ← readSetAtom? text
  let alone := match first with
    | .char c => amongRanges flags [(c, c)]
    | .class chars => chars
  match skip flags rest with
  | '-' :: after =>
    match skip flags after with
    | ']' :: _ | '-' :: _ => return (alone, '-' :: after)
    | after =>
      match first, ← readSetAtom? after with
      | .char low, (.char high, rest) =>
        guard (low ≤ high)
        return (amongRanges flags [(low, high)], rest)
      | _, _ => none
  | rest => return (alone, rest)

/-- The classes of ASCII characters that have a name between colons. -/
def namedRanges? : String → Option (List (Char × Char))
  | "alnum" => some [('0', '9'), ('A', 'Z'), ('a', 'z')]
  | "alpha" => some [('A', 'Z'), ('a', 'z')]
  | "ascii" => some [('\x00', '\x7f')]
  | "blank" => some [('\t', '\t'), (' ', ' ')]
  | "cntrl" => some [('\x00', '\x1f'), ('\x7f', '\x7f')]
  | "digit" => some [('0', '9')]
  | "graph" => some [('!', '~')]
  | "lower" => some [('a', 'z')]
  | "print" => some [(' ', '~')]
  | "punct" => some [('!', '/'), (':', '@'), ('[', '\x60'), ('\x7b', '~')]
  | "space" => some [('\t', '\r'), (' ', ' ')]
  | "upper" => some [('A', 'Z')]
  | "word" => some [('0', '9'), ('A', 'Z'), ('_', '_'), ('a', 'z')]
  | "xdigit" => some [('0', '9'), ('A', 'F'), ('a', 'f')]
  | _ => none

/-- Reads a named class behind its opening bracket. Whatever is not exactly one is left to be read
as a set. -/
def readNamedClass? (flags : RegexFlags) : List Char → Option (CharSet × List Char)
  | ':' :: rest =>
    let (negated, rest) := match rest with
      | '^' :: rest => (true, rest)
      | rest => (false, rest)
    match rest.dropWhile (· != ':') with
    | ':' :: ']' :: after =>
      (namedRanges? (String.ofList (rest.takeWhile (· != ':')))).map fun ranges =>
        let chars := amongRanges flags ranges
        (if negated then .complement chars else chars, after)
    | _ => none
  | _ => none

/-- Reads the dashes that a set starts with. -/
def readDashes (flags : RegexFlags) : Nat → List Char → List CharSet × List Char
  | fuel + 1, '-' :: rest =>
    let (others, rest) := readDashes flags fuel (skip flags rest)
    (.among [('-', '-')] :: others, rest)
  | _, text => ([], text)

/-- The operations on sets, each written as a doubled character. -/
def setOperation? : List Char → Option ((CharSet → CharSet → CharSet) × List Char)
  | '&' :: '&' :: rest => some (.intersection, rest)
  | '-' :: '-' :: rest => some (.difference, rest)
  | '~' :: '~' :: rest => some (.symmetricDifference, rest)
  | _ => none

mutual

/-- Reads a set behind its opening bracket. Dashes that come first are members, and so is a closing
bracket if it is the very first. -/
def readBracket? : Nat → RegexFlags → List Char → Option (CharSet × List Char)
  | 0, _, _ => none
  | fuel + 1, flags, text => do
    let (negated, text) := match skip flags text with
      | '^' :: rest => (true, skip flags rest)
      | text => (false, text)
    let (leading, text) := match readDashes flags text.length text with
      | ([], ']' :: rest) => ([.among [(']', ']')]], rest)
      | dashes => dashes
    let (members, rest) ← readMembers? fuel flags text
    let (chars, rest) ← readOperations? fuel flags (.ofMembers (leading ++ members)) rest
    return (.nested (if negated then .complement chars else chars), rest)

/-- Reads the members of a set up to an operation or to the closing bracket. -/
def readMembers? : Nat → RegexFlags → List Char → Option (List CharSet × List Char)
  | 0, _, _ => none
  | fuel + 1, flags, text =>
    let text := skip flags text
    if text.head? = some ']' || (setOperation? text).isSome then some ([], text)
    else do
      let (member, rest) ← match text with
        | '[' :: rest =>
          match readNamedClass? flags rest with
          | some named => some named
          | none => readBracket? fuel flags rest
        | text => readSetRange? flags text
      let (others, rest) ← readMembers? fuel flags rest
      return (member :: others, rest)

/-- Reads the operations on what has been read of a set, from left to right, and the closing
bracket behind them. -/
def readOperations? : Nat → RegexFlags → CharSet → List Char → Option (CharSet × List Char)
  | 0, _, _, _ => none
  | fuel + 1, flags, left, text =>
    match text with
    | ']' :: rest => some (left, rest)
    | text => do
      let (operation, rest) ← setOperation? text
      let (members, rest) ← readMembers? fuel flags rest
      readOperations? fuel flags (.nested (operation left (.ofMembers members))) rest

end

/-- Reads the letters of a flag group up to the colon or parenthesis behind them. None may stand
there twice. -/
def readFlags? (on : Bool) (seen : List Char) (flags : RegexFlags) :
    List Char → Option (RegexFlags × List Char)
  | [] => none
  | c :: rest =>
    if c = ':' || c = ')' then some (flags, c :: rest)
    else if seen.contains c then none
    else if c = 'i' then readFlags? on (c :: seen) { flags with ignoreCase := on } rest
    else if c = 'm' then readFlags? on (c :: seen) { flags with multiLine := on } rest
    else if c = 's' then readFlags? on (c :: seen) { flags with dotAll := on } rest
    else if c = 'x' then readFlags? on (c :: seen) { flags with spaced := on } rest
    else if c = 'U' || c = 'u' && on then readFlags? on (c :: seen) flags rest
    else if c = '-' && rest.head?.any Char.isAlpha then readFlags? false (c :: seen) flags rest
    else none

/-- Reads the counts of a bounded repetition behind its opening brace. -/
def readCounts? (text : List Char) : Option (Nat × Option Nat × List Char) := do
  let least ← readDigits? (text.takeWhile Char.isDigit)
  match text.dropWhile Char.isDigit with
  | '\x7d' :: rest => return (least, some least, rest)
  | ',' :: '\x7d' :: rest => return (least, none, rest)
  | ',' :: rest =>
    let most ← readDigits? (rest.takeWhile Char.isDigit)
    guard (least ≤ most)
    match rest.dropWhile Char.isDigit with
    | '\x7d' :: rest => return (least, some most, rest)
    | _ => none
  | _ => none

/-- A question mark behind a repetition changes which match is preferred, and so nothing here. -/
def skipPreference : List Char → List Char
  | '?' :: rest => rest
  | text => text

/-- Reads the repetitions behind an expression. -/
def readRepetitions? (atom : Regex) : Nat → List Char → Option (Regex × List Char)
  | 0, _ => none
  | fuel + 1, text =>
    match text with
    | '*' :: rest => readRepetitions? (.repeated atom 0 none) fuel (skipPreference rest)
    | '+' :: rest => readRepetitions? (.repeated atom 1 none) fuel (skipPreference rest)
    | '?' :: rest => readRepetitions? (.repeated atom 0 (some 1)) fuel (skipPreference rest)
    | '\x7b' :: rest => do
      let (least, most, rest) ← readCounts? rest
      readRepetitions? (.repeated atom least most) fuel (skipPreference rest)
    | text => some (atom, text)

/-- The name of a group, between angle brackets. -/
def skipGroupName? (text : List Char) : Option (List Char) :=
  match text.takeWhile (· != '>'), text.dropWhile (· != '>') with
  | c :: name, _ :: rest =>
    if (c == '_' || isWordChar c && !isDecimalDigit c) &&
        name.all fun d => isWordChar d || d == '.' || d == '[' || d == ']' then some rest
    else none
  | _, _ => none

/-- What stands behind an opening parenthesis: flags for the rest of the group around it, or a group
with flags of its own. -/
inductive GroupStart where
  | settings (flags : RegexFlags) (rest : List Char)
  | group (flags : RegexFlags) (rest : List Char)

def readGroupStart? (flags : RegexFlags) (text : List Char) : Option GroupStart :=
  match text with
  | '?' :: 'P' :: '<' :: rest => (skipGroupName? rest).map (.group flags ·)
  | '?' :: '<' :: rest => (skipGroupName? rest).map (.group flags ·)
  | '?' :: ')' :: _ => none
  | '?' :: rest =>
    match readFlags? true [] flags rest with
    | some (flags, ':' :: rest) => some (.group flags rest)
    | some (flags, ')' :: rest) => some (.settings flags rest)
    | _ => none
  | rest => some (.group flags rest)

mutual

/-- Reads alternatives up to the end of the text or of the group. -/
def readChoice? : Nat → RegexFlags → List Char → Option (Regex × List Char)
  | 0, _, _ => none
  | fuel + 1, flags, text => do
    let (first, flags, rest) ← readParts? fuel flags text
    let (others, rest) ← readOthers? fuel flags rest
    return (.ofChoices (.ofParts first) others, rest)

/-- Reads the alternatives behind the first, each with its bar. -/
def readOthers? : Nat → RegexFlags → List Char → Option (List Regex × List Char)
  | 0, _, _ => none
  | fuel + 1, flags, text =>
    match text with
    | '|' :: rest => do
      let (choice, flags, rest) ← readParts? fuel flags rest
      let (others, rest) ← readOthers? fuel flags rest
      return (.ofParts choice :: others, rest)
    | text => some ([], text)

/-- Reads what stands one behind the other, up to a bar or to the end of the group. A flag group is
a part that is empty. The flags that hold at the end come back too. -/
def readParts? : Nat → RegexFlags → List Char → Option (List Regex × RegexFlags × List Char)
  | 0, _, _ => none
  | fuel + 1, flags, text =>
    match skip flags text with
    | [] => some ([], flags, [])
    | c :: rest =>
      if c = '|' || c = ')' then some ([], flags, c :: rest)
      else if c = '*' || c = '+' || c = '?' || c = '\x7b' then none
      else if c = '(' then do
        match ← readGroupStart? flags rest with
        | .settings flags rest =>
          match rest with
          | '*' :: _ | '+' :: _ | '?' :: _ | '\x7b' :: _ => none
          | rest =>
            let (others, flags, rest) ← readParts? fuel flags rest
            return (.empty :: others, flags, rest)
        | .group inner rest =>
          match ← readChoice? fuel inner rest with
          | (group, ')' :: rest) => readTail? fuel flags (.nested group) rest
          | _ => none
      else if c = '[' then do
        let (chars, rest) ← readBracket? fuel flags rest
        readTail? fuel flags (.set chars) rest
      else if c = '\\' then
        match rest with
        | [] => none
        | d :: after =>
          match classOf? d, readAnchor? rest, readEscapedChar? rest with
          | some chars, _, _ => readTail? fuel flags (.set chars) after
          | none, some (condition, rest), _ => readTail? fuel flags (.anchor condition) rest
          | none, none, some (e, rest) =>
            readTail? fuel flags (.set (amongRanges flags [(e, e)])) rest
          | none, none, none => none
      else if c = '^' then
        readTail? fuel flags (.anchor (if flags.multiLine then .lineStart else .textStart)) rest
      else if c = '$' then
        readTail? fuel flags (.anchor (if flags.multiLine then .lineEnd else .textEnd)) rest
      else if c = '.' then
        readTail? fuel flags
          (.set (.complement (if flags.dotAll then .none else .among [('\n', '\n')]))) rest
      else readTail? fuel flags (.set (amongRanges flags [(c, c)])) rest

/-- Reads the repetitions of a part and the parts behind it. -/
def readTail? : Nat → RegexFlags → Regex → List Char →
    Option (List Regex × RegexFlags × List Char)
  | 0, _, _, _ => none
  | fuel + 1, flags, atom, text => do
    let (part, rest) ← readRepetitions? atom (text.length + 1) text
    let (others, flags, rest) ← readParts? fuel flags rest
    return (part :: others, flags, rest)

end

end RegexReader

/-- An expression may nest this many levels and no more. -/
def Regex.deepest : Nat := 250

/-- Reads a regular expression. No call below nests deeper than three times for each character. -/
def Regex.read? (source : String) : Option Regex :=
  let text := source.toList
  match RegexReader.readChoice? (3 * text.length + 4) {} text with
  | some (regex, []) => if regex.depth ≤ Regex.deepest then some regex else none
  | _ => none

end ScenarioRunner
