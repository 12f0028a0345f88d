import ScenarioRunner.Text.PrintTable

namespace ScenarioRunner

/-- Control characters, invisible ones and those that would attach to the quote before them. -/
def needsCodePoint (c : Char) : Bool :=
  c.toNat < 0x20 || (0x7F ≤ c.toNat && (invisibleRanges.contains c || attachingRanges.contains c))

/-- How one character is written between double quotes. -/
def quotedChar (c : Char) : List Char :=
  match c with
  | '"' => ['\\', '"']
  | '\\' => ['\\', '\\']
  | '\n' => ['\\', 'n']
  | '\r' => ['\\', 'r']
  | '\t' => ['\\', 't']
  | '\x00' => ['\\', '0']
  | _ =>
    if needsCodePoint c then ['\\', 'u', '\x7b'] ++ Nat.toDigits 16 c.toNat ++ ['\x7d'] else [c]

/-- A text as a double-quoted literal in which every character can be seen. -/
def quoted (text : String) : String :=
  String.ofList ('"' :: text.toList.flatMap quotedChar ++ ['"'])

/-- How one character of a path is written between double quotes. A single quote gets a backslash
there too. -/
def quotedPathChar (c : Char) : List Char :=
  if c = '\x27' then ['\\', '\x27'] else quotedChar c

/-- The text of a path as a double-quoted literal. -/
def quotedPath (text : String) : String :=
  String.ofList ('"' :: text.toList.flatMap quotedPathChar ++ ['"'])

/-- A literal that may be missing, written as a word that says which of the two it is. -/
def optionWord (literal : Option String) : String :=
  match literal with
  | none => "None"
  | some literal => "Some(" ++ literal ++ ")"

end ScenarioRunner
