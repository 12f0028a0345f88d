import ScenarioRunner.Feature.Basic
import ScenarioRunner.Text.Blank
import ScenarioRunner.Text.Cut

namespace ScenarioRunner

/-- The kinds of section that a header line opens. -/
inductive Header where
  | feature
  | background
  | scenario
  | outline
  | examples
  deriving DecidableEq, Repr

namespace Header

/-- How headers are spelled. No spelling is the start of another, so their order does not matter. -/
def spellings : List (String × Header) :=
  [("Feature:", feature), ("Background:", background), ("Scenario Outline:", outline),
   ("Scenario Template:", outline), ("Scenario:", scenario), ("Examples:", examples),
   ("Scenarios:", examples), ("Example:", scenario)]

def name : Header → String
  | feature => "Feature"
  | background => "Background"
  | scenario => "Scenario"
  | outline => "Outline"
  | examples => "Examples"

/-- Reads a header and its title from a trimmed line. -/
def read? (line : List Char) : Option (Header × String) :=
  spellings.findSome? fun (spelling, header) =>
    (afterStart? spelling.toList line).map fun rest => (header, String.ofList (trim rest))

end Header

/-- Which of the two marks opens a doc string. Only the same mark closes it. -/
inductive DocMark where
  | doubleQuotes
  | singleQuotes
  deriving DecidableEq, Repr

def DocMark.text : DocMark → List Char
  | doubleQuotes => ['"', '"', '"']
  | singleQuotes => ['\x27', '\x27', '\x27']

/-- Reads a mark and the media type behind it from a trimmed line. -/
def DocMark.read? (line : List Char) : Option (DocMark × Option String) :=
  [doubleQuotes, singleQuotes].findSome? fun mark =>
    (afterStart? mark.text line).map fun rest =>
      (mark, if trim rest = [] then none else some (String.ofList (trim rest)))

/-- The trimmed cells between the bars of a row. The outer bars are optional. -/
def cellsOf (line : List Char) : List String :=
  ((dropLast '|' (dropFirst '|' (trim line))).splitOn '|').map fun cell => String.ofList (trim cell)

/-- The tags of a line up to a comment, without their marks. -/
def tagsOf (line : List Char) : List String :=
  ((blankSeparated line).takeWhile fun word => word.head? != some '#').filterMap fun word =>
    match word with
    | '@' :: tag@(_ :: _) => some (String.ofList tag)
    | _ => none

/-- Reads a step from a trimmed line: a keyword, blanks, and a text. -/
def readStep? (line : List Char) : Option (StepKeyword × String) :=
  StepKeyword.all.findSome? fun keyword =>
    (afterStart? keyword.text.toList line).bind fun rest =>
      match rest, trimStart rest with
      | first :: _, text@(_ :: _) =>
        if isBlank first then some (keyword, String.ofList text) else none
      | _, _ => none

end ScenarioRunner
