import ScenarioRunner.Pattern.Template
import ScenarioRunner.Text.Cut

namespace ScenarioRunner

/-- The captured texts of a match, in the order of their places. -/
abbrev Captures := List (List Char)

/-- One entry for each end of a text, the whole text first and the empty end last: how the places
that are still to be filled can be filled from there. -/
abbrev CaptureTable := List (Option Captures)

namespace CaptureTable

/-- With no place left only the empty end will do. -/
def final : List Char → CaptureTable
  | [] => [some []]
  | _ :: rest => none :: final rest

/-- What is possible from an end that has to start with a literal. `next` belongs to the end of the
text that is as much shorter as the literal is long. -/
def throughLiteral (literal : List Char) : List Char → CaptureTable → CaptureTable
  | text, next =>
    let here := if literal.isPrefixOf text then next.head?.join else none
    match text with
    | [] => [here]
    | _ :: rest => here :: throughLiteral literal rest (next.drop 1)

/-- A longer capture, by one more character at its start. -/
def widen (c : Char) : Captures → Captures
  | [] => []
  | first :: others => (c :: first) :: others

/-- What is possible from an end that starts with a captured text. The shortest capture is taken
with which the rest can still be filled; no capture is empty or crosses a line feed. -/
def throughCapture : List Char → CaptureTable → CaptureTable
  | [], _ => [none]
  | c :: rest, after =>
    let longer := throughCapture rest (after.drop 1)
    let here :=
      if c = '\n' then none
      else match (after.drop 1).head?.join with
        | some others => some ([c] :: others)
        | none => longer.head?.join.map (widen c)
    here :: longer

/-- The table for places that are followed by the given literals. -/
def ofLiterals (text : List Char) : List (List Char) → CaptureTable
  | [] => final text
  | literal :: rest =>
    let next := ofLiterals text rest
    throughCapture text (throughLiteral literal text (next.drop literal.length))

end CaptureTable

namespace StepPattern

/-- How a text fills the places of a pattern: each capture as short as those before it allow. -/
def captures? (pattern : StepPattern) (text : List Char) : Option Captures :=
  (afterStart? pattern.lead text).bind fun rest =>
    (CaptureTable.ofLiterals rest (pattern.holes.map Hole.after)).head?.join

/-- Converts captures one by one; the first that cannot be converted decides. -/
def convert : List Hole → Captures → Except ConversionError (List Value)
  | hole :: holes, text :: texts => do
    let value ← hole.kind.convert hole.name text
    let values ← convert holes texts
    return value :: values
  | _, _ => .ok []

/-- The arguments that a step text gives, if it fits the pattern. -/
def match? (pattern : StepPattern) (text : String) :
    Except ConversionError (Option (List Value)) :=
  match pattern.captures? text.toList with
  | none => .ok none
  | some captures => (convert pattern.holes captures).map some

end StepPattern

end ScenarioRunner
