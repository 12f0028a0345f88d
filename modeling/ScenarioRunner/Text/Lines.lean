import ScenarioRunner.Text.Cut

namespace ScenarioRunner

/-- Pieces between line feeds as lines: a carriage return before a line feed belongs to the line
end, and there is no line after the last line feed. -/
def linesOfPieces : List (List Char) → List (List Char)
  | [] => []
  | [last] => if last.isEmpty then [] else [last]
  | piece :: rest => dropLast '\r' piece :: linesOfPieces rest

/-- The lines of a text, without their ends. A carriage return alone ends no line. -/
def linesOf (text : List Char) : List (List Char) := linesOfPieces (text.splitOn '\n')

end ScenarioRunner
