import ScenarioRunner.Text.DigitTable
import ScenarioRunner.Text.WordTable

namespace ScenarioRunner

/-- Characters that words are made of: letters, marks, decimal digits, connectors, joiners. -/
def isWordChar (c : Char) : Bool :=
  c.isAlphanum || c == '_' || (0x80 ≤ c.toNat && wordRanges.contains c)

/-- Decimal digits of any script. -/
def isDecimalDigit (c : Char) : Bool :=
  c.isDigit || (0x80 ≤ c.toNat && digitRanges.contains c)

/-- Is there a word boundary between the two neighbours? The ends of a text have no neighbour. -/
def isBoundary (before after : Option Char) : Bool :=
  before.any isWordChar != after.any isWordChar

end ScenarioRunner
