import ScenarioRunner.Text.Blank
import ScenarioRunner.Text.Fold
import ScenarioRunner.Text.Words

namespace ScenarioRunner

/-- A set of characters, as it is built up between brackets. `nested` marks a level of its own: a
pair of brackets, two members or more side by side, or an operation on two sets. -/
inductive CharSet where
  | none
  | among (ranges : List (Char × Char))
  | word
  | digit
  | blank
  | union (a b : CharSet)
  | intersection (a b : CharSet)
  | difference (a b : CharSet)
  | symmetricDifference (a b : CharSet)
  | complement (a : CharSet)
  | anyCase (a : CharSet)
  | nested (a : CharSet)
  deriving DecidableEq, Repr

namespace CharSet

def contains : CharSet → Char → Bool
  | none, _ => false
  | among ranges, c => ranges.any fun (first, last) => first ≤ c && c ≤ last
  | word, c => isWordChar c
  | digit, c => isDecimalDigit c
  | blank, c => isBlank c
  | union a b, c => a.contains c || b.contains c
  | intersection a b, c => a.contains c && b.contains c
  | difference a b, c => a.contains c && !b.contains c
  | symmetricDifference a b, c => a.contains c != b.contains c
  | complement a, c => !a.contains c
  | anyCase a, c => (c :: caseVariants c).any a.contains
  | nested a, c => a.contains c

/-- How many levels stand inside one another at most. -/
def depth : CharSet → Nat
  | union a b | intersection a b | difference a b | symmetricDifference a b => max a.depth b.depth
  | complement a | anyCase a => a.depth
  | nested a => a.depth + 1
  | _ => 0

/-- The members of a set, put side by side. A single one makes no level. -/
def ofMembers : List CharSet → CharSet
  | [] => none
  | [member] => member
  | members => nested (members.foldr union none)

end CharSet

/-- A condition on the place between two characters. -/
inductive Anchor where
  | textStart
  | textEnd
  | lineStart
  | lineEnd
  | boundary
  | noBoundary
  | wordStart
  | wordEnd
  | noWordBefore
  | noWordAfter
  deriving DecidableEq, Repr

def Anchor.holds (before after : Option Char) : Anchor → Bool
  | textStart => before.isNone
  | textEnd => after.isNone
  | lineStart => before.isNone || before == some '\n'
  | lineEnd => after.isNone || after == some '\n'
  | boundary => isBoundary before after
  | noBoundary => !isBoundary before after
  | wordStart => !before.any isWordChar && after.any isWordChar
  | wordEnd => before.any isWordChar && !after.any isWordChar
  | noWordBefore => !before.any isWordChar
  | noWordAfter => !after.any isWordChar

/-- A regular expression. Only whether it matches is ever asked, so that it does not matter which
of several matches is preferred. `nested` marks a level of its own: a group, or two parts or more of
one sequence or of one choice. -/
inductive Regex where
  | empty
  | set (chars : CharSet)
  | anchor (condition : Anchor)
  | sequence (a b : Regex)
  | either (a b : Regex)
  | repeated (a : Regex) (least : Nat) (most : Option Nat)
  | nested (a : Regex)
  deriving DecidableEq, Repr

namespace Regex

/-- How many levels stand inside one another at most. A repetition is a level too. -/
def depth : Regex → Nat
  | empty => 0
  | set chars => chars.depth
  | anchor _ => 0
  | sequence a b | either a b => max a.depth b.depth
  | repeated a _ _ => a.depth + 1
  | nested a => a.depth + 1

/-- Parts that follow one another. A single one makes no level. -/
def ofParts : List Regex → Regex
  | [] => empty
  | [part] => part
  | parts => nested (parts.foldr sequence empty)

/-- Alternatives, of which there is always at least one. A single one makes no level. -/
def ofChoices (first : Regex) : List Regex → Regex
  | [] => first
  | others => nested (others.foldl either first)

end Regex

end ScenarioRunner
