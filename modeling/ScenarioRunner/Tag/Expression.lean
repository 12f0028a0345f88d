import ScenarioRunner.Text.Blank

namespace ScenarioRunner

/-- A condition on the tags of a scenario. -/
inductive TagExpression where
  | tag (name : String)
  | conjunction (a b : TagExpression)
  | disjunction (a b : TagExpression)
  | negation (a : TagExpression)
  deriving DecidableEq, Repr

/-- A tag without blanks around it and without marks in front of it. -/
def bareTag (tag : String) : String :=
  String.ofList ((trim tag.toList).dropWhile (· == '@'))

/-- Tags count as equal when they are equal without their marks. -/
def TagExpression.holds (tags : List String) : TagExpression → Bool
  | tag name => (tags.map bareTag).contains (bareTag name)
  | conjunction a b => a.holds tags && b.holds tags
  | disjunction a b => a.holds tags || b.holds tags
  | negation a => !a.holds tags

end ScenarioRunner
