import ScenarioRunner.Event

namespace ScenarioRunner

/-- How many scenarios, or how many steps, ended in each way. -/
structure Tally where
  passed : Nat := 0
  skipped : Nat := 0
  failed : Nat := 0
  deriving DecidableEq, Repr

namespace Tally

def total (tally : Tally) : Nat := tally.passed + tally.skipped + tally.failed

def countPassed (tally : Tally) : Tally := { tally with passed := tally.passed + 1 }

def countSkipped (tally : Tally) : Tally := { tally with skipped := tally.skipped + 1 }

def countFailed (tally : Tally) : Tally := { tally with failed := tally.failed + 1 }

/-- The counts in parentheses, without those that are zero. -/
def text (tally : Tally) : String :=
  let counts := [(tally.passed, "passed"), (tally.skipped, "skipped"), (tally.failed, "failed")]
  match (counts.filter (·.1 > 0)).map fun (count, name) => toString count ++ " " ++ name with
  | [] => ""
  | parts => " (" ++ ", ".intercalate parts ++ ")"

end Tally

/-- Counts over a run. -/
structure Summary where
  features : Nat := 0
  scenarios : Tally := {}
  steps : Tally := {}
  deriving DecidableEq, Repr

def countText (count : Nat) (name : String) : String :=
  toString count ++ " " ++ name ++ if count == 1 then "" else "s"

namespace Summary

def empty : Summary := {}

/-- Features count when they start, scenarios and steps when they end. -/
def observe (summary : Summary) : RunEvent → Summary
  | .featureStarted _ => { summary with features := summary.features + 1 }
  | .scenario _ .skipped => { summary with scenarios := summary.scenarios.countSkipped }
  | .scenario _ (.step _ .passed) => { summary with steps := summary.steps.countPassed }
  | .scenario _ (.step _ .skipped) => { summary with steps := summary.steps.countSkipped }
  | .scenario _ (.step _ (.failed _)) => { summary with steps := summary.steps.countFailed }
  | .scenario _ (.finished .passed) => { summary with scenarios := summary.scenarios.countPassed }
  | .scenario _ (.finished (.failed _)) =>
    { summary with scenarios := summary.scenarios.countFailed }
  | _ => summary

def ofEvents (events : List RunEvent) : Summary := events.foldl observe empty

/-- Has a scenario failed? -/
def hasFailed (summary : Summary) : Bool := summary.scenarios.failed > 0

def text (summary : Summary) : String :=
  "[Summary]\n" ++ countText summary.features "feature" ++
    "\n" ++ countText summary.scenarios.total "scenario" ++ summary.scenarios.text ++
    "\n" ++ countText summary.steps.total "step" ++ summary.steps.text

end Summary

end ScenarioRunner
