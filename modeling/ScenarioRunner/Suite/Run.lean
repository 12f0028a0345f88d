import ScenarioRunner.Suite.Basic

namespace ScenarioRunner

inductive TestOutcome (ε : Type) where
  | passed
  | skipped
  | failed (failure : ε)
  deriving DecidableEq, Repr

/-- How a test went. The path holds the names of the groups around it, the outermost first. -/
structure TestResult (ε : Type) where
  path : List String
  name : String
  tags : List String
  outcome : TestOutcome ε
  deriving DecidableEq, Repr

def TestResult.isFailed {ε : Type} (result : TestResult ε) : Bool :=
  match result.outcome with
  | .failed _ => true
  | _ => false

variable {ω ε : Type}

def TestOutcome.ofBody : Except ε Unit → TestOutcome ε
  | .ok () => passed
  | .error failure => failed failure

def Test.outcome (test : Test ω ε) : Timeline ω (TestOutcome ε) :=
  if test.skip then pure .skipped else do return .ofBody (← test.body)

def Test.run (path : List String) (test : Test ω ε) : Timeline ω (TestResult ε) := do
  return ⟨path, test.name, test.tags, ← test.outcome⟩

/-- The members of a group run side by side, after its set-up hooks and before its tear-down
hooks. -/
def runAround (setUp tearDown : List (Timeline ω Unit))
    (members : List (Timeline ω (List (TestResult ε)))) : Timeline ω (List (TestResult ε)) := do
  Timeline.inSequence setUp
  let results ← Timeline.gather members
  Timeline.inSequence tearDown
  return results.flatten

mutual

def SuiteItem.run (path : List String) : SuiteItem ω ε → Timeline ω (List (TestResult ε))
  | .test test => do return [← test.run path]
  | .group name setUp tearDown items => runAround setUp tearDown (runItems (path ++ [name]) items)

def runItems (path : List String) :
    List (SuiteItem ω ε) → List (Timeline ω (List (TestResult ε)))
  | [] => []
  | item :: rest => item.run path :: runItems path rest

end

/-- Runs all tests. The results come in the order of registration. -/
def Suite.run (suite : Suite ω ε) : Timeline ω (List (TestResult ε)) :=
  let all := suite.outermost
  runAround all.setUp all.tearDown (runItems [] all.items)

end ScenarioRunner
