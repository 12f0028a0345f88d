import ScenarioRunner.Event
import ScenarioRunner.Feature.Expansion

namespace ScenarioRunner

/-- One scenario to be run, under a name that no other of its feature has. -/
structure TestCase where
  name : String
  steps : List Step
  tags : List String
  deriving DecidableEq, Repr

def TestCase.hasTag (case : TestCase) (tag : String) : Bool := case.tags.contains tag

/-- Tests that belong together: those of a feature, or groups of a directory. -/
structure TestGroup where
  name : String
  feature : Option FeatureId
  background : List Step
  groups : List TestGroup
  cases : List TestCase

structure TestPlan where
  groups : List TestGroup

mutual

/-- The cases of a group, its own before those of the groups in it. -/
def TestGroup.allCases : TestGroup → List (TestGroup × TestCase)
  | .mk name feature background groups cases =>
    cases.map (TestGroup.mk name feature background groups cases, ·) ++ casesOfGroups groups

def casesOfGroups : List TestGroup → List (TestGroup × TestCase)
  | [] => []
  | group :: rest => group.allCases ++ casesOfGroups rest

end

/-- All cases with the groups that hold them, in the order of the plan. -/
def TestPlan.allCases (plan : TestPlan) : List (TestGroup × TestCase) := casesOfGroups plan.groups

/-- The steps of all cases, each case with the background of its group before its own steps. -/
def TestPlan.steps (plan : TestPlan) : List Step :=
  plan.allCases.flatMap fun (group, case) => group.background ++ case.steps

/-- Is there nothing to run? -/
def TestPlan.isEmpty (plan : TestPlan) : Bool := plan.allCases.isEmpty

end ScenarioRunner
