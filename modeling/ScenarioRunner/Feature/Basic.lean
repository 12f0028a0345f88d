import ScenarioRunner.Feature.Step

namespace ScenarioRunner

structure Scenario where
  name : String
  tags : List String := []
  steps : List Step := []
  deriving DecidableEq, Repr

/-- Rows of values for an outline, one scenario each. -/
structure ExampleTable where
  name : Option String := none
  tags : List String := []
  headers : List String := []
  rows : List (List String) := []
  deriving DecidableEq, Repr

/-- A scenario with holes, and the tables that fill them. -/
structure ScenarioOutline where
  name : String
  tags : List String := []
  steps : List Step := []
  examples : List ExampleTable := []
  deriving DecidableEq, Repr

/-- One document: steps shared by all its scenarios, scenarios, and outlines of scenarios. -/
structure Feature where
  name : String
  path : Option SourcePath := none
  description : Option String := none
  tags : List String := []
  background : Option (List Step) := none
  scenarios : List Scenario := []
  outlines : List ScenarioOutline := []
  deriving DecidableEq, Repr

def Scenario.unlocated (scenario : Scenario) : Scenario :=
  { scenario with steps := scenario.steps.map Step.unlocated }

def ScenarioOutline.unlocated (outline : ScenarioOutline) : ScenarioOutline :=
  { outline with steps := outline.steps.map Step.unlocated }

namespace Feature

/-- The name of a document that gives none. -/
def unnamed : String := "Unnamed Feature"

def backgroundSteps (feature : Feature) : List Step := feature.background.getD []

/-- The feature without the places its steps were read from. -/
def unlocated (feature : Feature) : Feature :=
  { feature with
    background := feature.background.map (·.map Step.unlocated)
    scenarios := feature.scenarios.map Scenario.unlocated
    outlines := feature.outlines.map ScenarioOutline.unlocated }

/-- Features count as equal when they say the same and come from the same place. -/
def same (a b : Feature) : Bool :=
  { a.unlocated with path := none } == { b.unlocated with path := none } &&
    a.path.map SourcePath.parts == b.path.map SourcePath.parts

end Feature

end ScenarioRunner
