import ScenarioRunner.KeyedList
import ScenarioRunner.Plan.Basic

namespace ScenarioRunner

/-- The name itself first, then the name with a number from two on. -/
def nameCandidate (name : String) : Nat → String
  | 0 => name
  | n + 1 => name ++ " #" ++ toString (n + 2)

/-- The first candidate that is not taken. Among one more candidates than there are taken names one
must be free. -/
def uniqueName (taken : List String) (name : String) : String :=
  (((List.range (taken.length + 1)).find? fun n => !taken.contains (nameCandidate name n)).map
    (nameCandidate name)).getD name

/-- Gives each name in turn the first candidate that no earlier one got. -/
def uniqueNames (taken : List String) : List String → List String
  | [] => []
  | name :: rest =>
    let given := uniqueName taken name
    given :: uniqueNames (given :: taken) rest

/-- A case also has the tags of its feature. -/
def TestCase.ofScenario (featureTags : List String) (name : String) (scenario : Scenario) :
    TestCase where
  name := name
  steps := scenario.steps
  tags := (featureTags ++ scenario.tags).eraseDups

def TestGroup.ofFeature (feature : Feature) : TestGroup where
  name := feature.name
  feature := some (.ofFeature feature)
  background := feature.backgroundSteps
  groups := []
  cases :=
    let scenarios := feature.allScenarios
    (uniqueNames [] (scenarios.map (·.name))).zipWith (TestCase.ofScenario feature.tags) scenarios

/-- A group for all features of a directory. -/
def TestGroup.ofDirectory (directory : SourcePath) (groups : List TestGroup) : TestGroup where
  name := directory.text
  feature := none
  background := []
  groups := groups
  cases := []

/-- Whether features are grouped by their directories. -/
inductive PlanMode where
  | flat
  | tree
  deriving DecidableEq, Repr

def PlanMode.name : PlanMode → String
  | flat => "flat"
  | tree => "tree"

def PlanMode.ofName? : String → Option PlanMode
  | "flat" => some flat
  | "tree" => some tree
  | _ => none

/-- A directory as a key: two spellings of one directory are the same. -/
structure Directory where
  path : SourcePath
  deriving Repr

instance : BEq Directory := ⟨fun a b => a.path.same b.path⟩

/-- How plans are made from features. -/
structure PlanBuilder where
  mode : PlanMode := .flat
  root : SourcePath := ⟨""⟩
  deriving DecidableEq, Repr

namespace PlanBuilder

/-- The directory of a feature as seen from the root. It is empty for features in the root itself
and for those that come from no file. -/
def directoryOf (builder : PlanBuilder) (feature : Feature) : SourcePath :=
  match feature.path.bind SourcePath.parent? with
  | none => ⟨""⟩
  | some directory => (directory.below? builder.root).getD directory

/-- Features under their directories, in the order in which the directories first appear. -/
def buckets (builder : PlanBuilder) (features : List Feature) :
    KeyedList Directory (List TestGroup) :=
  features.foldl (fun buckets feature =>
    buckets.update ⟨builder.directoryOf feature⟩ [] (· ++ [.ofFeature feature])) .empty

def build (builder : PlanBuilder) (features : List Feature) : TestPlan :=
  match builder.mode with
  | .flat => ⟨features.map .ofFeature⟩
  | .tree =>
    ⟨(builder.buckets features).entries.flatMap fun (directory, groups) =>
      if directory.path.isEmpty then groups else [.ofDirectory directory.path groups]⟩

end PlanBuilder

end ScenarioRunner
