import ScenarioRunner.Feature.Basic

namespace ScenarioRunner

/-- Which document an event or a test belongs to. -/
structure FeatureId where
  name : String
  path : Option SourcePath
  deriving Repr

namespace FeatureId

def ofFeature (feature : Feature) : FeatureId := ⟨feature.name, feature.path⟩

/-- What tells one document from another. The spelling of its path does not. -/
def key (id : FeatureId) : String × Option (List PathPart) :=
  (id.name, id.path.map SourcePath.parts)

instance : BEq FeatureId := ⟨fun a b => a.key == b.key⟩

def compare (a b : FeatureId) : Ordering :=
  (Ord.compare a.name b.name).then <|
    match a.path, b.path with
    | none, none => .eq
    | none, some _ => .lt
    | some _, none => .gt
    | some p, some q => p.compare q

end FeatureId

structure ScenarioId where
  feature : FeatureId
  scenario : String
  deriving Repr

namespace ScenarioId

def text (id : ScenarioId) : String := id.feature.name ++ " / " ++ id.scenario

instance : BEq ScenarioId := ⟨fun a b => a.feature == b.feature && a.scenario == b.scenario⟩

def compare (a b : ScenarioId) : Ordering :=
  (a.feature.compare b.feature).then (Ord.compare a.scenario b.scenario)

end ScenarioId

/-- What happens to a step. -/
inductive StepEvent where
  | started
  | passed
  | skipped
  | failed (message : String)
  deriving DecidableEq, Repr

/-- How a scenario ends. -/
inductive Outcome where
  | passed
  | failed (message : String)
  deriving DecidableEq, Repr

/-- What happens to a scenario. -/
inductive ScenarioEvent where
  | started
  | skipped
  | step (step : Step) (event : StepEvent)
  | finished (outcome : Outcome)
  deriving DecidableEq, Repr

/-- What happens in a run. Scenarios may run side by side, so each event tells where it belongs. -/
inductive RunEvent where
  | started
  | finished
  | featureStarted (feature : FeatureId)
  | featureFinished (feature : FeatureId)
  | scenario (id : ScenarioId) (event : ScenarioEvent)
  deriving Repr

def RunEvent.scenarioId? : RunEvent → Option ScenarioId
  | scenario id _ => some id
  | _ => none

end ScenarioRunner
