import ScenarioRunner.Event
import ScenarioRunner.KeyedList

namespace ScenarioRunner

inductive Status where
  | running
  | passed
  | failed
  | skipped
  deriving DecidableEq, Repr

def Status.name : Status → String
  | running => "running"
  | passed => "passed"
  | failed => "failed"
  | skipped => "skipped"

/-- What is known about a step of a scenario. -/
structure StepReport where
  keyword : StepKeyword
  text : String
  location : Option String
  status : Status
  message : Option String
  deriving DecidableEq, Repr

namespace StepReport

def ofStep (step : Step) (status : Status) (message : Option String) : StepReport :=
  ⟨step.keyword, step.text, step.location.map SourceLocation.text, status, message⟩

/-- Has this step been started and not ended, going by its text and where it stands? -/
def isRunning (step : Step) (report : StepReport) : Bool :=
  report.status == .running && report.text == step.text &&
    report.location == step.location.map SourceLocation.text

def finish (status : Status) (message : Option String) (report : StepReport) : StepReport :=
  { report with status := status, message := message }

end StepReport

/-- Changes the last member that passes a test. There may be none. -/
def updateLast? {α : Type} (test : α → Bool) (change : α → α) : List α → Option (List α)
  | [] => none
  | a :: rest =>
    match updateLast? test change rest with
    | some changed => some (a :: changed)
    | none => if test a then some (change a :: rest) else none

/-- What is known about a scenario. Its steps are in the order in which they were run. -/
structure ScenarioReport where
  status : Status := .running
  message : Option String := none
  steps : List StepReport := []
  deriving DecidableEq, Repr

namespace ScenarioReport

/-- Ends the latest run of a step. A step that was never started is added. -/
def finishStep (report : ScenarioReport) (step : Step) (status : Status)
    (message : Option String) : ScenarioReport :=
  { report with
    steps := (updateLast? (StepReport.isRunning step) (.finish status message) report.steps).getD
      (report.steps ++ [.ofStep step status message]) }

def observeStep (report : ScenarioReport) (step : Step) : StepEvent → ScenarioReport
  | .started => { report with steps := report.steps ++ [.ofStep step .running none] }
  | .passed => report.finishStep step .passed none
  | .skipped => report.finishStep step .skipped none
  | .failed message => report.finishStep step .failed (some message)

def observe (report : ScenarioReport) : ScenarioEvent → ScenarioReport
  | .started => { report with status := .running }
  | .skipped => { report with status := .skipped }
  | .step step event => report.observeStep step event
  | .finished .passed => { report with status := .passed, message := none }
  | .finished (.failed message) => { report with status := .failed, message := some message }

end ScenarioReport

/-- What is known about a feature. Its scenarios are in the order in which they first came up. -/
structure FeatureReport where
  status : Status := .running
  scenarios : KeyedList String ScenarioReport := .empty
  deriving DecidableEq, Repr

/-- One failed scenario makes a feature fail. It counts as skipped when it has scenarios and all of
them were skipped. -/
def FeatureReport.verdict (report : FeatureReport) : Status :=
  let statuses := report.scenarios.values.map (·.status)
  if statuses.contains .failed then .failed
  else if !statuses.isEmpty && statuses.all (· == .skipped) then .skipped
  else .passed

/-- What the events of a run have told so far. -/
structure Report where
  features : KeyedList FeatureId FeatureReport := .empty
  /-- The scenario that started last, unless it has finished. -/
  current : Option ScenarioId := none
  finished : Bool := false

namespace Report

def empty : Report := {}

def updateFeature (report : Report) (id : FeatureId) (change : FeatureReport → FeatureReport) :
    Report :=
  { report with features := report.features.update id {} change }

/-- The feature that a scenario event is counted for. An unknown feature without a path is taken for
that of the current scenario. -/
def owner (report : Report) (id : FeatureId) : FeatureId :=
  if id.path.isNone && !report.features.contains id then
    (report.current.map (·.feature)).getD id
  else id

/-- The current scenario after an event of a scenario. -/
def currentAfter (current : Option ScenarioId) (id : ScenarioId) :
    ScenarioEvent → Option ScenarioId
  | .started => some id
  | .finished _ => if current.any (· == id) then none else current
  | _ => current

def observeScenario (report : Report) (id : ScenarioId) (event : ScenarioEvent) : Report :=
  let id := { id with feature := report.owner id.feature }
  let report := report.updateFeature id.feature fun feature =>
    { feature with scenarios := feature.scenarios.update id.scenario {} (·.observe event) }
  { report with current := currentAfter report.current id event }

def observe (report : Report) : RunEvent → Report
  | .started => report
  | .finished => { report with finished := true }
  | .featureStarted id => report.updateFeature id ({ · with status := .running })
  | .featureFinished id =>
    report.updateFeature id fun feature => { feature with status := feature.verdict }
  | .scenario id event => report.observeScenario id event

def ofEvents (events : List RunEvent) : Report := events.foldl observe empty

def feature? (report : Report) (id : FeatureId) : Option FeatureReport := report.features.get? id

def scenario? (report : Report) (id : ScenarioId) : Option ScenarioReport :=
  (report.feature? id.feature).bind (·.scenarios.get? id.scenario)

end Report

end ScenarioRunner
