import ScenarioRunner.Event
import ScenarioRunner.Record

namespace ScenarioRunner

/-- The record of a feature's start or end. -/
def FeatureId.record (id : FeatureId) (message : String) : Record :=
  ⟨.info, message, [("feature", id.name), pathField id.path]⟩

/-- The record of a scenario's start or end. -/
def ScenarioId.record (id : ScenarioId) (severity : Severity) (message : String) : Record :=
  ⟨severity, message, [("feature", id.feature.name), ("scenario", id.scenario)]⟩

/-- The record of an event of a step. Only failures tell where the step stands. -/
def Step.record (scenario : String) (step : Step) : StepEvent → Record
  | .started => ⟨.debug, step.fullText, [("scenario", scenario)]⟩
  | .passed => ⟨.debug, step.fullText ++ ": passed", [("scenario", scenario)]⟩
  | .skipped => ⟨.debug, step.fullText ++ ": skipped", [("scenario", scenario)]⟩
  | .failed message =>
    ⟨.warn, step.fullText ++ ": " ++ message,
      [("scenario", scenario),
        ("location", optionWord (step.location.map fun location => quoted location.text))]⟩

/-- What the log says about an event. Failures are warnings. -/
def RunEvent.record : RunEvent → Record
  | .started => ⟨.info, "run started", []⟩
  | .finished => ⟨.info, "run finished", []⟩
  | .featureStarted id => id.record "feature started"
  | .featureFinished id => id.record "feature finished"
  | .scenario id .started => id.record .info "scenario started"
  | .scenario id .skipped => id.record .info "scenario skipped"
  | .scenario id (.finished .passed) => id.record .info "scenario passed"
  | .scenario id (.finished (.failed message)) => id.record .warn ("scenario failed: " ++ message)
  | .scenario id (.step step event) => step.record id.scenario event

end ScenarioRunner
