import ScenarioRunner.Config
import ScenarioRunner.Failure
import ScenarioRunner.Registry
import ScenarioRunner.Scheme.Resolver
import ScenarioRunner.Timeline

namespace ScenarioRunner

/-- How a step fails whose function has been called: with an error and its causes, the outermost
first, or by a panic of the future that the call has returned, which need not leave a message. -/
inductive StepFault where
  | error (causes : List String)
  | aborted (message : Option String)
  deriving DecidableEq, Repr

def StepFault.message : StepFault → String
  | error causes => ": ".intercalate causes
  | aborted message => "panicked: " ++ message.getD "<non-string payload>"

/-- What a step function does to the world of its scenario. If the call itself panics there is no
future to fail. The run of the scenario is unwound then, and what comes of it is a `π`. -/
abbrev StepAction (σ ω : Type) (π : Type := Empty) :=
  σ → StepContext → Timeline ω (Except π (Except StepFault σ))

/-- What a run puts out: its events, and between them whatever the step functions put out. -/
inductive RunOutput (ω : Type) where
  | event (event : RunEvent)
  | note (note : ω)

def RunOutput.event? {ω : Type} : RunOutput ω → Option RunEvent
  | event e => some e
  | note _ => none

def RunOutput.note? {ω : Type} : RunOutput ω → Option ω
  | event _ => none
  | note n => some n

/-- The events among the outputs of a run. -/
def eventsOf {ω : Type} (outputs : List (RunOutput ω)) : List RunEvent :=
  outputs.filterMap RunOutput.event?

/-- What the step functions put out in a run. -/
def notesOf {ω : Type} (outputs : List (RunOutput ω)) : List ω :=
  outputs.filterMap RunOutput.note?

/-- What scenarios are run with. Each of them gets a world of its own. Nothing here unwinds a run,
which would leave no results of any test, and all scenarios find the same files. -/
structure Runner (σ ω : Type) where
  registry : Registry (StepAction σ ω)
  newWorld : ScenarioId → Timeline ω (Except Empty (Except String σ))
  resolver : Option Resolver := none
  disk : FileTree := {}
  config : Config := {}

end ScenarioRunner
