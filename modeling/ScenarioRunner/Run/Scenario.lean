import ScenarioRunner.Run.Basic

namespace ScenarioRunner

/-- Puts out events of one scenario. -/
def tellOf {ω : Type} (id : ScenarioId) (events : List ScenarioEvent) :
    Timeline (RunOutput ω) Unit :=
  .emit (events.map fun event => .event (.scenario id event))

/-- What is told of steps that are not run. -/
def skipEvents (steps : List Step) : List ScenarioEvent := steps.map (.step · .skipped)

/-- Ends a scenario with the failure of its test, if there is one. -/
def conclude {ω : Type} (id : ScenarioId) :
    Option Failure → Timeline (RunOutput ω) (Except Failure Unit)
  | none => do
    tellOf id [.finished .passed]
    return .ok ()
  | some failure => do
    tellOf id [.finished (.failed failure.message)]
    return .error failure

/-- What is told about a step when some steps of its scenario are missing. -/
def missingEvent (missing : List MissingStep) (step : Step) : StepEvent :=
  match missing.find? (·.text == step.text) with
  | some found => .failed ("step not found: " ++ found.describe)
  | none => .skipped

/-- What one scenario is run with. A panic of what makes the world, of a handler or of the call of a
step function is not caught: it unwinds the run with a `π`, and nothing more is told. -/
structure Executor (σ ω π : Type) where
  registry : Registry (StepAction σ ω π)
  newWorld : Timeline ω (Except π (Except String σ))
  resolver : Option (Resolver π) := none
  /-- The files that handlers find while the world is in some state. -/
  disk : σ → FileTree := fun _ => {}
  failOnMissingSteps : Bool

/-- What one step leaves for the next: the world of the scenario, and the resolver with all that its
handlers have loaded. -/
structure StepState (σ π : Type) where
  world : σ
  resolver : Option (Resolver π)

namespace Executor

variable {σ ω π : Type} (executor : Executor σ ω π)

/-- Looks up the arguments of a step, if there is anything to look them up with. -/
def resolveArgs (disk : FileTree) (args : List Value) : Option (Resolver π) →
    Except π (Except SchemeError (List Value)) × Option (Resolver π)
  | none => (.ok (.ok args), none)
  | some resolver =>
    let (resolved, resolver) := resolver.resolveAll disk args
    (resolved.map (·.map (·.map (·.value))), some resolver)

/-- Runs a step. Its text is matched before its arguments are resolved. -/
def runStep (state : StepState σ π) (step : Step) :
    Timeline ω (Except π (Except Failure (StepState σ π))) :=
  match executor.registry.find step.text with
  | .error error => return .ok (.error (.ofStep step error.message))
  | .ok none => return .ok (.error (.ofStep step "step not found"))
  | .ok (some found) =>
    match resolveArgs (executor.disk state.world) found.args state.resolver with
    | (.error payload, _) => return .error payload
    | (.ok (.error error), _) => return .ok (.error (.ofStep step error.message))
    | (.ok (.ok args), resolver) => do
      match ← found.definition.action state.world ⟨step, args⟩ with
      | .error payload => return .error payload
      | .ok (.error fault) => return .ok (.error (.ofStep step fault.message))
      | .ok (.ok world) => return .ok (.ok ⟨world, resolver⟩)

/-- Runs steps until one fails. Those after it are skipped. -/
def runSteps (id : ScenarioId) (state : StepState σ π) :
    List Step → Timeline (RunOutput ω) (Except π (Option Failure))
  | [] => return .ok none
  | step :: rest => do
    tellOf id [.step step .started]
    match ← (executor.runStep state step).mapOutputs .note with
    | .error payload => return .error payload
    | .ok (.error failure) =>
      tellOf id (.step step (.failed failure.message) :: skipEvents rest)
      return .ok (some failure)
    | .ok (.ok state) =>
      tellOf id [.step step .passed]
      runSteps id state rest

/-- Ends a scenario whose steps are not all defined, without running any of them. -/
def refuse (id : ScenarioId) (steps : List Step) (missing : List MissingStep) :
    Timeline (RunOutput ω) (Except Failure Unit) :=
  if executor.failOnMissingSteps then do
    tellOf id (steps.map fun step => .step step (missingEvent missing step))
    conclude id (some (.stepsNotFound missing))
  else do
    tellOf id (skipEvents steps ++ [.skipped])
    return .ok ()

/-- Runs the steps of a scenario in a world of their own. Nothing is run unless all steps are
defined. -/
def run (id : ScenarioId) (steps : List Step) :
    Timeline (RunOutput ω) (Except π (Except Failure Unit)) := do
  tellOf id [.started]
  match executor.registry.missingAmong steps with
  | [] =>
    match ← executor.newWorld.mapOutputs .note with
    | .error payload => return .error payload
    | .ok (.error message) =>
      tellOf id (skipEvents steps)
      return .ok (← conclude id (some (.world message)))
    | .ok (.ok world) =>
      match ← executor.runSteps id ⟨world, executor.resolver⟩ steps with
      | .error payload => return .error payload
      | .ok failure => return .ok (← conclude id failure)
  | missing => return .ok (← executor.refuse id steps missing)

end Executor

namespace Runner

variable {σ ω : Type} (runner : Runner σ ω)

/-- What the runner gives to one of its scenarios. -/
def executor (id : ScenarioId) : Executor σ ω Empty where
  registry := runner.registry
  newWorld := runner.newWorld id
  resolver := runner.resolver
  disk := fun _ => runner.disk
  failOnMissingSteps := runner.config.failOnMissingSteps

/-- Runs the steps of a scenario. -/
def runScenario (id : ScenarioId) (steps : List Step) :
    Timeline (RunOutput ω) (Except Failure Unit) := do
  return returned (← (runner.executor id).run id steps)

end Runner

end ScenarioRunner
