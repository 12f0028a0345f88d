import ScenarioRunner.Run.Scenario
import ScenarioRunner.Suite.Run

namespace ScenarioRunner

/-- A hook that puts out events. -/
def tell {ω : Type} (events : List RunEvent) : Timeline (RunOutput ω) Unit :=
  .emit (events.map .event)

namespace Runner

variable {σ ω : Type} (runner : Runner σ ω)

/-- The test of a case. There is nothing to run for a case outside of any feature. -/
def caseTest (feature : Option FeatureId) (background : List Step) (case : TestCase) :
    Test (RunOutput ω) Failure where
  name := case.name
  tags := case.tags
  skip := runner.config.skips case
  body :=
    match feature, runner.config.skips case with
    | some id, false => runner.runScenario ⟨id, case.name⟩ (background ++ case.steps)
    | _, _ => return .ok ()

/-- Hooks that tell of a feature's start and end. Cases that are work in progress are told of at its
start, since they do not run. -/
def featureHooks (id : FeatureId) (selected : List TestCase) :
    List (Registration (RunOutput ω) Failure) :=
  let skipped := selected.filter runner.config.skips
  [.setUp (tell (.featureStarted id :: skipped.map fun case => .scenario ⟨id, case.name⟩ .skipped)),
    .tearDown (tell [.featureFinished id])]

mutual

/-- Groups come before the cases beside them. Cases that are not selected are left out. -/
def groupRegistration : TestGroup → Registration (RunOutput ω) Failure
  | .mk name feature background groups cases =>
    let selected := cases.filter runner.config.selects
    .group name <|
      (feature.map (runner.featureHooks · selected)).getD [] ++ groupRegistrations groups ++
        selected.map (.test ∘ runner.caseTest feature background)

def groupRegistrations : List TestGroup → List (Registration (RunOutput ω) Failure)
  | [] => []
  | group :: rest => groupRegistration group :: groupRegistrations rest

end

/-- All that a plan has to register, between the hooks that tell of the run's start and end. -/
def registrations (plan : TestPlan) : List (Registration (RunOutput ω) Failure) :=
  [.setUp (tell [.started])] ++ runner.groupRegistrations plan.groups ++
    [.tearDown (tell [.finished])]

def suite (plan : TestPlan) : Suite (RunOutput ω) Failure :=
  .ofRegistrations (runner.registrations plan)

end Runner

end ScenarioRunner
