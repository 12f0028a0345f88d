import ScenarioRunner.Plan.Builder
import ScenarioRunner.Run.Plan
import ScenarioRunner.Source.Load

namespace ScenarioRunner

/-- A run of all documents under some roots. -/
structure Session (σ ω : Type) where
  runner : Runner σ ω
  provider : Provider
  roots : List SourcePath
  planBuilder : PlanBuilder := {}

/-- A test that fails since there is nothing to run. -/
def noFeaturesTest {ω : Type} (roots : List SourcePath) : Test (RunOutput ω) Failure where
  name := "no features found"
  tags := []
  skip := false
  body := return .error (.noFeatures roots)

namespace Session

variable {σ ω : Type} (session : Session σ ω)

/-- The first document that cannot be read is the error of the whole session. -/
def features : Except SourceError (List Feature) :=
  (session.provider.load session.roots).mapM id

def registrations (features : List Feature) : List (Registration (RunOutput ω) Failure) :=
  session.runner.registrations (session.planBuilder.build features) ++
    if features.isEmpty then [.test (noFeaturesTest session.roots)] else []

/-- Reads the documents. What comes back is the plan and the tests to run. -/
def prepare : Except SourceError (TestPlan × Suite (RunOutput ω) Failure) := do
  let features ← session.features
  return (session.planBuilder.build features, .ofRegistrations (session.registrations features))

def run : Except SourceError (Timeline (RunOutput ω) (List (TestResult Failure))) := do
  return (← session.prepare).2.run

end Session

end ScenarioRunner
