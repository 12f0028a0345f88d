import ScenarioRunner.Suggestion

namespace ScenarioRunner

/-- Why a test failed. -/
inductive Failure where
  | stepsNotFound (missing : List MissingStep)
  | step (location : Option SourceLocation) (text : String) (message : String)
  | world (message : String)
  | noFeatures (roots : List SourcePath)
  deriving DecidableEq, Repr

namespace Failure

def ofStep (step : Step) (message : String) : Failure := .step step.location step.fullText message

def message : Failure → String
  | stepsNotFound missing =>
    toString missing.length ++ " step(s) not found:\n" ++
      "\n".intercalate (missing.map fun step => "  " ++ step.describe)
  | step location text message =>
    "`" ++ text ++ "` failed at " ++ locationText location ++ ": " ++ message
  | world message => "failed to initialize world: " ++ message
  | noFeatures roots => "no features found in: " ++ ", ".intercalate (roots.map SourcePath.text)

end Failure

end ScenarioRunner
