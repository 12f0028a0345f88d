import ScenarioRunner.SourcePath
import ScenarioRunner.Text.Quoted

namespace ScenarioRunner

inductive Severity where
  | trace
  | debug
  | info
  | warn
  deriving DecidableEq, Repr

def Severity.name : Severity → String
  | trace => "TRACE"
  | debug => "DEBUG"
  | info => "INFO"
  | warn => "WARN"

/-- One entry of a log: a message for people and named fields for filters. -/
structure Record where
  severity : Severity
  message : String
  fields : List (String × String)
  deriving DecidableEq, Repr

/-- The document that a record is about. -/
def pathField (path : Option SourcePath) : String × String :=
  ("path", optionWord (path.map fun path => quotedPath path.text))

end ScenarioRunner
