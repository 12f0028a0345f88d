import ScenarioRunner.Plan.Basic
import ScenarioRunner.Regex.Reader
import ScenarioRunner.Regex.Search
import ScenarioRunner.Tag.Reader

namespace ScenarioRunner

/-- A regular expression that names are searched for, with its spelling. -/
structure NameFilter where
  source : String
  regex : Regex
  deriving DecidableEq, Repr

def NameFilter.read? (source : String) : Option NameFilter :=
  (Regex.read? source).map fun regex => ⟨source, regex⟩

/-- Which cases run, and what happens to those with steps that are not defined. -/
structure Config where
  wipTag : String := "wip"
  runWip : Bool := false
  tagsFilter : Option TagExpression := none
  nameFilter : Option NameFilter := none
  failOnMissingSteps : Bool := true
  deriving DecidableEq, Repr

namespace Config

/-- Does the case pass both filters? Cases that do not are left out of the run. -/
def selects (config : Config) (case : TestCase) : Bool :=
  config.tagsFilter.all (·.holds case.tags) &&
    config.nameFilter.all (·.regex.matchesIn case.name)

/-- Is the case work in progress? Such cases are reported, but not run. -/
def skips (config : Config) (case : TestCase) : Bool :=
  !config.runWip && case.hasTag config.wipTag

end Config

end ScenarioRunner
