import ScenarioRunner.KeyedList

namespace ScenarioRunner

/-- Named values that are filled into a message or handed to a scheme. A name that is given again
counts at its later place. -/
abbrev Params := KeyedList String String

end ScenarioRunner
