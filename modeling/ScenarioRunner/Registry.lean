import ScenarioRunner.Plan.Basic
import ScenarioRunner.Suggestion

namespace ScenarioRunner

/-- What a step function is told: the step it runs for, and the arguments from its text. -/
structure StepContext where
  step : Step
  args : List Value
  deriving Repr

def StepContext.arg? (context : StepContext) (index : Nat) : Option Value := context.args[index]?

/-- A pattern and what is to be done for the steps that fit it. -/
structure StepDefinition (φ : Type) where
  pattern : StepPattern
  action : φ

/-- Step definitions in the order in which they were registered. -/
structure Registry (φ : Type) where
  definitions : List (StepDefinition φ) := []

/-- A definition that fits a step text, and the arguments that the text gives. -/
structure StepMatch (φ : Type) where
  definition : StepDefinition φ
  args : List Value

namespace Registry

variable {φ : Type}

def empty : Registry φ := {}

def register (registry : Registry φ) (pattern : StepPattern) (action : φ) : Registry φ :=
  ⟨registry.definitions ++ [⟨pattern, action⟩]⟩

/-- The definitions of the second registry come after those of the first. -/
def merge (a b : Registry φ) : Registry φ := ⟨a.definitions ++ b.definitions⟩

def size (registry : Registry φ) : Nat := registry.definitions.length

def patterns (registry : Registry φ) : List StepPattern := registry.definitions.map (·.pattern)

/-- The first definition whose pattern fits the text. Captures that cannot be converted are an
error; later definitions are not tried then. -/
def findIn (text : String) :
    List (StepDefinition φ) → Except ConversionError (Option (StepMatch φ))
  | [] => .ok none
  | definition :: rest =>
    match definition.pattern.match? text with
    | .error error => .error error
    | .ok (some args) => .ok (some ⟨definition, args⟩)
    | .ok none => findIn text rest

def find (registry : Registry φ) (text : String) :
    Except ConversionError (Option (StepMatch φ)) := findIn text registry.definitions

/-- Does no definition fit the text? A failed conversion is a fit. -/
def isMissing (registry : Registry φ) (text : String) : Bool :=
  match registry.find text with
  | .ok none => true
  | _ => false

/-- The first step of each text. -/
def firstOfEachText (steps : List Step) : List Step :=
  steps.eraseDupsBy fun a b => a.text == b.text

/-- Steps without a definition, each text once. Every step is looked up, and then the repeated texts
are left out. -/
def missingAmong (registry : Registry φ) (steps : List Step) : List MissingStep :=
  (firstOfEachText (steps.filter fun step => registry.isMissing step.text)).map MissingStep.ofStep

/-- Steps of a plan without a definition, in the order in which they would run. A text is looked up
once, however many steps have it. -/
def missingSteps (registry : Registry φ) (plan : TestPlan) : List MissingStep :=
  ((firstOfEachText plan.steps).filter fun step => registry.isMissing step.text).map
    MissingStep.ofStep

end Registry

end ScenarioRunner
