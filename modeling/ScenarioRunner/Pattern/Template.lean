import ScenarioRunner.Text.Braced
import ScenarioRunner.Value

namespace ScenarioRunner

/-- A place in a pattern that captures a value, with the text that follows it. -/
structure Hole where
  name : String
  kind : ParamKind
  after : List Char
  deriving DecidableEq, Repr

/-- A pattern for step texts: literal text and places for values in turn. -/
structure StepPattern where
  template : String
  lead : List Char
  holes : List Hole
  deriving DecidableEq, Repr

/-- Which regular expressions are taken by what is to search with them. Those that would become too
large are not; where the bound lies is up to the searcher. -/
abbrev SizeLimit := String → Bool

def SizeLimit.unlimited : SizeLimit := fun _ => true

/-- A template whose regular expression is too large. -/
structure OversizedTemplate where
  template : String
  deriving DecidableEq, Repr

namespace StepPattern

/-- The kind that was declared last for a name; undeclared names capture text. -/
def kindOf (kinds : List (String × ParamKind)) (name : String) : ParamKind :=
  (kinds.reverse.lookup name).getD .string

/-- Gathers literal characters around the tokens of a template. -/
def gather (kinds : List (String × ParamKind)) : List BracedPiece → List Char × List Hole
  | [] => ([], [])
  | .plain c :: rest =>
    let (lead, holes) := gather kinds rest
    (c :: lead, holes)
  | .token name :: rest =>
    let (after, holes) := gather kinds rest
    let name := String.ofList name
    ([], ⟨name, kindOf kinds name, after⟩ :: holes)

/-- Characters that would mean something else than themselves in a regular expression. -/
def escaped : List Char := "\\.+*?()|[]\x7b\x7d^$#&-~".toList

def escape (text : List Char) : List Char :=
  text.flatMap fun c => if c ∈ escaped then ['\\', c] else [c]

/-- The regular expression with the same matches: a lazy group for each place, anchored at both
ends. -/
def regexSource (pattern : StepPattern) : String :=
  String.ofList ('^' :: escape pattern.lead ++
    pattern.holes.flatMap (fun hole => "(.+?)".toList ++ escape hole.after) ++ ['$'])

/-- The pattern that a template stands for. -/
def ofTemplate (template : String) (kinds : List (String × ParamKind)) : StepPattern :=
  let (lead, holes) := gather kinds (bracedPieces template.toList)
  ⟨template, lead, holes⟩

/-- Reads a template. Only the size of its regular expression can make it unusable. -/
def compile (limit : SizeLimit) (template : String) (kinds : List (String × ParamKind)) :
    Except OversizedTemplate StepPattern :=
  let pattern := ofTemplate template kinds
  if limit pattern.regexSource then .ok pattern else .error ⟨template⟩

theorem eq_ofTemplate {limit : SizeLimit} {template : String} {kinds : List (String × ParamKind)}
    {pattern : StepPattern} (compiled : compile limit template kinds = .ok pattern) :
    pattern = ofTemplate template kinds := by
  simp only [compile] at compiled
  split at compiled
  · exact (Except.ok.inj compiled).symm
  · cases compiled

end StepPattern

end ScenarioRunner
