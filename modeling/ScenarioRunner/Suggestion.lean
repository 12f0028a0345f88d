import ScenarioRunner.Feature.Step
import ScenarioRunner.Pattern.Match
import ScenarioRunner.Text.Quoted

namespace ScenarioRunner

/-- A stretch of a step text: one character of its wording, or a value that may change from step to
step. -/
inductive StepToken where
  | plain (c : Char)
  | quotation (mark : Char) (content : List Char)
  | decimal (text : List Char)
  | integer (text : List Char)
  deriving DecidableEq, Repr

/-- The rest of a quotation, right after its opening mark. -/
def quotation? (mark : Char) (text : List Char) : Option (List Char × List Char) :=
  if mark = '"' || mark = '\x27' then cutAt? mark text else none

/-- Digits on both sides of a point, up to where a word ends. -/
def decimal? (text : List Char) : Option (List Char × List Char) :=
  match text.dropWhile isDecimalDigit with
  | '.' :: fraction =>
    let rest := fraction.dropWhile isDecimalDigit
    if (text.takeWhile isDecimalDigit).isEmpty || (fraction.takeWhile isDecimalDigit).isEmpty ||
        rest.head?.any isWordChar then none
    else some (text.takeWhile isDecimalDigit ++ '.' :: fraction.takeWhile isDecimalDigit, rest)
  | _ => none

/-- Digits up to where a word ends. -/
def integer? (text : List Char) : Option (List Char × List Char) :=
  let rest := text.dropWhile isDecimalDigit
  if (text.takeWhile isDecimalDigit).isEmpty || rest.head?.any isWordChar then none
  else some (text.takeWhile isDecimalDigit, rest)

/-- Reads a value at the start of a text, given the character before it. Numbers start where a word
starts. -/
def stepToken? (before : Option Char) (text : List Char) : Option (StepToken × List Char) :=
  match text with
  | [] => none
  | c :: rest =>
    match quotation? c rest with
    | some (content, after) => some (.quotation c content, after)
    | none =>
      if before.any isWordChar then none
      else match decimal? text with
        | some (number, after) => some (.decimal number, after)
        | none => (integer? text).map fun (number, after) => (.integer number, after)

theorem quotation?_length {mark : Char} {text content after : List Char}
    (h : quotation? mark text = some (content, after)) : after.length < text.length := by
  unfold quotation? at h
  split at h
  · obtain ⟨rfl, _⟩ := cutAt?_eq_some h
    simp
    omega
  · cases h

theorem decimal?_length {text number after : List Char} (h : decimal? text = some (number, after)) :
    after.length < text.length := by
  have whole := List.takeWhile_append_dropWhile (p := isDecimalDigit) (l := text)
  unfold decimal? at h
  split at h
  · rename_i fraction found
    simp only at h
    split at h
    · cases h
    · cases h
      have inner := List.takeWhile_append_dropWhile (p := isDecimalDigit) (l := fraction)
      have size := congrArg List.length whole
      have innerSize := congrArg List.length inner
      rw [found] at size
      simp only [List.length_append, List.length_cons] at size innerSize
      omega
  · cases h

theorem integer?_length {text number after : List Char} (h : integer? text = some (number, after)) :
    after.length < text.length := by
  have size := congrArg List.length
    (List.takeWhile_append_dropWhile (p := isDecimalDigit) (l := text))
  unfold integer? at h
  simp only at h
  split at h
  · cases h
  · rename_i some_digits
    cases h
    simp only [Bool.or_eq_true, not_or, List.isEmpty_iff, ← List.length_eq_zero_iff] at some_digits
    simp only [List.length_append] at size
    omega

theorem stepToken?_length {before : Option Char} {text after : List Char} {token : StepToken}
    (h : stepToken? before text = some (token, after)) : after.length < text.length := by
  unfold stepToken? at h
  split at h
  · cases h
  · rename_i c rest
    split at h
    · rename_i content tail found
      cases h
      have := quotation?_length found
      simp only [List.length_cons]
      omega
    · split at h
      · cases h
      · split at h
        · rename_i number tail found
          cases h
          exact decimal?_length found
        · obtain ⟨⟨number, tail⟩, found, equal⟩ := Option.map_eq_some_iff.1 h
          cases equal
          exact integer?_length found

/-- The character that stands before what follows a token. -/
def StepToken.last : StepToken → Option Char
  | plain c => some c
  | quotation mark _ => some mark
  | decimal text | integer text => text.getLast?

/-- Splits a step text into wording and values, from left to right. -/
def stepTokens (before : Option Char) (text : List Char) : List StepToken :=
  match text with
  | [] => []
  | c :: rest =>
    match _h : stepToken? before (c :: rest) with
    | some (token, after) => token :: stepTokens token.last after
    | none => .plain c :: stepTokens (some c) rest
termination_by text.length
decreasing_by
  · exact stepToken?_length _h
  · simp

/-- The first placeholder of a kind has the plain name, later ones are numbered from two. -/
def numbered (base : String) (count : Nat) : String :=
  if count = 1 then base else base ++ toString count

/-- How many values of each sort have been seen. -/
structure TokenCount where
  strings : Nat := 0
  decimals : Nat := 0
  integers : Nat := 0

def braced (name : String) : String := "\x7b" ++ name ++ "\x7d"

/-- Writes a template with a placeholder for each value. Braces of the wording are left out, since
they would be read as placeholders. -/
def templateOf (count : TokenCount) : List StepToken → String × List (String × ParamKind)
  | [] => ("", [])
  | .plain c :: rest =>
    let (template, kinds) := templateOf count rest
    (if c = '\x7b' || c = '\x7d' then template else String.singleton c ++ template, kinds)
  | .quotation mark _ :: rest =>
    let count := { count with strings := count.strings + 1 }
    let (template, kinds) := templateOf count rest
    let mark := String.singleton mark
    (mark ++ braced (numbered "string" count.strings) ++ mark ++ template, kinds)
  | .decimal _ :: rest =>
    let count := { count with decimals := count.decimals + 1 }
    let name := numbered "float" count.decimals
    let (template, kinds) := templateOf count rest
    (braced name ++ template, (name, .double) :: kinds)
  | .integer _ :: rest =>
    let count := { count with integers := count.integers + 1 }
    let name := numbered "int" count.integers
    let (template, kinds) := templateOf count rest
    (braced name ++ template, (name, .int) :: kinds)

/-- The text with a blank in place of each quotation. -/
def withoutQuotations (text : List Char) : List Char :=
  match text with
  | [] => []
  | c :: rest =>
    match _h : quotation? c rest with
    | some (_, after) => ' ' :: withoutQuotations after
    | none => c :: withoutQuotations rest
termination_by text.length
decreasing_by
  · have := quotation?_length _h
    simp only [List.length_cons]
    omega
  · simp

/-- A name for a function, made of the words of a step text. Only ASCII letters and digits are
taken. -/
def functionName (text : String) : String :=
  let words := ((withoutQuotations text.toList).splitBy fun a b => a.isAlphanum == b.isAlphanum)
    |>.filter (·.all Char.isAlphanum)
  let name := ['_'].intercalate (words.map (·.map Char.toLower))
  match name with
  | [] => "step"
  | c :: _ => if c.isDigit then "step_" ++ String.ofList name else String.ofList name

/-- A step definition that would fit a step without one. -/
structure Suggestion where
  template : String
  kinds : List (String × ParamKind)
  snippet : String
  deriving DecidableEq, Repr

/-- The name of a kind in the source text of a step definition. -/
def ParamKind.constructorName : ParamKind → String
  | string => "String"
  | int => "Int"
  | double => "Double"
  | bool => "Bool"

/-- The source text that registers a step function and the function itself, still to be written. -/
def snippetOf (name template : String) (kinds : List (String × ParamKind)) : String :=
  let registration :=
    if kinds.isEmpty then "registry.step(" ++ quoted template ++ ", " ++ name ++ ")?"
    else
      let kinds := kinds.map fun (name, kind) =>
        "(" ++ quoted name ++ ", ParamKind::" ++ kind.constructorName ++ ")"
      "registry.step_with_kinds(" ++ quoted template ++ ", [" ++ ", ".intercalate kinds ++ "], " ++
        name ++ ")?"
  registration ++ ";\n\nfn " ++ name ++
    "(world: &mut World, ctx: Context) -> BoxFuture<'_, anyhow::Result<()>> \x7b\n" ++
    "    Box::pin(async move \x7b todo!(\"implement `" ++ name ++ "`\") \x7d)\n\x7d\n"

def suggest (text : String) : Suggestion :=
  let (template, kinds) := templateOf {} (stepTokens none text.toList)
  ⟨template, kinds, snippetOf (functionName text) template kinds⟩

/-- A step that nothing was registered for. -/
structure MissingStep where
  keyword : StepKeyword
  text : String
  location : Option SourceLocation
  deriving DecidableEq, Repr

namespace MissingStep

def ofStep (step : Step) : MissingStep := ⟨step.keyword, step.text, step.location⟩

def describe (step : MissingStep) : String :=
  locationText step.location ++ " " ++ step.keyword.text ++ " " ++ step.text

def suggestion (step : MissingStep) : Suggestion := suggest step.text

end MissingStep

end ScenarioRunner
