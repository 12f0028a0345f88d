import ScenarioRunner.Proofs.Suggestion.Template

namespace ScenarioRunner

/-- The number at the end of a name can be read from it. -/
theorem numbered_injective (base : String) : Function.Injective (numbered base) := by
  have longer {n : Nat} : base ≠ base ++ toString n := fun same => by
    have digits : Nat.toDigits 10 n = [] := by simpa using congrArg String.toList same
    exact Nat.toDigits_ne_nil digits
  intro m n same
  unfold numbered at same
  split at same <;> split at same
  · rename_i first second
    rw [first, second]
  · exact absurd same longer
  · exact absurd same.symm longer
  · have digits : Nat.toDigits 10 m = Nat.toDigits 10 n := by
      simpa using congrArg String.toList same
    have numbers := congrArg (Nat.ofDigitChars 10 · 0) digits
    simpa only [Nat.ofDigitChars_ten_toDigits] using numbers

/-- The name of the first placeholder of a kind. -/
def ParamKind.plainName : ParamKind → String
  | string => "string"
  | int => "int"
  | double => "float"
  | bool => "bool"

theorem namedFor_plainName (kind : ParamKind) : NamedFor kind kind.plainName := by
  cases kind <;> rfl

/-- Names for values of the given kinds, each with its number among the values of its kind. `seen` are
the kinds of the values before. -/
def numberedNames (seen : List ParamKind) : List ParamKind → List String
  | [] => []
  | kind :: rest =>
    numbered kind.plainName (seen.count kind + 1) :: numberedNames (kind :: seen) rest

theorem exists_of_mem_numberedNames {seen kinds : List ParamKind} {name : String}
    (member : name ∈ numberedNames seen kinds) :
    ∃ kind n, seen.count kind < n ∧ name = numbered kind.plainName n := by
  induction kinds generalizing seen with
  | nil => cases member
  | cons kind rest ih =>
    rcases List.mem_cons.mp member with rfl | later
    · exact ⟨kind, _, Nat.lt_succ_self _, rfl⟩
    · obtain ⟨other, n, above, same⟩ := ih later
      exact ⟨other, n, List.count_le_count_cons.trans_lt above, same⟩

/-- Names of one kind differ in their numbers, and names of different kinds in their first letters. -/
theorem nodup_numberedNames (seen kinds : List ParamKind) : (numberedNames seen kinds).Nodup := by
  induction kinds generalizing seen with
  | nil => exact .nil
  | cons kind rest ih =>
    refine List.nodup_cons.mpr ⟨fun member => ?_, ih _⟩
    obtain ⟨other, n, above, same⟩ := exists_of_mem_numberedNames member
    have here := namedFor_numbered (namedFor_plainName kind) (seen.count kind + 1)
    rw [same] at here
    obtain rfl := here.unique (namedFor_numbered (namedFor_plainName other) n)
    rw [← numbered_injective _ same, List.count_cons_self] at above
    exact absurd above (Nat.lt_irrefl _)

/-- The count of values of the given kinds. -/
def TokenCount.ofKinds (seen : List ParamKind) : TokenCount :=
  ⟨seen.count .string, seen.count .double, seen.count .int⟩

def BracedPiece.name? : BracedPiece → Option String
  | plain _ => none
  | token name => some (String.ofList name)

theorem names_suggestedPieces (seen : List ParamKind) (tokens : List StepToken) :
    (suggestedPieces (.ofKinds seen) tokens).filterMap BracedPiece.name? =
      numberedNames seen ((tokens.filterMap StepToken.held?).map Prod.fst) := by
  induction tokens generalizing seen with
  | nil => rfl
  | cons token rest ih =>
    cases token with
    | plain c =>
      rw [suggestedPieces]
      split
      · exact ih seen
      · exact ih seen
    | quotation mark content =>
      have later := ih (.string :: seen)
      simp only [TokenCount.ofKinds, List.count_cons] at later
      simpa [suggestedPieces, BracedPiece.name?, StepToken.held?, List.filterMap_cons, numberedNames,
        ParamKind.plainName, TokenCount.ofKinds] using later
    | decimal text =>
      have later := ih (.double :: seen)
      simp only [TokenCount.ofKinds, List.count_cons] at later
      simpa [suggestedPieces, BracedPiece.name?, StepToken.held?, numberedNames,
        ParamKind.plainName, TokenCount.ofKinds] using later
    | integer text =>
      have later := ih (.int :: seen)
      simp only [TokenCount.ofKinds, List.count_cons] at later
      simpa [suggestedPieces, BracedPiece.name?, StepToken.held?, numberedNames,
        ParamKind.plainName, TokenCount.ofKinds] using later

namespace StepPattern

theorem map_name_gather (kinds : List (String × ParamKind)) (pieces : List BracedPiece) :
    (gather kinds pieces).2.map Hole.name = pieces.filterMap BracedPiece.name? := by
  induction pieces with
  | nil => rfl
  | cons piece rest ih => cases piece <;> simp [gather, BracedPiece.name?, List.filterMap_cons, ih]

/-- The pattern has the wording of a step text without its braces, and a placeholder for each token. -/
structure PlacesTokens (pattern : StepPattern) (tokens : List StepToken) : Prop where
  kinds : pattern.holes.map Hole.kind = (tokens.filterMap StepToken.held?).map Prod.fst
  names : pattern.holes.map Hole.name =
    numberedNames [] ((tokens.filterMap StepToken.held?).map Prod.fst)
  distinct : (pattern.holes.map Hole.name).Nodup
  lead : pattern.lead = unbraced (wording tokens)
  literals : pattern.holes.map Hole.after = (heldValues tokens).map fun value => unbraced value.after

theorem map_name_gather_suggest (text : String) (kinds : List (String × ParamKind)) :
    (gather kinds (bracedPieces (suggest text).template.toList)).2.map Hole.name =
      numberedNames [] (((stepTokens none text.toList).filterMap StepToken.held?).map Prod.fst) := by
  have pieces : bracedPieces (suggest text).template.toList =
      suggestedPieces (.ofKinds []) (stepTokens none text.toList) :=
    bracedPieces_templateOf (scanned_stepTokens none text.toList) {}
  rw [map_name_gather, pieces, names_suggestedPieces]

theorem placesTokens_suggest (text : String) :
    (ofTemplate (suggest text).template (suggest text).kinds).PlacesTokens
      (stepTokens none text.toList) := by
  obtain ⟨lead, places⟩ := @places_suggest .unlimited text _ rfl
  have kinds := congrArg (List.map Prod.fst) places
  have literals := congrArg (List.map Prod.snd) places
  have held := congrArg (List.map Prod.fst) (map_heldValues (stepTokens none text.toList))
  have names := map_name_gather_suggest text (suggest text).kinds
  simp only [List.map_map, Function.comp_def] at kinds literals held
  exact ⟨kinds.trans held, names, names ▸ nodup_numberedNames _ _, lead, literals⟩

/-- A suggested template has one placeholder for each token of its step text, and its literal text is
what stands between the tokens, whatever braces there are. It can be used unless its regular
expression is too large. -/
theorem compile_suggest_placesTokens (text : String) : ∃ pattern : StepPattern,
    pattern.PlacesTokens (stepTokens none text.toList) ∧
      ∀ limit : SizeLimit, compile limit (suggest text).template (suggest text).kinds =
        if limit pattern.regexSource then .ok pattern else .error ⟨(suggest text).template⟩ :=
  ⟨_, placesTokens_suggest text, fun _ => rfl⟩

/-- Braces of the text that would make up a placeholder, and others right before and behind a value. -/
theorem compile_suggest_braces :
    ∃ pattern, compile .unlimited (suggest "\x7b\x7bint\x7d 5\x7d 'a' \x7b2.5 'b'").template
        (suggest "\x7b\x7bint\x7d 5\x7d 'a' \x7b2.5 'b'").kinds = .ok pattern ∧
      pattern.PlacesTokens (stepTokens none "\x7b\x7bint\x7d 5\x7d 'a' \x7b2.5 'b'".toList) ∧
      pattern.holes.map (fun hole => (hole.name, hole.kind)) =
        [("int", .int), ("string", .string), ("float", .double), ("string2", .string)] ∧
      pattern.lead = "int ".toList := by
  obtain ⟨pattern, known⟩ : ∃ pattern : StepPattern, pattern =
      ⟨"int \x7bint\x7d '\x7bstring\x7d' \x7bfloat\x7d '\x7bstring2\x7d'", "int ".toList,
        [⟨"int", .int, " '".toList⟩, ⟨"string", .string, "' ".toList⟩, ⟨"float", .double, " '".toList⟩,
          ⟨"string2", .string, ['\x27']⟩]⟩ := ⟨_, rfl⟩
  have compiled : compile .unlimited (suggest "\x7b\x7bint\x7d 5\x7d 'a' \x7b2.5 'b'").template
      (suggest "\x7b\x7bint\x7d 5\x7d 'a' \x7b2.5 'b'").kinds = .ok pattern := by
    rw [known]
    decide +kernel
  obtain ⟨found, places, read⟩ :=
    compile_suggest_placesTokens "\x7b\x7bint\x7d 5\x7d 'a' \x7b2.5 'b'"
  obtain rfl : pattern = found := Except.ok.inj (compiled.symm.trans (read .unlimited))
  refine ⟨pattern, compiled, places, ?_, ?_⟩
  · rw [known]
    rfl
  · rw [known]

end StepPattern

end ScenarioRunner
