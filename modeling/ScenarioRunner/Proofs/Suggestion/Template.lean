import ScenarioRunner.Proofs.Pattern.Kinds
import ScenarioRunner.Proofs.Suggestion.Scanned

namespace ScenarioRunner

/-- What a template is made of: the wording without braces, and a token for each value. -/
def suggestedPieces (count : TokenCount) : List StepToken → List BracedPiece
  | [] => []
  | .plain c :: rest =>
    if isBrace c then suggestedPieces count rest else .plain c :: suggestedPieces count rest
  | .quotation mark _ :: rest =>
    let count := { count with strings := count.strings + 1 }
    .plain mark :: .token (numbered "string" count.strings).toList :: .plain mark ::
      suggestedPieces count rest
  | .decimal _ :: rest =>
    let count := { count with decimals := count.decimals + 1 }
    .token (numbered "float" count.decimals).toList :: suggestedPieces count rest
  | .integer _ :: rest =>
    let count := { count with integers := count.integers + 1 }
    .token (numbered "int" count.integers).toList :: suggestedPieces count rest

theorem toList_braced (name : String) :
    (braced name).toList = (BracedPiece.token name.toList).source := by
  simp [braced, BracedPiece.source]

theorem toList_templateOf (count : TokenCount) (tokens : List StepToken) :
    (templateOf count tokens).1.toList = sourceOf (suggestedPieces count tokens) := by
  induction tokens generalizing count with
  | nil => rfl
  | cons token rest ih =>
    cases token with
    | plain c =>
      rw [templateOf, suggestedPieces]
      by_cases brace : c = '\x7b' ∨ c = '\x7d'
      · have skipped : isBrace c = true := by simpa [isBrace] using brace
        simp [brace, skipped, ih]
      · have kept : isBrace c = false := by simpa [isBrace] using brace
        simp [brace, kept, ih, sourceOf, BracedPiece.source]
    | quotation mark content => simp [templateOf, suggestedPieces, ih, toList_braced, sourceOf, BracedPiece.source]
    | decimal text => simp [templateOf, suggestedPieces, ih, toList_braced, sourceOf]
    | integer text => simp [templateOf, suggestedPieces, ih, toList_braced, sourceOf]

/-- The name of a placeholder tells its kind. -/
def initial : ParamKind → Char
  | .string => 's'
  | .int => 'i'
  | .double => 'f'
  | .bool => 'b'

def NamedFor (kind : ParamKind) (name : String) : Prop := name.toList.head? = some (initial kind)

theorem NamedFor.unique {kind other : ParamKind} {name : String} (one : NamedFor kind name)
    (two : NamedFor other name) : kind = other := by
  have same : initial kind = initial other := Option.some.inj (one.symm.trans two)
  cases kind <;> cases other <;> first | rfl | exact absurd same (by decide)

theorem namedFor_string : NamedFor .string "string" := rfl

theorem namedFor_float : NamedFor .double "float" := rfl

theorem namedFor_int : NamedFor .int "int" := rfl

theorem namedFor_numbered {kind : ParamKind} {base : String} (named : NamedFor kind base)
    (n : Nat) : NamedFor kind (numbered base n) := by
  unfold numbered
  split
  · exact named
  · rw [NamedFor, String.toList_append, List.head?_append, named]
    rfl

theorem isWord_numbered {base : String} (word : IsWord base.toList) (n : Nat) :
    IsWord (numbered base n).toList := by
  unfold numbered
  split
  · exact word
  · rw [String.toList_append]
    refine ⟨by simp [word.nonempty], List.forall_mem_append.mpr ⟨word.made, fun c member => ?_⟩⟩
    have listed : c ∈ Nat.toDigits 10 n := by simpa using member
    have digit := Nat.isDigit_of_mem_toDigits (by decide) (by decide) listed
    exact isWordChar_of_isDecimalDigit (by simp [isDecimalDigit, digit])

/-- The text that is left when the braces of the wording are left out. -/
def unbraced (text : List Char) : List Char := text.filter fun c => !isBrace c

theorem unbraced_cons_of_not_brace {c : Char} {text : List Char} (plain : isBrace c = false) :
    unbraced (c :: text) = c :: unbraced text := by
  simp [unbraced, plain]

theorem unbraced_eq_self {text : List Char} (plain : ∀ c ∈ text, isBrace c = false) :
    unbraced text = text :=
  List.filter_eq_self.mpr fun c member => by simp [plain c member]

theorem IsMark.not_brace {mark : Char} (isMark : IsMark mark) : isBrace mark = false := by
  rcases isMark with rfl | rfl <;> decide

theorem clean_suggestedPieces {before : Option Char} {text : List Char} {tokens : List StepToken}
    (scanned : Scanned before text tokens) (count : TokenCount) :
    ∀ piece ∈ suggestedPieces count tokens, piece.Clean := by
  have word {base : String} (made : base.toList ≠ [] ∧ base.toList.all isWordChar = true) (n : Nat) :
      (BracedPiece.token (numbered base n).toList).Clean :=
    isWord_numbered ⟨made.1, List.all_eq_true.mp made.2⟩ n
  induction scanned generalizing count with
  | done => exact fun _ member => nomatch member
  | @plain _ c _ _ _ _ ih =>
    rw [suggestedPieces]
    split
    · exact ih count
    · rename_i plain
      exact List.forall_mem_cons.mpr ⟨by simpa [BracedPiece.Clean] using plain, ih count⟩
  | quotation isMark _ _ ih =>
    simp only [suggestedPieces, List.forall_mem_cons]
    exact ⟨isMark.not_brace, word (by decide) _, isMark.not_brace, ih _⟩
  | decimal _ _ _ _ _ ih =>
    simp only [suggestedPieces, List.forall_mem_cons]
    exact ⟨word (by decide) _, ih _⟩
  | integer _ _ _ _ ih =>
    simp only [suggestedPieces, List.forall_mem_cons]
    exact ⟨word (by decide) _, ih _⟩

theorem bracedPieces_templateOf {before : Option Char} {text : List Char} {tokens : List StepToken}
    (scanned : Scanned before text tokens) (count : TokenCount) :
    bracedPieces (templateOf count tokens).1.toList = suggestedPieces count tokens := by
  rw [toList_templateOf, bracedPieces_sourceOf (clean_suggestedPieces scanned count)]

/-- Each name is given with the kind that it tells. -/
def NamedKinds (kinds : List (String × ParamKind)) : Prop := ∀ entry ∈ kinds, NamedFor entry.2 entry.1

theorem namedKinds_templateOf (count : TokenCount) (tokens : List StepToken) :
    NamedKinds (templateOf count tokens).2 := by
  induction tokens generalizing count with
  | nil => exact fun _ member => nomatch member
  | cons token rest ih =>
    cases token with
    | plain c => exact ih count
    | quotation mark content => exact ih _
    | decimal text => exact List.forall_mem_cons.mpr ⟨namedFor_numbered namedFor_float _, ih _⟩
    | integer text => exact List.forall_mem_cons.mpr ⟨namedFor_numbered namedFor_int _, ih _⟩

namespace StepPattern

/-- The kind of a name is one that it was given, or it captures text. -/
theorem kindOf_cases (kinds : List (String × ParamKind)) (name : String) :
    (name, kindOf kinds name) ∈ kinds ∨
      kindOf kinds name = .string ∧ ∀ kind, (name, kind) ∉ kinds := by
  unfold kindOf
  cases found : kinds.reverse.lookup name with
  | none =>
    refine .inr ⟨rfl, fun kind member => ?_⟩
    have other := List.lookup_eq_none_iff.mp found _ (List.mem_reverse.mpr member)
    simp at other
  | some kind =>
    obtain ⟨before, after, whole, _⟩ := List.lookup_eq_some_iff.mp found
    left
    rw [← List.mem_reverse, whole]
    simp

theorem kindOf_of_named {kinds : List (String × ParamKind)} (named : NamedKinds kinds)
    {name : String} {kind : ParamKind} (member : (name, kind) ∈ kinds) : kindOf kinds name = kind := by
  rcases kindOf_cases kinds name with known | ⟨_, absent⟩
  · exact (named _ known).unique (named _ member)
  · exact absurd member (absent kind)

/-- Texts need no entry. -/
theorem kindOf_of_named_string {kinds : List (String × ParamKind)} (named : NamedKinds kinds)
    {name : String} (isString : NamedFor .string name) : kindOf kinds name = .string := by
  rcases kindOf_cases kinds name with known | ⟨text, _⟩
  · exact (named _ known).unique isString
  · exact text

end StepPattern

/-- What is gathered from a suggested template: a place for each value, of the value's kind. -/
theorem gather_suggestedPieces {kinds : List (String × ParamKind)} (named : NamedKinds kinds)
    {before : Option Char} {text : List Char} {tokens : List StepToken}
    (scanned : Scanned before text tokens) {count : TokenCount}
    (given : (templateOf count tokens).2 ⊆ kinds) :
    (StepPattern.gather kinds (suggestedPieces count tokens)).1 = unbraced (wording tokens) ∧
      (StepPattern.gather kinds (suggestedPieces count tokens)).2.map
        (fun hole => (hole.kind, hole.after)) =
        (heldValues tokens).map fun value => (value.kind, unbraced value.after) := by
  induction scanned generalizing count with
  | done => exact ⟨rfl, rfl⟩
  | @plain _ c _ _ _ _ ih =>
    obtain ⟨lead, places⟩ := ih given
    rw [suggestedPieces]
    by_cases brace : isBrace c = true
    · rw [if_pos brace]
      exact ⟨by simpa [wording, unbraced, brace] using lead, places⟩
    · rw [if_neg brace]
      rw [Bool.not_eq_true] at brace
      refine ⟨?_, places⟩
      rw [wording, unbraced_cons_of_not_brace brace, ← lead]
      rfl
  | @quotation _ mark _ _ _ isMark _ _ ih =>
    obtain ⟨lead, places⟩ := ih given
    have kept (rest : List Char) : unbraced (mark :: rest) = mark :: unbraced rest :=
      unbraced_cons_of_not_brace isMark.not_brace
    refine ⟨(kept []).symm, ?_⟩
    have kind := StepPattern.kindOf_of_named_string named
      (namedFor_numbered namedFor_string (count.strings + 1))
    simp [suggestedPieces, StepPattern.gather, heldValues, kind, lead, places, kept]
  | decimal _ _ _ _ _ ih =>
    obtain ⟨listed, later⟩ := List.cons_subset.mp given
    obtain ⟨lead, places⟩ := ih later
    have kind := StepPattern.kindOf_of_named named listed
    refine ⟨rfl, ?_⟩
    simp [suggestedPieces, StepPattern.gather, heldValues, kind, lead, places]
  | integer _ _ _ _ ih =>
    obtain ⟨listed, later⟩ := List.cons_subset.mp given
    obtain ⟨lead, places⟩ := ih later
    have kind := StepPattern.kindOf_of_named named listed
    refine ⟨rfl, ?_⟩
    simp [suggestedPieces, StepPattern.gather, heldValues, kind, lead, places]

/-- A suggested pattern has the wording of its step text, with a place for each value. -/
theorem places_suggest {limit : SizeLimit} {text : String} {pattern : StepPattern}
    (compiled : StepPattern.compile limit (suggest text).template (suggest text).kinds =
      .ok pattern) :
    pattern.lead = unbraced (wording (stepTokens none text.toList)) ∧
      pattern.holes.map (fun hole => (hole.kind, hole.after)) =
        (heldValues (stepTokens none text.toList)).map
          fun value => (value.kind, unbraced value.after) := by
  have scanned := scanned_stepTokens none text.toList
  have pieces : bracedPieces (suggest text).template.toList =
      suggestedPieces {} (stepTokens none text.toList) := bracedPieces_templateOf scanned {}
  have gathered := gather_suggestedPieces (namedKinds_templateOf {} _) scanned (List.Subset.refl _)
  rw [StepPattern.eq_ofTemplate compiled, StepPattern.ofTemplate, pieces]
  exact gathered

/-- The pattern has the wording between the tokens, and a place for each value. -/
structure HasPlaces (pattern : StepPattern) (tokens : List StepToken) : Prop where
  lead : pattern.lead = wording tokens
  places : pattern.holes.map (fun hole => (hole.kind, hole.after)) =
    (heldValues tokens).map fun value => (value.kind, value.after)

theorem hasPlaces_suggest {limit : SizeLimit} {text : String} {pattern : StepPattern}
    (compiled : StepPattern.compile limit (suggest text).template (suggest text).kinds =
      .ok pattern)
    (braceless : ∀ c ∈ text.toList, isBrace c = false) :
    HasPlaces pattern (stepTokens none text.toList) := by
  have scanned := scanned_stepTokens none text.toList
  obtain ⟨lead, places⟩ := places_suggest compiled
  rw [unbraced_eq_self fun c member => braceless c (scanned.wording_subset member)] at lead
  refine ⟨lead, places.trans (List.map_congr_left fun value member => ?_)⟩
  rw [unbraced_eq_self]
  exact fun c inside => braceless c (scanned.heldValue_subset member (List.mem_append_right _ inside))

end ScenarioRunner
