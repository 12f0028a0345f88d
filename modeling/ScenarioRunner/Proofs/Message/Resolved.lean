import ScenarioRunner.Proofs.Message.Opening

namespace ScenarioRunner

/-- The text closes all braces that it opens, and no others. -/
def Balanced (text : List Char) : Prop :=
  ∀ depth rest, closing? depth (text ++ rest) =
    (closing? depth rest).map fun (body, after) => (text ++ body, after)

namespace Balanced

theorem nil : Balanced [] := by
  intro depth rest
  simp

theorem append {first second : List Char} (one : Balanced first) (two : Balanced second) :
    Balanced (first ++ second) := by
  intro depth rest
  rw [List.append_assoc, one, two, Option.map_map]
  simp [Function.comp_def]

theorem char {c : Char} (plain : isBrace c = false) : Balanced [c] := by
  obtain ⟨opening, closing⟩ := isBrace_eq_false_iff.mp plain
  intro depth rest
  rw [List.singleton_append, closing?.eq_def]
  simp only [if_neg closing, if_neg opening, List.singleton_append]

theorem chars {text : List Char} (plain : ∀ c ∈ text, isBrace c = false) : Balanced text := by
  induction text with
  | nil => exact .nil
  | cons c rest ih =>
    obtain ⟨here, later⟩ := List.forall_mem_cons.mp plain
    exact (char here).append (ih later)

theorem braced {text : List Char} (inside : Balanced text) :
    Balanced ('\x7b' :: text ++ ['\x7d']) := by
  intro depth rest
  have opened : closing? (depth + 1) ('\x7d' :: rest) =
      (closing? depth rest).map fun (body, after) => ('\x7d' :: body, after) := rfl
  have start : closing? depth ('\x7b' :: (text ++ '\x7d' :: rest)) =
      (closing? (depth + 1) (text ++ '\x7d' :: rest)).map
        fun (body, after) => ('\x7b' :: body, after) := rfl
  have spelled : '\x7b' :: text ++ ['\x7d'] ++ rest = '\x7b' :: (text ++ '\x7d' :: rest) := by simp
  rw [spelled, start, inside, opened, Option.map_map, Option.map_map]
  simp [Function.comp_def]

theorem closing?_eq {text : List Char} (inside : Balanced text) (rest : List Char) :
    closing? 0 (text ++ '\x7d' :: rest) = some (text, rest) := by
  rw [inside]
  simp [closing?]

end Balanced

/-- A text with its blocks resolved. -/
def resolve (params : Params) (text : List Char) : List Char :=
  resolveBlocks params (pluralPieces text)

theorem pluralPieces_of_plain {c : Char} {rest : List Char}
    (plain : c = '\x7b' → pluralOpening? rest = none) :
    pluralPieces (c :: rest) = .plain c :: pluralPieces rest := by
  rw [pluralPieces]
  split
  · rename_i name after found
    split at found
    · rename_i opening
      rw [plain opening] at found
      cases found
    · cases found
  · rfl

theorem pluralPieces_of_opening {rest name after : List Char}
    (read : pluralOpening? rest = some (name, after)) :
    pluralPieces ('\x7b' :: rest) =
      .opening name ('\x7b' :: rest.take (rest.length - after.length)) :: pluralPieces after := by
  rw [pluralPieces]
  split
  · rename_i found
    rw [if_pos rfl, read] at found
    cases found
    rfl
  · rename_i missing
    rw [if_pos rfl, read] at missing
    cases missing

theorem pluralPieces_header {name header : List Char} (spelled : PluralHeader name header)
    (rest : List Char) :
    pluralPieces ('\x7b' :: header ++ rest) = .opening name ('\x7b' :: header) :: pluralPieces rest := by
  have read := spelled.opening rest
  rw [List.cons_append, pluralPieces_of_opening read]
  simp

/-- A message is empty, or starts with the header of a block, or with a character that stands for
itself. -/
theorem pluralPieces_induction {holds : List Char → Prop} (nil : holds [])
    (header : ∀ name header rest, PluralHeader name header → holds rest →
      holds ('\x7b' :: header ++ rest))
    (plain : ∀ c rest, (c = '\x7b' → pluralOpening? rest = none) → holds rest → holds (c :: rest))
    (text : List Char) : holds text := by
  induction text using pluralPieces.induct with
  | case1 => exact nil
  | case2 c rest name after found ih =>
    split at found
    · rename_i opening
      subst opening
      obtain ⟨start, spelled, rfl⟩ := pluralHeader_of_opening found
      exact header name start after spelled ih
    · cases found
  | case3 c rest missing ih =>
    exact plain c rest (fun opening => by rwa [dif_pos opening] at missing) ih

theorem resolve_cons {params : Params} {c : Char} {rest : List Char}
    (plain : c = '\x7b' → pluralOpening? rest = none) :
    resolve params (c :: rest) = c :: resolve params rest := by
  rw [resolve, pluralPieces_of_plain plain]
  rfl

theorem resolve_nil {params : Params} : resolve params [] = [] := by
  rw [resolve, pluralPieces]
  rfl

theorem resolve_closing {params : Params} (rest : List Char) :
    resolve params ('\x7d' :: rest) = '\x7d' :: resolve params rest :=
  resolve_cons fun opening => absurd opening (by decide)

theorem resolve_append {params : Params} {text : List Char}
    (plain : ∀ c ∈ text, isBrace c = false) (rest : List Char) :
    resolve params (text ++ rest) = text ++ resolve params rest := by
  induction text with
  | nil => rfl
  | cons c text ih =>
    obtain ⟨here, later⟩ := List.forall_mem_cons.mp plain
    rw [List.cons_append, resolve_cons fun opening => absurd opening (isBrace_eq_false_iff.mp here).1,
      ih later]
    rfl

/-- A block is resolved when everything behind its header is. -/
theorem resolve_block {params : Params} {name text body after : List Char} {value : String}
    (word : IsWord name) (known : params.get? (String.ofList name) = some value)
    (closed : closing? 0 (resolve params text) = some (body, after)) :
    resolve params ('\x7b' :: name ++ ", plural,".toList ++ text) =
      replaceHash value.toList (selectForm (pluralRules body) value.toList) ++ after := by
  have opening := word.header.opening text
  unfold resolve at closed ⊢
  rw [List.cons_append, List.cons_append, pluralPieces_of_opening opening]
  simp only [resolveBlocks, known, closed]
  rfl

/-- Forms as they are spelled in a block. -/
def formsText (forms : List (List Char × List Char)) : List Char :=
  forms.flatMap fun (keyword, content) => ' ' :: keyword ++ ('\x7b' :: content ++ ['\x7d'])

theorem balanced_formsText {forms : List (List Char × List Char)}
    (plain : ∀ form ∈ forms, ∀ c ∈ form.1, isBrace c = false)
    (balanced : ∀ form ∈ forms, Balanced form.2) : Balanced (formsText forms) := by
  induction forms with
  | nil => exact .nil
  | cons form rest ih =>
    obtain ⟨plainHere, plainLater⟩ := List.forall_mem_cons.mp plain
    obtain ⟨balancedHere, balancedLater⟩ := List.forall_mem_cons.mp balanced
    have spaced : ∀ c ∈ ' ' :: form.1, isBrace c = false :=
      List.forall_mem_cons.mpr ⟨by decide, plainHere⟩
    exact ((Balanced.chars spaced).append balancedHere.braced).append (ih plainLater balancedLater)

theorem pluralRules_of_uncut {body : List Char} (uncut : cutAt? '\x7b' body = none) :
    pluralRules body = [] := by
  rw [pluralRules]
  split
  · rfl
  · rename_i cut
    rw [uncut] at cut
    cases cut

theorem pluralRules_of_unclosed {body keyword rest : List Char}
    (cut : cutAt? '\x7b' body = some (keyword, rest)) (unclosed : closing? 0 rest = none) :
    pluralRules body = [] := by
  rw [pluralRules]
  split
  · rfl
  · rename_i found
    cases cut.symm.trans found
    split
    · rfl
    · rename_i closed
      rw [unclosed] at closed
      cases closed

theorem pluralRules_of_closed {body keyword rest form after : List Char}
    (cut : cutAt? '\x7b' body = some (keyword, rest)) (closed : closing? 0 rest = some (form, after)) :
    pluralRules body = if trim keyword = [] then pluralRules after
      else (trim keyword, form) :: pluralRules after := by
  rw [pluralRules]
  split
  · rename_i uncut
    rw [cut] at uncut
    cases uncut
  · rename_i found
    cases cut.symm.trans found
    split
    · rename_i unclosed
      rw [closed] at unclosed
      cases unclosed
    · rename_i other
      cases closed.symm.trans other
      rfl

theorem pluralRules_cons {keyword content : List Char} (rest : List Char)
    (plain : ∀ c ∈ keyword, isBrace c = false ∧ isBlank c = false) (balanced : Balanced content) :
    pluralRules (' ' :: keyword ++ ('\x7b' :: content ++ ['\x7d']) ++ rest) =
      if keyword = [] then pluralRules rest else (keyword, content) :: pluralRules rest := by
  have spelled : ' ' :: keyword ++ ('\x7b' :: content ++ ['\x7d']) ++ rest =
      ' ' :: keyword ++ '\x7b' :: (content ++ '\x7d' :: rest) := by simp
  have absent : '\x7b' ∉ ' ' :: keyword := by
    rw [List.mem_cons, not_or]
    exact ⟨by decide, fun member => absurd (plain _ member).1 (by decide)⟩
  have solid : Trimmed keyword := by
    constructor
    · exact fun c first => (plain c (List.mem_of_mem_head? first)).2
    · exact fun c last => (plain c (List.mem_of_mem_getLast? last)).2
  have trimmed : trim (' ' :: keyword) = keyword := solid.trim_cons (by decide)
  rw [spelled, pluralRules_of_closed (cutAt?_append absent _) (balanced.closing?_eq rest), trimmed]

theorem pluralRules_formsText {forms : List (List Char × List Char)}
    (plain : ∀ form ∈ forms, ∀ c ∈ form.1, isBrace c = false ∧ isBlank c = false)
    (balanced : ∀ form ∈ forms, Balanced form.2) :
    pluralRules (formsText forms) = forms.filter (·.1 ≠ []) := by
  induction forms with
  | nil =>
    rw [formsText, List.flatMap_nil, pluralRules]
    rfl
  | cons form rest ih =>
    obtain ⟨plainHere, plainLater⟩ := List.forall_mem_cons.mp plain
    obtain ⟨balancedHere, balancedLater⟩ := List.forall_mem_cons.mp balanced
    have later := ih plainLater balancedLater
    rw [formsText, List.flatMap_cons, ← formsText, pluralRules_cons _ plainHere balancedHere, later,
      List.filter_cons]
    by_cases empty : form.1 = [] <;> simp [empty]

/-- With distinct keywords it does not matter from which end a form is looked up. -/
theorem lookup_reverse_filter {forms : List (List Char × List Char)}
    (distinct : (forms.map Prod.fst).Nodup) {keyword : List Char} (filled : keyword ≠ []) :
    (forms.filter (·.1 ≠ [])).reverse.lookup keyword = forms.lookup keyword := by
  induction forms with
  | nil => rfl
  | cons form rest ih =>
    obtain ⟨word, content⟩ := form
    obtain ⟨absent, later⟩ := List.nodup_cons.mp distinct
    rw [List.filter_cons, List.lookup_cons]
    by_cases here : keyword = word
    · subst here
      have missing : rest.lookup keyword = none := by
        refine List.lookup_eq_none_iff.mpr fun other member => ?_
        have apart : keyword ≠ other.1 := fun same =>
          absent (List.mem_map.mpr ⟨other, member, same.symm⟩)
        simpa using apart
      rw [if_pos (by simpa using filled), List.reverse_cons, List.lookup_append, ih later, missing,
        List.lookup_cons_self, BEq.refl]
      rfl
    · have apart : (keyword == word) = false := by simpa using here
      have other : [(word, content)].lookup keyword = none := by simp [here]
      rw [apart, ← ih later]
      split
      · rw [List.reverse_cons, List.lookup_append, other, Option.or_none]
      · rfl

theorem selectForm_eq {forms : List (List Char × List Char)} (distinct : (forms.map Prod.fst).Nodup)
    (value : List Char) : selectForm (forms.filter (·.1 ≠ [])) value = chosenForm value forms := by
  have exact (n : Int64) := lookup_reverse_filter distinct
    (List.cons_ne_nil '=' (toString n.toInt).toList)
  have other := lookup_reverse_filter distinct (show "other".toList ≠ [] by decide)
  simp only [selectForm, chosenForm, exact, other]

end ScenarioRunner
