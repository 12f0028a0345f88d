import ScenarioRunner.Proofs.KeyedList
import ScenarioRunner.Proofs.Message.Evaluated

namespace ScenarioRunner

/-- The text with a value in place of each mark. -/
def replaceMark (mark : Char) (value text : List Char) : List Char :=
  text.flatMap fun c => if c = mark then value else [c]

/-- The characters outside of all braces, where so many braces are open before. -/
def outsideBraces (depth : Nat) : List Char → List Char
  | [] => []
  | c :: rest =>
    if c = '\x7b' then outsideBraces (depth + 1) rest
    else if c = '\x7d' then outsideBraces (depth - 1) rest
    else if depth = 0 then c :: outsideBraces depth rest
    else outsideBraces depth rest

variable {mark : Char} {value : List Char}

theorem replaceMark_append (first second : List Char) :
    replaceMark mark value (first ++ second) =
      replaceMark mark value first ++ replaceMark mark value second :=
  List.flatMap_append

theorem replaceMark_self (rest : List Char) :
    replaceMark mark value (mark :: rest) = value ++ replaceMark mark value rest := by
  simp [replaceMark]

theorem replaceMark_cons {c : Char} (other : c ≠ mark) (rest : List Char) :
    replaceMark mark value (c :: rest) = c :: replaceMark mark value rest := by
  simp [replaceMark, other]

theorem replaceMark_of_not_mem {text : List Char} (absent : mark ∉ text) :
    replaceMark mark value text = text := by
  induction text with
  | nil => rfl
  | cons c rest ih =>
    rw [List.mem_cons, not_or] at absent
    rw [replaceMark_cons (Ne.symm absent.1), ih absent.2]

/-- What `#` stands for may be filled in before a value is put in place of the mark, or after. -/
theorem replaceHash_replaceMark (other : mark ≠ '#') (hash : List Char) {text : List Char}
    (free : mark ∈ text → '#' ∉ value) :
    replaceHash (replaceMark mark value hash) (replaceMark mark value text) =
      replaceMark mark value (replaceHash hash text) := by
  induction text with
  | nil => rfl
  | cons c rest ih =>
    have later := ih fun inside => free (List.mem_cons_of_mem _ inside)
    have split : replaceHash hash (c :: rest) = replaceHash hash [c] ++ replaceHash hash rest :=
      replaceHash_append hash [c] rest
    rw [split, replaceMark_append, ← later]
    by_cases here : c = mark
    · subst here
      have clean : ∀ d ∈ value, d ≠ '#' := fun d inside same =>
        free (List.mem_cons_self ..) (same ▸ inside)
      have kept : replaceHash hash [c] = [c] := by simp [replaceHash, other]
      rw [replaceMark_self, replaceHash_append, replaceHash_of_free clean, kept, replaceMark_self]
      simp [replaceMark]
    · rw [replaceMark_cons here]
      by_cases isHash : c = '#' <;> simp [replaceHash, replaceMark, isHash, here]

/-- A brace that ends the search, or a character that only changes how many braces are open. -/
theorem closing?_cons (depth : Nat) (c : Char) : (c = '\x7d' ∧ depth = 0) ∨
    ∃ next, ∀ rest, closing? depth (c :: rest) =
      (closing? next rest).map fun (body, after) => (c :: body, after) := by
  by_cases close : c = '\x7d'
  · subst close
    cases depth with
    | zero => exact .inl ⟨rfl, rfl⟩
    | succ depth => exact .inr ⟨depth, fun rest => rfl⟩
  · refine .inr ⟨if c = '\x7b' then depth + 1 else depth, fun rest => ?_⟩
    rw [closing?.eq_def]
    simp only [if_neg close]

/-- The same brace closes a block, whatever the values in it are, if their own braces match. -/
theorem closing?_replaceMark (plain : isBrace mark = false) {depth : Nat}
    {text body after : List Char} (closed : closing? depth text = some (body, after))
    (inside : mark ∈ body → Balanced value) :
    closing? depth (replaceMark mark value text) =
      some (replaceMark mark value body, replaceMark mark value after) := by
  induction text generalizing depth body with
  | nil => simp [closing?] at closed
  | cons c rest ih =>
    by_cases here : c = mark
    · subst here
      rw [← List.singleton_append, Balanced.char plain] at closed
      obtain ⟨⟨inner, tail⟩, found, same⟩ := Option.map_eq_some_iff.mp closed
      cases same
      have balanced := inside (List.mem_cons_self ..)
      rw [replaceMark_self, balanced, ih found fun _ => balanced, List.singleton_append,
        replaceMark_self]
      rfl
    · rw [replaceMark_cons here]
      rcases closing?_cons depth c with ⟨rfl, rfl⟩ | ⟨next, step⟩
      · cases closed
        rfl
      · rw [step] at closed ⊢
        obtain ⟨⟨inner, tail⟩, found, same⟩ := Option.map_eq_some_iff.mp closed
        cases same
        rw [ih found fun member => inside (List.mem_cons_of_mem _ member), replaceMark_cons here]
        rfl

theorem closing?_replaceMark_none (plain : isBrace mark = false) {depth : Nat} {text : List Char}
    (unclosed : closing? depth text = none) (inside : mark ∈ text → Balanced value) :
    closing? depth (replaceMark mark value text) = none := by
  induction text generalizing depth with
  | nil => rfl
  | cons c rest ih =>
    have later {next : Nat} (open_ : closing? next rest = none) :=
      ih open_ fun member => inside (List.mem_cons_of_mem _ member)
    by_cases here : c = mark
    · subst here
      rw [← List.singleton_append, Balanced.char plain, Option.map_eq_none_iff] at unclosed
      rw [replaceMark_self, inside (List.mem_cons_self ..), later unclosed]
      rfl
    · rw [replaceMark_cons here]
      rcases closing?_cons depth c with ⟨rfl, rfl⟩ | ⟨next, step⟩
      · cases unclosed
      · rw [step, Option.map_eq_none_iff] at unclosed
        rw [step, later unclosed]
        rfl

/-- The body of a block has no further form, or one that is not closed, or a form and more. -/
theorem body_induction {holds : List Char → Prop}
    (uncut : ∀ body, cutAt? '\x7b' body = none → holds body)
    (unclosed : ∀ body keyword rest, cutAt? '\x7b' body = some (keyword, rest) →
      closing? 0 rest = none → holds body)
    (closed : ∀ body keyword rest form after, cutAt? '\x7b' body = some (keyword, rest) →
      closing? 0 rest = some (form, after) → holds after → holds body)
    (body : List Char) : holds body := by
  induction body using pluralRules.induct with
  | case1 body cut => exact uncut body cut
  | case2 body keyword rest cut missing => exact unclosed body keyword rest cut missing
  | case3 body keyword rest cut form after found _ ih
  | case4 body keyword rest cut form after found _ ih =>
    exact closed body keyword rest form after cut found ih

theorem infix_of_mem_pluralRules {body : List Char} {rule : List Char × List Char}
    (member : rule ∈ pluralRules body) : rule.2 <:+: body := by
  induction body using body_induction with
  | uncut body cut =>
    rw [pluralRules_of_uncut cut] at member
    cases member
  | unclosed body keyword rest cut missing =>
    rw [pluralRules_of_unclosed cut missing] at member
    cases member
  | closed body keyword rest form after cut found ih =>
    obtain ⟨rfl, _⟩ := cutAt?_eq_some cut
    rw [pluralRules_of_closed cut found] at member
    rw [closing?_eq_some found]
    have behind : after <:+ keyword ++ '\x7b' :: (form ++ '\x7d' :: after) :=
      ⟨keyword ++ '\x7b' :: form ++ ['\x7d'], by simp⟩
    split at member
    · exact (ih member).trans behind.isInfix
    · rcases List.mem_cons.mp member with rfl | later
      · exact ⟨keyword ++ ['\x7b'], '\x7d' :: after, by simp⟩
      · exact (ih later).trans behind.isInfix

theorem outsideBraces_closing {depth : Nat} {text body after : List Char}
    (closed : closing? depth text = some (body, after)) :
    outsideBraces (depth + 1) text = outsideBraces 0 after := by
  induction text generalizing depth body with
  | nil => simp [closing?] at closed
  | cons c rest ih =>
    unfold closing? at closed
    rw [outsideBraces]
    by_cases close : c = '\x7d'
    · subst close
      rw [if_neg (by decide), if_pos rfl]
      cases depth with
      | zero =>
        cases closed
        rfl
      | succ depth =>
        obtain ⟨⟨inner, tail⟩, found, same⟩ := Option.map_eq_some_iff.mp closed
        cases same
        exact ih found
    · rw [if_neg close] at closed ⊢
      obtain ⟨⟨inner, tail⟩, found, same⟩ := Option.map_eq_some_iff.mp closed
      cases same
      by_cases opening : c = '\x7b'
      · rw [if_pos opening] at found ⊢
        exact ih found
      · rw [if_neg opening] at found ⊢
        rw [if_neg (Nat.succ_ne_zero depth)]
        exact ih found

theorem mem_of_mem_outsideBraces {depth : Nat} {text : List Char} {c : Char}
    (member : c ∈ outsideBraces depth text) : c ∈ text := by
  induction text generalizing depth with
  | nil => cases member
  | cons d rest ih =>
    rw [outsideBraces] at member
    split at member
    · exact List.mem_cons_of_mem _ (ih member)
    · split at member
      · exact List.mem_cons_of_mem _ (ih member)
      · split at member
        · rcases List.mem_cons.mp member with rfl | later
          · exact List.mem_cons_self ..
          · exact List.mem_cons_of_mem _ (ih later)
        · exact List.mem_cons_of_mem _ (ih member)

theorem not_mem_of_outsideBraces (plain : isBrace mark = false) {before after : List Char}
    (noOpening : '\x7b' ∉ before) (absent : mark ∉ outsideBraces 0 (before ++ after)) :
    mark ∉ before ∧ mark ∉ outsideBraces 0 after := by
  induction before with
  | nil => exact ⟨by simp, absent⟩
  | cons c rest ih =>
    rw [List.mem_cons, not_or] at noOpening
    rw [List.cons_append, outsideBraces, if_neg (Ne.symm noOpening.1)] at absent
    by_cases close : c = '\x7d'
    · rw [if_pos close] at absent
      obtain ⟨here, later⟩ := ih noOpening.2 absent
      have other : mark ≠ c := close ▸ (isBrace_eq_false_iff.mp plain).2
      exact ⟨by simp [other, here], later⟩
    · rw [if_neg close, if_pos rfl, List.mem_cons, not_or] at absent
      obtain ⟨here, later⟩ := ih noOpening.2 absent.2
      exact ⟨by simp [absent.1, here], later⟩

/-- Values that stand in forms, and not between them, change nothing but the forms. -/
theorem pluralRules_replaceMark (plain : isBrace mark = false) {body : List Char}
    (outside : mark ∉ outsideBraces 0 body) (inside : mark ∈ body → Balanced value) :
    pluralRules (replaceMark mark value body) =
      (pluralRules body).map fun rule => (rule.1, replaceMark mark value rule.2) := by
  have notMark : '\x7b' ≠ mark := Ne.symm (isBrace_eq_false_iff.mp plain).1
  have headed {keyword : List Char} (absent : mark ∉ keyword) (rest : List Char) :
      replaceMark mark value (keyword ++ '\x7b' :: rest) =
        keyword ++ '\x7b' :: replaceMark mark value rest := by
    rw [replaceMark_append, replaceMark_of_not_mem absent, replaceMark_cons notMark]
  induction body using body_induction with
  | uncut body cut =>
    have noOpening : '\x7b' ∉ body := fun member => by
      obtain ⟨before, after, whole, first⟩ := List.eq_append_cons_of_mem member
      rw [whole, cutAt?_append first] at cut
      cases cut
    rw [← List.append_nil body] at outside
    obtain ⟨absent, _⟩ := not_mem_of_outsideBraces plain noOpening outside
    rw [replaceMark_of_not_mem absent, pluralRules_of_uncut cut]
    rfl
  | unclosed body keyword rest cut missing =>
    obtain ⟨rfl, noOpening⟩ := cutAt?_eq_some cut
    obtain ⟨absent, _⟩ := not_mem_of_outsideBraces plain noOpening outside
    have still := closing?_replaceMark_none plain missing fun member => inside (by simp [member])
    rw [headed absent, pluralRules_of_unclosed (cutAt?_append noOpening _) still,
      pluralRules_of_unclosed cut missing]
    rfl
  | closed body keyword rest form after cut found ih =>
    obtain ⟨rfl, noOpening⟩ := cutAt?_eq_some cut
    obtain ⟨absent, behind⟩ := not_mem_of_outsideBraces plain noOpening outside
    rw [outsideBraces, if_pos rfl, outsideBraces_closing found] at behind
    have whole := closing?_eq_some found
    have still := closing?_replaceMark plain found fun member => inside (by simp [whole, member])
    have later := ih behind fun member => inside (by simp [whole, member])
    rw [headed absent, pluralRules_of_closed (cutAt?_append noOpening _) still,
      pluralRules_of_closed cut found, later]
    split <;> rfl

theorem isInfix_selectForm (body value : List Char) :
    selectForm (pluralRules body) value <:+: body :=
  chosenForm_cases (motive := (· <:+: body)) List.nil_infix value fun _ listed =>
    infix_of_mem_pluralRules (List.mem_reverse.mp listed)

theorem selectForm_replaceMark (mark : Char) (value : List Char) {first second : List Char}
    (number : readInt64? (trim first) = readInt64? (trim second))
    (rules : List (List Char × List Char)) :
    selectForm (rules.map fun rule => (rule.1, replaceMark mark value rule.2)) first =
      replaceMark mark value (selectForm rules second) := by
  have mapped := chosenForm_map (replaceMark mark value) rfl second rules.reverse
  rw [List.map_reverse] at mapped
  have same : selectForm (rules.map fun rule => (rule.1, replaceMark mark value rule.2)) first =
      selectForm (rules.map fun rule => (rule.1, replaceMark mark value rule.2)) second := by
    simp only [selectForm, number]
  exact same.trans mapped

/-- Both know the same parameters. Where values differ, those of `marked` have the mark in place of
the value, and neither is a number. -/
structure Marks (mark : Char) (value : List Char) (params marked : Params) : Prop where
  get? : ∀ name, params.get? name =
    (marked.get? name).map fun text => String.ofList (replaceMark mark value text.toList)
  number : ∀ name text, marked.get? name = some text →
    readInt64? (trim (replaceMark mark value text.toList)) = readInt64? (trim text.toList)
  name : ∀ name text, marked.get? name = some text → mark ∉ name.toList

/-- The block whose header stands before `tail` is read the same whatever the value: none stands
between its forms, and where one stands inside of the block, its braces match and it has no `#`. -/
def ReadsAlike (mark : Char) (value tail : List Char) : Prop :=
  match closing? 0 tail with
  | none => mark ∈ tail → Balanced value
  | some (body, _) => mark ∉ outsideBraces 0 body ∧ (mark ∈ body → Balanced value ∧ '#' ∉ value)

def PluralPiece.source : PluralPiece → List Char
  | plain c => [c]
  | opening _ source => source

theorem flatMap_source_pluralPieces (text : List Char) :
    (pluralPieces text).flatMap (·.source) = text := by
  induction text using pluralPieces_induction with
  | nil => rw [pluralPieces, List.flatMap_nil]
  | header name header rest spelled ih =>
    rw [pluralPieces_header spelled, List.flatMap_cons, ih]
    rfl
  | plain c rest none ih =>
    rw [pluralPieces_of_plain none, List.flatMap_cons, ih]
    rfl

theorem mem_of_mem_pluralPieces {text : List Char} {piece : PluralPiece}
    (member : piece ∈ pluralPieces text) {c : Char} (inside : c ∈ piece.source) : c ∈ text :=
  flatMap_source_pluralPieces text ▸ List.mem_flatMap.mpr ⟨piece, member, inside⟩

/-- Without `#`, resolving blocks chooses from the characters of the message. -/
theorem mem_of_mem_resolveBlocks {params : Params} {pieces : List PluralPiece}
    (noHash : ∀ piece ∈ pieces, '#' ∉ piece.source) {c : Char}
    (member : c ∈ resolveBlocks params pieces) : ∃ piece ∈ pieces, c ∈ piece.source := by
  induction pieces generalizing c with
  | nil => cases member
  | cons piece rest ih =>
    obtain ⟨freeHere, freeLater⟩ := List.forall_mem_cons.mp noHash
    have behind {d : Char} (inside : d ∈ resolveBlocks params rest) :
        ∃ other ∈ piece :: rest, d ∈ other.source := by
      obtain ⟨other, known, here⟩ := ih freeLater inside
      exact ⟨other, List.mem_cons_of_mem _ known, here⟩
    cases piece with
    | plain d =>
      rcases List.mem_cons.mp member with rfl | later
      · exact ⟨_, List.mem_cons_self .., List.mem_singleton.mpr rfl⟩
      · exact behind later
    | opening name source =>
      simp only [resolveBlocks] at member
      split at member
      · rename_i value body after _ closed
        have whole := closing?_eq_some closed
        have clean : ∀ d ∈ selectForm (pluralRules body) value.toList, d ≠ '#' := by
          rintro d inside rfl
          have early : '#' ∈ resolveBlocks params rest := by
            rw [whole]
            exact List.mem_append_left _ ((isInfix_selectForm _ _).subset inside)
          obtain ⟨other, known, here⟩ := ih freeLater early
          exact freeLater other known here
        have unhashed : replaceHash value.toList (selectForm (pluralRules body) value.toList) = _ :=
          replaceHash_of_free clean
        unfold replaceHash at unhashed
        rw [unhashed] at member
        rcases List.mem_append.mp member with inside | later
        · exact behind (by rw [whole]; exact List.mem_append_left _ ((isInfix_selectForm _ _).subset inside))
        · exact behind (by rw [whole]; simp [later])
      · rcases List.mem_append.mp member with inside | later
        · exact ⟨_, List.mem_cons_self .., inside⟩
        · exact behind later

/-- Blocks may be resolved before a value is put in place of the mark, or after. -/
theorem resolveBlocks_replaceMark {params marked : Params} (marks : Marks mark value params marked)
    (plain : isBrace mark = false) (noHash : mark ≠ '#') {pieces : List PluralPiece}
    (free : ∀ piece ∈ pieces, mark ∉ piece.source)
    (alike : ∀ name source rest, .opening name source :: rest <:+ pieces →
      (marked.get? (String.ofList name)).isSome → ReadsAlike mark value (resolveBlocks marked rest)) :
    resolveBlocks params pieces = replaceMark mark value (resolveBlocks marked pieces) := by
  induction pieces with
  | nil => rfl
  | cons piece rest ih =>
    obtain ⟨freeHere, freeLater⟩ := List.forall_mem_cons.mp free
    have later := ih freeLater fun name source more suffix =>
      alike name source more (suffix.trans (List.suffix_cons piece rest))
    cases piece with
    | plain c =>
      have other : c ≠ mark := fun same => freeHere (by simp [PluralPiece.source, same])
      rw [resolveBlocks, resolveBlocks, later, replaceMark_cons other]
    | opening name source =>
      have kept : replaceMark mark value source = source := replaceMark_of_not_mem freeHere
      have known := marks.get? (String.ofList name)
      have here := alike name source rest (List.suffix_refl _)
      simp only [resolveBlocks, later]
      cases given : marked.get? (String.ofList name) with
      | none =>
        rw [given] at known
        simp only [known, Option.map_none, replaceMark_append, kept]
      | some text =>
        rw [given] at known here
        have reads := here rfl
        unfold ReadsAlike at reads
        cases closed : closing? 0 (resolveBlocks marked rest) with
        | none =>
          rw [closed] at reads
          simp only [known, Option.map_some, closing?_replaceMark_none plain closed reads,
            replaceMark_append, kept]
        | some found =>
          obtain ⟨body, after⟩ := found
          rw [closed] at reads
          obtain ⟨outside, inside⟩ := reads
          have still := closing?_replaceMark plain closed fun member => (inside member).1
          have rules := pluralRules_replaceMark plain outside fun member => (inside member).1
          have form := selectForm_replaceMark mark value (marks.number _ _ given) (pluralRules body)
          have free (member : mark ∈ selectForm (pluralRules body) text.toList) : '#' ∉ value :=
            (inside ((isInfix_selectForm _ _).subset member)).2
          have hash := replaceHash_replaceMark noHash text.toList free
          simp only [known, Option.map_some, still, String.toList_ofList, rules, form,
            replaceMark_append]
          exact congrArg (· ++ _) hash

end ScenarioRunner
