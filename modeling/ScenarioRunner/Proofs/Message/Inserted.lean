import ScenarioRunner.Proofs.Message.Marked
import ScenarioRunner.Proofs.Number.Read

namespace ScenarioRunner

/-- The text with the tokens of known parameters filled in. -/
def fillTokens (params : Params) (text : List Char) : List Char :=
  (bracedPieces text).flatMap (·.fill params)

/-- The text starts with the token of a parameter that is known. -/
def beginsKnown (params : Params) : List Char → Bool
  | [] => false
  | c :: rest =>
    c = '\x7b' && (bracedWord? rest).any fun (name, _) => (params.get? (String.ofList name)).isSome

theorem beginsKnown_eq_true_iff {params : Params} {text : List Char} :
    beginsKnown params text = true ↔ ∃ name rest after, text = '\x7b' :: rest ∧
      bracedWord? rest = some (name, after) ∧ (params.get? (String.ofList name)).isSome = true := by
  cases text with
  | nil => simp [beginsKnown]
  | cons c rest =>
    simp only [beginsKnown, Bool.and_eq_true, decide_eq_true_eq, Option.any_eq_true, Prod.exists,
      List.cons.injEq]
    constructor
    · rintro ⟨rfl, name, after, read, known⟩
      exact ⟨name, rest, after, ⟨rfl, rfl⟩, read, known⟩
    · rintro ⟨name, others, after, ⟨rfl, rfl⟩, read, known⟩
      exact ⟨rfl, name, after, read, known⟩

theorem fillTokens_nil {params : Params} : fillTokens params [] = [] := by
  rw [fillTokens, bracedPieces]
  rfl

theorem bracedPieces_of_no_opening {text : List Char} (noOpening : '\x7b' ∉ text)
    (rest : List Char) : bracedPieces (text ++ rest) = text.map .plain ++ bracedPieces rest := by
  induction text with
  | nil => rfl
  | cons c text ih =>
    rw [List.mem_cons, not_or] at noOpening
    have plain : ¬ BeginsToken (c :: (text ++ rest)) := fun begins =>
      noOpening.1 (beginsToken_cons_iff.mp begins).1.symm
    rw [List.cons_append, bracedPieces_plain plain, ih noOpening.2]
    rfl

theorem fillTokens_append {params : Params} {text : List Char} (noOpening : '\x7b' ∉ text)
    (rest : List Char) : fillTokens params (text ++ rest) = text ++ fillTokens params rest := by
  rw [fillTokens, bracedPieces_of_no_opening noOpening, List.flatMap_append, List.flatMap_map]
  exact congrArg (· ++ fillTokens params rest) (List.flatMap_singleton' text)

theorem fillTokens_token {params : Params} {rest name after : List Char}
    (read : bracedWord? rest = some (name, after)) {value : String}
    (known : params.get? (String.ofList name) = some value) :
    fillTokens params ('\x7b' :: rest) = value.toList ++ fillTokens params after := by
  rw [fillTokens, bracedPieces_token read, List.flatMap_cons, BracedPiece.fill, known]
  rfl

/-- The token of an unknown parameter is no more than its characters. -/
theorem fillTokens_cons {params : Params} {c : Char} {rest : List Char}
    (unknown : beginsKnown params (c :: rest) = false) :
    fillTokens params (c :: rest) = c :: fillTokens params rest := by
  by_cases begins : BeginsToken (c :: rest)
  · obtain ⟨rfl, name, after, read⟩ := beginsToken_cons_iff.mp begins
    obtain ⟨word, rfl⟩ := bracedWord?_eq_some_iff.mp read
    have missing : params.get? (String.ofList name) = none := by
      simpa [beginsKnown, read] using unknown
    have noOpening : '\x7b' ∉ name ++ ['\x7d'] := by
      intro member
      rcases List.mem_append.mp member with inside | last
      · exact absurd (word.made _ inside) (by decide)
      · exact absurd (List.mem_singleton.mp last) (by decide)
    have spelled : name ++ '\x7d' :: after = name ++ ['\x7d'] ++ after := by simp
    have token : fillTokens params ('\x7b' :: (name ++ '\x7d' :: after)) =
        '\x7b' :: (name ++ ['\x7d']) ++ fillTokens params after := by
      rw [fillTokens, bracedPieces_token read, List.flatMap_cons, BracedPiece.fill, missing]
      rfl
    rw [token, spelled, fillTokens_append noOpening]
    rfl
  · rw [fillTokens, bracedPieces_plain begins]
    rfl

variable {mark : Char} {value : List Char}

/-- No character of an inserted value is read as a part of a token: no token of a known parameter
starts in a value, and none that starts before a value ends in it or behind it. -/
structure KeepsApart (params : Params) (mark : Char) (value text : List Char) : Prop where
  within : ∀ rest, mark :: rest <:+ text → ∀ c more, c :: more <:+ value →
    beginsKnown params (c :: more ++ replaceMark mark value rest) = false
  before : ∀ c rest, c :: rest <:+ text → c ≠ mark →
    beginsKnown params (c :: rest) = false →
    beginsKnown params (c :: replaceMark mark value rest) = false

theorem KeepsApart.suffix {params : Params} {text later : List Char}
    (apart : KeepsApart params mark value text) (suffix : later <:+ text) :
    KeepsApart params mark value later where
  within rest inside := apart.within rest (inside.trans suffix)
  before c rest inside := apart.before c rest (inside.trans suffix)

theorem fillTokens_value {params : Params} {text rest : List Char}
    (free : ∀ c more, c :: more <:+ text → beginsKnown params (c :: more ++ rest) = false) :
    fillTokens params (text ++ rest) = text ++ fillTokens params rest := by
  induction text with
  | nil => rfl
  | cons c text ih =>
    have later := ih fun d more suffix => free d more (suffix.trans (List.suffix_cons c text))
    have here := free c text (List.suffix_refl _)
    rw [List.cons_append] at here ⊢
    rw [fillTokens_cons here, later]
    rfl

theorem Marks.isSome {params marked : Params} (marks : Marks mark value params marked)
    (name : String) : (params.get? name).isSome = (marked.get? name).isSome := by
  rw [marks.get?, Option.isSome_map]

theorem Marks.beginsKnown {params marked : Params} (marks : Marks mark value params marked)
    (text : List Char) : beginsKnown params text = beginsKnown marked text := by
  cases text with
  | nil => rfl
  | cons c rest => simp only [ScenarioRunner.beginsKnown, marks.isSome]

/-- Tokens may be filled in before a value is put in place of the mark, or after. -/
theorem fillTokens_replaceMark {params marked : Params} (marks : Marks mark value params marked)
    (plain : isBrace mark = false) {text : List Char} (apart : KeepsApart marked mark value text) :
    fillTokens params (replaceMark mark value text) =
      replaceMark mark value (fillTokens marked text) := by
  obtain ⟨notOpening, notClosing⟩ := isBrace_eq_false_iff.mp plain
  induction size : text.length using Nat.strongRecOn generalizing text with
  | ind n ih =>
    cases text with
    | nil => exact fillTokens_nil.trans (congrArg (replaceMark mark value) fillTokens_nil).symm
    | cons c rest =>
      have shorter : rest.length < n := by
        rw [← size]
        simp
      have later := ih rest.length shorter (apart.suffix (List.suffix_cons c rest)) rfl
      by_cases here : c = mark
      · subst here
        have unknown : beginsKnown marked (c :: rest) = false := by simp [beginsKnown, notOpening]
        have inserted : fillTokens params (value ++ replaceMark c value rest) = _ :=
          fillTokens_value fun d more suffix => by
            rw [marks.beginsKnown]
            exact apart.within rest (List.suffix_refl _) d more suffix
        rw [replaceMark_self, inserted, fillTokens_cons unknown, replaceMark_self, later]
      · rw [replaceMark_cons here]
        by_cases known : beginsKnown marked (c :: rest) = true
        · obtain ⟨name, others, after, whole, read, given⟩ := beginsKnown_eq_true_iff.mp known
          obtain ⟨rfl, rfl⟩ := List.cons.inj whole
          obtain ⟨text, found⟩ := Option.isSome_iff_exists.mp given
          obtain ⟨word, rfl⟩ := bracedWord?_eq_some_iff.mp read
          have absent : mark ∉ name := by simpa using marks.name _ _ found
          have spelled : replaceMark mark value (name ++ '\x7d' :: after) =
              name ++ '\x7d' :: replaceMark mark value after := by
            rw [replaceMark_append, replaceMark_of_not_mem absent, replaceMark_cons notClosing.symm]
          have still := bracedWord?_eq_some_iff.mpr ⟨word, spelled⟩
          have filled := marks.get? (String.ofList name)
          rw [found] at filled
          have ends : after <:+ '\x7b' :: (name ++ '\x7d' :: after) :=
            ⟨'\x7b' :: name ++ ['\x7d'], by simp⟩
          have fewer : after.length < n := by
            rw [← size]
            simp
            omega
          rw [fillTokens_token still filled, fillTokens_token read found, replaceMark_append,
            ih after.length fewer (apart.suffix ends) rfl, String.toList_ofList]
        · rw [Bool.not_eq_true] at known
          have still := apart.before c rest (List.suffix_refl _) here known
          rw [← marks.beginsKnown] at still
          rw [fillTokens_cons still, fillTokens_cons known, replaceMark_cons here, later]

/-- A character that means nothing in a message and stands neither in the template nor in any name
or value. -/
structure FreshMark (mark : Char) (template : List Char) (params : Params) : Prop where
  brace : isBrace mark = false
  hash : mark ≠ '#'
  digit : mark.isDigit = false
  template : mark ∉ template
  params : ∀ entry ∈ params.entries, mark ∉ entry.1.toList ∧ mark ∉ entry.2.toList

theorem FreshMark.marks {template : List Char} {params : Params}
    (fresh : FreshMark mark template params) {name value : String}
    (known : params.get? name = some value) (notNumber : readInt64? (trim value.toList) = none) :
    Marks mark value.toList params (params.insertLast name (String.singleton mark)) := by
  have given {other text : String}
      (found : (params.insertLast name (String.singleton mark)).get? other = some text) :
      other = name ∧ text.toList = [mark] ∨
        params.get? other = some text ∧ mark ∉ other.toList ∧ mark ∉ text.toList := by
    rw [KeyedList.get?_insertLast] at found
    split at found
    · rename_i same
      cases found
      exact .inl ⟨by simpa using same, by simp⟩
    · have free := fresh.params _ (KeyedList.mem_entries_of_get? found)
      exact .inr ⟨found, free⟩
  have single : replaceMark mark value.toList [mark] = value.toList := by
    rw [replaceMark_self]
    exact List.append_nil _
  constructor
  · intro other
    cases found : (params.insertLast name (String.singleton mark)).get? other with
    | none =>
      rw [KeyedList.get?_insertLast] at found
      split at found
      · cases found
      · exact found
    | some text =>
      rcases given found with ⟨rfl, marked⟩ | ⟨kept, _, free⟩
      · simp [known, marked, single]
      · simp [kept, replaceMark_of_not_mem free]
  · intro other text found
    rcases given found with ⟨rfl, marked⟩ | ⟨_, _, free⟩
    · rw [marked, single, notNumber, readInt64?_of_no_digit]
      intro c inside
      rw [List.mem_singleton.mp (mem_of_mem_trim inside)]
      exact fresh.digit
    · rw [replaceMark_of_not_mem free]
  · intro other text found
    rcases given found with ⟨rfl, _⟩ | ⟨_, free, _⟩
    · exact (fresh.params _ (KeyedList.mem_entries_of_get? known)).1
    · exact free

/-- No character of the value that stands for the mark is read again, neither by a block around it
nor as a part of a token. -/
structure ReadOnce (marked : Params) (mark : Char) (value template : List Char) : Prop where
  blocks : ∀ name source rest, .opening name source :: rest <:+ pluralPieces template →
    (marked.get? (String.ofList name)).isSome → ReadsAlike mark value (resolveBlocks marked rest)
  tokens : KeepsApart marked mark value (resolve marked template)

/-- Only `#` lets blocks fill in values. What fills in tokens may have any characters. -/
theorem ReadOnce.of_no_hash {template : List Char} (noHash : '#' ∉ template)
    (absent : mark ∉ template) (marked : Params) : ReadOnce marked mark value template := by
  have free {pieces : List PluralPiece} (suffix : pieces <:+ pluralPieces template) :
      mark ∉ resolveBlocks marked pieces := by
    intro member
    have unhashed : ∀ piece ∈ pieces, '#' ∉ piece.source := fun piece known inside =>
      noHash (mem_of_mem_pluralPieces (suffix.subset known) inside)
    obtain ⟨piece, known, inside⟩ := mem_of_mem_resolveBlocks unhashed member
    exact absent (mem_of_mem_pluralPieces (suffix.subset known) inside)
  constructor
  · intro name source rest suffix _
    have noMark := free ((List.suffix_cons _ rest).trans suffix)
    unfold ReadsAlike
    cases closed : closing? 0 (resolveBlocks marked rest) with
    | none => exact fun inside => absurd inside noMark
    | some found =>
      obtain ⟨body, after⟩ := found
      have outside : mark ∉ body := fun inside =>
        noMark (by rw [closing?_eq_some closed]; exact List.mem_append_left _ inside)
      exact ⟨fun inside => outside (mem_of_mem_outsideBraces inside),
        fun inside => absurd inside outside⟩
  · have noMark : mark ∉ resolve marked template := free (List.suffix_refl _)
    constructor
    · exact fun rest suffix => absurd (suffix.subset (List.mem_cons_self ..)) noMark
    · intro c rest suffix _ unknown
      rwa [replaceMark_of_not_mem fun inside =>
        noMark (suffix.subset (List.mem_cons_of_mem _ inside))]

/-- A value that is read once stands in the message as it is: the message is the same as for a mark,
with the value in place of each mark. -/
theorem formatMessage_readOnce {template : String} {params : Params} {name value : String}
    {mark : Char} (known : params.get? name = some value)
    (notNumber : readInt64? (trim value.toList) = none)
    (fresh : FreshMark mark template.toList params)
    (once : ReadOnce (params.insertLast name (String.singleton mark)) mark value.toList
      template.toList) :
    formatMessage template params = String.ofList (replaceMark mark value.toList
      (formatMessage template (params.insertLast name (String.singleton mark))).toList) := by
  have marks := fresh.marks known notNumber
  have resolved := resolveBlocks_replaceMark marks fresh.brace fresh.hash
    (fun piece member inside => fresh.template (mem_of_mem_pluralPieces member inside)) once.blocks
  have filled := fillTokens_replaceMark marks fresh.brace once.tokens
  rw [formatMessage, formatMessage, String.toList_ofList]
  rw [resolve, ← resolved] at filled
  exact congrArg String.ofList filled

/-- A value with characters that mean something, filled in by a block before a token. -/
theorem formatMessage_readOnce_marks :
    let template := "\x7bn, plural, =1\x7bone\x7d other\x7b# of \x7bm\x7d\x7d\x7d"
    let params : Params := ⟨[("n", "#3\x7d"), ("m", "\x7bn\x7d")]⟩
    params.get? "n" = some "#3\x7d" ∧ readInt64? (trim "#3\x7d".toList) = none ∧
      FreshMark '@' template.toList params ∧
      ReadOnce (params.insertLast "n" (String.singleton '@')) '@' "#3\x7d".toList template.toList ∧
      formatMessage template params = String.ofList (replaceMark '@' "#3\x7d".toList
        (formatMessage template (params.insertLast "n" (String.singleton '@'))).toList) := by
  intro template params
  have known : params.get? "n" = some "#3\x7d" := by decide
  have notNumber : readInt64? (trim "#3\x7d".toList) = none := by decide
  have fresh : FreshMark '@' template.toList params :=
    ⟨by decide, by decide, by decide, by decide, by decide⟩
  have once : ReadOnce (params.insertLast "n" (String.singleton '@')) '@' "#3\x7d".toList
      template.toList := by
    have pieces : pluralPieces template.toList = .opening ['n'] "\x7bn, plural,".toList ::
        " =1\x7bone\x7d other\x7b# of \x7bm\x7d\x7d\x7d".toList.map .plain := by decide +kernel
    have resolved : resolve (params.insertLast "n" (String.singleton '@')) template.toList =
        ['@', ' ', 'o', 'f', ' ', '\x7b', 'm', '\x7d'] := by decide +kernel
    constructor
    · intro name source rest suffix _
      rw [pieces, List.suffix_cons_iff] at suffix
      rcases suffix with whole | later
      · cases whole
        have closed : closing? 0 (resolveBlocks (params.insertLast "n" (String.singleton '@'))
            (" =1\x7bone\x7d other\x7b# of \x7bm\x7d\x7d\x7d".toList.map .plain)) =
            some (" =1\x7bone\x7d other\x7b# of \x7bm\x7d\x7d".toList, []) := by decide +kernel
        rw [ReadsAlike, closed]
        exact ⟨by decide, fun inside => absurd inside (by decide)⟩
      · obtain ⟨c, _, other⟩ := List.mem_map.mp (later.subset (List.mem_cons_self ..))
        cases other
    · rw [resolved]
      constructor
      · intro rest suffix c more inside
        have behind : rest = [' ', 'o', 'f', ' ', '\x7b', 'm', '\x7d'] := by
          simpa [List.suffix_cons_iff] using suffix
        subst behind
        have inValue : c = '#' ∨ c = '3' ∨ c = '\x7d' := by
          simpa using inside.subset (List.mem_cons_self ..)
        rcases inValue with rfl | rfl | rfl <;> rfl
      · intro c rest suffix other unknown
        rw [List.suffix_cons_iff] at suffix
        rcases suffix with whole | later
        · cases whole
          exact absurd rfl other
        · have noMark : '@' ∉ rest := fun inside =>
            absurd (later.subset (List.mem_cons_of_mem _ inside)) (by decide)
          rwa [replaceMark_of_not_mem noMark]
  exact ⟨known, notNumber, fresh, once, formatMessage_readOnce known notNumber fresh once⟩

/-- What a block fills in is read again: here the value becomes a token, and then another value. -/
theorem formatMessage_reads_twice :
    let template := "\x7bn, plural, other\x7b#\x7d\x7d"
    let params : Params := ⟨[("n", "\x7bx\x7d"), ("x", "y")]⟩
    params.get? "n" = some "\x7bx\x7d" ∧ readInt64? (trim "\x7bx\x7d".toList) = none ∧
      FreshMark '@' template.toList params ∧ isBlank '@' = false ∧
      formatMessage template params = "y" ∧
      String.ofList (replaceMark '@' "\x7bx\x7d".toList
        (formatMessage template (params.insertLast "n" (String.singleton '@'))).toList) =
        "\x7bx\x7d" := by
  intro template params
  refine ⟨by decide, by decide, ⟨by decide, by decide, by decide, by decide, by decide⟩, by decide,
    ?_, ?_⟩
  · decide +kernel
  · decide +kernel

end ScenarioRunner
