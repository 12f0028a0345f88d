import ScenarioRunner.Proofs.Message.Evaluated

namespace ScenarioRunner

variable {params : Params}

theorem PluralForms.map_fst_spelledForms (forms : PluralForms) (params : Params)
    (hash : List Char) : (spelledForms (forms.pieces params hash)).map Prod.fst = forms.keywords := by
  rw [spelledForms, List.map_map]
  exact forms.map_fst_pieces hash

theorem PluralForms.plain_spelledForms {forms : PluralForms} (wellFormed : forms.WellFormed)
    (params : Params) (hash : List Char) : ∀ form ∈ spelledForms (forms.pieces params hash),
      ∀ c ∈ form.1, isBrace c = false ∧ isBlank c = false := fun form member =>
  forms.plain_keywords wellFormed form.1
    (forms.map_fst_spelledForms params hash ▸ List.mem_map_of_mem member)

theorem PluralForms.balanced_contents (plain : PlainParams params) {forms : PluralForms}
    (wellFormed : forms.WellFormed) :
    ∀ form ∈ spelledForms (forms.pieces params ['#']), Balanced form.2 := by
  intro form member
  obtain ⟨pieces, listed, rfl⟩ := List.mem_map.mp member
  exact balanced_sourceOf (forms.clean_pieces plain plain_hash wellFormed pieces listed)

/-- What stands in a block when everything in it has been resolved. -/
def PluralForms.resolved (params : Params) (forms : PluralForms) : List Char :=
  formsText (spelledForms (forms.pieces params ['#']))

theorem PluralForms.balanced_resolved (plain : PlainParams params) {forms : PluralForms}
    (wellFormed : forms.WellFormed) : Balanced (forms.resolved params) := by
  have keywords := PluralForms.plain_spelledForms wellFormed params ['#']
  exact balanced_formsText (fun form listed c inside => (keywords form listed c inside).1)
    (PluralForms.balanced_contents plain wellFormed)

/-- What a block becomes. -/
theorem PluralForms.select_resolved (plain : PlainParams params) (value : List Char)
    {forms : PluralForms} (wellFormed : forms.WellFormed) (distinct : forms.keywords.Nodup) :
    replaceHash value (selectForm (pluralRules (forms.resolved params)) value) =
      sourceOf (chosenForm value (forms.pieces params value)) := by
  have plainWords := PluralForms.plain_spelledForms wellFormed params ['#']
  have balanced := PluralForms.balanced_contents plain wellFormed
  have keywords := forms.map_fst_spelledForms params ['#']
  have replaced := chosenForm_map (replaceHash value) rfl value
    (spelledForms (forms.pieces params ['#']))
  have spelled := chosenForm_map sourceOf rfl value (forms.pieces params value)
  calc replaceHash value (selectForm (pluralRules (forms.resolved params)) value)
    _ = replaceHash value (chosenForm value (spelledForms (forms.pieces params ['#']))) := by
      rw [resolved, pluralRules_formsText plainWords balanced, selectForm_eq (keywords ▸ distinct)]
    _ = chosenForm value (spelledForms (forms.pieces params value)) := by
      rw [← replaced, forms.replaceHash_pieces plain value wellFormed]
    _ = sourceOf (chosenForm value (forms.pieces params value)) := spelled

mutual

theorem MessageTree.resolve_print (plain : PlainParams params) : (tree : MessageTree) →
    tree.WellFormed → DefinesAll params tree.blockNames → (more : List Char) →
    resolve params (tree.print ++ more) = sourceOf (tree.pieces params ['#']) ++ resolve params more
  | .done, _, _, _ => rfl
  | .text text rest, wellFormed, defined, more => by
    rw [MessageTree.print, MessageTree.pieces, sourceOf_append, sourceOf_plain, replaceHash_self,
      List.append_assoc, List.append_assoc, resolve_append wellFormed.1,
      rest.resolve_print plain wellFormed.2 defined more]
  | .token name rest, wellFormed, defined, more => by
    obtain ⟨word, later⟩ := wellFormed
    have braceless : ∀ c ∈ name, isBrace c = false := fun c inside =>
      isBrace_of_isWordChar (word.made c inside)
    have spelled : (MessageTree.token name rest).print ++ more =
        '\x7b' :: (name ++ '\x7d' :: (rest.print ++ more)) := by simp [MessageTree.print]
    have noBlock : pluralOpening? (name ++ '\x7d' :: (rest.print ++ more)) = none :=
      pluralOpening?_closed fun _ _ header start => header.not_prefix_of_word word start
    rw [spelled, resolve_cons fun _ => noBlock, resolve_append braceless, resolve_closing,
      rest.resolve_print plain later defined more, MessageTree.pieces, sourceOf, sourceOf,
      List.flatMap_cons]
    simp [BracedPiece.source]
  | .plural name forms rest, wellFormed, defined, more => by
    obtain ⟨word, distinct, inside, later⟩ := wellFormed
    obtain ⟨defined, definedLater⟩ := List.forall_mem_append.mp defined
    obtain ⟨here, definedInside⟩ := List.forall_mem_cons.mp defined
    obtain ⟨value, known⟩ := Option.isSome_iff_exists.mp here
    have spelled : (MessageTree.plural name forms rest).print ++ more = '\x7b' :: name ++
        ", plural,".toList ++ (forms.print ++ '\x7d' :: (rest.print ++ more)) := by
      simp [MessageTree.print]
    -- All that follows the header is resolved before the block is closed and chosen from.
    have inner : resolve params (forms.print ++ '\x7d' :: (rest.print ++ more)) =
        forms.resolved params ++
          '\x7d' :: (sourceOf (rest.pieces params ['#']) ++ resolve params more) := by
      rw [forms.resolve_print plain inside definedInside, resolve_closing,
        rest.resolve_print plain later definedLater more]
    have closed := (PluralForms.balanced_resolved plain inside).closing?_eq
      (sourceOf (rest.pieces params ['#']) ++ resolve params more)
    rw [← inner] at closed
    rw [spelled, resolve_block word known closed,
      PluralForms.select_resolved plain value.toList inside distinct, MessageTree.pieces, known,
      sourceOf_append, List.append_assoc]

theorem PluralForms.resolve_print (plain : PlainParams params) : (forms : PluralForms) →
    forms.WellFormed → DefinesAll params forms.blockNames → (more : List Char) →
    resolve params (forms.print ++ more) = forms.resolved params ++ resolve params more
  | .done, _, _, _ => rfl
  | .form keyword content rest, wellFormed, defined, more => by
    obtain ⟨solid, noHeader, inside, later⟩ := wellFormed
    obtain ⟨definedInside, definedLater⟩ := List.forall_mem_append.mp defined
    have braceless : ∀ c ∈ ' ' :: keyword, isBrace c = false :=
      List.forall_mem_cons.mpr ⟨by decide, fun c member => (solid c member).1⟩
    have spelled : (PluralForms.form keyword content rest).print ++ more =
        ' ' :: keyword ++ '\x7b' :: (content.print ++ '\x7d' :: (rest.print ++ more)) := by
      simp [PluralForms.print]
    rw [spelled, resolve_append braceless, resolve_cons fun _ => pluralOpening?_closed noHeader,
      content.resolve_print plain inside definedInside, resolve_closing,
      rest.resolve_print plain later definedLater more]
    simp [PluralForms.resolved, PluralForms.pieces, spelledForms, formsText]

end

theorem plainParams_of_entries
    (plain : ∀ entry ∈ params.entries, entry.2.toList.all fun c => !isBrace c && c != '#') :
    PlainParams params := by
  intro name value known c inside
  obtain ⟨entry, found, rfl⟩ := Option.map_eq_some_iff.mp known
  have each := List.all_eq_true.mp (plain entry (List.mem_of_find?_eq_some found)) c inside
  simpa using each

/-- Formatting a message gives what its author means. -/
theorem formatMessage_print {tree : MessageTree} {params : Params} (wellFormed : tree.WellFormed)
    (defined : DefinesAll params tree.blockNames) (plain : PlainParams params) :
    formatMessage (String.ofList tree.print) params =
      String.ofList (tree.evaluate params ['#']) := by
  have resolved : resolve params tree.print = sourceOf (tree.pieces params ['#']) := by
    have whole := tree.resolve_print plain wellFormed defined []
    rw [List.append_nil] at whole
    rw [whole, resolve_nil, List.append_nil]
  rw [formatMessage, String.toList_ofList, ← resolve, resolved,
    bracedPieces_sourceOf (tree.clean_pieces plain plain_hash wellFormed),
    tree.fill_pieces ['#'] defined]

theorem formatMessage_print_nested :
    ∃ tree : MessageTree,
      tree.print = ("\x7ba, plural, =1\x7bone a\x7d other\x7b# a and " ++
        "\x7bb, plural, =0\x7bno b\x7d other\x7b# b\x7d\x7d\x7d\x7d; " ++
        "\x7bb, plural, other\x7b\x7bb\x7d b\x7d\x7d").toList ∧
      tree.WellFormed ∧
      DefinesAll ⟨[("a", "2"), ("b", "0")]⟩ tree.blockNames ∧
      PlainParams ⟨[("a", "2"), ("b", "0")]⟩ ∧
      formatMessage (String.ofList tree.print) ⟨[("a", "2"), ("b", "0")]⟩ = "2 a and no b; 0 b" := by
  obtain ⟨inner, shape⟩ : ∃ inner : PluralForms, inner =
    .form "=0".toList (.text "no b".toList .done)
      (.form "other".toList (.text "# b".toList .done) .done) := ⟨_, rfl⟩
  obtain ⟨tree, whole⟩ : ∃ tree : MessageTree, tree =
    .plural ['a'] (.form "=1".toList (.text "one a".toList .done)
        (.form "other".toList (.text "# a and ".toList (.plural ['b'] inner .done)) .done))
      (.text "; ".toList (.plural ['b']
        (.form "other".toList (.token ['b'] (.text " b".toList .done)) .done) .done)) := ⟨_, rfl⟩
  have word (c : Char) (made : isWordChar c = true) : IsWord [c] :=
    ⟨List.cons_ne_nil c [], fun d member => List.mem_singleton.mp member ▸ made⟩
  have wellFormedInner : inner.WellFormed := by
    rw [shape]
    exact ⟨forall_mem_of_all (by decide), fun _ _ header => header.not_prefix (by decide),
      ⟨forall_mem_of_all (by decide), trivial⟩, forall_mem_of_all (by decide),
      fun _ _ header => header.not_prefix (by decide), ⟨forall_mem_of_all (by decide), trivial⟩,
      trivial⟩
  have distinct : inner.keywords.Nodup := by
    rw [shape]
    decide
  subst shape
  have wellFormed : tree.WellFormed := by
    rw [whole]
    refine ⟨word 'a' (by decide), by decide,
      ⟨forall_mem_of_all (by decide), ?_, ⟨forall_mem_of_all (by decide), trivial⟩,
        forall_mem_of_all (by decide), ?_,
        ⟨forall_mem_of_all (by decide), word 'b' (by decide), distinct, wellFormedInner, trivial⟩,
        trivial⟩,
      forall_mem_of_all (by decide), word 'b' (by decide), by decide,
      ⟨forall_mem_of_all (by decide), ?_,
        ⟨word 'b' (by decide), forall_mem_of_all (by decide), trivial⟩, trivial⟩, trivial⟩
    · exact fun _ _ header => header.not_prefix (by decide)
    · exact fun _ _ header => header.not_prefix (by decide)
    · exact fun _ _ header => header.not_prefix (by decide)
  have defined : DefinesAll ⟨[("a", "2"), ("b", "0")]⟩ tree.blockNames := by
    rw [whole]
    unfold DefinesAll
    decide
  have plain : PlainParams ⟨[("a", "2"), ("b", "0")]⟩ := plainParams_of_entries (by decide)
  refine ⟨tree, ?_, wellFormed, defined, plain, ?_⟩
  · rw [whole]
    decide
  · rw [formatMessage_print wellFormed defined plain, whole]
    decide

end ScenarioRunner
