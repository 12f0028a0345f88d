import ScenarioRunner.Proofs.Message.Resolved

namespace ScenarioRunner

/-- No value has a character that means something in a message. -/
def PlainParams (params : Params) : Prop :=
  ∀ name value, params.get? name = some value → ∀ c ∈ value.toList, isBrace c = false ∧ c ≠ '#'

/-- All of the names have values. -/
def DefinesAll (params : Params) (names : List (List Char)) : Prop :=
  ∀ name ∈ names, (params.get? (String.ofList name)).isSome = true

mutual

/-- What is left of a message when its blocks are resolved: text and tokens. -/
def MessageTree.pieces (params : Params) (hash : List Char) : MessageTree → List BracedPiece
  | .done => []
  | .text text rest => (replaceHash hash text).map .plain ++ rest.pieces params hash
  | .token name rest => .token name :: rest.pieces params hash
  | .plural name forms rest =>
    (match params.get? (String.ofList name) with
      | some value => chosenForm value.toList (forms.pieces params value.toList)
      | none => []) ++ rest.pieces params hash

def PluralForms.pieces (params : Params) (hash : List Char) :
    PluralForms → List (List Char × List BracedPiece)
  | .done => []
  | .form keyword content rest => (keyword, content.pieces params hash) :: rest.pieces params hash

end

theorem lookup_map {α β : Type} (change : α → β) (forms : List (List Char × α))
    (keyword : List Char) : (forms.map fun form => (form.1, change form.2)).lookup keyword =
      (forms.lookup keyword).map change := by
  induction forms with
  | nil => rfl
  | cons form rest ih =>
    rw [List.map_cons, List.lookup_cons, List.lookup_cons, ih]
    cases keyword == form.1 <;> rfl

/-- A form may be changed before it is chosen or after. -/
theorem chosenForm_map {α β : Type} (change : List α → List β) (empty : change [] = [])
    (value : List Char) (forms : List (List Char × List α)) :
    chosenForm value (forms.map fun form => (form.1, change form.2)) =
      change (chosenForm value forms) := by
  have either (first second : Option (List α)) :
      ((first.map change).or (second.map change)).getD [] = change ((first.or second).getD []) := by
    cases first <;> cases second <;> simp [empty]
  unfold chosenForm
  rw [lookup_map, ← either]
  cases readInt64? (trim value) with
  | none => rfl
  | some n =>
    rw [Option.bind_some, lookup_map]
    rfl

/-- What holds of nothing and of each form holds of the form that is chosen. -/
theorem chosenForm_cases {α : Type} {motive : List α → Prop} (nothing : motive []) (value : List Char)
    {forms : List (List Char × List α)} (each : ∀ form ∈ forms, motive form.2) :
    motive (chosenForm value forms) := by
  have looked {keyword : List Char} {found : List α} (known : forms.lookup keyword = some found) :
      motive found := by
    obtain ⟨before, after, whole, _⟩ := List.lookup_eq_some_iff.mp known
    exact each (keyword, found) (by simp [whole])
  simp only [chosenForm]
  cases chosen : ((readInt64? (trim value)).bind fun n =>
      forms.lookup ('=' :: (toString n.toInt).toList)).or (forms.lookup "other".toList) with
  | none => exact nothing
  | some found =>
    rcases Option.or_eq_some_iff.mp chosen with exact | ⟨_, other⟩
    · obtain ⟨n, _, known⟩ := Option.bind_eq_some_iff.mp exact
      exact looked known
    · exact looked other

theorem mem_chosenForm {α : Type} {value : List Char} {forms : List (List Char × List α)} {a : α}
    (member : a ∈ chosenForm value forms) : ∃ form ∈ forms, a ∈ form.2 :=
  chosenForm_cases (motive := fun found => a ∈ found → ∃ form ∈ forms, a ∈ form.2)
    (fun inside => nomatch inside) value (fun form listed inside => ⟨form, listed, inside⟩) member

theorem BracedPiece.Clean.balanced {piece : BracedPiece} (clean : piece.Clean) :
    Balanced piece.source := by
  cases piece with
  | plain c => exact .char clean
  | token name =>
    exact (Balanced.chars fun c member => isBrace_of_isWordChar (clean.made c member)).braced

theorem balanced_sourceOf {pieces : List BracedPiece} (clean : ∀ piece ∈ pieces, piece.Clean) :
    Balanced (sourceOf pieces) := by
  induction pieces with
  | nil => exact .nil
  | cons piece rest ih =>
    obtain ⟨here, later⟩ := List.forall_mem_cons.mp clean
    exact here.balanced.append (ih later)

variable {params : Params}

mutual

theorem MessageTree.fill_pieces (hash : List Char) : (tree : MessageTree) →
    DefinesAll params tree.blockNames →
    (tree.pieces params hash).flatMap (·.fill params) = tree.evaluate params hash
  | .done, _ => rfl
  | .text text rest, defined => by
    rw [MessageTree.pieces, MessageTree.evaluate, List.flatMap_append,
      rest.fill_pieces hash defined, List.flatMap_map]
    congr 1
    exact List.flatMap_singleton' _
  | .token name rest, defined => by
    rw [MessageTree.pieces, MessageTree.evaluate, List.flatMap_cons, rest.fill_pieces hash defined]
    rfl
  | .plural name forms rest, defined => by
    obtain ⟨inside, later⟩ := List.forall_mem_append.mp defined
    obtain ⟨here, inside⟩ := List.forall_mem_cons.mp inside
    obtain ⟨value, known⟩ := Option.isSome_iff_exists.mp here
    rw [MessageTree.pieces, MessageTree.evaluate, known, List.flatMap_append,
      rest.fill_pieces hash later]
    have chosen := chosenForm_map (List.flatMap fun piece => piece.fill params) rfl value.toList
      (forms.pieces params value.toList)
    rw [← chosen, forms.fill_pieces value.toList inside]

theorem PluralForms.fill_pieces (hash : List Char) : (forms : PluralForms) →
    DefinesAll params forms.blockNames →
    (forms.pieces params hash).map (fun form => (form.1, form.2.flatMap (·.fill params))) =
      forms.evaluate params hash
  | .done, _ => rfl
  | .form keyword content rest, defined => by
    obtain ⟨inside, later⟩ := List.forall_mem_append.mp defined
    rw [PluralForms.pieces, PluralForms.evaluate, List.map_cons, content.fill_pieces hash inside,
      rest.fill_pieces hash later]

end

/-- Holds of all that a text or a value is made of, and of tokens. -/
structure HoldsOfPieces (ok : BracedPiece → Prop) : Prop where
  text : ∀ c, isBrace c = false → c ≠ '#' → ok (.plain c)
  token : ∀ name, IsWord name → ok (.token name)

mutual

/-- What holds of texts, values and tokens holds of all that is left of a message. -/
theorem MessageTree.forall_pieces {ok : BracedPiece → Prop} (holds : HoldsOfPieces ok)
    (plain : PlainParams params) {hash : List Char} (ofHash : ∀ c ∈ hash, ok (.plain c)) :
    (tree : MessageTree) → tree.WellFormed → ∀ piece ∈ tree.pieces params hash, ok piece
  | .done, _ => fun _ member => nomatch member
  | .text content rest, wellFormed => by
    obtain ⟨braceless, later⟩ := wellFormed
    refine List.forall_mem_append.mpr ⟨?_, rest.forall_pieces holds plain ofHash later⟩
    intro piece member
    obtain ⟨c, replaced, rfl⟩ := List.mem_map.mp member
    obtain ⟨d, inside, made⟩ := List.mem_flatMap.mp replaced
    split at made
    · exact ofHash c made
    · rename_i other
      cases List.mem_singleton.mp made
      exact holds.text c (braceless c inside) other
  | .token name rest, wellFormed =>
    List.forall_mem_cons.mpr
      ⟨holds.token name wellFormed.1, rest.forall_pieces holds plain ofHash wellFormed.2⟩
  | .plural name forms rest, wellFormed => by
    obtain ⟨_, _, inside, later⟩ := wellFormed
    refine List.forall_mem_append.mpr ⟨?_, rest.forall_pieces holds plain ofHash later⟩
    cases known : params.get? (String.ofList name) with
    | none => exact fun _ member => nomatch member
    | some value =>
      intro piece member
      obtain ⟨form, listed, inForm⟩ := mem_chosenForm member
      have ofValue : ∀ c ∈ value.toList, ok (.plain c) := fun c inValue =>
        holds.text c (plain _ _ known c inValue).1 (plain _ _ known c inValue).2
      exact forms.forall_pieces holds plain ofValue inside form listed piece inForm

theorem PluralForms.forall_pieces {ok : BracedPiece → Prop} (holds : HoldsOfPieces ok)
    (plain : PlainParams params) {hash : List Char} (ofHash : ∀ c ∈ hash, ok (.plain c)) :
    (forms : PluralForms) → forms.WellFormed →
    ∀ form ∈ forms.pieces params hash, ∀ piece ∈ form.2, ok piece
  | .done, _ => fun _ member => nomatch member
  | .form keyword content rest, wellFormed => by
    obtain ⟨_, _, inside, later⟩ := wellFormed
    exact List.forall_mem_cons.mpr ⟨content.forall_pieces holds plain ofHash inside,
      rest.forall_pieces holds plain ofHash later⟩

end

theorem holdsOfPieces_clean : HoldsOfPieces BracedPiece.Clean :=
  ⟨fun _ braceless _ => braceless, fun _ word => word⟩

theorem MessageTree.clean_pieces (plain : PlainParams params) {hash : List Char}
    (plainHash : ∀ c ∈ hash, isBrace c = false) (tree : MessageTree)
    (wellFormed : tree.WellFormed) : ∀ piece ∈ tree.pieces params hash, piece.Clean :=
  tree.forall_pieces holdsOfPieces_clean plain plainHash wellFormed

theorem PluralForms.clean_pieces (plain : PlainParams params) {hash : List Char}
    (plainHash : ∀ c ∈ hash, isBrace c = false) (forms : PluralForms)
    (wellFormed : forms.WellFormed) : ∀ form ∈ forms.pieces params hash, ∀ piece ∈ form.2, piece.Clean :=
  forms.forall_pieces holdsOfPieces_clean plain plainHash wellFormed

theorem PluralForms.map_fst_pieces (hash : List Char) :
    (forms : PluralForms) → (forms.pieces params hash).map Prod.fst = forms.keywords
  | .done => rfl
  | .form keyword _ rest => congrArg (keyword :: ·) (rest.map_fst_pieces hash)

theorem PluralForms.plain_keywords : (forms : PluralForms) → forms.WellFormed →
    ∀ keyword ∈ forms.keywords, ∀ c ∈ keyword, isBrace c = false ∧ isBlank c = false
  | .done, _ => fun _ member => nomatch member
  | .form _ _ rest, wellFormed =>
    List.forall_mem_cons.mpr ⟨wellFormed.1, rest.plain_keywords wellFormed.2.2.2⟩

theorem replaceHash_append (hash first second : List Char) :
    replaceHash hash (first ++ second) = replaceHash hash first ++ replaceHash hash second :=
  List.flatMap_append

theorem replaceHash_of_free {hash text : List Char} (free : ∀ c ∈ text, c ≠ '#') :
    replaceHash hash text = text := by
  induction text with
  | nil => rfl
  | cons c rest ih =>
    obtain ⟨here, later⟩ := List.forall_mem_cons.mp free
    rw [← List.singleton_append, replaceHash_append, ih later, replaceHash, List.flatMap_singleton,
      if_neg here]

theorem replaceHash_self (text : List Char) : replaceHash ['#'] text = text := by
  unfold replaceHash
  have same (c : Char) : (if c = '#' then ['#'] else [c]) = [c] := by
    split
    · rename_i hash
      rw [hash]
    · rfl
  simp only [same, List.flatMap_singleton']

theorem plain_hash : ∀ c ∈ ['#'], isBrace c = false := List.forall_mem_singleton.mpr (by decide)

theorem hashFree_token {name : List Char} (word : IsWord name) :
    ∀ c ∈ (BracedPiece.token name).source, c ≠ '#' := by
  intro c member
  simp only [BracedPiece.source, List.cons_append, List.mem_cons, List.mem_append, List.not_mem_nil,
    or_false] at member
  rcases member with rfl | inside | rfl
  · decide
  · rintro rfl
    exact absurd (word.made _ inside) (by decide)
  · decide

/-- No `#` is left in what a block becomes. -/
theorem hashFree_chosenForm (plain : PlainParams params) {name : String} {value : String}
    (known : params.get? name = some value) {forms : PluralForms} (wellFormed : forms.WellFormed) :
    ∀ c ∈ sourceOf (chosenForm value.toList (forms.pieces params value.toList)), c ≠ '#' := by
  have holds : HoldsOfPieces fun piece => ∀ c ∈ piece.source, c ≠ '#' :=
    ⟨fun c _ other => by simpa [BracedPiece.source] using other, fun _ word => hashFree_token word⟩
  have ofValue : ∀ c ∈ value.toList, ∀ d ∈ (BracedPiece.plain c).source, d ≠ '#' := fun c inside => by
    simpa [BracedPiece.source] using (plain _ _ known c inside).2
  have free := forms.forall_pieces holds plain ofValue wellFormed
  intro c member
  obtain ⟨piece, chosen, inPiece⟩ := List.mem_flatMap.mp member
  obtain ⟨form, listed, inForm⟩ := mem_chosenForm chosen
  exact free form listed piece inForm c inPiece

/-- `#` may be replaced before a form is resolved or after: no block inside leaves one. -/
theorem MessageTree.replaceHash_pieces (plain : PlainParams params) (value : List Char) :
    (tree : MessageTree) → tree.WellFormed →
    replaceHash value (sourceOf (tree.pieces params ['#'])) = sourceOf (tree.pieces params value)
  | .done, _ => rfl
  | .text content rest, wellFormed => by
    rw [MessageTree.pieces, MessageTree.pieces, sourceOf_append, sourceOf_append,
      replaceHash_append, rest.replaceHash_pieces plain value wellFormed.2, sourceOf_plain,
      sourceOf_plain, replaceHash_self]
  | .token name rest, wellFormed => by
    rw [MessageTree.pieces, MessageTree.pieces, sourceOf, sourceOf, List.flatMap_cons,
      List.flatMap_cons, replaceHash_append, replaceHash_of_free (hashFree_token wellFormed.1)]
    exact congrArg _ (rest.replaceHash_pieces plain value wellFormed.2)
  | .plural name forms rest, wellFormed => by
    obtain ⟨_, _, inside, later⟩ := wellFormed
    rw [MessageTree.pieces, MessageTree.pieces, sourceOf_append, sourceOf_append,
      replaceHash_append, rest.replaceHash_pieces plain value later]
    congr 1
    cases known : params.get? (String.ofList name) with
    | none => rfl
    | some other =>
      -- In a block each `#` has become the value of its own parameter.
      exact replaceHash_of_free (hashFree_chosenForm plain known inside)

/-- The forms, each with the spelling of what is left of it. -/
def spelledForms (forms : List (List Char × List BracedPiece)) : List (List Char × List Char) :=
  forms.map fun form => (form.1, sourceOf form.2)

theorem PluralForms.replaceHash_pieces (plain : PlainParams params) (value : List Char) :
    (forms : PluralForms) → forms.WellFormed →
    (spelledForms (forms.pieces params ['#'])).map (fun form => (form.1, replaceHash value form.2)) =
      spelledForms (forms.pieces params value)
  | .done, _ => rfl
  | .form keyword content rest, wellFormed => by
    obtain ⟨_, _, inside, later⟩ := wellFormed
    have here := content.replaceHash_pieces plain value inside
    have others := rest.replaceHash_pieces plain value later
    rw [spelledForms, spelledForms, List.map_map] at others
    rw [PluralForms.pieces, PluralForms.pieces, spelledForms, spelledForms, List.map_map,
      List.map_cons, List.map_cons, others, Function.comp_apply, here]

end ScenarioRunner
