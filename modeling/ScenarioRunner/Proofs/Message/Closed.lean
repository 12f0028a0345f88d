import ScenarioRunner.Proofs.Message.Joined

namespace ScenarioRunner

/-- The opening of a block of a known parameter. -/
def PluralPiece.isKnown (params : Params) : PluralPiece → Bool
  | .plain _ => false
  | .opening name _ => (params.get? (String.ofList name)).isSome

@[simp]
theorem PluralPiece.isKnown_plain (params : Params) (c : Char) :
    (PluralPiece.plain c).isKnown params = false := rfl

@[simp]
theorem PluralPiece.isKnown_opening (params : Params) (name source : List Char) :
    (PluralPiece.opening name source).isKnown params =
      (params.get? (String.ofList name)).isSome := rfl

/-- Each block of a known parameter is closed when everything behind its header has been resolved. -/
def ClosesBlocks (params : Params) : List PluralPiece → Prop
  | [] => True
  | piece :: rest =>
    (piece.isKnown params = true → (closing? 0 (resolveBlocks params rest)).isSome = true) ∧
      ClosesBlocks params rest

variable {params : Params}

theorem resolveBlocks_cons_of_unknown {piece : PluralPiece} (unknown : piece.isKnown params = false)
    (rest : List PluralPiece) :
    resolveBlocks params (piece :: rest) = piece.source ++ resolveBlocks params rest := by
  cases piece with
  | plain c => rfl
  | opening name source =>
    have missing : params.get? (String.ofList name) = none := by
      simpa using unknown
    simp [resolveBlocks, missing, PluralPiece.source]

theorem resolveBlocks_opening {name source body after : List Char} {rest : List PluralPiece}
    {value : String} (known : params.get? (String.ofList name) = some value)
    (closed : closing? 0 (resolveBlocks params rest) = some (body, after)) :
    resolveBlocks params (.opening name source :: rest) =
      replaceHash value.toList (selectForm (pluralRules body) value.toList) ++ after := by
  simp only [resolveBlocks, known, closed]
  rfl

theorem closesBlocks_of_unknown {pieces : List PluralPiece}
    (unknown : ∀ piece ∈ pieces, piece.isKnown params = false) : ClosesBlocks params pieces := by
  induction pieces with
  | nil => trivial
  | cons piece rest ih =>
    obtain ⟨here, later⟩ := List.forall_mem_cons.mp unknown
    exact ⟨fun known => (Bool.false_ne_true (here.symm.trans known)).elim, ih later⟩

theorem resolveBlocks_of_unknown {pieces : List PluralPiece}
    (unknown : ∀ piece ∈ pieces, piece.isKnown params = false) :
    resolveBlocks params pieces = pieces.flatMap (·.source) := by
  induction pieces with
  | nil => rfl
  | cons piece rest ih =>
    obtain ⟨here, later⟩ := List.forall_mem_cons.mp unknown
    rw [resolveBlocks_cons_of_unknown here, ih later, List.flatMap_cons]

/-- What is read first is resolved on its own if its blocks are closed on their own. -/
theorem resolveBlocks_append {pieces : List PluralPiece} (closes : ClosesBlocks params pieces)
    (more : List PluralPiece) :
    resolveBlocks params (pieces ++ more) =
      resolveBlocks params pieces ++ resolveBlocks params more := by
  induction pieces with
  | nil => rfl
  | cons piece rest ih =>
    obtain ⟨here, later⟩ := closes
    have behind := ih later
    by_cases known : piece.isKnown params = true
    · obtain ⟨⟨body, after⟩, closed⟩ := Option.isSome_iff_exists.mp (here known)
      have still := closing?_of_prefix closed (resolveBlocks params more)
      rw [← behind] at still
      cases piece with
      | plain c => cases known
      | opening name source =>
        obtain ⟨value, given⟩ := Option.isSome_iff_exists.mp known
        rw [List.cons_append, resolveBlocks_opening given still, resolveBlocks_opening given closed,
          List.append_assoc]
    · rw [Bool.not_eq_true] at known
      rw [List.cons_append, resolveBlocks_cons_of_unknown known, resolveBlocks_cons_of_unknown known,
        behind, List.append_assoc]

theorem ClosesBlocks.plain {pieces : List PluralPiece} (closes : ClosesBlocks params pieces) (c : Char) :
    ClosesBlocks params (.plain c :: pieces) :=
  ⟨fun known => (Bool.false_ne_true known).elim, closes⟩

theorem ClosesBlocks.append {pieces more : List PluralPiece} (closes : ClosesBlocks params pieces)
    (behind : ClosesBlocks params more) : ClosesBlocks params (pieces ++ more) := by
  induction pieces with
  | nil => exact behind
  | cons piece rest ih =>
    obtain ⟨here, later⟩ := closes
    refine ⟨fun known => ?_, ih later⟩
    obtain ⟨⟨body, after⟩, closed⟩ := Option.isSome_iff_exists.mp (here known)
    have still := closing?_of_prefix closed (resolveBlocks params more)
    rw [← resolveBlocks_append later] at still
    exact Option.isSome_iff_exists.mpr ⟨_, still⟩

/-- A text that closes its own blocks is resolved on its own. -/
theorem resolve_apart {text more : List Char} (apart : Apart text more)
    (closes : ClosesBlocks params (pluralPieces text)) :
    resolve params (text ++ more) = resolve params text ++ resolve params more := by
  rw [resolve, pluralPieces_append apart, resolveBlocks_append closes]
  rfl

theorem balanced_of_mem_pluralRules {body : List Char} {rule : List Char × List Char}
    (member : rule ∈ pluralRules body) : Balanced rule.2 := by
  induction body using body_induction with
  | uncut body cut =>
    rw [pluralRules_of_uncut cut] at member
    cases member
  | unclosed body keyword rest cut missing =>
    rw [pluralRules_of_unclosed cut missing] at member
    cases member
  | closed body keyword rest form after cut found ih =>
    rw [pluralRules_of_closed cut found] at member
    split at member
    · exact ih member
    · rcases List.mem_cons.mp member with rfl | later
      · exact balanced_of_closing found
      · exact ih later

theorem balanced_selectForm (body value : List Char) :
    Balanced (selectForm (pluralRules body) value) :=
  chosenForm_cases .nil value fun _ listed =>
    balanced_of_mem_pluralRules (List.mem_reverse.mp listed)

theorem Balanced.replaceHash {text value : List Char} (balanced : Balanced text)
    (values : '#' ∈ text → Balanced value) : Balanced (replaceHash value text) := by
  have closed := balanced.closing?_eq []
  have plain : isBrace '#' = false := by decide
  have replaced := closing?_replaceMark plain closed values
  exact balanced_of_closing replaced

theorem hash_mem_of_resolve {text : List Char} (member : '#' ∈ resolve params text) : '#' ∈ text := by
  by_contra absent
  have noHash : ∀ piece ∈ pluralPieces text, '#' ∉ piece.source := fun piece known inside =>
    absent (mem_of_mem_pluralPieces known inside)
  obtain ⟨piece, known, inside⟩ := mem_of_mem_resolveBlocks noHash member
  exact noHash piece known inside

theorem closesBlocks_enclosed {inner rest : List Char} (inside : Balanced inner)
    (within : ClosesBlocks params (pluralPieces inner))
    (behind : ClosesBlocks params (pluralPieces rest)) :
    ClosesBlocks params (pluralPieces (inner ++ '\x7d' :: rest)) := by
  rw [pluralPieces_append (inside.apart _),
    pluralPieces_of_plain fun opening => absurd opening (by decide)]
  exact within.append (behind.plain _)

/-- Blocks are closed by the braces that close them in the message, if the values that `#` stands for
have matching braces. -/
theorem closesBlocks_of_balanced {text : List Char} (balanced : Balanced text)
    (values : '#' ∈ text → ∀ name value, params.get? name = some value → Balanced value.toList) :
    ClosesBlocks params (pluralPieces text) ∧ Balanced (resolve params text) := by
  induction balanced using Balanced.induction with
  | nil =>
    rw [pluralPieces, resolve_nil]
    exact ⟨trivial, .nil⟩
  | char c rest plain _ ih =>
    obtain ⟨closes, resolved⟩ := ih fun member => values (List.mem_cons_of_mem _ member)
    have noBlock : c = '\x7b' → pluralOpening? rest = none := fun opening =>
      absurd opening (isBrace_eq_false_iff.mp plain).1
    rw [pluralPieces_of_plain noBlock, resolve_cons noBlock]
    exact ⟨closes.plain c, (Balanced.char plain).append resolved⟩
  | block name header inner rest spelled inside _ ihInner ihRest =>
    obtain ⟨within, resolvedInner⟩ := ihInner fun member => values (by simp [member])
    obtain ⟨behind, resolvedRest⟩ := ihRest fun member => values (by simp [member])
    -- Everything behind the header is resolved first, and leaves the brace of the block in its place.
    have closed : closing? 0 (resolve params (inner ++ '\x7d' :: rest)) =
        some (resolve params inner, resolve params rest) := by
      rw [resolve_apart (inside.apart _) within, resolve_closing]
      exact resolvedInner.closing?_eq _
    rw [resolve, pluralPieces_header spelled]
    refine ⟨⟨fun _ => Option.isSome_iff_exists.mpr ⟨_, closed⟩,
      closesBlocks_enclosed inside within behind⟩, ?_⟩
    cases given : params.get? (String.ofList name) with
    | none =>
      have kept : resolve params (inner ++ '\x7d' :: rest) =
          resolve params inner ++ '\x7d' :: resolve params rest := closing?_eq_some closed
      rw [resolveBlocks_cons_of_unknown (by simp [given]), ← resolve, kept]
      exact resolvedInner.block spelled resolvedRest
    | some value =>
      rw [resolveBlocks_opening given closed]
      have form := (balanced_selectForm (resolve params inner) value.toList).replaceHash
        fun member => values (by
          have chosen := hash_mem_of_resolve ((isInfix_selectForm _ _).subset member)
          simp [chosen]) _ _ given
      exact form.append resolvedRest
  | braces inner rest noHeader inside _ ihInner ihRest =>
    obtain ⟨within, resolvedInner⟩ := ihInner fun member => values (by simp [member])
    obtain ⟨behind, resolvedRest⟩ := ihRest fun member => values (by simp [member])
    have noBlock : pluralOpening? (inner ++ '\x7d' :: rest) = none := pluralOpening?_closed noHeader
    rw [pluralPieces_of_plain fun _ => noBlock, resolve_cons fun _ => noBlock,
      resolve_apart (inside.apart _) within, resolve_closing]
    exact ⟨(closesBlocks_enclosed inside within behind).plain _,
      resolvedInner.enclosed resolvedRest⟩

end ScenarioRunner
