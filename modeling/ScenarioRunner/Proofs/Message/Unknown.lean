import ScenarioRunner.Proofs.Message.Closed

namespace ScenarioRunner

/-- The token of a known parameter. -/
def BracedPiece.isKnown (params : Params) : BracedPiece → Bool
  | .plain _ => false
  | .token name => (params.get? (String.ofList name)).isSome

@[simp]
theorem BracedPiece.isKnown_plain (params : Params) (c : Char) :
    (BracedPiece.plain c).isKnown params = false := rfl

@[simp]
theorem BracedPiece.isKnown_token (params : Params) (name : List Char) :
    (BracedPiece.token name).isKnown params = (params.get? (String.ofList name)).isSome := rfl

/-- Somewhere in the text, at any depth, a block opens for a known parameter, or the name of one
stands between braces. -/
def MentionsKnown (params : Params) (text : List Char) : Bool :=
  (pluralPieces text).any (·.isKnown params) || (bracedPieces text).any (·.isKnown params)

/-- A whole block as it is spelled. What stands behind its header has matching braces. -/
inductive PluralBlock (name body : List Char) : List Char → Prop
  | spelled (header : List Char) : PluralHeader name header → Balanced body →
    PluralBlock name body ('\x7b' :: header ++ (body ++ ['\x7d']))

variable {params : Params}

theorem BracedPiece.fill_of_unknown {piece : BracedPiece} (unknown : piece.isKnown params = false) :
    piece.fill params = piece.source := by
  cases piece with
  | plain c => rfl
  | token name =>
    have missing : params.get? (String.ofList name) = none := by
      simpa using unknown
    simp [BracedPiece.fill, missing]

theorem fillTokens_of_unknown {text : List Char}
    (unknown : ∀ piece ∈ bracedPieces text, piece.isKnown params = false) :
    fillTokens params text = text := by
  have filled : fillTokens params text = sourceOf (bracedPieces text) :=
    List.flatMap_congr fun piece member => BracedPiece.fill_of_unknown (unknown piece member)
  rw [filled, sourceOf_bracedPieces]

theorem not_mentionsKnown_iff {text : List Char} : MentionsKnown params text = false ↔
    (∀ piece ∈ pluralPieces text, piece.isKnown params = false) ∧
      ∀ piece ∈ bracedPieces text, piece.isKnown params = false := by
  simp [MentionsKnown]

theorem PluralBlock.pluralPieces_eq {name body block : List Char}
    (spelled : PluralBlock name body block) :
    ∃ source, pluralPieces block = .opening name source :: (pluralPieces body ++ [.plain '\x7d']) := by
  obtain ⟨header, start, inside⟩ := spelled
  have last : pluralPieces ['\x7d'] = [.plain '\x7d'] := by
    rw [pluralPieces_of_plain fun opening => absurd opening (by decide), pluralPieces]
  exact ⟨_, by rw [pluralPieces_header start, pluralPieces_append (inside.apart _), last]⟩

theorem PluralBlock.bracedPieces_eq {name body block : List Char}
    (spelled : PluralBlock name body block) :
    ∃ header : List Char, bracedPieces block =
      header.map .plain ++ (bracedPieces body ++ [.plain '\x7d']) := by
  obtain ⟨header, start, inside⟩ := spelled
  have braceless := fun c (member : c ∈ header) => isBrace_eq_false_iff.mp (start.isBrace_eq_false member)
  have noToken : ¬ BeginsToken ('\x7b' :: (header ++ (body ++ ['\x7d']))) := by
    rw [beginsToken_cons_iff]
    rintro ⟨_, word, rest, read⟩
    obtain ⟨isWord, whole⟩ := bracedWord?_eq_some_iff.mp read
    have opens := start.opening (body ++ ['\x7d'])
    rw [whole, pluralOpening?_closed fun _ _ other => other.not_prefix_of_word isWord] at opens
    cases opens
  have last : bracedPieces ['\x7d'] = [.plain '\x7d'] := by
    simp [bracedPieces]
  refine ⟨'\x7b' :: header, ?_⟩
  rw [List.cons_append, bracedPieces_plain noToken,
    bracedPieces_of_no_opening fun member => (braceless _ member).1 rfl,
    bracedPieces_append (inside.apart _), last]
  rfl

/-- A block mentions its own parameter and those that its forms mention. -/
theorem PluralBlock.mentionsKnown {name body block : List Char} (spelled : PluralBlock name body block) :
    MentionsKnown params block =
      ((params.get? (String.ofList name)).isSome || MentionsKnown params body) := by
  obtain ⟨source, blocks⟩ := spelled.pluralPieces_eq
  obtain ⟨header, tokens⟩ := spelled.bracedPieces_eq
  have noToken : (header.map BracedPiece.plain).any (·.isKnown params) = false := by
    simp [List.any_eq_false]
  simp only [MentionsKnown, blocks, tokens, List.any_cons, List.any_append, noToken, List.any_nil,
    PluralPiece.isKnown_opening, PluralPiece.isKnown_plain, BracedPiece.isKnown_plain, Bool.or_false,
    Bool.false_or, Bool.or_assoc]

/-- The parameters under the same names, with nothing for values. -/
def emptied (params : Params) : Params := ⟨params.entries.map fun entry => (entry.1, "")⟩

theorem get?_emptied (params : Params) (name : String) :
    (emptied params).get? name = (params.get? name).map fun _ => "" := by
  simp [emptied, KeyedList.get?, List.find?_map, Function.comp_def]

theorem isSome_emptied (params : Params) (name : String) :
    ((emptied params).get? name).isSome = (params.get? name).isSome := by
  rw [get?_emptied, Option.isSome_map]

theorem value_emptied {name value : String} (given : (emptied params).get? name = some value) :
    value = "" := by
  rw [get?_emptied] at given
  obtain ⟨_, _, rfl⟩ := Option.map_eq_some_iff.mp given
  rfl

theorem length_replaceHash_nil (text : List Char) : (replaceHash [] text).length ≤ text.length := by
  induction text with
  | nil => exact le_rfl
  | cons c rest ih =>
    rw [← List.singleton_append, replaceHash_append, List.length_append, List.length_append]
    have here : (replaceHash [] [c]).length ≤ 1 := by
      unfold replaceHash
      rw [List.flatMap_singleton]
      split <;> simp
    exact Nat.add_le_add here ih

/-- Each block of a known parameter that is resolved to nothing but a form is shorter than it was. -/
theorem length_resolveBlocks_emptied {pieces : List PluralPiece}
    (closes : ClosesBlocks (emptied params) pieces) :
    (resolveBlocks (emptied params) pieces).length + pieces.countP (PluralPiece.isKnown (emptied params)) ≤
      (pieces.flatMap (·.source)).length := by
  induction pieces with
  | nil => exact le_rfl
  | cons piece rest ih =>
    obtain ⟨here, later⟩ := closes
    have behind := ih later
    rw [List.flatMap_cons, List.length_append]
    by_cases known : piece.isKnown (emptied params) = true
    · obtain ⟨⟨body, after⟩, closed⟩ := Option.isSome_iff_exists.mp (here known)
      cases piece with
      | plain c => cases known
      | opening name source =>
        obtain ⟨value, given⟩ := Option.isSome_iff_exists.mp known
        cases value_emptied given
        have whole := congrArg List.length (closing?_eq_some closed)
        have form := (isInfix_selectForm body []).length_le
        have clean := length_replaceHash_nil (selectForm (pluralRules body) [])
        rw [List.countP_cons_of_pos known, resolveBlocks_opening given closed]
        simp only [String.toList_empty, List.length_append, List.length_cons] at whole ⊢
        omega
    · rw [List.countP_cons_of_neg known, resolveBlocks_cons_of_unknown (by simpa using known),
        List.length_append]
      omega

theorem length_fillTokens_emptied (params : Params) (text : List Char) :
    (fillTokens (emptied params) text).length +
      (bracedPieces text).countP (BracedPiece.isKnown (emptied params)) ≤ text.length := by
  have filled (pieces : List BracedPiece) :
      (pieces.flatMap (·.fill (emptied params))).length +
        pieces.countP (BracedPiece.isKnown (emptied params)) ≤ (sourceOf pieces).length := by
    induction pieces with
    | nil => exact le_rfl
    | cons piece rest ih =>
      rw [sourceOf, List.flatMap_cons, List.flatMap_cons, List.length_append, List.length_append,
        ← sourceOf]
      by_cases known : piece.isKnown (emptied params) = true
      · cases piece with
        | plain c => cases known
        | token name =>
          obtain ⟨value, given⟩ := Option.isSome_iff_exists.mp known
          cases value_emptied given
          have nothing : (BracedPiece.token name).fill (emptied params) = [] := by
            rw [BracedPiece.fill, given]
            rfl
          have spelled : (BracedPiece.token name).source.length = name.length + 2 := by
            simp [BracedPiece.source]
          rw [List.countP_cons_of_pos known, nothing, spelled, List.length_nil]
          omega
      · rw [List.countP_cons_of_neg known, BracedPiece.fill_of_unknown (by simpa using known)]
        omega
  have whole := filled (bracedPieces text)
  rwa [sourceOf_bracedPieces] at whole

theorem PluralPiece.isKnown_emptied (piece : PluralPiece) :
    piece.isKnown (emptied params) = piece.isKnown params := by
  cases piece with
  | plain c => rfl
  | opening name source => exact isSome_emptied params _

theorem BracedPiece.isKnown_emptied (piece : BracedPiece) :
    piece.isKnown (emptied params) = piece.isKnown params := by
  cases piece with
  | plain c => rfl
  | token name => exact isSome_emptied params _

theorem mentionsKnown_emptied (text : List Char) :
    MentionsKnown (emptied params) text = MentionsKnown params text := by
  simp only [MentionsKnown, PluralPiece.isKnown_emptied, BracedPiece.isKnown_emptied]

/-- Without values, what mentions a known parameter becomes shorter. -/
theorem length_emptied_lt {text : List Char} (balanced : Balanced text)
    (mentions : MentionsKnown params text = true) :
    (fillTokens (emptied params) (resolve (emptied params) text)).length < text.length := by
  have balancedValues : ∀ name value, (emptied params).get? name = some value →
      Balanced value.toList := by
    intro name value given
    rw [value_emptied given]
    exact .nil
  have closes := (closesBlocks_of_balanced balanced fun _ => balancedValues).1
  have blocks := length_resolveBlocks_emptied closes
  rw [flatMap_source_pluralPieces, ← resolve] at blocks
  have tokens := length_fillTokens_emptied params (resolve (emptied params) text)
  rw [← mentionsKnown_emptied, MentionsKnown, Bool.or_eq_true, List.any_eq_true,
    List.any_eq_true] at mentions
  -- Where no block is known, blocks leave the text to its tokens.
  by_cases block : ∃ piece ∈ pluralPieces text, piece.isKnown (emptied params) = true
  · have opened := List.countP_pos_iff.mpr block
    omega
  · have noBlock : ∀ piece ∈ pluralPieces text, piece.isKnown (emptied params) = false :=
      fun piece member => Bool.eq_false_iff.mpr fun known => block ⟨piece, member, known⟩
    have kept : resolve (emptied params) text = text := by
      rw [resolve, resolveBlocks_of_unknown noBlock, flatMap_source_pluralPieces]
    have filled := List.countP_pos_iff.mpr (mentions.resolve_left block)
    rw [kept] at tokens ⊢
    omega

theorem PluralBlock.balanced {name body block : List Char} (spelled : PluralBlock name body block) :
    Balanced block := by
  obtain ⟨header, start, inside⟩ := spelled
  exact inside.block start .nil

theorem PluralBlock.head?_append {name body block : List Char} (spelled : PluralBlock name body block)
    (more : List Char) : (block ++ more).head? = some '\x7b' := by
  obtain ⟨header, start, inside⟩ := spelled
  rfl

/-- A block of an unknown parameter stays as it is if what stands in it mentions no known parameter,
and the texts before and behind it are formatted on their own. If one is mentioned, there are values for
the same names under which the block is lost. -/
theorem formatMessage_unknownBlock {name body : List Char} {before block after : String}
    {params : Params} (outermost : Balanced before.toList)
    (spelled : PluralBlock name body block.toList)
    (unknown : params.get? (String.ofList name) = none) :
    (MentionsKnown params body = false → ClosesBlocks params (pluralPieces before.toList) →
      formatMessage (before ++ block ++ after) params =
        formatMessage before params ++ block ++ formatMessage after params) ∧
      (MentionsKnown params body = true → ∃ other : Params,
        (∀ name, (other.get? name).isSome = (params.get? name).isSome) ∧
          ¬ block.toList <:+: (formatMessage block other).toList) := by
  have whole : MentionsKnown params block.toList = MentionsKnown params body := by
    rw [spelled.mentionsKnown, unknown]
    rfl
  constructor
  · intro silent closes
    rw [← whole, not_mentionsKnown_iff] at silent
    obtain ⟨noBlock, noToken⟩ := silent
    have resolved : resolve params block.toList = block.toList := by
      rw [resolve, resolveBlocks_of_unknown noBlock, flatMap_source_pluralPieces]
    have filled : fillTokens params (resolve params (before ++ block ++ after).toList) =
        fillTokens params (resolve params before.toList) ++ block.toList ++
          fillTokens params (resolve params after.toList) := by
      rw [String.toList_append, String.toList_append, List.append_assoc,
        resolve_apart (outermost.apart _) closes,
        resolve_apart (spelled.balanced.apart _) (closesBlocks_of_unknown noBlock), resolved,
        fillTokens_apart fun _ _ => .inr (spelled.head?_append _),
        fillTokens_apart (spelled.balanced.apart _), fillTokens_of_unknown noToken, List.append_assoc]
    have strings := congrArg String.ofList filled
    rwa [String.ofList_append, String.ofList_append, String.ofList_toList] at strings
  · intro mentioned
    rw [← whole] at mentioned
    refine ⟨emptied params, isSome_emptied params, fun inside => ?_⟩
    have shorter := length_emptied_lt spelled.balanced mentioned
    have longer := inside.length_le
    rw [formatMessage, String.toList_ofList] at longer
    exact absurd shorter (Nat.not_lt.mpr longer)

/-- One block that stays between texts that change, and one that mentions a known parameter. -/
theorem formatMessage_unknownBlock_both :
    let before := "\x7bn, plural, =1\x7bone\x7d other\x7b#\x7d\x7d of "
    let body := " =1\x7b\x7by\x7d\x7d other\x7b# \x7by\x7ds\x7d"
    let block := "\x7bx, plural, =1\x7b\x7by\x7d\x7d other\x7b# \x7by\x7ds\x7d\x7d"
    let params : Params := ⟨[("n", "5")]⟩
    let given : Params := ⟨[("y", "5")]⟩
    Balanced before.toList ∧ PluralBlock ['x'] body.toList block.toList ∧
      params.get? (String.ofList ['x']) = none ∧ MentionsKnown params body.toList = false ∧
      ClosesBlocks params (pluralPieces before.toList) ∧
      formatMessage (before ++ block ++ " \x7bn\x7d") params = "5 of " ++ block ++ " 5" ∧
      given.get? (String.ofList ['x']) = none ∧ MentionsKnown given body.toList = true ∧
      ∃ other : Params, (∀ name, (other.get? name).isSome = (given.get? name).isSome) ∧
        ¬ block.toList <:+: (formatMessage block other).toList := by
  intro before body block params given
  have outermost : Balanced before.toList := by decide +kernel
  have inside : Balanced body.toList := by decide +kernel
  have word : IsWord ['x'] := ⟨by decide, List.forall_mem_singleton.mpr (by decide)⟩
  have same : '\x7b' :: (['x'] ++ ", plural,".toList) ++ (body.toList ++ ['\x7d']) = block.toList := by
    decide
  have spelled : PluralBlock ['x'] body.toList block.toList := same ▸ .spelled _ word.header inside
  have unknown : params.get? (String.ofList ['x']) = none := by decide
  have silent : MentionsKnown params body.toList = false := by decide +kernel
  have values : ∀ name value, params.get? name = some value → Balanced value.toList := by
    intro name value known
    have five : value = "5" := by
      have entry := KeyedList.mem_entries_of_get? known
      simpa using congrArg Prod.snd (List.mem_singleton.mp entry)
    rw [five]
    decide
  have closes := (closesBlocks_of_balanced outermost fun _ => values).1
  have kept : formatMessage (before ++ block ++ " \x7bn\x7d") params =
      formatMessage before params ++ block ++ formatMessage " \x7bn\x7d" params :=
    (formatMessage_unknownBlock outermost spelled unknown).1 silent closes
  have first : formatMessage before params = "5 of " := by decide +kernel
  have last : formatMessage " \x7bn\x7d" params = " 5" := by decide +kernel
  rw [first, last] at kept
  have missing : given.get? (String.ofList ['x']) = none := by decide
  have mentioned : MentionsKnown given body.toList = true := by decide +kernel
  have lost := (@formatMessage_unknownBlock _ _ before block "" given outermost spelled missing).2
  exact ⟨outermost, spelled, unknown, silent, closes, kept, missing, mentioned, lost mentioned⟩

/-- A form of one word is read as a token, though its block is that of an unknown parameter. -/
theorem formatMessage_changes_unknownBlock :
    let template := "\x7bx, plural, other\x7bword\x7d\x7d"
    let params : Params := ⟨[("word", "w")]⟩
    PluralBlock ['x'] " other\x7bword\x7d".toList template.toList ∧ params.get? "x" = none ∧
      formatMessage template params = "\x7bx, plural, otherw\x7d" ∧
      ¬ template.toList <:+: (formatMessage template params).toList := by
  intro template params
  have inside : Balanced " other\x7bword\x7d".toList := by decide +kernel
  have changed : formatMessage template params = "\x7bx, plural, otherw\x7d" := by decide +kernel
  have word : IsWord ['x'] := ⟨by decide, List.forall_mem_singleton.mpr (by decide)⟩
  have same : '\x7b' :: (['x'] ++ ", plural,".toList) ++ (" other\x7bword\x7d".toList ++ ['\x7d']) =
      template.toList := by decide
  refine ⟨same ▸ .spelled _ word.header inside, by decide, changed, fun still => ?_⟩
  rw [changed] at still
  exact absurd still.length_le (by decide)

end ScenarioRunner
