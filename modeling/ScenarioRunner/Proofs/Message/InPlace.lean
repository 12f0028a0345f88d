import ScenarioRunner.Message.InPlace
import ScenarioRunner.Proofs.Message.Resolved

namespace ScenarioRunner

theorem bytePosition?_eq (c : Char) (text : List Char) :
    bytePosition? c text = (cutAt? c text).map fun (before, _) => byteLength before := by
  induction text with
  | nil => rfl
  | cons d rest ih =>
    simp only [bytePosition?, cutAt?]
    split
    · rfl
    · rw [ih, Option.map_map, Option.map_map]
      rfl

/-- Braces are found at the positions at which the text is split. -/
theorem closingPosition?_succ (depth position : Nat) (text : List Char) :
    closingPosition? (depth + 1) position text =
      (closing? depth text).map fun (body, _) => position + byteLength body := by
  induction text generalizing depth position with
  | nil => rfl
  | cons c rest ih =>
    have next (deeper : Nat) : closingPosition? (deeper + 1) (position + c.utf8Size) rest =
        ((closing? deeper rest).map fun (body, after) => (c :: body, after)).map
          fun (body, _) => position + byteLength body := by
      rw [ih, Option.map_map]
      congr 1
      funext parts
      exact Nat.add_assoc ..
    rw [closingPosition?.eq_def, closing?.eq_def]
    by_cases close : c = '\x7d'
    · have other : c ≠ '\x7b' := close ▸ by decide
      simp only [if_neg other, if_pos close]
      cases depth with
      | zero => rfl
      | succ depth => exact next depth
    · simp only [if_neg close]
      split
      · exact next (depth + 1)
      · exact next depth

theorem closingPosition?_append {text : List Char} (plain : ∀ c ∈ text, isBrace c = false)
    (depth position : Nat) (rest : List Char) :
    closingPosition? depth position (text ++ rest) =
      closingPosition? depth (position + byteLength text) rest := by
  induction text generalizing position with
  | nil => rfl
  | cons c others ih =>
    obtain ⟨here, later⟩ := List.forall_mem_cons.mp plain
    obtain ⟨opening, closing⟩ := isBrace_eq_false_iff.mp here
    rw [List.cons_append, closingPosition?.eq_def]
    simp only [if_neg opening, if_neg closing]
    rw [ih later, byteLength, Nat.add_assoc]

/-- A brace with a header behind it is closed where the text behind the header is split. -/
theorem closingBrace_append {header : List Char} (plain : ∀ c ∈ header, isBrace c = false)
    (before text : List Char) :
    closingBrace (before ++ '\x7b' :: header ++ text) (byteLength before) =
      .ok ((closing? 0 text).map fun (body, _) =>
        byteLength (before ++ '\x7b' :: header) + byteLength body) := by
  have brace : closingPosition? 0 (byteLength before) ('\x7b' :: header ++ text) =
      closingPosition? 1 (byteLength before + '\x7b'.utf8Size) (header ++ text) := rfl
  rw [closingBrace, List.append_assoc, cutAtByte_append, byteLength_append]
  simp only [bind, Except.bind, pure, Except.pure]
  rw [brace, closingPosition?_append plain, closingPosition?_succ, Nat.add_assoc (byteLength before)]
  rfl

theorem byteLength_concat_brace (text : List Char) :
    byteLength (text ++ ['\x7d']) = byteLength text + 1 := byteLength_append text ['\x7d']

theorem cutAtByte_closed (front body after : List Char) :
    cutAtByte (byteLength front + byteLength body + 1) (front ++ body ++ '\x7d' :: after) =
      .ok (front ++ body ++ ['\x7d'], after) := by
  have cut := cutAtByte_append (front ++ body ++ ['\x7d']) after
  rw [byteLength_concat_brace, byteLength_append, List.append_assoc _ ['\x7d']] at cut
  exact cut

theorem replaceBytes_closed (before header body form after : List Char) :
    replaceBytes (byteLength before) (byteLength (before ++ header) + byteLength body + 1) form
        (before ++ header ++ body ++ '\x7d' :: after) = .ok (before ++ form ++ after) := by
  have replaced := replaceBytes_append before (header ++ body ++ ['\x7d']) form after
  rw [byteLength_concat_brace, byteLength_append, ← Nat.add_assoc, ← Nat.add_assoc,
    ← byteLength_append] at replaced
  simpa using replaced

theorem cutAt?_append_of_not_mem {c : Char} {lead : List Char} (absent : c ∉ lead) (text : List Char) :
    cutAt? c (lead ++ text) = (cutAt? c text).map fun (before, after) => (lead ++ before, after) := by
  induction lead with
  | nil => simp
  | cons d rest ih =>
    rw [List.mem_cons, not_or] at absent
    rw [List.cons_append, cutAt?, if_neg (Ne.symm absent.1), ih absent.2, Option.map_map]
    rfl

/-- A form is found behind the same keyword whether or not the blanks before it have been dropped. -/
theorem cutAt?_trimStart (text : List Char) : ∃ lead, (∀ c ∈ lead, isBlank c = true) ∧
    cutAt? '\x7b' text =
      (cutAt? '\x7b' (trimStart text)).map fun (keyword, inner) => (lead ++ keyword, inner) := by
  obtain ⟨lead, whole, blank⟩ := blank_prefix text
  have absent : '\x7b' ∉ lead := fun member => absurd (blank _ member) (by decide)
  refine ⟨lead, blank, ?_⟩
  rw [← cutAt?_append_of_not_mem absent, ← whole]

/-- The first form of a text, under its keyword, and what stands behind it. -/
def firstForm? (text : List Char) : Option (Option (List Char × List Char) × List Char) :=
  match cutAt? '\x7b' text with
  | none => none
  | some (keyword, inner) => (closing? 0 inner).map fun (form, rest) =>
    (if trim keyword = [] then none else some (trim keyword, form), rest)

/-- All positions that a form is read at are those of braces, so no cut fails. -/
theorem readForm_eq (text : List Char) : readForm text = .ok (firstForm? text) := by
  obtain ⟨lead, blank, same⟩ := cutAt?_trimStart text
  rw [firstForm?, same, readForm]
  simp only [bytePosition?_eq]
  cases cut : cutAt? '\x7b' (trimStart text) with
  | none => rfl
  | some parts =>
    obtain ⟨keyword, inner⟩ := parts
    have bare := trim_append_blank blank (List.forall_mem_nil _) keyword
    rw [List.append_nil] at bare
    have brace := closingBrace_append (List.forall_mem_nil _) keyword inner
    have opened : byteLength keyword + 1 = byteLength (keyword ++ ['\x7b']) :=
      (byteLength_append keyword ['\x7b']).symm
    have whole : trimStart text = keyword ++ ['\x7b'] ++ inner := by
      rw [(cutAt?_eq_some cut).1, List.append_assoc]
      rfl
    have before : byteSlice 0 (byteLength keyword) (keyword ++ ['\x7b'] ++ inner) = .ok keyword := by
      rw [List.append_assoc]
      exact byteSlice_zero _ _
    simp only [Option.map_some, whole, before, brace, bind, Except.bind, bare]
    cases closed : closing? 0 inner with
    | none => rfl
    | some found =>
      obtain ⟨form, rest⟩ := found
      simp only [Option.map_some, closing?_eq_some closed, ← List.append_assoc, cutAtByte_closed,
        keyedForm?, opened, byteSlice_append]
      by_cases named : trim keyword = []
      · simp only [if_pos named]
        rfl
      · simp only [if_neg named]
        rfl

theorem readForms_eq (text : List Char) : readForms text = .ok (pluralRules text) := by
  fun_induction pluralRules text with
  | case1 text uncut =>
    refine readForms_of_none ?_
    rw [readForm_eq, firstForm?, uncut]
  | case2 text keyword inner cut unclosed =>
    refine readForms_of_none ?_
    rw [readForm_eq, firstForm?, cut]
    simp only [unclosed, Option.map_none]
  | case3 text keyword inner cut form rest closed bare ih =>
    have read : readForm text = .ok (some (none, rest)) := by
      rw [readForm_eq, firstForm?, cut]
      simp only [closed, Option.map_some, if_pos bare]
    rw [readForms_of_some read, ih]
    rfl
  | case4 text keyword inner cut form rest closed named ih =>
    have read : readForm text = .ok (some (some (trim keyword, form), rest)) := by
      rw [readForm_eq, firstForm?, cut]
      simp only [closed, Option.map_some, if_neg named]
    rw [readForms_of_some read, ih]
    rfl

namespace BlockOpening

/-- The header of a block is at the position. -/
inductive StandsIn : BlockOpening → List Char → Prop
  | header {name header : List Char} (before after : List Char) : PluralHeader name header →
      StandsIn ⟨byteLength before, byteLength ('\x7b' :: header), name⟩
        (before ++ '\x7b' :: header ++ after)

theorem StandsIn.append {opening : BlockOpening} {text : List Char} (stands : opening.StandsIn text)
    (more : List Char) : opening.StandsIn (text ++ more) := by
  obtain ⟨before, after, spelled⟩ := stands
  rw [List.append_assoc _ after]
  exact .header before (after ++ more) spelled

/-- The text up to the end of an opening does not depend on what comes behind. -/
theorem StandsIn.exists_front {opening : BlockOpening} {text : List Char}
    (stands : opening.StandsIn text) :
    ∃ front, ∀ more, ∃ behind, cutAtByte opening.stop (text ++ more) = .ok (front, behind) := by
  cases stands with
  | @header name header before after spelled =>
    refine ⟨before ++ '\x7b' :: header, fun more => ⟨after ++ more, ?_⟩⟩
    rw [stop, ← byteLength_append, List.append_assoc _ after]
    exact cutAtByte_append _ _

/-- What a round relies on. Up to the end of the opening the text is that of the template. If the block
is closed, that is behind its header, and neither what is cut out of the text nor what is replaced in it
starts or ends inside of a character. -/
structure Intact (opening : BlockOpening) (template text : List Char) : Prop where
  kept : ∃ front behind rest, cutAtByte opening.stop template = .ok (front, behind) ∧
    cutAtByte opening.stop text = .ok (front, rest)
  closed : ∃ stop?, closingBrace text opening.start = .ok stop? ∧ ∀ stop ∈ stop?,
    opening.stop ≤ stop ∧ (∃ body, byteSlice opening.stop stop text = .ok body) ∧
      ∀ form, ∃ next, replaceBytes opening.start (stop + 1) form text = .ok next

theorem StandsIn.closed {opening : BlockOpening} {text : List Char} (stands : opening.StandsIn text) :
    ∃ stop?, closingBrace text opening.start = .ok stop? ∧ ∀ stop ∈ stop?,
      opening.stop ≤ stop ∧ (∃ body, byteSlice opening.stop stop text = .ok body) ∧
        ∀ form, ∃ next, replaceBytes opening.start (stop + 1) form text = .ok next := by
  obtain ⟨before, after, spelled⟩ := stands
  refine ⟨_, closingBrace_append (fun _ => spelled.isBrace_eq_false) before after, ?_⟩
  intro stop known
  obtain ⟨⟨body, behind⟩, closed, rfl⟩ := Option.map_eq_some_iff.mp known
  rw [closing?_eq_some closed, BlockOpening.stop, ← byteLength_append, ← List.append_assoc]
  exact ⟨Nat.le_add_right .., ⟨body, byteSlice_append _ _ _⟩,
    fun form => ⟨_, replaceBytes_closed _ _ _ form behind⟩⟩

theorem StandsIn.intact {opening : BlockOpening} {read : List Char} (stands : opening.StandsIn read)
    (rest later : List Char) : opening.Intact (read ++ rest) (read ++ later) := by
  obtain ⟨front, kept⟩ := stands.exists_front
  obtain ⟨behind, before⟩ := kept rest
  obtain ⟨after, now⟩ := kept later
  exact ⟨⟨front, behind, after, before, now⟩, (stands.append later).closed⟩

end BlockOpening

section Replaced

variable {params : Params}

theorem resolve_header {name header : List Char} (spelled : PluralHeader name header)
    (rest : List Char) : resolve params ('\x7b' :: header ++ rest) =
      match params.get? (String.ofList name), closing? 0 (resolve params rest) with
      | some value, some (body, after) =>
        replaceHash value.toList (selectForm (pluralRules body) value.toList) ++ after
      | _, _ => '\x7b' :: header ++ resolve params rest := by
  rw [resolve, pluralPieces_header spelled]
  rfl

/-- Replacing a block behind which all blocks have been replaced is resolving it. -/
theorem replaceBlock_header {name header : List Char} (spelled : PluralHeader name header)
    (before rest : List Char) :
    replaceBlock params ⟨byteLength before, byteLength ('\x7b' :: header), name⟩
        (before ++ '\x7b' :: header ++ resolve params rest) =
      .ok (before ++ resolve params ('\x7b' :: header ++ rest)) := by
  have brace := closingBrace_append (fun _ => spelled.isBrace_eq_false) before (resolve params rest)
  rw [resolve_header spelled, replaceBlock]
  cases params.get? (String.ofList name) with
  | none => simp
  | some value =>
    simp only [brace, bind, Except.bind]
    cases closed : closing? 0 (resolve params rest) with
    | none => simp [pure, Except.pure]
    | some found =>
      obtain ⟨body, after⟩ := found
      simp only [Option.map_some, closing?_eq_some closed, ← List.append_assoc, BlockOpening.stop,
        ← byteLength_append before, byteSlice_append, readForms_eq, replaceBytes_closed]
      rfl

/-- Behind any text in front, the blocks of a text are replaced by what they are resolved to. -/
theorem replaceBlocks_eq (text front : List Char) :
    replaceBlocks params (blockOpenings (byteLength front) (pluralPieces text)) (front ++ text) =
      .ok (front ++ resolve params text) := by
  induction text using pluralPieces_induction generalizing front with
  | nil =>
    rw [resolve_nil, pluralPieces]
    rfl
  | header name header rest spelled ih =>
    have later := ih (front ++ '\x7b' :: header)
    rw [byteLength_append, replaceBlocks] at later
    rw [pluralPieces_header spelled, blockOpenings, replaceBlocks, List.foldrM_cons, ← List.append_assoc,
      later]
    exact replaceBlock_header spelled front rest
  | plain c rest plain ih =>
    have later := ih (front ++ [c])
    rw [byteLength_append, byteLength, byteLength, Nat.add_zero, List.append_assoc, List.append_assoc]
      at later
    rw [pluralPieces_of_plain plain, blockOpenings, resolve_cons plain]
    exact later

theorem formatInPlace_eq (template : String) (params : Params) :
    formatInPlace template params = .ok (formatMessage template params) := by
  have replaced := @replaceBlocks_eq params template.toList []
  rw [byteLength, List.nil_append, List.nil_append] at replaced
  rw [formatInPlace]
  simp only [replaced, bind, Except.bind]
  rfl

end Replaced

/-- The openings that have not been reached yet stand in the text before those that have. -/
theorem exists_split_blockOpenings {text : List Char} (front : List Char)
    {pending done : List BlockOpening}
    (split : blockOpenings (byteLength front) (pluralPieces text) = pending ++ done) :
    ∃ read rest, text = read ++ rest ∧
      done = blockOpenings (byteLength (front ++ read)) (pluralPieces rest) ∧
      ∀ opening ∈ pending, opening.StandsIn (front ++ read) := by
  induction text using pluralPieces_induction generalizing front pending with
  | nil =>
    rw [pluralPieces, blockOpenings] at split
    obtain ⟨rfl, rfl⟩ := List.append_eq_nil_iff.mp split.symm
    exact ⟨[], [], rfl, by rw [pluralPieces, blockOpenings], by simp⟩
  | header name header rest spelled ih =>
    cases pending with
    | nil => exact ⟨[], _, rfl, by rw [List.append_nil]; exact split.symm, by simp⟩
    | cons opening others =>
      rw [pluralPieces_header spelled, blockOpenings, List.cons_append, ← byteLength_append] at split
      obtain ⟨rfl, later⟩ := List.cons.inj split
      obtain ⟨read, left, rfl, reached, stand⟩ := ih _ later
      rw [List.append_assoc] at reached stand
      refine ⟨'\x7b' :: header ++ read, left, by simp, reached, ?_⟩
      intro opening member
      rcases List.mem_cons.mp member with rfl | other
      · rw [← List.append_assoc]
        exact .header front read spelled
      · exact stand opening other
  | plain c rest plain ih =>
    have next : byteLength front + c.utf8Size = byteLength (front ++ [c]) := by
      rw [byteLength_append]
      rfl
    rw [pluralPieces_of_plain plain, blockOpenings, next] at split
    obtain ⟨read, left, rfl, reached, stand⟩ := ih _ split
    rw [List.append_assoc] at reached stand
    exact ⟨c :: read, left, rfl, reached, stand⟩

/-- Filling a message in place needs no position to be found again. Before each round the text is that
of the template up to the end of every opening that is still to come, so that the positions found in
the template are right, and nothing is cut outside of the text, inside of a character, or backwards.
Reading the forms of a block gets on with each form. So a message is always filled, and as it is when
its blocks are resolved in the text behind them. -/
theorem formatInPlace_keepsPositions (template : String) (params : Params) :
    (∀ pending done, blockOpenings 0 (pluralPieces template.toList) = pending ++ done →
      ∃ text, replaceBlocks params done template.toList = .ok text ∧
        ∀ opening ∈ pending, opening.Intact template.toList text) ∧
    (∀ body, ∃ next, readForm body = .ok next ∧
      ∀ form? rest, next = some (form?, rest) → rest.length < body.length) ∧
    formatInPlace template params = .ok (formatMessage template params) := by
  refine ⟨fun pending done split => ?_, fun body => ?_, formatInPlace_eq template params⟩
  · obtain ⟨read, rest, whole, rfl, stand⟩ := exists_split_blockOpenings [] split
    rw [List.nil_append] at stand ⊢
    rw [whole, replaceBlocks_eq]
    exact ⟨_, rfl, fun opening member => (stand opening member).intact rest _⟩
  · refine ⟨_, readForm_eq body, fun form? rest found => ?_⟩
    exact length_readForm ((readForm_eq body).trans (congrArg _ found))

/-- The value of the last block is longer than its name, and closes a brace that it does not open. -/
example : formatInPlace "é\x7bn, plural, other\x7b#é\x7d\x7d \x7bm, plural, other\x7b[#]\x7d\x7d"
    ⟨[("n", "5"), ("m", "üü\x7d")]⟩ = .ok "é5é [üü\x7d]" := by
  decide +kernel

end ScenarioRunner
