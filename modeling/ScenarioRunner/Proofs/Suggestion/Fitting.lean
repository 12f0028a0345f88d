import Mathlib.Algebra.Order.BigOperators.Group.List
import Mathlib.Algebra.Order.Group.Nat
import ScenarioRunner.Proofs.Number.Read
import ScenarioRunner.Proofs.Suggestion.Filled
import ScenarioRunner.Proofs.Suggestion.Template
import ScenarioRunner.Proofs.Text.Trim

namespace ScenarioRunner

/-- A value that a suggested placeholder can take: a quotation with something in it, or a number in
ASCII digits that is not too large. -/
def StepToken.Readable : StepToken → Prop
  | plain _ => True
  | quotation _ content => content ≠ []
  | decimal text => ∀ c ∈ text, c.isDigit = true ∨ c = '.'
  | integer text =>
    (∀ c ∈ text, c.isDigit = true) ∧ (digitsValue text : Int) ≤ Int64.maxValue.toInt

instance : DecidablePred StepToken.Readable
  | .plain _ => inferInstanceAs (Decidable True)
  | .quotation _ content => inferInstanceAs (Decidable (content ≠ []))
  | .decimal text => decidable_of_iff (text.all fun c => c.isDigit || c == '.')
      (by simp [StepToken.Readable])
  | .integer text => decidable_of_iff
      (text.all Char.isDigit && decide ((digitsValue text : Int) ≤ Int64.maxValue.toInt))
      (by simp [StepToken.Readable])

/-- The values of a step text's own tokens, in order. -/
def OwnValues (tokens : List StepToken) (values : List Value) : Prop :=
  (tokens.filterMap StepToken.held?).map (fun held => held.1.read? held.2) = values.map some

theorem ownValues_iff {tokens : List StepToken} {values : List Value} :
    OwnValues tokens values ↔
      (heldValues tokens).map (fun value => value.kind.read? value.content) = values.map some := by
  rw [OwnValues, ← map_heldValues, List.map_map]
  rfl

theorem exists_map_some_iff {α β : Type} {f : α → Option β} {l : List α} :
    (∃ values : List β, l.map f = values.map some) ↔ ∀ a ∈ l, (f a).isSome = true := by
  constructor
  · rintro ⟨values, same⟩ a member
    obtain ⟨value, _, known⟩ := List.mem_map.mp (same ▸ List.mem_map_of_mem member)
    rw [← known]
    rfl
  · intro known
    induction l with
    | nil => exact ⟨[], rfl⟩
    | cons a rest ih =>
      obtain ⟨here, later⟩ := List.forall_mem_cons.mp known
      obtain ⟨value, found⟩ := Option.isSome_iff_exists.mp here
      obtain ⟨values, same⟩ := ih later
      exact ⟨value :: values, by rw [List.map_cons, List.map_cons, found, same]⟩

theorem readable_decimal_iff {whole fraction : List Char} (isWhole : IsDigits whole)
    (isFraction : IsDigits fraction) : (StepToken.decimal (whole ++ '.' :: fraction)).Readable ↔
      (ParamKind.double.read? (whole ++ '.' :: fraction)).isSome = true := by
  have digits {text : List Char} (isDigits : IsDigits text) :
      (∀ c ∈ text, c.isDigit = true ∨ c = '.') ↔ ∀ c ∈ text, c.isDigit = true := by
    refine forall₂_congr fun c member => or_iff_left ?_
    rintro rfl
    exact isDigits.not_mem (by decide) member
  rw [ParamKind.read?, Option.isSome_map, isSome_readFloat?_iff isWhole isFraction,
    StepToken.Readable, List.forall_mem_append, List.forall_mem_cons, List.forall_mem_append,
    digits isWhole, digits isFraction]
  simp

theorem readable_integer_iff {digits : List Char} (isDigits : IsDigits digits) :
    (StepToken.integer digits).Readable ↔ (ParamKind.int.read? digits).isSome = true := by
  rw [ParamKind.read?, Option.isSome_map, isSome_readInt64?_iff isDigits, StepToken.Readable]

/-- A placeholder can take a token just where the token's own text is a value. -/
theorem Scanned.readable_iff {before : Option Char} {text : List Char} {tokens : List StepToken}
    (scanned : Scanned before text tokens) :
    (∀ token ∈ tokens, token.Readable) ↔
      NonemptyContents tokens ∧ ∃ values, OwnValues tokens values := by
  simp only [ownValues_iff, exists_map_some_iff, NonemptyContents]
  induction scanned with
  | done => simp [heldValues]
  | plain _ _ ih =>
    rw [List.forall_mem_cons, ih]
    exact and_iff_right trivial
  | quotation _ _ _ ih =>
    rw [List.forall_mem_cons, ih]
    simp [heldValues, StepToken.Readable, ParamKind.read?, and_assoc]
  | decimal _ isWhole isFraction _ _ ih =>
    rw [List.forall_mem_cons, ih, readable_decimal_iff isWhole isFraction]
    simp [heldValues, and_left_comm]
  | integer _ isDigits _ _ ih =>
    rw [List.forall_mem_cons, ih, readable_integer_iff isDigits]
    simp [heldValues, isDigits.nonempty, and_left_comm]

section Pattern

variable {pattern : StepPattern} {tokens : List StepToken} {texts : Captures} {values : List Value}

theorem HasPlaces.reads_iff (has : HasPlaces pattern tokens) :
    StepPattern.Reads pattern.holes texts values ↔
      ((heldValues tokens).zip texts).map (fun place => place.1.kind.read? place.2) =
        values.map some := by
  have kinds : pattern.holes.map Hole.kind = (heldValues tokens).map HeldValue.kind := by
    simpa [Function.comp_def] using congrArg (List.map Prod.fst) has.places
  have zipped : (pattern.holes.zip texts).map (fun place => place.1.kind.read? place.2) =
      ((heldValues tokens).zip texts).map fun place => place.1.kind.read? place.2 := by
    have both := congrArg (fun kinds : List ParamKind =>
      (kinds.zip texts).map fun place => place.1.read? place.2) kinds
    simpa [List.zip_map_left, Function.comp_def] using both
  rw [← zipped, ← List.forall₂_eq_eq_eq, List.forall₂_map_left_iff, List.forall₂_map_right_iff]
  rfl

theorem HasPlaces.isLeast_captures? (has : HasPlaces pattern tokens) (line : List Char) :
    IsLeast (FillsTokens tokens line) (pattern.captures? line) := by
  have literals : pattern.holes.map Hole.after = (heldValues tokens).map HeldValue.after := by
    simpa [Function.comp_def] using congrArg (List.map Prod.snd) has.places
  refine (pattern.isLeast_captures? line).congr fun texts => ?_
  rw [fills_iff, List.map_map, FillsTokens, ← has.lead, ← literals]
  rfl

theorem FillsTokens.eq_of_lengths {line : List Char} {others : Captures}
    (one : FillsTokens tokens line texts) (two : FillsTokens tokens line others)
    (lengths : texts.map List.length = others.map List.length) : texts = others := by
  obtain ⟨rest, whole, first⟩ := one
  obtain ⟨more, again, second⟩ := two
  obtain rfl : rest = more := List.append_cancel_left (whole.symm.trans again)
  exact first.eq_of_lengths second lengths

/-- Where no number is dotted, each place takes the value that stands there. -/
theorem HasPlaces.captures?_eq_contents (has : HasPlaces pattern tokens) {before : Option Char}
    {line : List Char} (scanned : Scanned before line tokens) (flat : '\n' ∉ line)
    (nonempty : NonemptyContents tokens) (plain : dotted tokens = false) :
    pattern.captures? line = some (contents tokens) := by
  have own := fillsTokens_contents scanned flat nonempty
  have least := has.isLeast_captures? line
  cases captured : pattern.captures? line with
  | none =>
    rw [captured] at least
    exact absurd own (least _)
  | some texts =>
    rw [captured] at least
    obtain ⟨fills, first⟩ := least
    rcases keepsLengths_of_fills scanned fills with order | ⟨found, _⟩
    · rw [fills.eq_of_lengths own (List.le_antisymm (first _ own) order)]
    · rw [plain] at found
      cases found

end Pattern

theorem eq_of_read?_string {text other : List Char} {own : Value}
    (read : ParamKind.string.read? text = some own)
    (known : ParamKind.string.read? other = some own) : text = other := by
  have same : Value.string (String.ofList text) = Value.string (String.ofList other) :=
    Option.some.inj (read.trans known.symm)
  exact String.ofList_inj.mp (Value.string.inj same)

/-- A text that is read as the same value has no more points than the value's own spelling. -/
theorem HeldValue.Spelled.count_point_le {value : HeldValue} (spelled : value.Spelled)
    {text : List Char} {own : Value} (read : value.kind.read? text = some own)
    (known : value.kind.read? value.content = some own) :
    text.count '.' ≤ value.content.count '.' := by
  cases spelled with
  | string content after => rw [eq_of_read?_string read known]
  | double after isWhole isFraction =>
    obtain ⟨x, decimal, _⟩ := Option.map_eq_some_iff.mp read
    refine (count_point_of_readFloat? decimal).trans (List.count_pos_iff.mpr ?_)
    simp
  | int after isDigits =>
    obtain ⟨n, whole, _⟩ := Option.map_eq_some_iff.mp read
    rw [List.count_eq_zero.mpr (point_not_mem_of_readInt64? whole)]
    exact Nat.zero_le _

/-- The texts and the values make up the same line. -/
theorem flatMap_zip_eq {tokens : List StepToken} {before : Option Char} {line : List Char}
    {texts : Captures} (scanned : Scanned before line tokens) (fills : FillsTokens tokens line texts) :
    (((heldValues tokens).zip texts).flatMap fun place => place.2 ++ place.1.after) =
      ((heldValues tokens).zip texts).flatMap fun place => place.1.content ++ place.1.after := by
  have both := fills.solution.2.2.symm.trans scanned.text_eq
  rw [List.append_cancel_left_eq] at both
  rw [both, ← fills.map_fst_zip, List.flatMap_map, fills.map_fst_zip]

/-- Each text is read as the value that it stands for. -/
def ReadsAsOwn (values : List HeldValue) (texts : Captures) : Prop :=
  ∀ place ∈ values.zip texts, ∃ own,
    place.1.kind.read? place.2 = some own ∧ place.1.kind.read? place.1.content = some own

/-- Where each text is read as the value that it stands for, no decimal loses its point: there would
be fewer points in the line. -/
theorem not_losesPoint {tokens : List StepToken} {before : Option Char} {line : List Char}
    {texts : Captures} (scanned : Scanned before line tokens) (fills : FillsTokens tokens line texts)
    (alike : ReadsAsOwn (heldValues tokens) texts) :
    ¬ LosesPoint (heldValues tokens) texts := by
  rintro ⟨place, member, isDouble, pointless⟩
  have spelled {place : HeldValue × List Char} (member : place ∈ (heldValues tokens).zip texts) :
      place.1.Spelled := scanned.spelled _ (List.of_mem_zip member).1
  have points := congrArg (List.count '.') (flatMap_zip_eq scanned fills)
  rw [List.count_flatMap, List.count_flatMap] at points
  refine absurd points (ne_of_lt (List.sum_lt_sum _ _ ?_ ⟨place, member, ?_⟩))
  · intro other listed
    obtain ⟨own, read, known⟩ := alike other listed
    have fewer := (spelled listed).count_point_le read known
    simp only [Function.comp_apply, List.count_append]
    omega
  · have pointed : '.' ∈ place.1.content := by
      have spelling := spelled member
      generalize place.1 = value at spelling isDouble
      cases spelling with
      | double => simp
      | _ => cases isDouble
    have none := List.count_eq_zero.mpr pointless
    have some := List.count_pos_iff.mpr pointed
    simp only [Function.comp_apply, List.count_append]
    omega

theorem readsAsOwn_of_ownValues {tokens : List StepToken} {line : List Char} {texts : Captures}
    {values : List Value} (fills : FillsTokens tokens line texts) (own : OwnValues tokens values)
    (reads : ((heldValues tokens).zip texts).map (fun place => place.1.kind.read? place.2) =
      values.map some) : ReadsAsOwn (heldValues tokens) texts := by
  have same := ownValues_iff.mp own
  rw [← fills.map_fst_zip, List.map_map, ← reads] at same
  intro place member
  have known := exists_map_some_iff.mp ⟨values, reads⟩ place member
  obtain ⟨value, read⟩ := Option.isSome_iff_exists.mp known
  exact ⟨value, read, (List.map_inj_left.mp same place member).trans read⟩

/-- Texts are never empty, and a quotation is the text that stands in its place. -/
theorem nonemptyContents_of_readsAsOwn {tokens : List StepToken} {before : Option Char}
    {line : List Char} {texts : Captures} (scanned : Scanned before line tokens)
    (fills : FillsTokens tokens line texts) (alike : ReadsAsOwn (heldValues tokens) texts) :
    NonemptyContents tokens := by
  intro value member
  rw [← fills.map_fst_zip] at member
  obtain ⟨⟨_, text⟩, listed, rfl⟩ := List.mem_map.mp member
  obtain ⟨inValues, inTexts⟩ := List.of_mem_zip listed
  obtain ⟨own, read, known⟩ := alike _ listed
  cases scanned.spelled _ inValues with
  | string content after =>
    rw [← eq_of_read?_string read known]
    exact (fills.solution.2.1 text inTexts).1
  | double => simp
  | int _ isDigits => exact isDigits.nonempty

/-- A suggested pattern reads its own step text as the values of the text's tokens just where each
token can be read alone, and no decimal has a point and a further number behind it. -/
theorem match?_suggest_iff {limit : SizeLimit} {text : String} {pattern : StepPattern}
    (flat : '\n' ∉ text.toList) (braceless : ∀ c ∈ text.toList, isBrace c = false)
    (compiled : StepPattern.compile limit (suggest text).template (suggest text).kinds =
      .ok pattern) :
    (∃ values, OwnValues (stepTokens none text.toList) values ∧
      pattern.match? text = .ok (some values)) ↔
      (∀ token ∈ stepTokens none text.toList, token.Readable) ∧
        dotted (stepTokens none text.toList) = false := by
  have has := hasPlaces_suggest compiled braceless
  have scanned := scanned_stepTokens none text.toList
  generalize stepTokens none text.toList = tokens at has scanned
  simp only [StepPattern.match?_eq_some_iff, has.reads_iff]
  constructor
  · rintro ⟨values, own, texts, captured, reads⟩
    have least := has.isLeast_captures? text.toList
    rw [captured] at least
    obtain ⟨fills, first⟩ := least
    have alike := readsAsOwn_of_ownValues fills own reads
    have nonempty := nonemptyContents_of_readsAsOwn scanned fills alike
    refine ⟨scanned.readable_iff.mpr ⟨nonempty, values, own⟩, ?_⟩
    by_contra found
    rw [Bool.not_eq_false] at found
    -- Some text is shorter than its value, and that can only be a decimal without its point.
    obtain ⟨others, shorter, notLonger⟩ := exists_shorter scanned flat nonempty found
    rcases keepsLengths_of_fills scanned fills with order | ⟨_, loses⟩
    · exact notLonger (List.le_trans order (first others shorter))
    · exact not_losesPoint scanned fills alike loses
  · rintro ⟨readable, plain⟩
    obtain ⟨nonempty, values, own⟩ := scanned.readable_iff.mp readable
    refine ⟨values, own, _, has.captures?_eq_contents scanned flat nonempty plain, ?_⟩
    rw [contents, ← List.map_prod_left_eq_zip, List.map_map]
    exact ownValues_iff.mp own

theorem match?_suggest_three_values :
    ∃ pattern, StepPattern.compile .unlimited
        (suggest "the \"blue\" box holds 12 items at 2.5").template
        (suggest "the \"blue\" box holds 12 items at 2.5").kinds = .ok pattern ∧
      ∃ values, OwnValues (stepTokens none "the \"blue\" box holds 12 items at 2.5".toList) values ∧
        values.length = 3 ∧
        pattern.match? "the \"blue\" box holds 12 items at 2.5" = .ok (some values) := by
  obtain ⟨pattern, known⟩ : ∃ pattern : StepPattern, pattern =
      ⟨"the \"\x7bstring\x7d\" box holds \x7bint\x7d items at \x7bfloat\x7d", "the \"".toList,
        [⟨"string", .string, "\" box holds ".toList⟩, ⟨"int", .int, " items at ".toList⟩,
          ⟨"float", .double, []⟩]⟩ := ⟨_, rfl⟩
  have compiled : StepPattern.compile .unlimited
      (suggest "the \"blue\" box holds 12 items at 2.5").template (suggest "the \"blue\" box holds 12 items at 2.5").kinds = .ok pattern := by
    rw [known]
    decide +kernel
  have three : (stepTokens none "the \"blue\" box holds 12 items at 2.5".toList).filterMap
      StepToken.held? = [(.string, "blue".toList), (.int, "12".toList), (.double, "2.5".toList)] := by
    decide +kernel
  obtain ⟨values, own, matched⟩ := (match?_suggest_iff (by decide)
    (forall_mem_of_all (by decide)) compiled).mpr ⟨by decide +kernel, by decide +kernel⟩
  refine ⟨pattern, compiled, values, own, ?_, matched⟩
  have lengths := congrArg List.length own
  rw [three] at lengths
  simpa using lengths.symm

/-- A quotation with nothing in it is a value, but no placeholder takes it. -/
theorem match?_suggest_empty_quotation :
    '\n' ∉ "say \"\"".toList ∧ (∀ c ∈ "say \"\"".toList, isBrace c = false) ∧
      OwnValues (stepTokens none "say \"\"".toList) [.string ""] ∧
      ∃ pattern, StepPattern.compile .unlimited (suggest "say \"\"").template
        (suggest "say \"\"").kinds = .ok pattern ∧ pattern.match? "say \"\"" = .ok none := by
  obtain ⟨pattern, known⟩ : ∃ pattern : StepPattern, pattern = ⟨"say \"\x7bstring\x7d\"",
      "say \"".toList, [⟨"string", .string, ['"']⟩]⟩ := ⟨_, rfl⟩
  have compiled : StepPattern.compile .unlimited (suggest "say \"\"").template
      (suggest "say \"\"").kinds = .ok pattern := by
    rw [known]
    decide +kernel
  have unmatched : pattern.captures? "say \"\"".toList = none := by
    rw [known]
    decide +kernel
  have tokens : (stepTokens none "say \"\"".toList).filterMap StepToken.held? = [(.string, [])] := by
    decide +kernel
  refine ⟨by decide, forall_mem_of_all (by decide), ?_, pattern, compiled, ?_⟩
  · rw [OwnValues, tokens]
    rfl
  · rw [StepPattern.match?, unmatched]

end ScenarioRunner
