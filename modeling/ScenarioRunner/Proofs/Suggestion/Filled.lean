import Mathlib.Data.List.Basic
import ScenarioRunner.Proofs.Pattern.Matching
import ScenarioRunner.Proofs.Suggestion.Scanned

namespace ScenarioRunner

/-- The texts may stand in place of the values, with the same wording around them. -/
def FillsTokens (tokens : List StepToken) (text : List Char) (texts : Captures) : Prop :=
  LiteralThen (wording tokens) (Solves ((heldValues tokens).map HeldValue.after)) text texts

/-- The text of each value itself. -/
def contents (tokens : List StepToken) : Captures := (heldValues tokens).map HeldValue.content

/-- The text starts with a point and a number behind it. -/
def pointedNumber : List StepToken → Bool
  | .plain c :: .decimal _ :: _ => c == '.'
  | .plain c :: .integer _ :: _ => c == '.'
  | _ => false

/-- Somewhere a point and a further number stand right behind a decimal, as in `1.2.3`. -/
def dotted : List StepToken → Bool
  | [] => false
  | .decimal _ :: rest => pointedNumber rest || dotted rest
  | _ :: rest => dotted rest

section Literal

variable {solves : List Char → Captures → Prop} {text : List Char} {texts : Captures}

theorem literalThen_nil_iff : LiteralThen [] solves text texts ↔ solves text texts := by
  constructor
  · rintro ⟨rest, rfl, solved⟩
    exact solved
  · exact fun solved => ⟨text, rfl, solved⟩

theorem literalThen_cons_iff {c d : Char} {literal : List Char} :
    LiteralThen (c :: literal) solves (d :: text) texts ↔
      d = c ∧ LiteralThen literal solves text texts := by
  constructor
  · rintro ⟨rest, whole, solved⟩
    obtain ⟨same, later⟩ := List.cons.inj whole
    exact ⟨same, rest, later, solved⟩
  · rintro ⟨rfl, rest, rfl, solved⟩
    exact ⟨rest, rfl, solved⟩

/-- A capture at the start of a text goes further than what stands there, or as far, or less far. -/
theorem CaptureThen.compare {content : List Char}
    (filled : CaptureThen solves (content ++ text) texts) :
    ∃ value others, texts = value :: others ∧ (content.length < value.length ∨
      value = content ∧ solves text others ∨
      ∃ c cut, content = value ++ c :: cut ∧ value ≠ [] ∧ solves (c :: cut ++ text) others) := by
  obtain ⟨value, rest, others, rfl, whole, nonempty, _, solved⟩ := filled
  refine ⟨value, others, rfl, ?_⟩
  rcases List.append_eq_append_iff.mp whole with ⟨more, longer, tail⟩ | ⟨more, shorter, tail⟩
  · cases more with
    | nil =>
      rw [List.append_nil] at longer
      rw [List.nil_append] at tail
      exact .inr (.inl ⟨longer, tail ▸ solved⟩)
    | cons c more =>
      left
      rw [longer]
      simp
  · cases more with
    | nil =>
      rw [List.append_nil] at shorter
      rw [List.nil_append] at tail
      exact .inr (.inl ⟨shorter.symm, tail ▸ solved⟩)
    | cons c cut => exact .inr (.inr ⟨c, cut, shorter, nonempty, tail ▸ solved⟩)

end Literal

section Tokens

variable {tokens : List StepToken} {text content : List Char} {texts : Captures} {c : Char}

theorem fillsTokens_plain_iff {d : Char} :
    FillsTokens (.plain c :: tokens) (d :: text) texts ↔ d = c ∧ FillsTokens tokens text texts :=
  literalThen_cons_iff

theorem fillsTokens_quotation_iff {mark d : Char} :
    FillsTokens (.quotation mark content :: tokens) (d :: text) texts ↔
      d = mark ∧ CaptureThen (LiteralThen [mark] (FillsTokens tokens)) text texts := by
  have closing : LiteralThen (mark :: wording tokens)
      (Solves ((heldValues tokens).map HeldValue.after)) = LiteralThen [mark] (FillsTokens tokens) := by
    funext text texts
    refine propext ⟨?_, ?_⟩
    · rintro ⟨rest, rfl, solved⟩
      exact ⟨_, rfl, rest, rfl, solved⟩
    · rintro ⟨_, rfl, rest, rfl, solved⟩
      exact ⟨rest, rfl, solved⟩
  rw [← closing]
  exact literalThen_cons_iff.trans (and_congr_right fun _ => literalThen_nil_iff)

theorem fillsTokens_decimal_iff :
    FillsTokens (.decimal content :: tokens) text texts ↔
      CaptureThen (FillsTokens tokens) text texts :=
  literalThen_nil_iff

theorem fillsTokens_integer_iff :
    FillsTokens (.integer content :: tokens) text texts ↔
      CaptureThen (FillsTokens tokens) text texts :=
  literalThen_nil_iff

theorem not_fillsTokens_nil : ¬ FillsTokens [] (c :: text) texts := by
  rintro ⟨rest, whole, solved⟩
  have empty := solved.1
  rw [empty] at whole
  cases whole

theorem FillsTokens.solution (fills : FillsTokens tokens text texts) :
    texts.length = (heldValues tokens).length ∧ (∀ value ∈ texts, value ≠ [] ∧ '\n' ∉ value) ∧
      text = wording tokens ++
        ((heldValues tokens).zip texts).flatMap fun place => place.2 ++ place.1.after := by
  obtain ⟨rest, rfl, solved⟩ := fills
  obtain ⟨length, clean, rfl⟩ := (solves_iff _ _ _).mp solved
  refine ⟨by simpa using length, clean, congrArg _ ?_⟩
  rw [List.zipWith_map_right, List.zipWith_comm, List.flatMap_def, List.map_zip_eq_zipWith]
  rfl

theorem FillsTokens.map_fst_zip (fills : FillsTokens tokens text texts) :
    ((heldValues tokens).zip texts).map Prod.fst = heldValues tokens :=
  List.map_fst_zip fills.solution.1.ge

end Tokens

namespace Scanned

variable {before : Option Char} {tokens : List StepToken} {text more : List Char} {texts : Captures}
  {c : Char}

/-- A number cannot end earlier than where it was read to: no word goes on there. -/
theorem fills_head (scanned : Scanned before text tokens) (ends : EndsWord text)
    (fills : FillsTokens tokens (c :: more) texts) : isWordChar c = false := by
  cases scanned with
  | done => exact absurd fills not_fillsTokens_nil
  | plain =>
    obtain ⟨rfl, _⟩ := fillsTokens_plain_iff.mp fills
    exact endsWord_cons_iff.mp ends
  | quotation isMark =>
    obtain ⟨rfl, _⟩ := fillsTokens_quotation_iff.mp fills
    exact isMark.not_word
  | decimal _ isWhole =>
    rw [List.append_assoc] at ends
    exact absurd ends (isWhole.not_endsWord _)
  | integer _ isDigits => exact absurd ends (isDigits.not_endsWord _)

/-- A word that has begun as wording goes on as wording. -/
theorem word_prefix_wording {run rest : List Char} (word : isWordChar c = true)
    (made : ∀ d ∈ run, isWordChar d = true) (scanned : Scanned (some c) (run ++ rest) tokens) :
    run <+: wording tokens := by
  induction run generalizing c tokens with
  | nil => exact List.nil_prefix
  | cons d run ih =>
    obtain ⟨here, later⟩ := List.forall_mem_cons.mp made
    generalize whole : d :: run ++ rest = text at scanned
    cases scanned with
    | done => cases whole
    | plain missing following =>
      obtain ⟨rfl, same⟩ := List.cons.inj whole
      rw [← same] at following
      exact List.cons_prefix_cons.mpr ⟨rfl, ih here later following⟩
    | quotation isMark =>
      obtain ⟨rfl, _⟩ := List.cons.inj whole
      rw [isMark.not_word] at here
      cases here
    | decimal apart => simp [word] at apart
    | integer apart => simp [word] at apart

/-- Digits with a point behind them are read as a number, so nothing else begins with them. -/
theorem number_of_fills {digits : List Char} (scanned : Scanned (some '.') text tokens)
    (isDigits : IsDigits digits) (fills : FillsTokens tokens (digits ++ '.' :: more) texts) :
    pointedNumber (.plain '.' :: tokens) = true := by
  obtain ⟨first, others, rfl⟩ := List.exists_cons_of_ne_nil isDigits.nonempty
  obtain ⟨digit, made⟩ := List.forall_mem_cons.mp isDigits.made
  have word := isWordChar_of_isDecimalDigit digit
  cases scanned with
  | done => exact absurd fills not_fillsTokens_nil
  | @plain _ c text tokens missing following =>
    obtain ⟨rfl, rest, behind, _⟩ := fillsTokens_plain_iff.mp fills
    -- Digits that are wording have a letter behind them, and all of it is wording, with no point.
    have unread := integer?_eq_none_of_stepToken? (by decide) missing
    obtain ⟨run, d, tail, rfl, runDigits, stops, letter⟩ := integer?_eq_none digit unread
    have runWord : ∀ e ∈ run ++ [d], isWordChar e = true := by
      refine List.forall_mem_append.mpr ⟨fun e member => ?_, List.forall_mem_singleton.mpr letter⟩
      exact isWordChar_of_isDecimalDigit (runDigits e member)
    rw [← List.singleton_append, ← List.append_assoc] at following
    obtain ⟨further, wholeWording⟩ := word_prefix_wording word runWord following
    have same : others ++ '.' :: more = run ++ d :: (further ++ rest) := by
      simpa [← wholeWording] using behind
    obtain ⟨_, rfl, _⟩ := digits_append_inj made runDigits (by decide) stops same
    exact absurd letter (by decide)
  | quotation isMark =>
    obtain ⟨rfl, _⟩ := fillsTokens_quotation_iff.mp fills
    rw [isMark.not_word] at word
    cases word
  | decimal => rfl
  | integer => rfl

/-- A decimal can end earlier only at its point, with a number behind it that has another point. -/
theorem cut_decimal {whole fraction value cut : List Char} (isWhole : IsDigits whole)
    (isFraction : IsDigits fraction) (ends : EndsWord text)
    (scanned : Scanned (whole ++ '.' :: fraction).getLast? text tokens)
    (split : whole ++ '.' :: fraction = value ++ c :: cut)
    (fills : FillsTokens tokens (c :: cut ++ text) texts) :
    value = whole ∧ pointedNumber tokens = true := by
  have stops := scanned.fills_head ends fills
  obtain ⟨rfl, rfl, rfl⟩ := (List.append_cons_inj_of_notMem (isWhole.not_mem stops)
    (isFraction.not_mem stops)).mp split
  refine ⟨rfl, ?_⟩
  cases scanned with
  | done => exact absurd fills not_fillsTokens_nil
  | plain _ following =>
    obtain ⟨rfl, later⟩ := fillsTokens_plain_iff.mp fills
    exact following.number_of_fills isFraction later
  | quotation isMark =>
    obtain ⟨rfl, _⟩ := fillsTokens_quotation_iff.mp fills
    rcases isMark with other | other <;> exact absurd other (by decide)
  | decimal _ isNext =>
    rw [List.append_assoc] at ends
    exact absurd ends (isNext.not_endsWord _)
  | integer _ isNext => exact absurd ends (isNext.not_endsWord _)

end Scanned

/-- In the place of some decimal stands a text without a point. -/
def LosesPoint (values : List HeldValue) (texts : Captures) : Prop :=
  ∃ place ∈ values.zip texts, place.1.kind = .double ∧ '.' ∉ place.2

/-- No text is shorter than its value before another one is longer, unless a point is lost. Only a
text with dotted numbers can lose one. -/
def KeepsLengths (isDotted : Bool) (values : List HeldValue) (texts : Captures) : Prop :=
  ((values.map HeldValue.content).map List.length).le (texts.map List.length) ∨
    isDotted = true ∧ LosesPoint values texts

section Lengths

variable {isDotted : Bool} {values : List HeldValue} {texts : Captures} {value : HeldValue}
  {text : List Char}

theorem KeepsLengths.of_longer (longer : value.content.length < text.length) :
    KeepsLengths isDotted (value :: values) (text :: texts) :=
  .inl (lengths_le_iff.mpr (.inl longer))

theorem KeepsLengths.of_pointless (found : isDotted = true) (double : value.kind = .double)
    (pointless : '.' ∉ text) : KeepsLengths isDotted (value :: values) (text :: texts) :=
  .inr ⟨found, _, List.mem_cons_self .., double, pointless⟩

theorem KeepsLengths.cons (keeps : KeepsLengths isDotted values texts) (value : HeldValue) :
    KeepsLengths isDotted (value :: values) (value.content :: texts) := by
  rcases keeps with order | ⟨found, place, member, loses⟩
  · exact .inl (lengths_le_iff.mpr (.inr ⟨rfl, order⟩))
  · exact .inr ⟨found, place, List.mem_cons_of_mem _ member, loses⟩

theorem KeepsLengths.weaken (keeps : KeepsLengths isDotted values texts) (other : Bool) :
    KeepsLengths (other || isDotted) values texts :=
  keeps.imp_right fun ⟨found, loses⟩ => ⟨by simp [found], loses⟩

end Lengths

/-- Texts that fill the places are no shorter than the values that they stand for, the earlier ones
first. The only exception are decimals with a point and a number behind them. -/
theorem keepsLengths_of_fills {before : Option Char} {tokens : List StepToken} {text : List Char}
    {texts : Captures} (scanned : Scanned before text tokens)
    (fills : FillsTokens tokens text texts) :
    KeepsLengths (dotted tokens) (heldValues tokens) texts := by
  induction scanned generalizing texts with
  | done => exact .inl (List.nil_le _)
  | plain _ _ ih =>
    obtain ⟨_, later⟩ := fillsTokens_plain_iff.mp fills
    exact ih later
  | quotation _ absent _ ih =>
    obtain ⟨_, filled⟩ := fillsTokens_quotation_iff.mp fills
    obtain ⟨value, others, rfl, longer | ⟨rfl, solved⟩ | ⟨c, cut, rfl, _, solved⟩⟩ := filled.compare
    · exact .of_longer longer
    · exact (ih (literalThen_nil_iff.mp (literalThen_cons_iff.mp solved).2)).cons _
    · obtain ⟨rfl, _⟩ := literalThen_cons_iff.mp solved
      simp at absent
  | decimal _ isWhole isFraction ends scanned ih =>
    obtain ⟨value, others, rfl, longer | ⟨rfl, later⟩ | ⟨c, cut, split, _, later⟩⟩ :=
      (fillsTokens_decimal_iff.mp fills).compare
    · exact .of_longer longer
    · exact ((ih later).weaken _).cons _
    · obtain ⟨rfl, pointed⟩ := scanned.cut_decimal isWhole isFraction ends split later
      exact .of_pointless (by simp [dotted, pointed]) rfl (isWhole.not_mem (by decide))
  | integer _ isDigits ends scanned ih =>
    obtain ⟨value, others, rfl, longer | ⟨rfl, later⟩ | ⟨c, cut, rfl, _, later⟩⟩ :=
      (fillsTokens_integer_iff.mp fills).compare
    · exact .of_longer longer
    · exact (ih later).cons _
    · exact absurd (by simp) (isDigits.not_mem (scanned.fills_head ends later))

/-- Every quotation has something in it. -/
def NonemptyContents (tokens : List StepToken) : Prop :=
  ∀ value ∈ heldValues tokens, value.content ≠ []

theorem captureThen_cons {solves : List Char → Captures → Prop} {value rest : List Char}
    {others : Captures} (nonempty : value ≠ []) (flat : '\n' ∉ value) (solved : solves rest others) :
    CaptureThen solves (value ++ rest) (value :: others) :=
  ⟨value, rest, others, rfl, rfl, nonempty, flat, solved⟩

theorem fillsTokens_contents {before : Option Char} {tokens : List StepToken} {text : List Char}
    (scanned : Scanned before text tokens) (flat : '\n' ∉ text)
    (nonempty : NonemptyContents tokens) : FillsTokens tokens text (contents tokens) := by
  induction scanned with
  | done => exact ⟨[], rfl, rfl, rfl⟩
  | plain _ _ ih =>
    exact fillsTokens_plain_iff.mpr ⟨rfl, ih (fun member => flat (by simp [member])) nonempty⟩
  | quotation _ _ _ ih =>
    obtain ⟨filled, later⟩ := List.forall_mem_cons.mp nonempty
    refine fillsTokens_quotation_iff.mpr ⟨rfl, captureThen_cons filled ?_ ?_⟩
    · exact fun member => flat (by simp [member])
    · exact ⟨_, rfl, ih (fun member => flat (by simp [member])) later⟩
  | decimal _ _ _ _ _ ih =>
    obtain ⟨filled, later⟩ := List.forall_mem_cons.mp nonempty
    refine fillsTokens_decimal_iff.mpr (captureThen_cons filled ?_ ?_)
    · exact fun member => flat (List.mem_append_left _ member)
    · exact ih (fun member => flat (List.mem_append_right _ member)) later
  | integer _ _ _ _ ih =>
    obtain ⟨filled, later⟩ := List.forall_mem_cons.mp nonempty
    refine fillsTokens_integer_iff.mpr (captureThen_cons filled ?_ ?_)
    · exact fun member => flat (List.mem_append_left _ member)
    · exact ih (fun member => flat (List.mem_append_right _ member)) later

/-- A value may take in digits and the point that stands behind them. -/
theorem captureThen_absorbed {last : Option Char} {later : List StepToken}
    {fraction number rest : List Char} (scanned : Scanned last rest later)
    (flat : '\n' ∉ fraction ++ '.' :: (number ++ rest)) (nonempty : NonemptyContents later) :
    CaptureThen (FillsTokens later) (fraction ++ '.' :: (number ++ rest))
      ((fraction ++ '.' :: number) :: contents later) := by
  rw [← List.cons_append, ← List.append_assoc, List.mem_append, not_or] at flat
  rw [← List.cons_append, ← List.append_assoc]
  exact captureThen_cons (by simp) flat.1 (fillsTokens_contents scanned flat.2 nonempty)

/-- Where a point and a number are expected, the number may take in what stands before it. -/
theorem exists_fillsTokens_of_pointed {before : Option Char} {tokens : List StepToken}
    {text fraction : List Char} (scanned : Scanned before text tokens)
    (flat : '\n' ∉ fraction ++ text) (nonempty : NonemptyContents tokens)
    (pointed : pointedNumber tokens = true) :
    ∃ texts, FillsTokens tokens ('.' :: (fraction ++ text)) texts := by
  cases scanned with
  | plain _ following =>
    cases following with
    | decimal _ _ _ _ scanned =>
      obtain rfl := beq_iff_eq.mp pointed
      have absorbed := captureThen_absorbed scanned flat (List.forall_mem_cons.mp nonempty).2
      exact ⟨_, fillsTokens_plain_iff.mpr ⟨rfl, fillsTokens_decimal_iff.mpr absorbed⟩⟩
    | integer _ _ _ scanned =>
      obtain rfl := beq_iff_eq.mp pointed
      have absorbed := captureThen_absorbed scanned flat (List.forall_mem_cons.mp nonempty).2
      exact ⟨_, fillsTokens_plain_iff.mpr ⟨rfl, fillsTokens_integer_iff.mpr absorbed⟩⟩
    | _ => cases pointed
  | _ => cases pointed

theorem not_cons_lengths_le {n : Nat} {others more : List Nat} (shorter : ¬ others.le more) :
    ¬ (n :: others).le (n :: more) := by
  rw [lengths_le_iff]
  rintro (less | ⟨_, order⟩)
  · exact absurd less (Nat.lt_irrefl n)
  · exact shorter order

/-- A decimal with a point and a number behind it may end at its own point. -/
theorem exists_shorter {before : Option Char} {tokens : List StepToken} {text : List Char}
    (scanned : Scanned before text tokens) (flat : '\n' ∉ text)
    (nonempty : NonemptyContents tokens) (found : dotted tokens = true) :
    ∃ texts, FillsTokens tokens text texts ∧
      ¬ ((contents tokens).map List.length).le (texts.map List.length) := by
  induction scanned with
  | done => cases found
  | plain _ _ ih =>
    obtain ⟨texts, fills, shorter⟩ := ih (fun member => flat (by simp [member])) nonempty found
    exact ⟨texts, fillsTokens_plain_iff.mpr ⟨rfl, fills⟩, shorter⟩
  | quotation _ _ _ ih =>
    obtain ⟨filled, later⟩ := List.forall_mem_cons.mp nonempty
    obtain ⟨texts, fills, shorter⟩ := ih (fun member => flat (by simp [member])) later found
    refine ⟨_, fillsTokens_quotation_iff.mpr ⟨rfl, captureThen_cons filled ?_ ⟨_, rfl, fills⟩⟩,
      not_cons_lengths_le shorter⟩
    exact fun member => flat (by simp [member])
  | @decimal _ whole fraction text tokens _ isWhole _ _ scanned ih =>
    obtain ⟨filled, later⟩ := List.forall_mem_cons.mp nonempty
    rw [List.mem_append, not_or] at flat
    rcases (Bool.or_eq_true _ _).mp found with pointed | deeper
    · have behind : '\n' ∉ fraction ++ text := by simp_all
      obtain ⟨texts, fills⟩ := exists_fillsTokens_of_pointed scanned behind later pointed
      refine ⟨whole :: texts, fillsTokens_decimal_iff.mpr ?_, ?_⟩
      · rw [List.append_assoc]
        exact captureThen_cons isWhole.nonempty (by simp_all) fills
      · show ¬ ((whole ++ '.' :: fraction).length :: _).le (whole.length :: _)
        rw [lengths_le_iff, List.length_append, List.length_cons]
        omega
    · obtain ⟨texts, fills, shorter⟩ := ih flat.2 later deeper
      exact ⟨_, fillsTokens_decimal_iff.mpr (captureThen_cons filled flat.1 fills),
        not_cons_lengths_le shorter⟩
  | integer _ _ _ _ ih =>
    obtain ⟨filled, later⟩ := List.forall_mem_cons.mp nonempty
    rw [List.mem_append, not_or] at flat
    obtain ⟨texts, fills, shorter⟩ := ih flat.2 later found
    exact ⟨_, fillsTokens_integer_iff.mpr (captureThen_cons filled flat.1 fills),
      not_cons_lengths_le shorter⟩

end ScenarioRunner
