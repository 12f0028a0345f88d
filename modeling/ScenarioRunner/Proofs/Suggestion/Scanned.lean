import ScenarioRunner.Proofs.Text.Cut
import ScenarioRunner.Proofs.Text.Digits
import ScenarioRunner.Suggestion

namespace ScenarioRunner

/-- A character that quotations begin and end with. -/
def IsMark (c : Char) : Prop := c = '"' ∨ c = '\x27'

theorem IsMark.not_word {mark : Char} (isMark : IsMark mark) : isWordChar mark = false := by
  rcases isMark with rfl | rfl <;> decide

theorem quotation?_eq_some_iff {mark : Char} {text content after : List Char} :
    quotation? mark text = some (content, after) ↔
      IsMark mark ∧ mark ∉ content ∧ text = content ++ mark :: after := by
  unfold quotation?
  constructor
  · intro found
    split at found
    · rename_i isMark
      obtain ⟨whole, absent⟩ := cutAt?_eq_some found
      exact ⟨by simpa [IsMark] using isMark, absent, whole⟩
    · cases found
  · rintro ⟨isMark, absent, rfl⟩
    rw [if_pos (by simpa [IsMark] using isMark), cutAt?_append absent]

theorem decimal?_eq_some {text number after : List Char}
    (found : decimal? text = some (number, after)) :
    ∃ whole fraction, IsDigits whole ∧ IsDigits fraction ∧ EndsWord after ∧
      number = whole ++ '.' :: fraction ∧ text = whole ++ '.' :: fraction ++ after := by
  have first := List.takeWhile_append_dropWhile (p := isDecimalDigit) (l := text)
  unfold decimal? at found
  split at found
  · rename_i fraction pointed
    have second := List.takeWhile_append_dropWhile (p := isDecimalDigit) (l := fraction)
    simp only at found
    split at found
    · cases found
    · rename_i good
      cases found
      simp only [Bool.or_eq_true, not_or, Bool.not_eq_true] at good
      obtain ⟨⟨whole, behind⟩, ends⟩ := good
      refine ⟨_, _, isDigits_takeWhile whole, isDigits_takeWhile behind, ends, rfl, ?_⟩
      rw [List.append_assoc, List.cons_append, second, ← pointed, first]
  · cases found

theorem integer?_eq_some {text number after : List Char}
    (found : integer? text = some (number, after)) :
    IsDigits number ∧ EndsWord after ∧ text = number ++ after := by
  unfold integer? at found
  simp only at found
  split at found
  · cases found
  · rename_i good
    cases found
    simp only [Bool.or_eq_true, not_or, Bool.not_eq_true] at good
    exact ⟨isDigits_takeWhile good.1, good.2, List.takeWhile_append_dropWhile.symm⟩

/-- Digits are no number where letters follow. -/
theorem integer?_eq_none {c : Char} {text : List Char} (digit : isDecimalDigit c = true)
    (missing : integer? (c :: text) = none) :
    ∃ digits d rest, text = digits ++ d :: rest ∧ (∀ e ∈ digits, isDecimalDigit e = true) ∧
      isDecimalDigit d = false ∧ isWordChar d = true := by
  have parts := List.takeWhile_append_dropWhile (p := isDecimalDigit) (l := text)
  unfold integer? at missing
  simp only [List.takeWhile_cons, List.dropWhile_cons, digit, if_true, List.isEmpty_cons,
    Bool.false_or] at missing
  split at missing
  · rename_i word
    cases dropped : text.dropWhile isDecimalDigit with
    | nil =>
      rw [dropped] at word
      cases word
    | cons d rest =>
      rw [dropped] at parts word
      have stops := List.head?_dropWhile_not isDecimalDigit text
      simp only [dropped, List.head?_cons] at stops
      exact ⟨_, d, rest, parts.symm, fun e member => List.mem_takeWhile_imp member, stops, word⟩
  · cases missing

theorem integer?_eq_none_of_stepToken? {before : Option Char} {text : List Char}
    (apart : before.any isWordChar = false) (missing : stepToken? before text = none) :
    integer? text = none := by
  cases text with
  | nil => rfl
  | cons c text =>
    unfold stepToken? at missing
    simp only [apart, Bool.false_eq_true, if_false] at missing
    split at missing
    · cases missing
    · split at missing
      · cases missing
      · exact Option.map_eq_none_iff.mp missing

/-- The tokens of a step text, each read with the text that is left there and the character before
it. -/
inductive Scanned : Option Char → List Char → List StepToken → Prop
  | done {before} : Scanned before [] []
  | plain {before c text tokens} : stepToken? before (c :: text) = none →
      Scanned (some c) text tokens → Scanned before (c :: text) (.plain c :: tokens)
  | quotation {before mark content text tokens} : IsMark mark → mark ∉ content →
      Scanned (some mark) text tokens →
      Scanned before (mark :: (content ++ mark :: text)) (.quotation mark content :: tokens)
  | decimal {before whole fraction text tokens} : before.any isWordChar = false →
      IsDigits whole → IsDigits fraction → EndsWord text →
      Scanned (whole ++ '.' :: fraction).getLast? text tokens →
      Scanned before (whole ++ '.' :: fraction ++ text) (.decimal (whole ++ '.' :: fraction) :: tokens)
  | integer {before digits text tokens} : before.any isWordChar = false →
      IsDigits digits → EndsWord text → Scanned digits.getLast? text tokens →
      Scanned before (digits ++ text) (.integer digits :: tokens)

theorem Scanned.of_stepToken? {before : Option Char} {text after : List Char} {token : StepToken}
    {tokens : List StepToken} (found : stepToken? before text = some (token, after))
    (later : Scanned token.last after tokens) : Scanned before text (token :: tokens) := by
  unfold stepToken? at found
  split at found
  · cases found
  · rename_i c rest
    split at found
    · rename_i content tail quoted
      cases found
      obtain ⟨isMark, absent, rfl⟩ := quotation?_eq_some_iff.mp quoted
      exact .quotation isMark absent later
    · split at found
      · cases found
      · rename_i apart
        rw [Bool.not_eq_true] at apart
        split at found
        · rename_i number tail read
          cases found
          obtain ⟨whole, fraction, isWhole, isFraction, ends, rfl, known⟩ := decimal?_eq_some read
          rw [known]
          exact .decimal apart isWhole isFraction ends later
        · obtain ⟨⟨number, tail⟩, read, equal⟩ := Option.map_eq_some_iff.mp found
          cases equal
          obtain ⟨isDigits, ends, known⟩ := integer?_eq_some read
          rw [known]
          exact .integer apart isDigits ends later

theorem scanned_stepTokens (before : Option Char) (text : List Char) :
    Scanned before text (stepTokens before text) := by
  fun_induction stepTokens before text with
  | case1 => exact .done
  | case2 before c rest token after found ih => exact .of_stepToken? found ih
  | case3 before c rest missing ih => exact .plain missing ih

/-- A value that a step text holds, with the wording from there up to the next one. -/
structure HeldValue where
  kind : ParamKind
  content : List Char
  after : List Char
  deriving DecidableEq, Repr

/-- The value of a token. The marks around a quotation are no part of it. -/
def StepToken.held? : StepToken → Option (ParamKind × List Char)
  | plain _ => none
  | quotation _ content => some (.string, content)
  | decimal text => some (.double, text)
  | integer text => some (.int, text)

/-- What stands before the first value. -/
def wording : List StepToken → List Char
  | [] => []
  | .plain c :: rest => c :: wording rest
  | .quotation mark _ :: _ => [mark]
  | .decimal _ :: _ | .integer _ :: _ => []

def heldValues : List StepToken → List HeldValue
  | [] => []
  | .plain _ :: rest => heldValues rest
  | .quotation mark content :: rest => ⟨.string, content, mark :: wording rest⟩ :: heldValues rest
  | .decimal text :: rest => ⟨.double, text, wording rest⟩ :: heldValues rest
  | .integer text :: rest => ⟨.int, text, wording rest⟩ :: heldValues rest

theorem map_heldValues (tokens : List StepToken) :
    (heldValues tokens).map (fun value => (value.kind, value.content)) =
      tokens.filterMap StepToken.held? := by
  induction tokens with
  | nil => rfl
  | cons token rest ih => cases token <;> simp [heldValues, StepToken.held?, List.filterMap_cons, ih]

/-- A step text is its wording with its values in between. -/
theorem Scanned.text_eq {before : Option Char} {text : List Char} {tokens : List StepToken}
    (scanned : Scanned before text tokens) :
    text = wording tokens ++ (heldValues tokens).flatMap fun value => value.content ++ value.after := by
  induction scanned with
  | done => rfl
  | plain _ _ ih => exact congrArg _ ih
  | quotation _ _ _ ih =>
    rw [wording, heldValues, List.flatMap_cons, List.singleton_append, List.append_assoc,
      List.cons_append, ← ih]
  | decimal _ _ _ _ _ ih =>
    refine (congrArg _ ih).trans ?_
    simp [wording, heldValues]
  | integer _ _ _ _ ih =>
    refine (congrArg _ ih).trans ?_
    simp [wording, heldValues]

/-- What a value was read from. -/
inductive HeldValue.Spelled : HeldValue → Prop
  | string (content after : List Char) : Spelled ⟨.string, content, after⟩
  | double {whole fraction : List Char} (after : List Char) : IsDigits whole → IsDigits fraction →
      Spelled ⟨.double, whole ++ '.' :: fraction, after⟩
  | int {digits : List Char} (after : List Char) : IsDigits digits → Spelled ⟨.int, digits, after⟩

theorem Scanned.spelled {before : Option Char} {text : List Char} {tokens : List StepToken}
    (scanned : Scanned before text tokens) : ∀ value ∈ heldValues tokens, value.Spelled := by
  induction scanned with
  | done => exact fun _ member => nomatch member
  | plain _ _ ih => exact ih
  | quotation _ _ _ ih => exact List.forall_mem_cons.mpr ⟨.string _ _, ih⟩
  | decimal _ isWhole isFraction _ _ ih =>
    exact List.forall_mem_cons.mpr ⟨.double _ isWhole isFraction, ih⟩
  | integer _ isDigits _ _ ih => exact List.forall_mem_cons.mpr ⟨.int _ isDigits, ih⟩

theorem Scanned.wording_subset {before : Option Char} {text : List Char} {tokens : List StepToken}
    (scanned : Scanned before text tokens) : wording tokens ⊆ text := by
  intro c member
  rw [scanned.text_eq]
  exact List.mem_append_left _ member

theorem Scanned.heldValue_subset {before : Option Char} {text : List Char} {tokens : List StepToken}
    (scanned : Scanned before text tokens) {value : HeldValue} (member : value ∈ heldValues tokens) :
    value.content ++ value.after ⊆ text := by
  intro c inside
  rw [scanned.text_eq]
  exact List.mem_append_right _ (List.mem_flatMap.mpr ⟨value, member, inside⟩)

end ScenarioRunner
