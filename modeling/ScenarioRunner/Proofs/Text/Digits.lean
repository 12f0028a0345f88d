import Mathlib.Data.List.TakeWhile
import ScenarioRunner.Text.Words

namespace ScenarioRunner

/-- Digits above ASCII lie among the word characters, script by script. -/
theorem digitRanges_within_wordRanges : digitRanges.all (fun digits => digits.2 < 0x80 ||
    wordRanges.any fun word => word.1 ≤ digits.1 && digits.2 ≤ word.2) = true := by
  decide +kernel

theorem isWordChar_of_isDecimalDigit {c : Char} (digit : isDecimalDigit c = true) :
    isWordChar c = true := by
  simp only [isDecimalDigit, Bool.or_eq_true, Bool.and_eq_true, decide_eq_true_eq] at digit
  rcases digit with ascii | ⟨above, inside⟩
  · simp [isWordChar, Char.isAlphanum, ascii]
  · obtain ⟨digits, listed, bounds⟩ := List.any_eq_true.mp inside
    have wider := List.all_eq_true.mp digitRanges_within_wordRanges digits listed
    simp only [Bool.or_eq_true, Bool.and_eq_true, decide_eq_true_eq, List.any_eq_true] at bounds wider
    rcases wider with low | ⟨word, known, covers⟩
    · omega
    · have contained : wordRanges.contains c = true := by
        refine List.any_eq_true.mpr ⟨word, known, ?_⟩
        simp only [Bool.and_eq_true, decide_eq_true_eq]
        omega
      simp [isWordChar, above, contained]

/-- Digits of any script, at least one. -/
structure IsDigits (text : List Char) : Prop where
  nonempty : text ≠ []
  made : ∀ c ∈ text, isDecimalDigit c = true

/-- What stands before the text is no part of a word that goes on here. -/
def EndsWord (text : List Char) : Prop := text.head?.any isWordChar = false

theorem endsWord_cons_iff {c : Char} {text : List Char} :
    EndsWord (c :: text) ↔ isWordChar c = false := by
  simp [EndsWord]

theorem IsDigits.not_endsWord {digits : List Char} (isDigits : IsDigits digits)
    (rest : List Char) : ¬ EndsWord (digits ++ rest) := by
  obtain ⟨c, others, rfl⟩ := List.exists_cons_of_ne_nil isDigits.nonempty
  have word := isWordChar_of_isDecimalDigit (isDigits.made c (List.mem_cons_self ..))
  rw [List.cons_append, endsWord_cons_iff, word]
  exact Bool.noConfusion

theorem IsDigits.not_mem {digits : List Char} (isDigits : IsDigits digits) {c : Char}
    (other : isWordChar c = false) : c ∉ digits := by
  intro member
  rw [isWordChar_of_isDecimalDigit (isDigits.made c member)] at other
  cases other

theorem isDigits_takeWhile {text : List Char}
    (some_digits : (text.takeWhile isDecimalDigit).isEmpty = false) :
    IsDigits (text.takeWhile isDecimalDigit) := by
  refine ⟨fun empty => ?_, fun c member => List.mem_takeWhile_imp member⟩
  rw [empty] at some_digits
  cases some_digits

/-- Digits are followed by what is no digit in one way only. -/
theorem digits_append_inj {one two : List Char} {c d : Char} {rest more : List Char}
    (first : ∀ c ∈ one, isDecimalDigit c = true) (second : ∀ c ∈ two, isDecimalDigit c = true)
    (other : isDecimalDigit c = false) (another : isDecimalDigit d = false)
    (same : one ++ c :: rest = two ++ d :: more) : one = two ∧ c = d ∧ rest = more := by
  have taken := congrArg (List.takeWhile isDecimalDigit) same
  rw [List.takeWhile_append_of_pos first, List.takeWhile_append_of_pos second, List.takeWhile_cons,
    List.takeWhile_cons, other, another] at taken
  have digits : one = two := by simpa using taken
  rw [digits, List.append_cancel_left_eq] at same
  exact ⟨digits, List.cons.inj same⟩

end ScenarioRunner
