import ScenarioRunner.Number.Read
import ScenarioRunner.Proofs.Text.Digits

namespace ScenarioRunner

theorem readDigits?_eq_some_iff {text : List Char} {n : Nat} :
    readDigits? text = some n ↔
      text ≠ [] ∧ (∀ c ∈ text, c.isDigit = true) ∧ digitsValue text = n := by
  by_cases readable : text.isEmpty || !text.all Char.isDigit
  · rw [readDigits?, if_pos readable]
    simp only [Bool.or_eq_true, List.isEmpty_iff, Bool.not_eq_true', List.all_eq_false] at readable
    refine ⟨fun found => ?_, ?_⟩
    · cases found
    · rintro ⟨nonempty, made, _⟩
      rcases readable with empty | ⟨c, member, other⟩
      · exact absurd empty nonempty
      · exact absurd (made c member) other
  · rw [readDigits?, if_neg readable]
    simp only [Bool.or_eq_true, List.isEmpty_iff, Bool.not_eq_true', List.all_eq_false, not_or,
      not_exists, not_and, Bool.not_eq_true, Bool.not_eq_false] at readable
    refine ⟨fun found => ⟨readable.1, readable.2, Option.some.inj found⟩, ?_⟩
    rintro ⟨_, _, rfl⟩
    rfl

/-- A sign is nothing but a sign. -/
theorem count_readSign {c : Char} (notPlus : c ≠ '+') (notMinus : c ≠ '-') (text : List Char) :
    (readSign text).2.count c = text.count c := by
  unfold readSign
  split
  · simp [Ne.symm notPlus]
  · simp [Ne.symm notMinus]
  · rfl

theorem IsDigits.readSign_append {digits : List Char} (isDigits : IsDigits digits)
    (rest : List Char) : readSign (digits ++ rest) = (false, digits ++ rest) := by
  obtain ⟨c, others, rfl⟩ := List.exists_cons_of_ne_nil isDigits.nonempty
  have digit := isDigits.made c (List.mem_cons_self ..)
  unfold readSign
  split
  · rename_i sign
    obtain ⟨rfl, _⟩ := List.cons.inj sign
    exact absurd digit (by decide)
  · rename_i sign
    obtain ⟨rfl, _⟩ := List.cons.inj sign
    exact absurd digit (by decide)
  · rfl

/-- Digits are a whole number if they are ASCII digits and the number is not too large. -/
theorem isSome_readInt64?_iff {digits : List Char} (isDigits : IsDigits digits) :
    (readInt64? digits).isSome = true ↔
      (∀ c ∈ digits, c.isDigit = true) ∧ (digitsValue digits : Int) ≤ Int64.maxValue.toInt := by
  have unsigned := isDigits.readSign_append []
  rw [List.append_nil] at unsigned
  cases read : readDigits? digits with
  | none =>
    have unread : ¬ ∀ c ∈ digits, c.isDigit = true := fun made => by
      rw [readDigits?_eq_some_iff.mpr ⟨isDigits.nonempty, made, rfl⟩] at read
      cases read
    simp [readInt64?, readInt?, unsigned, read, unread]
  | some n =>
    obtain ⟨_, made, rfl⟩ := readDigits?_eq_some_iff.mp read
    have value : readInt64? digits = if (digitsValue digits : Int) ≤ Int64.maxValue.toInt then
        some (Int64.ofInt (digitsValue digits)) else none := by
      simp [readInt64?, readInt?, unsigned, read]
    rw [value]
    split <;> simp_all

theorem exists_readDigits?_of_readInt? {text : List Char} {n : Int}
    (read : readInt? text = some n) : ∃ m, readDigits? (readSign text).2 = some m := by
  unfold readInt? at read
  generalize readSign text = parts at read
  obtain ⟨negative, rest⟩ := parts
  cases digits : readDigits? rest with
  | none => simp [digits] at read
  | some m => exact ⟨m, rfl⟩

theorem readInt64?_of_no_digit {text : List Char} (free : ∀ c ∈ text, c.isDigit = false) :
    readInt64? text = none := by
  by_contra readable
  obtain ⟨n, read⟩ := Option.ne_none_iff_exists'.mp readable
  obtain ⟨m, whole, _⟩ := Option.bind_eq_some_iff.mp read
  obtain ⟨k, digits⟩ := exists_readDigits?_of_readInt? whole
  obtain ⟨nonempty, made, _⟩ := readDigits?_eq_some_iff.mp digits
  obtain ⟨c, inside⟩ := List.exists_mem_of_ne_nil _ nonempty
  have digit := made c inside
  have member : c ∈ text := by
    rw [← List.count_pos_iff] at inside ⊢
    rwa [← count_readSign _ _ text]
    all_goals rintro rfl; exact absurd digit (by decide)
  rw [free c member] at digit
  cases digit

/-- There is no point in a whole number. -/
theorem point_not_mem_of_readInt? {text : List Char} {n : Int} (read : readInt? text = some n) :
    '.' ∉ text := by
  obtain ⟨m, digits⟩ := exists_readDigits?_of_readInt? read
  have made := (readDigits?_eq_some_iff.mp digits).2.1
  rw [← List.count_eq_zero, ← count_readSign (by decide) (by decide), List.count_eq_zero]
  exact fun point => absurd (made _ point) (by decide)

theorem point_not_mem_of_readInt64? {text : List Char} {n : Int64}
    (read : readInt64? text = some n) : '.' ∉ text := by
  obtain ⟨m, whole, _⟩ := Option.bind_eq_some_iff.mp read
  exact point_not_mem_of_readInt? whole

theorem readExponent?_cons_eq_some {c : Char} {text : List Char} {n : Int}
    (read : readExponent? (c :: text) = some n) : (c = 'e' ∨ c = 'E') ∧ readInt? text = some n := by
  rw [readExponent?] at read
  split at read
  · rename_i mark
    exact ⟨by simpa using mark, read⟩
  · cases read

theorem point_not_mem_of_readExponent? {text : List Char} {n : Int}
    (read : readExponent? text = some n) : '.' ∉ text := by
  cases text with
  | nil => exact List.not_mem_nil
  | cons c rest =>
    obtain ⟨mark, whole⟩ := readExponent?_cons_eq_some read
    rw [List.mem_cons, not_or]
    refine ⟨?_, point_not_mem_of_readInt? whole⟩
    rintro rfl
    rcases mark with other | other <;> exact absurd other (by decide)

/-- A decimal has digits, a point with digits behind it if there is one, and an exponent. -/
theorem readDecimal?_eq_some {text : List Char} {x : Float} (read : readDecimal? text = some x) :
    ∃ whole rest, text = whole ++ rest ∧ (∀ c ∈ whole, c.isDigit = true) ∧
      ((∃ n, readExponent? rest = some n) ∨
        ∃ fraction exponent n, rest = '.' :: (fraction ++ exponent) ∧
          (∀ c ∈ fraction, c.isDigit = true) ∧ readExponent? exponent = some n) := by
  have parts := List.takeWhile_append_dropWhile (p := Char.isDigit) (l := text)
  refine ⟨_, _, parts.symm, fun c member => List.mem_takeWhile_imp member, ?_⟩
  unfold readDecimal? at read
  simp only at read
  generalize behind : text.dropWhile Char.isDigit = rest at read
  split at read
  · rename_i after
    split at read
    · cases read
    · obtain ⟨n, exponent, _⟩ := Option.map_eq_some_iff.mp read
      refine .inr ⟨after.takeWhile Char.isDigit, _, n, ?_, fun c member => ?_, exponent⟩
      · rw [List.takeWhile_append_dropWhile]
      · exact List.mem_takeWhile_imp member
  · split at read
    · cases read
    · obtain ⟨n, exponent, _⟩ := Option.map_eq_some_iff.mp read
      exact .inl ⟨n, exponent⟩

/-- There is at most one point in a number. -/
theorem count_point_of_readDecimal? {text : List Char} {x : Float}
    (read : readDecimal? text = some x) : text.count '.' ≤ 1 := by
  have free {digits : List Char} (made : ∀ c ∈ digits, c.isDigit = true) : digits.count '.' = 0 :=
    List.count_eq_zero.mpr fun point => absurd (made _ point) (by decide)
  obtain ⟨whole, rest, rfl, made, ⟨n, exponent⟩ | ⟨fraction, tail, n, rfl, decimals, exponent⟩⟩ :=
    readDecimal?_eq_some read
  · have none := List.count_eq_zero.mpr (point_not_mem_of_readExponent? exponent)
    rw [List.count_append, free made, none]
    omega
  · have none := List.count_eq_zero.mpr (point_not_mem_of_readExponent? exponent)
    rw [List.count_append, List.count_cons_self, List.count_append, free made, free decimals, none]

/-- A text with a point is none of the words that are numbers. -/
theorem lowered_ne {text : List Char} (point : '.' ∈ text) {word : String}
    (free : '.' ∉ word.toList) : String.ofList (text.map Char.toLower) ≠ word := by
  rintro rfl
  rw [String.toList_ofList] at free
  exact free (List.mem_map.mpr ⟨'.', point, by decide⟩)

theorem readFloat?_of_point {text : List Char} (point : '.' ∈ text) :
    readFloat? text = (readDecimal? (readSign text).2).map fun x =>
      if (readSign text).1 then -x else x := by
  have inside : '.' ∈ (readSign text).2 := by
    rw [← List.count_pos_iff] at point ⊢
    rwa [count_readSign (by decide) (by decide)]
  unfold readFloat?
  generalize readSign text = parts at inside ⊢
  obtain ⟨negative, rest⟩ := parts
  refine congrArg (Option.map fun x => if negative then -x else x) ?_
  split
  · rename_i word
    exact absurd word (lowered_ne inside (by decide))
  · rename_i word
    exact absurd word (lowered_ne inside (by decide))
  · rename_i word
    exact absurd word (lowered_ne inside (by decide))
  · rfl

theorem count_point_of_readFloat? {text : List Char} {x : Float}
    (read : readFloat? text = some x) : text.count '.' ≤ 1 := by
  by_cases point : '.' ∈ text
  · rw [readFloat?_of_point point] at read
    obtain ⟨magnitude, decimal, _⟩ := Option.map_eq_some_iff.mp read
    rw [← count_readSign (by decide) (by decide)]
    exact count_point_of_readDecimal? decimal
  · rw [List.count_eq_zero.mpr point]
    omega

theorem eq_nil_of_readExponent? {text : List Char} {n : Int} (read : readExponent? text = some n)
    (made : ∀ c ∈ text, c ≠ 'e' ∧ c ≠ 'E') : text = [] := by
  cases text with
  | nil => rfl
  | cons c rest =>
    obtain ⟨notSmall, notCapital⟩ := made c (List.mem_cons_self ..)
    obtain ⟨mark, _⟩ := readExponent?_cons_eq_some read
    exact absurd mark (not_or.mpr ⟨notSmall, notCapital⟩)

/-- Digits around a point are a number if they are ASCII digits. -/
theorem isSome_readFloat?_iff {whole fraction : List Char} (isWhole : IsDigits whole)
    (isFraction : IsDigits fraction) :
    (readFloat? (whole ++ '.' :: fraction)).isSome = true ↔
      ∀ c ∈ whole ++ fraction, c.isDigit = true := by
  rw [readFloat?_of_point (by simp), isWhole.readSign_append, Option.isSome_map]
  have unmarked : ∀ c ∈ whole ++ '.' :: fraction, c ≠ 'e' ∧ c ≠ 'E' := by
    have digit (c : Char) (made : isDecimalDigit c = true) : c ≠ 'e' ∧ c ≠ 'E' := by
      refine ⟨?_, ?_⟩ <;> rintro rfl <;> exact absurd made (by decide)
    refine List.forall_mem_append.mpr ⟨fun c member => digit c (isWhole.made c member), ?_⟩
    exact List.forall_mem_cons.mpr ⟨by decide, fun c member => digit c (isFraction.made c member)⟩
  constructor
  · intro readable
    obtain ⟨x, read⟩ := Option.isSome_iff_exists.mp readable
    obtain ⟨digits, rest, same, made, ⟨n, exponent⟩ | ⟨decimals, tail, n, rfl, more, exponent⟩⟩ :=
      readDecimal?_eq_some read
    · change whole ++ '.' :: fraction = digits ++ rest at same
      have none := eq_nil_of_readExponent? exponent
        fun c member => unmarked c (same ▸ List.mem_append_right _ member)
      rw [none, List.append_nil] at same
      exact absurd (made '.' (by simp [← same])) (by decide)
    · have digit (c : Char) (member : c ∈ digits) : isDecimalDigit c = true := by
        simp [isDecimalDigit, made c member]
      obtain ⟨rfl, _, rfl⟩ := digits_append_inj isWhole.made digit (by decide) (by decide) same
      have none := eq_nil_of_readExponent? exponent fun c member => unmarked c (by simp [member])
      rw [none, List.append_nil]
      exact List.forall_mem_append.mpr ⟨made, more⟩
  · intro made
    obtain ⟨first, second⟩ := List.forall_mem_append.mp made
    have taken : (whole ++ '.' :: fraction).takeWhile Char.isDigit = whole := by
      rw [List.takeWhile_append_of_pos first]
      simp
    have dropped : (whole ++ '.' :: fraction).dropWhile Char.isDigit = '.' :: fraction := by
      rw [List.dropWhile_append_of_pos first]
      simp
    have nonempty : (whole ++ fraction.takeWhile Char.isDigit).isEmpty = false := by
      simp [isWhole.nonempty]
    have ends : fraction.dropWhile Char.isDigit = [] := List.dropWhile_eq_nil_iff.mpr second
    simp [readDecimal?, taken, dropped, nonempty, ends, readExponent?]

end ScenarioRunner
