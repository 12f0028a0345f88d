import ScenarioRunner.Text.Cut

namespace ScenarioRunner

theorem afterStart?_append (start rest : List Char) :
    afterStart? start (start ++ rest) = some rest := by
  induction start with
  | nil => rfl
  | cons c start ih => simp [afterStart?, ih]

theorem afterStart?_eq_none_iff {start text : List Char} :
    afterStart? start text = none ↔ ¬ start <+: text := by
  constructor
  · rintro missing ⟨rest, rfl⟩
    rw [afterStart?_append] at missing
    cases missing
  · intro other
    cases found : afterStart? start text with
    | none => rfl
    | some rest => exact absurd ⟨rest, (afterStart?_eq_some found).symm⟩ other

theorem cutAt?_append {c : Char} {before : List Char} (absent : c ∉ before) (after : List Char) :
    cutAt? c (before ++ c :: after) = some (before, after) := by
  induction before with
  | nil => simp [cutAt?]
  | cons d rest ih =>
    rw [List.mem_cons, not_or] at absent
    rw [List.cons_append, cutAt?, if_neg (Ne.symm absent.1), ih absent.2]
    rfl

theorem cutAt?_eq_none_iff {c : Char} {text : List Char} : cutAt? c text = none ↔ c ∉ text := by
  constructor
  · intro uncut member
    obtain ⟨before, after, rfl, absent⟩ := List.eq_append_cons_of_mem member
    rw [cutAt?_append absent] at uncut
    cases uncut
  · intro absent
    cases cut : cutAt? c text with
    | none => rfl
    | some parts =>
      obtain ⟨whole, _⟩ := cutAt?_eq_some cut
      exact absurd (by simp [whole]) absent

theorem dropLast_append_singleton (c : Char) (text : List Char) :
    dropLast c (text ++ [c]) = text := by
  simp [dropLast]

/-- Pieces that each end in `c` are pieces between which `c` stands, and one more `c`. -/
theorem flatMap_append_singleton {c : Char} {pieces : List (List Char)} (nonempty : pieces ≠ []) :
    pieces.flatMap (· ++ [c]) = [c].intercalate pieces ++ [c] := by
  induction pieces with
  | nil => exact absurd rfl nonempty
  | cons piece rest ih =>
    cases rest with
    | nil => simp
    | cons next others =>
      rw [List.flatMap_cons, ih (by simp), List.intercalate_cons_cons]
      simp

end ScenarioRunner
