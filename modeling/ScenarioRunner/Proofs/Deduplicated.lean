import Mathlib.Data.List.Basic

namespace ScenarioRunner

/-- What is kept of a list is the first element, and what is kept of those that are unlike it. -/
theorem eraseDupsBy_induction {α : Type} (same : α → α → Bool) {holds : List α → Prop} (nil : holds [])
    (cons : ∀ a rest, holds (rest.filter fun b => same b a = false) → holds (a :: rest))
    (list : List α) : holds list := by
  induction size : list.length using Nat.strongRecOn generalizing list with
  | ind n ih =>
    cases list with
    | nil => exact nil
    | cons a rest =>
      have shorter : (rest.filter fun b => same b a = false).length < n := by
        have kept := List.length_filter_le (fun b => decide (same b a = false)) rest
        rw [List.length_cons] at size
        omega
      exact cons a rest (ih _ shorter _ rfl)

theorem mem_of_mem_eraseDupsBy {α : Type} {same : α → α → Bool} {list : List α} {a : α}
    (member : a ∈ list.eraseDupsBy same) : a ∈ list := by
  induction list using eraseDupsBy_induction same with
  | nil => simp at member
  | cons b rest ih =>
    rw [List.eraseDupsBy_cons] at member
    rcases List.mem_cons.mp member with rfl | later
    · exact List.mem_cons_self ..
    · exact List.mem_cons_of_mem _ (List.mem_filter.mp (ih later)).1

/-- Every element is kept, or is like one that is. -/
theorem exists_mem_eraseDupsBy {α : Type} {same : α → α → Bool} (refl : ∀ a, same a a = true)
    {list : List α} {a : α} (member : a ∈ list) : ∃ first ∈ list.eraseDupsBy same, same a first = true := by
  induction list using eraseDupsBy_induction same with
  | nil => cases member
  | cons b rest ih =>
    rw [List.eraseDupsBy_cons]
    by_cases like : same a b = true
    · exact ⟨b, List.mem_cons_self .., like⟩
    · rcases List.mem_cons.mp member with rfl | later
      · exact absurd (refl a) like
      · obtain ⟨first, known, same⟩ := ih (List.mem_filter.mpr ⟨later, by simpa using like⟩)
        exact ⟨first, List.mem_cons_of_mem _ known, same⟩

/-- It does not matter whether elements are left out before or after their duplicates are, if those
that are alike are left out together. -/
theorem eraseDupsBy_filter {α : Type} {same : α → α → Bool} {kept : α → Bool}
    (alike : ∀ a b, same a b = true → kept a = kept b) (list : List α) :
    (list.filter kept).eraseDupsBy same = (list.eraseDupsBy same).filter kept := by
  induction list using eraseDupsBy_induction same with
  | nil => rfl
  | cons a rest ih =>
    rw [List.eraseDupsBy_cons, List.filter_cons, List.filter_cons, ← ih, List.filter_filter]
    cases keeps : kept a with
    | true =>
      rw [if_pos rfl, if_pos rfl, List.eraseDupsBy_cons, List.filter_filter]
      simp only [Bool.and_comm]
    | false =>
      rw [if_neg Bool.false_ne_true, if_neg Bool.false_ne_true]
      congr 1
      refine List.filter_congr fun b _ => ?_
      cases like : same b a with
      | true => simp [alike b a like, keeps]
      | false => simp

/-- Leaving elements out does not change which of two others comes first. -/
theorem idxOf_lt_of_filter {α : Type} [BEq α] [LawfulBEq α] {kept : α → Bool} {list : List α} {a b : α}
    (keepsA : kept a = true) (keepsB : kept b = true)
    (before : (list.filter kept).idxOf a < (list.filter kept).idxOf b) :
    list.idxOf a < list.idxOf b := by
  induction list with
  | nil => exact absurd before (Nat.lt_irrefl _)
  | cons c rest ih =>
    by_cases firstA : c = a
    · subst firstA
      have apart : c ≠ b := by
        rintro rfl
        exact absurd before (Nat.lt_irrefl _)
      rw [List.idxOf_cons_self, List.idxOf_cons_ne _ apart]
      exact Nat.succ_pos _
    · have apart : c ≠ b := by
        rintro rfl
        rw [List.filter_cons_of_pos keepsB, List.idxOf_cons_self] at before
        exact absurd before (Nat.not_lt_zero _)
      rw [List.idxOf_cons_ne _ firstA, List.idxOf_cons_ne _ apart]
      rw [List.filter_cons] at before
      split at before
      · rw [List.idxOf_cons_ne _ firstA, List.idxOf_cons_ne _ apart] at before
        exact Nat.succ_lt_succ (ih (Nat.lt_of_succ_lt_succ before))
      · exact Nat.succ_lt_succ (ih before)

/-- The elements are kept in the order in which they occur first. -/
theorem pairwise_eraseDups {α : Type} [BEq α] [LawfulBEq α] (list : List α) :
    list.eraseDups.Pairwise fun a b => list.idxOf a < list.idxOf b := by
  induction list using eraseDupsBy_induction (fun a b : α => a == b) with
  | nil => exact .nil
  | cons a rest ih =>
    have kept {b : α} (inside : b ∈ (rest.filter fun b => !(b == a)).eraseDups) : b ≠ a := by
      have member := List.mem_eraseDups.mp inside
      simpa using (List.mem_filter.mp member).2
    rw [List.eraseDups_cons, List.pairwise_cons]
    constructor
    · intro b inside
      rw [List.idxOf_cons_self, List.idxOf_cons_ne _ (kept inside).symm]
      exact Nat.succ_pos _
    · have later : (rest.filter fun b => !(b == a)).eraseDups.Pairwise fun b c =>
          (rest.filter fun b => !(b == a)).idxOf b < (rest.filter fun b => !(b == a)).idxOf c := by
        simpa using ih
      refine later.imp_of_mem fun {b c} first second before => ?_
      rw [List.idxOf_cons_ne _ (kept first).symm, List.idxOf_cons_ne _ (kept second).symm]
      exact Nat.succ_lt_succ (idxOf_lt_of_filter (by simpa using kept first) (by simpa using kept second) before)
end ScenarioRunner
