import Mathlib.Data.List.SplitBy
import ScenarioRunner.Proofs.Text.Trim

namespace ScenarioRunner

theorem splitBy_run {run : List Char} (nonempty : run ≠ []) {blank : Bool}
    (alike : ∀ c ∈ run, isBlank c = blank) :
    run.splitBy (fun a b => isBlank a == isBlank b) = [run] := by
  apply List.splitBy_of_isChain nonempty
  apply List.Pairwise.isChain
  apply List.pairwise_of_forall_mem_list
  intro a memberA b memberB
  rw [alike a memberA, alike b memberB, BEq.refl]

theorem splitBy_append_of_change (first second : List Char) (solid : Bool)
    (last : ∀ c ∈ first.getLast?, isBlank c = solid) (head : ∀ c ∈ second.head?, isBlank c = !solid) :
    (first ++ second).splitBy (fun a b => isBlank a == isBlank b) =
      first.splitBy (fun a b => isBlank a == isBlank b) ++
        second.splitBy (fun a b => isBlank a == isBlank b) := by
  refine List.splitBy_append fun c final d start => ?_
  rw [last c final, head d start]
  cases solid <;> rfl

theorem solid_head_intercalate {words : List (List Char)}
    (solid : ∀ word ∈ words, ∀ c ∈ word, isBlank c = false) (nonempty : ∀ word ∈ words, word ≠ []) :
    ∀ c ∈ ([' '].intercalate words).head?, isBlank c = false := by
  intro c first
  cases words with
  | nil => cases first
  | cons word rest =>
    cases word with
    | nil => exact absurd rfl (nonempty [] (List.mem_cons_self ..))
    | cons d tail =>
      have same : d = c := by cases rest <;> simpa [List.intercalate_cons_cons] using first
      exact same ▸ solid (d :: tail) (List.mem_cons_self ..) d (List.mem_cons_self ..)

/-- Words with single blanks between them are read back as they are. -/
theorem blankSeparated_intercalate {words : List (List Char)} (nonempty : ∀ word ∈ words, word ≠ [])
    (solid : ∀ word ∈ words, ∀ c ∈ word, isBlank c = false) :
    blankSeparated ([' '].intercalate words) = words := by
  have blank : isBlank ' ' = true := by decide
  have keep {word : List Char} (member : word ∈ words) : (!word.any isBlank) = true := by
    simpa using solid word member
  induction words with
  | nil => rfl
  | cons word rest ih =>
    have here := splitBy_run (nonempty word (List.mem_cons_self ..))
      (solid word (List.mem_cons_self ..))
    have nonempty' := fun other member => nonempty other (List.mem_cons_of_mem word member)
    have solid' := fun other member => solid other (List.mem_cons_of_mem word member)
    have later := ih nonempty' solid' fun member => keep (List.mem_cons_of_mem _ member)
    cases rest with
    | nil => simp [blankSeparated, here, keep]
    | cons next others =>
      have gap := splitBy_append_of_change [' '] ([' '].intercalate (next :: others)) true
        (forall_mem_of_optionAll (by decide)) (solid_head_intercalate solid' nonempty')
      have whole := splitBy_append_of_change word ([' '] ++ [' '].intercalate (next :: others)) false
        (fun c last => solid word (List.mem_cons_self ..) c (List.mem_of_getLast? last))
        (fun c first => by
          have space : ' ' = c := by simpa using first
          rw [← space, blank]
          rfl)
      have single : [' '].splitBy (fun a b => isBlank a == isBlank b) = [[' ']] := rfl
      rw [gap, here, single] at whole
      rw [List.intercalate_cons_cons, List.append_assoc, blankSeparated, whole]
      simp only [blankSeparated] at later
      simp [keep, blank, later]

theorem trimmed_intercalate {words : List (List Char)} (nonempty : ∀ word ∈ words, word ≠ [])
    (solid : ∀ word ∈ words, ∀ c ∈ word, isBlank c = false) :
    Trimmed ([' '].intercalate words) := by
  induction words with
  | nil => exact .nil
  | cons word rest ih =>
    have later := ih (fun other member => nonempty other (List.mem_cons_of_mem _ member))
      (fun other member => solid other (List.mem_cons_of_mem _ member))
    have here := solid word (List.mem_cons_self ..)
    cases word with
    | nil => exact absurd rfl (nonempty [] (List.mem_cons_self ..))
    | cons c tail =>
      cases rest with
      | nil =>
        rw [List.intercalate_singleton]
        exact ⟨fun d first => here d (List.mem_of_head? first),
          fun d last => here d (List.mem_of_getLast? last)⟩
      | cons next others =>
        have filled : [' '].intercalate (next :: others) ≠ [] := by
          cases next with
          | nil => exact absurd rfl (nonempty [] (by simp))
          | cons e end_ => cases others <;> simp [List.intercalate_cons_cons]
        rw [List.intercalate_cons_cons, List.append_assoc]
        refine ⟨fun d first => here d (by simp at first; simp [first]), fun d last => ?_⟩
        rw [List.getLast?_append_of_ne_nil _ (by simp), List.getLast?_append_of_ne_nil _ filled] at last
        exact later.2 d last

end ScenarioRunner
