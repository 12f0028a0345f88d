import Mathlib.Logic.Basic
import ScenarioRunner.Proofs.Deduplicated
import ScenarioRunner.Registry

namespace ScenarioRunner

namespace Registry

variable {φ : Type}

theorem isMissing_iff {registry : Registry φ} {text : String} :
    registry.isMissing text = true ↔ registry.find text = .ok none := by
  unfold isMissing
  split
  · rename_i found
    simp [found]
  · rename_i other
    simpa using other

theorem any_isMissing_iff {registry : Registry φ} {steps : List Step} :
    (steps.any fun step => registry.isMissing step.text) = true ↔
      ∃ step ∈ steps, registry.find step.text = .ok none := by
  rw [List.any_eq_true]
  exact exists_congr fun step => and_congr_right fun _ => isMissing_iff

theorem mem_of_findIn {text : String} {definitions : List (StepDefinition φ)} {found : StepMatch φ}
    (fits : findIn text definitions = .ok (some found)) : found.definition ∈ definitions := by
  induction definitions with
  | nil => cases fits
  | cons definition rest ih =>
    rw [findIn] at fits
    split at fits
    · cases fits
    · cases fits
      exact List.mem_cons_self ..
    · exact List.mem_cons_of_mem _ (ih fits)

/-- Of the steps with a text the first one is kept. -/
theorem find?_firstOfEachText (steps : List Step) (text : String) :
    (firstOfEachText steps).find? (·.text == text) = steps.find? (·.text == text) := by
  unfold firstOfEachText
  induction steps using eraseDupsBy_induction fun a b : Step => a.text == b.text with
  | nil => rw [List.eraseDupsBy_nil]
  | cons step rest ih =>
    rw [List.eraseDupsBy_cons, List.find?_cons, List.find?_cons]
    by_cases same : step.text = text
    · simp [same]
    · have apart : (step.text == text) = false := by simpa using same
      simp only [apart]
      rw [ih, List.find?_filter]
      congr 1
      funext other
      by_cases here : other.text = text
      · simp [here, Ne.symm same]
      · simp [here]

/-- Steps may be left out by their texts before or after the first of each text is taken. -/
theorem firstOfEachText_filter (kept : String → Bool) (steps : List Step) :
    firstOfEachText (steps.filter fun step => kept step.text) =
      (firstOfEachText steps).filter fun step => kept step.text :=
  eraseDupsBy_filter (fun _ _ same => congrArg kept (beq_iff_eq.mp same)) steps

theorem findIdx_lt_of_filter {α : Type} {kept first second : α → Bool} {list : List α}
    (keepsFirst : ∀ a, first a = true → kept a = true)
    (keepsSecond : ∀ a, second a = true → kept a = true)
    (before : (list.filter kept).findIdx first < (list.filter kept).findIdx second) :
    list.findIdx first < list.findIdx second := by
  induction list with
  | nil => exact absurd before (Nat.lt_irrefl _)
  | cons a rest ih =>
    rw [List.filter_cons] at before
    rw [List.findIdx_cons, List.findIdx_cons]
    cases kept? : kept a with
    | false =>
      have notFirst : first a = false := Bool.eq_false_iff.mpr fun is => by
        simp [keepsFirst a is] at kept?
      have notSecond : second a = false := Bool.eq_false_iff.mpr fun is => by
        simp [keepsSecond a is] at kept?
      simp only [kept?, Bool.false_eq_true, if_false] at before
      simpa [notFirst, notSecond] using ih before
    | true =>
      simp only [kept?, if_true, List.findIdx_cons] at before
      cases isSecond : second a with
      | true => simp [isSecond] at before
      | false =>
        cases isFirst : first a with
        | true => simp
        | false =>
          simp only [isFirst, isSecond, cond_false, Nat.add_lt_add_iff_right] at before ⊢
          exact ih before

/-- The first steps of all texts stand in the order in which the texts first occur. -/
theorem pairwise_firstOfEachText (steps : List Step) :
    (firstOfEachText steps).Pairwise fun a b =>
      steps.findIdx (·.text == a.text) < steps.findIdx (·.text == b.text) := by
  unfold firstOfEachText
  induction steps using eraseDupsBy_induction fun a b : Step => a.text == b.text with
  | nil => simp
  | cons step rest ih =>
    have apart : ∀ other ∈ (rest.filter fun b => (b.text == step.text) = false).eraseDupsBy
        (fun a b : Step => a.text == b.text), other.text ≠ step.text := by
      intro other member
      simpa using (List.mem_filter.mp (mem_of_mem_eraseDupsBy member)).2
    have behind : ∀ {other : Step}, other.text ≠ step.text →
        (step :: rest).findIdx (·.text == other.text) = rest.findIdx (·.text == other.text) + 1 := by
      intro other differs
      rw [List.findIdx_cons, beq_false_of_ne (Ne.symm differs)]
      rfl
    rw [List.eraseDupsBy_cons]
    refine List.pairwise_cons.mpr ⟨fun other member => ?_, ?_⟩
    · rw [behind (apart other member), List.findIdx_cons, BEq.refl step.text]
      exact Nat.succ_pos _
    · refine List.Pairwise.imp_of_mem (fun {a b} inA inB before => ?_) ih
      rw [behind (apart a inA), behind (apart b inB), Nat.add_lt_add_iff_right]
      refine findIdx_lt_of_filter (fun other is => ?_) (fun other is => ?_) before
      · simpa [beq_iff_eq.mp is] using apart a inA
      · simpa [beq_iff_eq.mp is] using apart b inB

/-- A missing text is listed with the first step that has it. -/
theorem find?_missingAmong (registry : Registry φ) (steps : List Step) (text : String) :
    (registry.missingAmong steps).find? (·.text == text) =
      if registry.isMissing text then (steps.find? (·.text == text)).map .ofStep else none := by
  have own : ((·.text == text) ∘ MissingStep.ofStep) = fun step : Step => step.text == text := rfl
  have test : (fun step : Step => decide (registry.isMissing step.text = true ∧
      (step.text == text) = true)) = fun step => registry.isMissing text && (step.text == text) := by
    funext step
    by_cases same : step.text = text <;> simp [same]
  rw [missingAmong, List.find?_map, own, find?_firstOfEachText, List.find?_filter, test]
  cases registry.isMissing text <;> simp

theorem missingAmong_eq_nil_iff {registry : Registry φ} {steps : List Step} :
    registry.missingAmong steps = [] ↔ ∀ step ∈ steps, registry.find step.text ≠ .ok none := by
  constructor
  · intro none step member lacking
    have found := registry.find?_missingAmong steps step.text
    rw [none, if_pos (isMissing_iff.mpr lacking)] at found
    have absent : steps.find? (·.text == step.text) = .none := by simpa using found.symm
    exact absurd (BEq.refl step.text) (List.find?_eq_none.mp absent step member)
  · intro defined
    refine List.eq_nil_iff_forall_not_mem.mpr fun missing member => ?_
    have listed : ((registry.missingAmong steps).find? (·.text == missing.text)).isSome = true :=
      List.find?_isSome.mpr ⟨missing, member, BEq.refl _⟩
    rw [find?_missingAmong] at listed
    split at listed
    · rename_i lacking
      rw [Option.isSome_map] at listed
      obtain ⟨step, known, same⟩ := List.find?_isSome.mp listed
      refine defined step known ?_
      rw [beq_iff_eq.mp same]
      exact isMissing_iff.mp lacking
    · cases listed

theorem missingAmong_ne_nil_iff {registry : Registry φ} {steps : List Step} :
    registry.missingAmong steps ≠ [] ↔ ∃ step ∈ steps, registry.find step.text = .ok none := by
  rw [Ne, missingAmong_eq_nil_iff]
  simp only [not_forall, not_not, exists_prop]

end Registry

end ScenarioRunner
