import Mathlib.Data.List.Nodup
import ScenarioRunner.Proofs.Registry

namespace ScenarioRunner

/-- The list has, of the texts of the steps, those that are wanted: each once, in the order in which
they first occur, and with the keyword and the place of the step that has it first. -/
structure ListsFirst (wanted : String → Prop) (steps : List Step) (missing : List MissingStep) :
    Prop where
  distinct : (missing.map (·.text)).Nodup
  texts : ∀ text, text ∈ missing.map (·.text) ↔ wanted text ∧ text ∈ steps.map (·.text)
  ordered : missing.Pairwise fun a b =>
    steps.findIdx (·.text == a.text) < steps.findIdx (·.text == b.text)
  first : ∀ listed ∈ missing, ∃ step, steps.find? (·.text == listed.text) = some step ∧
    listed.keyword = step.keyword ∧ listed.location = step.location

/-- Texts that no step has may be wanted or not. -/
theorem ListsFirst.congr {wanted other : String → Prop} {steps : List Step}
    {missing : List MissingStep} (lists : ListsFirst wanted steps missing)
    (same : ∀ text ∈ steps.map (·.text), (wanted text ↔ other text)) :
    ListsFirst other steps missing := by
  refine ⟨lists.distinct, fun text => ?_, lists.ordered, lists.first⟩
  rw [lists.texts]
  exact and_congr_left (same text)

theorem ListsFirst.not_mem {wanted : String → Prop} {steps : List Step} {missing : List MissingStep}
    (lists : ListsFirst wanted steps missing) {text : String} (unwanted : ¬ wanted text) :
    text ∉ missing.map (·.text) :=
  fun member => unwanted ((lists.texts text).mp member).1

theorem mem_map_iff_isSome_find? {α : Type} (key : α → String) (list : List α) (text : String) :
    text ∈ list.map key ↔ (list.find? fun a => key a == text).isSome = true := by
  simp only [List.find?_isSome, List.mem_map, beq_iff_eq]

namespace Registry

variable {φ : Type} (registry : Registry φ)

theorem ordered_missingAmong (steps : List Step) :
    (registry.missingAmong steps).Pairwise fun a b =>
      steps.findIdx (·.text == a.text) < steps.findIdx (·.text == b.text) := by
  unfold missingAmong
  refine List.pairwise_map.mpr (List.Pairwise.imp_of_mem (fun {a b} inA inB before => ?_)
    (pairwise_firstOfEachText _))
  have lacks {step : Step} (member : step ∈ firstOfEachText
      (steps.filter fun step => registry.isMissing step.text)) :
      registry.isMissing step.text = true :=
    (List.mem_filter.mp (mem_of_mem_eraseDupsBy member)).2
  refine findIdx_lt_of_filter (fun other is => ?_) (fun other is => ?_) before
  · rw [beq_iff_eq.mp is]
    exact lacks inA
  · rw [beq_iff_eq.mp is]
    exact lacks inB

theorem distinct_missingAmong (steps : List Step) :
    ((registry.missingAmong steps).map (·.text)).Nodup := by
  refine List.pairwise_map.mpr ((registry.ordered_missingAmong steps).imp ?_)
  intro a b before same
  rw [same] at before
  exact Nat.lt_irrefl _ before

/-- Each missing text is found again under its first step. -/
theorem find?_of_mem_missingAmong {steps : List Step} {listed : MissingStep}
    (member : listed ∈ registry.missingAmong steps) :
    (registry.missingAmong steps).find? (·.text == listed.text) = some listed := by
  obtain ⟨found, here⟩ := Option.isSome_iff_exists.mp
    ((mem_map_iff_isSome_find? MissingStep.text _ listed.text).mp (List.mem_map_of_mem member))
  have same : found.text = listed.text := by simpa using List.find?_some here
  rw [here, List.inj_on_of_nodup_map (registry.distinct_missingAmong steps)
    (List.mem_of_find?_eq_some here) member same]

theorem listsFirst_missingAmong (steps : List Step) :
    ListsFirst (fun text => registry.find text = .ok none) steps (registry.missingAmong steps) := by
  refine ⟨registry.distinct_missingAmong steps, fun text => ?_, registry.ordered_missingAmong steps,
    fun listed member => ?_⟩
  · rw [mem_map_iff_isSome_find? MissingStep.text, mem_map_iff_isSome_find? Step.text,
      find?_missingAmong, ← isMissing_iff]
    cases registry.isMissing text <;> simp
  · have found := registry.find?_of_mem_missingAmong member
    rw [find?_missingAmong] at found
    split at found
    · obtain ⟨step, first, rfl⟩ := Option.map_eq_some_iff.mp found
      exact ⟨step, first, rfl, rfl⟩
    · cases found

/-- A plan is searched for missing steps as a scenario with all of its steps would be. -/
theorem missingSteps_eq (plan : TestPlan) :
    registry.missingSteps plan = registry.missingAmong plan.steps := by
  rw [missingSteps, missingAmong, firstOfEachText_filter]

end Registry

end ScenarioRunner
