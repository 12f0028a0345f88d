import ScenarioRunner.Proofs.Report.Isolation

namespace ScenarioRunner

namespace FeatureReport

end FeatureReport

namespace Report

theorem distinct_foldl_recorded (events : List RunEvent)
    {features : KeyedList FeatureId FeatureReport} (distinct : features.Distinct) :
    (events.foldl recorded features).Distinct := by
  induction events generalizing features with
  | nil => exact distinct
  | cons event rest ih =>
    refine ih ?_
    unfold recorded
    cases event.featureId? with
    | none => exact distinct
    | some id => exact distinct.update ..

/-- Every feature stands under its identity as some event has spelled it. -/
theorem featureId?_of_mem_keys {events : List RunEvent} {id : FeatureId}
    {features : KeyedList FeatureId FeatureReport}
    (member : id ∈ (events.foldl recorded features).keys) :
    id ∈ features.keys ∨ ∃ event ∈ events, event.featureId? = some id := by
  induction events generalizing features with
  | nil => exact .inl member
  | cons event rest ih =>
    rcases ih member with before | ⟨other, known, same⟩
    · unfold recorded at before
      cases carried : event.featureId? with
      | none =>
        rw [carried] at before
        exact .inl before
      | some other =>
        rw [carried] at before
        simp only [KeyedList.keys_update] at before
        split at before
        · exact .inl before
        · rcases List.mem_append.mp before with old | new
          · exact .inl old
          · rw [List.mem_singleton.mp new]
            exact .inr ⟨event, List.mem_cons_self .., carried⟩
    · exact .inr ⟨other, List.mem_cons_of_mem _ known, same⟩

end Report

end ScenarioRunner
