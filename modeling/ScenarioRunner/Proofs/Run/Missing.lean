import ScenarioRunner.Proofs.Run.Trace

namespace ScenarioRunner

namespace Executor

variable {σ ω π : Type} {executor : Executor σ ω π} {id : ScenarioId} {steps : List Step}

theorem CallEnds.ne_stepsNotFound {step : Step} {resolver : Option (Resolver π)}
    {call : Except π (Except StepFault σ)} {failure : Failure}
    (ends : CallEnds step resolver call (.ok (.error failure))) (missing : List MissingStep) :
    failure ≠ .stepsNotFound missing := by
  cases ends <;> exact nofun

theorem StepCourse.ne_stepsNotFound {state : StepState σ π} {step : Step} {notes : List ω}
    {failure : Failure} (course : executor.StepCourse state step notes (.ok (.error failure)))
    (missing : List MissingStep) : failure ≠ .stepsNotFound missing := by
  cases course with
  | unconverted | unresolved => exact nofun
  | called _ _ ends => exact ends.ne_stepsNotFound missing

/-- Steps that are run fail as steps. -/
theorem StepsCourse.ne_stepsNotFound {state : StepState σ π} {outputs : List (RunOutput ω)}
    {failure : Failure} (course : executor.StepsCourse id state steps outputs (.ok (some failure)))
    (missing : List MissingStep) : failure ≠ .stepsNotFound missing := by
  generalize ended : Except.ok (some failure) = outcome at course
  induction course with
  | done | unwound => cases ended
  | passed _ _ ih => exact ih ended
  | failed step =>
    cases ended
    exact step.ne_stepsNotFound missing

/-- A scenario fails for missing steps just when it has some and they are to fail it. -/
theorem Course.exists_stepsNotFound_iff {outputs : List (RunOutput ω)} {value : Except Failure Unit}
    (course : executor.Course id steps outputs (.ok value)) :
    (∃ missing, value = .error (.stepsNotFound missing)) ↔ executor.failOnMissingSteps = true ∧
      ∃ step ∈ steps, executor.registry.find step.text = .ok none := by
  have complete (defined : ∀ step ∈ steps, executor.registry.find step.text ≠ .ok none) :
      ¬ (executor.failOnMissingSteps = true ∧
        ∃ step ∈ steps, executor.registry.find step.text = .ok none) := by
    rintro ⟨_, step, member, lacking⟩
    exact defined step member lacking
  cases course with
  | passed defined | worldless defined => exact iff_of_false nofun (complete defined)
  | failed defined _ ran =>
    refine iff_of_false ?_ (complete defined)
    rintro ⟨missing, same⟩
    cases same
    exact ran.ne_stepsNotFound missing rfl
  | refused lacking strict => exact iff_of_true ⟨_, rfl⟩ ⟨strict, lacking⟩
  | skipped _ lenient =>
    refine iff_of_false nofun ?_
    rintro ⟨strict, _⟩
    exact absurd (lenient.symm.trans strict) Bool.false_ne_true

/-- It tells of all of them then. -/
theorem Course.listsFirst {outputs : List (RunOutput ω)} {missing : List MissingStep}
    (course : executor.Course id steps outputs (.ok (.error (.stepsNotFound missing)))) :
    ListsFirst (fun text => executor.registry.find text = .ok none) steps missing := by
  cases course with
  | failed _ _ ran => exact absurd rfl (ran.ne_stepsNotFound missing)
  | refused _ _ listed => exact listed

end Executor

namespace Runner

variable {σ ω : Type} (runner : Runner σ ω)

theorem exists_stepsNotFound_iff (id : ScenarioId) (steps : List Step) :
    (∃ missing, (runner.runScenario id steps).value = .error (.stepsNotFound missing)) ↔
      runner.config.failOnMissingSteps = true ∧
      ∃ step ∈ steps, runner.registry.find step.text = .ok none :=
  (runner.course_runScenario id steps).exists_stepsNotFound_iff

theorem listsFirst_of_stepsNotFound {id : ScenarioId} {steps : List Step}
    {missing : List MissingStep}
    (failed : (runner.runScenario id steps).value = .error (.stepsNotFound missing)) :
    ListsFirst (fun text => runner.registry.find text = .ok none) steps missing := by
  have course := runner.course_runScenario id steps
  rw [failed] at course
  exact course.listsFirst

/-- What is found missing in a plan is what its cases fail for when they are run: a case fails for
its share of the plan's missing texts, if it has any. Texts whose captures cannot be converted are not
missing anywhere. -/
structure DiagnosesMissing (plan : TestPlan) : Prop where
  planned : ListsFirst (fun text => runner.registry.find text = .ok none) plan.steps
    (runner.registry.missingSteps plan)
  refused : runner.config.failOnMissingSteps = true → ∀ group case,
    (group, case) ∈ plan.allCases → ∀ id,
      ((∃ missing, (runner.runScenario id (group.background ++ case.steps)).value =
          .error (.stepsNotFound missing)) ↔
        ∃ step ∈ group.background ++ case.steps,
          step.text ∈ (runner.registry.missingSteps plan).map (·.text))
  reported : ∀ group case, (group, case) ∈ plan.allCases → ∀ id missing,
    (runner.runScenario id (group.background ++ case.steps)).value =
        .error (.stepsNotFound missing) →
      ListsFirst (· ∈ (runner.registry.missingSteps plan).map (·.text))
        (group.background ++ case.steps) missing
  unconverted : ∀ text error, runner.registry.find text = .error error →
    text ∉ (runner.registry.missingSteps plan).map (·.text) ∧ ∀ id steps missing,
      (runner.runScenario id steps).value = .error (.stepsNotFound missing) →
        text ∉ missing.map (·.text)

/-- Both ways to look for missing steps agree, for every plan. -/
theorem diagnosesMissing (plan : TestPlan) : runner.DiagnosesMissing plan := by
  have planned := runner.registry.listsFirst_missingAmong plan.steps
  rw [← runner.registry.missingSteps_eq] at planned
  have inPlan {group : TestGroup} {case : TestCase} (member : (group, case) ∈ plan.allCases) :
      ∀ text ∈ (group.background ++ case.steps).map (·.text),
        (runner.registry.find text = .ok none ↔
          text ∈ (runner.registry.missingSteps plan).map (·.text)) := by
    intro text inside
    obtain ⟨step, known, rfl⟩ := List.mem_map.mp inside
    have listed : step.text ∈ plan.steps.map (·.text) :=
      List.mem_map_of_mem (List.mem_flatMap.mpr ⟨_, member, known⟩)
    rw [planned.texts]
    exact (and_iff_left listed).symm
  refine ⟨planned, fun strict group case member id => ?_, fun group case member id missing failed => ?_,
    fun text error unreadable => ⟨?_, fun id steps missing failed => ?_⟩⟩
  · rw [exists_stepsNotFound_iff, and_iff_right strict]
    refine exists_congr fun step => and_congr_right fun known => ?_
    exact inPlan member step.text (List.mem_map_of_mem known)
  · exact (runner.listsFirst_of_stepsNotFound failed).congr (inPlan member)
  · exact planned.not_mem (by simp [unreadable])
  · exact (runner.listsFirst_of_stepsNotFound failed).not_mem (by simp [unreadable])

end Runner

end ScenarioRunner
