import ScenarioRunner.Proofs.Run.Course

namespace ScenarioRunner

/-- What is told of steps up to the first that fails, and its failure. -/
inductive StepsTrace : List Step → List ScenarioEvent → Option Failure → Prop
  | done : StepsTrace [] [] none
  | passed {step : Step} {rest : List Step} {events : List ScenarioEvent}
    {failure : Option Failure} : StepsTrace rest events failure →
    StepsTrace (step :: rest) (.step step .started :: .step step .passed :: events) failure
  | failed {step : Step} {rest : List Step} (failure : Failure) :
    StepsTrace (step :: rest)
      (.step step .started :: .step step (.failed failure.message) ::
        rest.map fun later => .step later .skipped) (some failure)

theorem StepsTrace.started_not_mem {steps : List Step} {told : List ScenarioEvent}
    {failure : Option Failure} (trace : StepsTrace steps told failure) : .started ∉ told := by
  induction trace with
  | done => exact List.not_mem_nil
  | passed _ ih => simp [ih]
  | failed => simp

namespace Executor

variable {σ ω π : Type} (executor : Executor σ ω π)

/-- The ways in which a scenario goes that is not unwound, with what is told of it and what comes of
it. -/
inductive CaseTrace (steps : List Step) : List ScenarioEvent → Except Failure Unit → Prop
  | passed {events : List ScenarioEvent} :
    (∀ step ∈ steps, executor.registry.find step.text ≠ .ok none) → StepsTrace steps events none →
    CaseTrace steps (.started :: (events ++ [.finished .passed])) (.ok ())
  | failed {events : List ScenarioEvent} {failure : Failure} :
    (∀ step ∈ steps, executor.registry.find step.text ≠ .ok none) →
    StepsTrace steps events (some failure) →
    CaseTrace steps (.started :: (events ++ [.finished (.failed failure.message)])) (.error failure)
  | worldless {message : String} :
    (∀ step ∈ steps, executor.registry.find step.text ≠ .ok none) →
    CaseTrace steps
      (.started :: (steps.map (fun step => .step step .skipped) ++
        [.finished (.failed (Failure.world message).message)]))
      (.error (.world message))
  | refused {missing : List MissingStep} {ends : List StepEvent} :
    (∃ step ∈ steps, executor.registry.find step.text = .ok none) →
    executor.failOnMissingSteps = true → List.Forall₂ (executor.RefusedAs missing) steps ends →
    CaseTrace steps
      (.started :: (List.zipWith .step steps ends ++
        [.finished (.failed (Failure.stepsNotFound missing).message)]))
      (.error (.stepsNotFound missing))
  | skipped : (∃ step ∈ steps, executor.registry.find step.text = .ok none) →
    executor.failOnMissingSteps = false →
    CaseTrace steps (.started :: (steps.map (fun step => .step step .skipped) ++ [.skipped]))
      (.ok ())

variable {executor}

theorem StepsCourse.trace {id : ScenarioId} {state : StepState σ π} {steps : List Step}
    {outputs : List (RunOutput ω)} {failure : Option Failure}
    (course : executor.StepsCourse id state steps outputs (.ok failure)) :
    ∃ events, eventsOf outputs = events.map (.scenario id) ∧ StepsTrace steps events failure := by
  generalize ended : Except.ok failure = outcome at course
  induction course with
  | done =>
    cases ended
    exact ⟨[], rfl, .done⟩
  | passed _ _ ih =>
    obtain ⟨events, told, trace⟩ := ih ended
    refine ⟨_, ?_, .passed trace⟩
    simp [eventsOf_append, eventsOf_toldOutputs, eventsOf_notes, told]
  | @failed _ step rest notes failure =>
    cases ended
    refine ⟨_, ?_, .failed failure⟩
    simp [eventsOf_append, eventsOf_toldOutputs, eventsOf_notes]
  | unwound => cases ended

/-- What is told in the course of a scenario, without what its functions put out. -/
theorem Course.trace {id : ScenarioId} {steps : List Step} {outputs : List (RunOutput ω)}
    {value : Except Failure Unit} (course : executor.Course id steps outputs (.ok value)) :
    ∃ events, eventsOf outputs = events.map (.scenario id) ∧
      executor.CaseTrace steps events value := by
  cases course with
  | passed defined _ ran =>
    obtain ⟨events, told, trace⟩ := ran.trace
    refine ⟨_, ?_, .passed defined trace⟩
    simp [eventsOf_append, eventsOf_toldOutputs, eventsOf_notes, told]
  | failed defined _ ran =>
    obtain ⟨events, told, trace⟩ := ran.trace
    refine ⟨_, ?_, .failed defined trace⟩
    simp [eventsOf_append, eventsOf_toldOutputs, eventsOf_notes, told]
  | worldless defined =>
    refine ⟨_, ?_, .worldless defined⟩
    simp [eventsOf_append, eventsOf_toldOutputs, eventsOf_notes]
  | refused lacking strict _ told =>
    refine ⟨_, ?_, .refused lacking strict told⟩
    simp [eventsOf_append, eventsOf_toldOutputs]
  | skipped lacking lenient =>
    refine ⟨_, ?_, .skipped lacking lenient⟩
    simp [eventsOf_append, eventsOf_toldOutputs]

/-- However a scenario goes, it is told to start once. -/
theorem CaseTrace.count_started {steps : List Step} {told : List ScenarioEvent}
    {value : Except Failure Unit} (trace : executor.CaseTrace steps told value) :
    told.count .started = 1 := by
  have once {rest : List ScenarioEvent} {last : ScenarioEvent} (other : last ≠ .started)
      (later : .started ∉ rest) :
      (ScenarioEvent.started :: (rest ++ [last])).count .started = 1 := by
    simp [List.count_eq_zero.mpr later, other]
  cases trace with
  | passed _ steps | failed _ steps => exact once nofun steps.started_not_mem
  | worldless | skipped => exact once nofun (by simp)
  | refused => exact once nofun (by simp [← List.map_uncurry_zip_eq_zipWith])

end Executor

namespace Runner

variable {σ ω : Type} (runner : Runner σ ω)

/-- A scenario of a runner is not unwound. -/
theorem course_runScenario (id : ScenarioId) (steps : List Step) :
    (runner.executor id).Course id steps (runner.runScenario id steps).outputs
      (.ok (runner.runScenario id steps).value) := by
  have course := (runner.executor id).course_run id steps
  rw [runScenario, Timeline.outputs_bind_pure, Timeline.value_bind]
  generalize ((runner.executor id).run id steps).value = value at course
  match value, course with
  | .ok _, course => exact course

end Runner

end ScenarioRunner
