import ScenarioRunner.Proofs.Event
import ScenarioRunner.Proofs.Report.Scenario

namespace ScenarioRunner

/-- The steps that are told to end, in the order of the events. -/
def stepsEnded (events : List ScenarioEvent) : List Step :=
  (events.filterMap (·.stepEnd?)).map Prod.fst

namespace Executor

variable {σ ω π : Type} {executor : Executor σ ω π} {id : ScenarioId} {steps : List Step}
  {outputs : List (RunOutput ω)} {value : Except π (Except Failure Unit)}

/-- Of steps that unwind the run only those have ended that have passed before. -/
theorem StepsCourse.unwound_trace {state : StepState σ π} {payload : π}
    (course : executor.StepsCourse id state steps outputs (.error payload)) :
    ∃ events, eventsOf outputs = events.map (.scenario id) ∧ stepsEnded events <+: steps := by
  generalize ended : Except.error payload = outcome at course
  induction course with
  | done | failed => cases ended
  | @passed _ _ step rest notes outputs _ _ _ ih =>
    obtain ⟨events, told, before⟩ := ih ended
    refine ⟨.step step .started :: .step step .passed :: events, ?_, ?_⟩
    · simp [eventsOf_append, eventsOf_toldOutputs, eventsOf_notes, told]
    · exact (List.prefix_cons_inj step).mpr before
  | @unwound _ step rest notes payload =>
    refine ⟨[.step step .started], ?_, List.nil_prefix⟩
    simp [eventsOf_append, eventsOf_toldOutputs, eventsOf_notes]

/-- All is told of the one scenario, and no step is told to end twice or out of its turn. -/
theorem Course.ends (course : executor.Course id steps outputs value) :
    ∃ events, eventsOf outputs = events.map (.scenario id) ∧ stepsEnded events <+: steps ∧
      ∀ result, value = .ok result → stepsEnded events = steps := by
  cases value with
  | ok result =>
    obtain ⟨events, told, trace⟩ := course.trace
    have all : stepsEnded events = steps := trace.report.1.steps
    exact ⟨events, told, all ▸ List.prefix_refl _, fun _ _ => all⟩
  | error payload =>
    cases course with
    | unmade =>
      refine ⟨[.started], ?_, List.nil_prefix, nofun⟩
      simp [eventsOf_append, eventsOf_toldOutputs, eventsOf_notes]
    | unwound _ _ ran =>
      obtain ⟨events, told, before⟩ := ran.unwound_trace
      refine ⟨.started :: events, ?_, before, nofun⟩
      simp [eventsOf_append, eventsOf_toldOutputs, eventsOf_notes, told]

/-- Nothing panics but what a step function returns: neither the making of the world nor a handler nor
the call of a step function. -/
structure NeverPanics (executor : Executor σ ω π) : Prop where
  world : ∀ payload, executor.newWorld.value ≠ .error payload
  handlers : ∀ resolver ∈ executor.resolver, resolver.NeverPanics
  calls : ∀ definition ∈ executor.registry.definitions, ∀ world context payload,
    (definition.action world context).value ≠ .error payload

theorem ResolvesArgs.neverPanics {disk : FileTree} {args : List Value}
    {resolver next : Option (Resolver π)} {answer : Except π (Except SchemeError (List Value))}
    (resolves : ResolvesArgs disk args resolver answer next)
    (calm : ∀ given ∈ resolver, given.NeverPanics) :
    (∀ payload, answer ≠ .error payload) ∧ ∀ left ∈ next, left.NeverPanics := by
  cases resolves with
  | literal => exact ⟨nofun, calm⟩
  | lookedUp looksUp =>
    obtain ⟨returns, later⟩ := looksUp.neverPanics (calm _ rfl)
    exact ⟨returns, fun _ same => Option.some.inj same ▸ later⟩

/-- A step leaves a resolver to the next that does not panic either. -/
theorem StepCourse.neverPanics {state : StepState σ π} {step : Step} {notes : List ω}
    {outcome : Except π (Except Failure (StepState σ π))}
    (course : executor.StepCourse state step notes outcome) (never : executor.NeverPanics)
    (calm : ∀ resolver ∈ state.resolver, resolver.NeverPanics) :
    (∀ payload, outcome ≠ .error payload) ∧ ∀ next, outcome = .ok (.ok next) →
      ∀ resolver ∈ next.resolver, resolver.NeverPanics := by
  cases course with
  | unconverted | unresolved => exact ⟨nofun, nofun⟩
  | unwound _ resolves => exact absurd rfl ((resolves.neverPanics calm).1 _)
  | @called found args resolver _ fits resolves ends =>
    have later := (resolves.neverPanics calm).2
    have returns := never.calls _ (Registry.mem_of_findIn fits) state.world ⟨step, args⟩
    generalize (found.definition.action state.world ⟨step, args⟩).value = ended at returns ends
    cases ends with
    | unwound payload => exact absurd rfl (returns payload)
    | failed | aborted => exact ⟨nofun, nofun⟩
    | passed world => exact ⟨nofun, fun _ same => by cases same; exact later⟩

theorem StepsCourse.neverPanics {state : StepState σ π} {outcome : Except π (Option Failure)}
    (course : executor.StepsCourse id state steps outputs outcome) (never : executor.NeverPanics)
    (calm : ∀ resolver ∈ state.resolver, resolver.NeverPanics) (payload : π) :
    outcome ≠ .error payload := by
  induction course with
  | done | failed => exact nofun
  | passed here _ ih => exact ih ((here.neverPanics never calm).2 _ rfl)
  | unwound here => exact absurd rfl ((here.neverPanics never calm).1 _)

theorem Course.returns (course : executor.Course id steps outputs value)
    (never : executor.NeverPanics) : ∃ result, value = .ok result := by
  cases course with
  | passed | failed | worldless | refused | skipped => exact ⟨_, rfl⟩
  | unmade _ world => exact absurd world (never.world _)
  | unwound _ _ ran => exact absurd rfl (ran.neverPanics never never.handlers _)

variable (executor)

/-- The first step passes, and the call for the second panics. The third is not told of. -/
example :
    let registry : Registry (StepAction Unit Unit String) :=
      (Registry.empty.register (.ofTemplate "go" []) fun _ _ => pure (.ok (.ok ()))).register
        (.ofTemplate "stop" []) fun _ _ => pure (.error "no future")
    let steps : List Step := [⟨.context, "go", none, none, none⟩, ⟨.event, "stop", none, none, none⟩,
      ⟨.outcome, "go", none, none, none⟩]
    let run := (⟨registry, pure (.ok (.ok ())), none, fun _ => {}, true⟩ :
      Executor Unit Unit String).run ⟨⟨"F", none⟩, "s"⟩ steps
    run.value = .error "no future" ∧
      (eventsOf run.outputs).filterMap (·.told? ⟨⟨"F", none⟩, "s"⟩) =
        [.started, .step steps[0] .started, .step steps[0] .passed, .step steps[1] .started] := by
  decide +kernel

end Executor

end ScenarioRunner
