import ScenarioRunner.Proofs.Registry.Missing
import ScenarioRunner.Proofs.Run.Gathered
import ScenarioRunner.Proofs.Scheme.LookUp
import ScenarioRunner.Run.Scenario

namespace ScenarioRunner

/-- What is put out when events of a scenario are told. -/
def toldOutputs {ω : Type} (id : ScenarioId) (events : List ScenarioEvent) : List (RunOutput ω) :=
  events.map fun event => .event (.scenario id event)

theorem outputs_tellOf {ω : Type} (id : ScenarioId) (events : List ScenarioEvent) :
    (tellOf (ω := ω) id events).outputs = toldOutputs id events := List.append_nil _

theorem toldOutputs_append {ω : Type} (id : ScenarioId) (first second : List ScenarioEvent) :
    toldOutputs (ω := ω) id (first ++ second) = toldOutputs id first ++ toldOutputs id second :=
  List.map_append

theorem eventsOf_append {ω : Type} (first second : List (RunOutput ω)) :
    eventsOf (first ++ second) = eventsOf first ++ eventsOf second :=
  List.filterMap_append

theorem eventsOf_toldOutputs {ω : Type} (id : ScenarioId) (events : List ScenarioEvent) :
    eventsOf (toldOutputs (ω := ω) id events) = events.map (.scenario id) := by
  rw [eventsOf, toldOutputs, List.filterMap_map, ← List.filterMap_eq_map]
  rfl

theorem eventsOf_notes {ω : Type} (notes : List ω) : eventsOf (notes.map RunOutput.note) = [] := by
  rw [eventsOf, List.filterMap_map]
  exact List.filterMap_eq_nil_iff.mpr fun _ _ => rfl

theorem outputs_conclude {ω : Type} (id : ScenarioId) (failure : Option Failure) :
    (conclude (ω := ω) id failure).outputs =
      toldOutputs id [.finished ((failure.map (.failed ·.message)).getD .passed)] := by
  cases failure <;> exact Timeline.outputs_bind_pure _ fun _ => _

namespace Executor

variable {σ ω π : Type}

/-- How the arguments of a step are looked up, and the resolver that comes of it. Without a resolver
they stand for themselves. -/
inductive ResolvesArgs (disk : FileTree) (args : List Value) : Option (Resolver π) →
    Except π (Except SchemeError (List Value)) → Option (Resolver π) → Prop
  | literal : ResolvesArgs disk args none (.ok (.ok args)) none
  | lookedUp {resolver next : Resolver π} {answer : Except π (Except SchemeError (List Value))} :
    Resolver.LooksUpAll disk resolver args answer next →
    ResolvesArgs disk args (some resolver) answer (some next)

/-- What the call of a step function makes of the step. -/
inductive CallEnds (step : Step) (resolver : Option (Resolver π)) :
    Except π (Except StepFault σ) → Except π (Except Failure (StepState σ π)) → Prop
  | unwound (payload : π) : CallEnds step resolver (.error payload) (.error payload)
  | failed (causes : List String) : CallEnds step resolver (.ok (.error (.error causes)))
    (.ok (.error (.step step.location step.fullText (": ".intercalate causes))))
  | aborted (message : Option String) : CallEnds step resolver (.ok (.error (.aborted message)))
    (.ok (.error (.step step.location step.fullText
      ("panicked: " ++ message.getD "<non-string payload>"))))
  | passed (world : σ) : CallEnds step resolver (.ok (.ok world)) (.ok (.ok ⟨world, resolver⟩))

variable (executor : Executor σ ω π)

/-- How a step goes: what its function puts out, and what comes of it. The function is called with the
world that the steps before have left, and with the arguments from the step's text, looked up. -/
inductive StepCourse (state : StepState σ π) (step : Step) :
    List ω → Except π (Except Failure (StepState σ π)) → Prop
  | unconverted {error : ConversionError} : executor.registry.find step.text = .error error →
    StepCourse state step [] (.ok (.error (.step step.location step.fullText error.message)))
  | unresolved {found : StepMatch (StepAction σ ω π)} {error : SchemeError}
    {resolver : Option (Resolver π)} : executor.registry.find step.text = .ok (some found) →
    ResolvesArgs (executor.disk state.world) found.args state.resolver (.ok (.error error)) resolver →
    StepCourse state step [] (.ok (.error (.step step.location step.fullText error.message)))
  | unwound {found : StepMatch (StepAction σ ω π)} {payload : π} {resolver : Option (Resolver π)} :
    executor.registry.find step.text = .ok (some found) →
    ResolvesArgs (executor.disk state.world) found.args state.resolver (.error payload) resolver →
    StepCourse state step [] (.error payload)
  | called {found : StepMatch (StepAction σ ω π)} {args : List Value}
    {resolver : Option (Resolver π)} {outcome : Except π (Except Failure (StepState σ π))} :
    executor.registry.find step.text = .ok (some found) →
    ResolvesArgs (executor.disk state.world) found.args state.resolver (.ok (.ok args)) resolver →
    CallEnds step resolver (found.definition.action state.world ⟨step, args⟩).value outcome →
    StepCourse state step (found.definition.action state.world ⟨step, args⟩).outputs outcome

/-- How steps go one after another: each starts with what the one before it has left, up to the first
that fails, after which the others are skipped, or that unwinds the run, after which nothing is
told. -/
inductive StepsCourse (id : ScenarioId) : StepState σ π → List Step → List (RunOutput ω) →
    Except π (Option Failure) → Prop
  | done {state : StepState σ π} : StepsCourse id state [] [] (.ok none)
  | passed {state next : StepState σ π} {step : Step} {rest : List Step} {notes : List ω}
    {outputs : List (RunOutput ω)} {outcome : Except π (Option Failure)} :
    executor.StepCourse state step notes (.ok (.ok next)) →
    StepsCourse id next rest outputs outcome →
    StepsCourse id state (step :: rest)
      (toldOutputs id [.step step .started] ++ notes.map .note ++
        toldOutputs id [.step step .passed] ++ outputs) outcome
  | failed {state : StepState σ π} {step : Step} {rest : List Step} {notes : List ω}
    {failure : Failure} : executor.StepCourse state step notes (.ok (.error failure)) →
    StepsCourse id state (step :: rest)
      (toldOutputs id [.step step .started] ++ notes.map .note ++
        toldOutputs id [.step step (.failed failure.message)] ++
        toldOutputs id (rest.map fun later => .step later .skipped)) (.ok (some failure))
  | unwound {state : StepState σ π} {step : Step} {rest : List Step} {notes : List ω}
    {payload : π} : executor.StepCourse state step notes (.error payload) →
    StepsCourse id state (step :: rest)
      (toldOutputs id [.step step .started] ++ notes.map .note) (.error payload)

/-- What is told of a step when some steps have no definition: those without one fail, each as the
listed step with its text, and the others are skipped. -/
inductive RefusedAs (missing : List MissingStep) (step : Step) : StepEvent → Prop
  | missing {listed : MissingStep} : executor.registry.find step.text = .ok none →
    listed ∈ missing → listed.text = step.text →
    RefusedAs missing step (.failed ("step not found: " ++ listed.describe))
  | defined : executor.registry.find step.text ≠ .ok none → RefusedAs missing step .skipped

/-- The ways in which a scenario goes, with all that is put out and what comes of it. -/
inductive Course (id : ScenarioId) (steps : List Step) :
    List (RunOutput ω) → Except π (Except Failure Unit) → Prop
  | passed {world : σ} {outputs : List (RunOutput ω)} :
    (∀ step ∈ steps, executor.registry.find step.text ≠ .ok none) →
    executor.newWorld.value = .ok (.ok world) →
    executor.StepsCourse id ⟨world, executor.resolver⟩ steps outputs (.ok none) →
    Course id steps
      (toldOutputs id [.started] ++ executor.newWorld.outputs.map .note ++ outputs ++
        toldOutputs id [.finished .passed])
      (.ok (.ok ()))
  | failed {world : σ} {outputs : List (RunOutput ω)} {failure : Failure} :
    (∀ step ∈ steps, executor.registry.find step.text ≠ .ok none) →
    executor.newWorld.value = .ok (.ok world) →
    executor.StepsCourse id ⟨world, executor.resolver⟩ steps outputs (.ok (some failure)) →
    Course id steps
      (toldOutputs id [.started] ++ executor.newWorld.outputs.map .note ++ outputs ++
        toldOutputs id [.finished (.failed failure.message)])
      (.ok (.error failure))
  | worldless {message : String} :
    (∀ step ∈ steps, executor.registry.find step.text ≠ .ok none) →
    executor.newWorld.value = .ok (.error message) →
    Course id steps
      (toldOutputs id [.started] ++ executor.newWorld.outputs.map .note ++
        toldOutputs id (steps.map fun step => .step step .skipped) ++
        toldOutputs id [.finished (.failed (Failure.world message).message)])
      (.ok (.error (.world message)))
  | refused {missing : List MissingStep} {ends : List StepEvent} :
    (∃ step ∈ steps, executor.registry.find step.text = .ok none) →
    executor.failOnMissingSteps = true →
    ListsFirst (fun text => executor.registry.find text = .ok none) steps missing →
    List.Forall₂ (executor.RefusedAs missing) steps ends →
    Course id steps
      (toldOutputs id [.started] ++ toldOutputs id (List.zipWith .step steps ends) ++
        toldOutputs id [.finished (.failed (Failure.stepsNotFound missing).message)])
      (.ok (.error (.stepsNotFound missing)))
  | skipped : (∃ step ∈ steps, executor.registry.find step.text = .ok none) →
    executor.failOnMissingSteps = false →
    Course id steps
      (toldOutputs id [.started] ++ toldOutputs id (steps.map fun step => .step step .skipped) ++
        toldOutputs id [.skipped])
      (.ok (.ok ()))
  | unmade {payload : π} :
    (∀ step ∈ steps, executor.registry.find step.text ≠ .ok none) →
    executor.newWorld.value = .error payload →
    Course id steps (toldOutputs id [.started] ++ executor.newWorld.outputs.map .note)
      (.error payload)
  | unwound {world : σ} {outputs : List (RunOutput ω)} {payload : π} :
    (∀ step ∈ steps, executor.registry.find step.text ≠ .ok none) →
    executor.newWorld.value = .ok (.ok world) →
    executor.StepsCourse id ⟨world, executor.resolver⟩ steps outputs (.error payload) →
    Course id steps (toldOutputs id [.started] ++ executor.newWorld.outputs.map .note ++ outputs)
      (.error payload)

variable {executor}

theorem resolvesArgs_resolveArgs (disk : FileTree) (args : List Value)
    (resolver : Option (Resolver π)) :
    ResolvesArgs disk args resolver (resolveArgs disk args resolver).1
      (resolveArgs disk args resolver).2 := by
  cases resolver with
  | none => exact .literal
  | some resolver => exact .lookedUp (resolver.looksUpAll_resolveAll disk args)

theorem callEnds_of_fault (step : Step) (resolver : Option (Resolver π)) (fault : StepFault) :
    CallEnds (σ := σ) step resolver (.ok (.error fault)) (.ok (.error (.ofStep step fault.message))) := by
  cases fault with
  | error causes => exact .failed causes
  | aborted message => exact .aborted message

theorem stepCourse_runStep (state : StepState σ π) {step : Step}
    (defined : executor.registry.find step.text ≠ .ok none) :
    executor.StepCourse state step (executor.runStep state step).outputs
      (executor.runStep state step).value := by
  unfold runStep
  cases find : executor.registry.find step.text with
  | error error => exact .unconverted find
  | ok found? =>
    cases found? with
    | none => exact absurd find defined
    | some found =>
      have asked := resolvesArgs_resolveArgs (executor.disk state.world) found.args state.resolver
      simp only
      generalize resolveArgs (executor.disk state.world) found.args state.resolver = answer at asked
      rcases answer with ⟨payload | error | args, resolver⟩
      · exact .unwound find asked
      · exact .unresolved find asked
      · have called {outcome : Except π (Except Failure (StepState σ π))} :
            CallEnds step resolver (found.definition.action state.world ⟨step, args⟩).value outcome →
              executor.StepCourse state step _ outcome := .called find asked
        simp only
        rw [Timeline.outputs_bind, Timeline.value_bind]
        generalize (found.definition.action state.world ⟨step, args⟩).value = ended at called
        rcases ended with payload | fault | world
        · simpa using called (.unwound payload)
        · simpa using called (callEnds_of_fault step resolver fault)
        · simpa using called (.passed world)

theorem stepsCourse_runSteps (id : ScenarioId) (state : StepState σ π) {steps : List Step}
    (defined : ∀ step ∈ steps, executor.registry.find step.text ≠ .ok none) :
    executor.StepsCourse id state steps (executor.runSteps id state steps).outputs
      (executor.runSteps id state steps).value := by
  induction steps generalizing state with
  | nil => exact .done
  | cons step rest ih =>
    obtain ⟨here, later⟩ := List.forall_mem_cons.mp defined
    have course := stepCourse_runStep state here
    have value : ((executor.runStep state step).mapOutputs RunOutput.note).value =
      (executor.runStep state step).value := rfl
    rw [runSteps, Timeline.outputs_bind, Timeline.value_bind, Timeline.outputs_bind,
      Timeline.value_bind, Timeline.outputs_mapOutputs, value, outputs_tellOf]
    generalize (executor.runStep state step).value = ended at course
    rcases ended with payload | failure | next
    · have whole : executor.StepsCourse id state (step :: rest) _ _ := .unwound course
      simpa using whole
    · have whole : executor.StepsCourse id state (step :: rest) _ _ := .failed course
      simp only [Timeline.outputs_bind_pure, Timeline.value_bind, outputs_tellOf]
      rw [List.append_assoc, List.append_assoc, ← toldOutputs_append] at whole
      exact whole
    · have whole := StepsCourse.passed course (ih next later)
      simp only [Timeline.outputs_bind, Timeline.value_bind, outputs_tellOf]
      rw [List.append_assoc, List.append_assoc] at whole
      exact whole

theorem refusedAs_missingEvent (steps : List Step) {step : Step} (member : step ∈ steps) :
    executor.RefusedAs (executor.registry.missingAmong steps) step
      (missingEvent (executor.registry.missingAmong steps) step) := by
  unfold missingEvent
  have sought := executor.registry.find?_missingAmong steps step.text
  split
  · rename_i listed found
    have same : listed.text = step.text := by simpa using List.find?_some found
    refine .missing ?_ (List.mem_of_find?_eq_some found) same
    rw [found] at sought
    split at sought
    · rename_i lacking
      exact Registry.isMissing_iff.mp lacking
    · cases sought
  · rename_i none
    refine .defined fun lacking => ?_
    rw [none, if_pos (Registry.isMissing_iff.mpr lacking)] at sought
    have absent : steps.find? (·.text == step.text) = .none := by simpa using sought.symm
    exact absurd (BEq.refl step.text) (List.find?_eq_none.mp absent step member)

theorem course_refuse (id : ScenarioId) {steps : List Step}
    (lacking : ∃ step ∈ steps, executor.registry.find step.text = .ok none) :
    executor.Course id steps
      (toldOutputs id [.started] ++
        (executor.refuse id steps (executor.registry.missingAmong steps)).outputs)
      (.ok (executor.refuse id steps (executor.registry.missingAmong steps)).value) := by
  unfold refuse
  by_cases strict : executor.failOnMissingSteps = true
  · have told : List.Forall₂ (executor.RefusedAs (executor.registry.missingAmong steps)) steps
        (steps.map (missingEvent (executor.registry.missingAmong steps))) := by
      rw [List.forall₂_map_right_iff]
      exact List.forall₂_same.mpr fun step member => refusedAs_missingEvent steps member
    have whole : executor.Course id steps _ _ := .refused lacking strict
      (executor.registry.listsFirst_missingAmong steps) told
    rw [List.zipWith_map_right, List.zipWith_self, List.append_assoc] at whole
    rw [if_pos strict, Timeline.outputs_bind, Timeline.value_bind, outputs_conclude, outputs_tellOf]
    exact whole
  · have whole : executor.Course id steps _ _ :=
      .skipped lacking (Bool.eq_false_iff.mpr strict)
    rw [List.append_assoc, ← toldOutputs_append] at whole
    rw [if_neg strict, Timeline.outputs_bind_pure, Timeline.value_bind, outputs_tellOf]
    exact whole

variable (executor) in
/-- Every scenario goes in one of these ways. -/
theorem course_run (id : ScenarioId) (steps : List Step) :
    executor.Course id steps (executor.run id steps).outputs (executor.run id steps).value := by
  rw [run, Timeline.outputs_bind, Timeline.value_bind, outputs_tellOf]
  cases missing : executor.registry.missingAmong steps with
  | nil =>
    have defined := Registry.missingAmong_eq_nil_iff.mp missing
    have made : (executor.newWorld.mapOutputs RunOutput.note).value = executor.newWorld.value := rfl
    simp only
    rw [Timeline.outputs_bind, Timeline.value_bind, Timeline.outputs_mapOutputs, made,
      ← List.append_assoc]
    rcases world : executor.newWorld.value with payload | message | found
    · have whole : executor.Course id steps _ _ := .unmade defined world
      simpa using whole
    · have whole : executor.Course id steps _ _ := .worldless defined world
      simp only [Timeline.outputs_bind, Timeline.value_bind, Timeline.outputs_pure,
        outputs_conclude, outputs_tellOf, List.append_nil]
      rw [List.append_assoc] at whole
      exact whole
    · have ran := stepsCourse_runSteps id ⟨found, executor.resolver⟩ defined
      simp only
      rw [Timeline.outputs_bind, Timeline.value_bind, ← List.append_assoc]
      generalize (executor.runSteps id ⟨found, executor.resolver⟩ steps).value = ended at ran
      rcases ended with payload | _ | failure
      · have whole := Course.unwound defined world ran
        simpa using whole
      · simp only [Timeline.outputs_bind_pure, Timeline.value_bind, outputs_conclude]
        exact .passed defined world ran
      · simp only [Timeline.outputs_bind_pure, Timeline.value_bind, outputs_conclude]
        exact .failed defined world ran
  | cons first others =>
    have lacking : ∃ step ∈ steps, executor.registry.find step.text = .ok none := by
      rw [← Registry.missingAmong_ne_nil_iff, missing]
      exact List.cons_ne_nil first others
    have refused := course_refuse id lacking
    rw [missing] at refused
    simp only [Timeline.outputs_bind_pure, Timeline.value_bind, Timeline.value_pure]
    exact refused

end Executor

end ScenarioRunner
