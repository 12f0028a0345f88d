import ScenarioRunner.Proofs.Run.Results
import ScenarioRunner.Proofs.Summary

namespace ScenarioRunner

/-- Between the start of a scenario and its end there is no other end. -/
theorem Orderly.filterMap_end? {events : List ScenarioEvent} (orderly : Orderly events) :
    events.filterMap (·.end?) = [] := by
  induction orderly with
  | nil => rfl
  | ended _ _ ih | begun _ _ ih => exact ih

theorem Orderly.ends {events : List ScenarioEvent} (orderly : Orderly events)
    (last : ScenarioEvent) : (ScenarioEvent.started :: (events ++ [last])).filterMap (·.end?) =
      last.end?.toList := by
  have begun : ScenarioEvent.started.end? = none := rfl
  rw [List.filterMap_cons, begun, List.filterMap_append, orderly.filterMap_end?]
  cases ended : last.end? <;> simp [ended]

namespace Runner

variable {σ ω : Type} (runner : Runner σ ω)

/-- Does the body of the case's test return a failure? The body of a skipped test is not run. -/
def failsCase (group : TestGroup) (case : TestCase) : Bool :=
  !runner.config.skips case &&
    !(runner.caseTest group.feature group.background case).body.value.isOk

/-- Is the case work in progress, or has it a step without a definition that is not to fail it? -/
def passesOver (group : TestGroup) (case : TestCase) : Bool :=
  runner.config.skips case || (!runner.config.failOnMissingSteps &&
    (group.background ++ case.steps).any fun step => runner.registry.isMissing step.text)

/-- The cases of a plan that are selected, with the groups that hold them. -/
def selectedCases (plan : TestPlan) : List (TestGroup × TestCase) :=
  plan.allCases.filter fun (_, case) => runner.config.selects case

/-- How a case ends. -/
def endOf (group : TestGroup) (case : TestCase) : Status :=
  if runner.passesOver group case then .skipped
  else if runner.failsCase group case then .failed else .passed

/-- The steps of a case that are told to end. -/
def endedSteps (group : TestGroup) (case : TestCase) : List Step :=
  if runner.config.skips case then [] else group.background ++ case.steps

/-- Where all cases belong to features, it is all one where their features are kept. -/
theorem flatMap_selected {β : Type} {plan : TestPlan}
    (featured : ∀ pair ∈ plan.allCases, ∃ id, pair.1.feature = some id)
    (ofPlaced : PlacedCase → List β) (ofCase : TestGroup → TestCase → List β)
    (same : ∀ id group case, group.feature = some id →
      ofPlaced ⟨id, group.background, case⟩ = ofCase group case) :
    (runner.selected plan).flatMap ofPlaced =
      (runner.selectedCases plan).flatMap fun pair => ofCase pair.1 pair.2 := by
  unfold selected selectedCases TestPlan.placed
  generalize plan.allCases = pairs at featured
  induction pairs with
  | nil => rfl
  | cons pair rest ih =>
    obtain ⟨⟨id, feature⟩, later⟩ := List.forall_mem_cons.mp featured
    have placed : PlacedCase.of? pair.1 pair.2 = some ⟨id, pair.1.background, pair.2⟩ := by
      rw [PlacedCase.of?, feature]
      rfl
    rw [List.filterMap_cons, placed]
    simp only [List.filter_cons]
    cases selects : runner.config.selects pair.2 with
    | true => simp only [if_true, List.flatMap_cons, same id pair.1 pair.2 feature, ih later]
    | false =>
      simp only [Bool.false_eq_true, if_false]
      exact ih later

end Runner

namespace Executor

variable {σ ω π : Type} {executor : Executor σ ω π}

/-- Whatever way a scenario goes, it ends once. -/
theorem CaseTrace.ends {steps : List Step} {told : List ScenarioEvent} {value : Except Failure Unit}
    (trace : executor.CaseTrace steps told value) : told.filterMap (·.end?) =
      [if !executor.failOnMissingSteps &&
          steps.any (fun step => executor.registry.isMissing step.text) then .skipped
        else if !value.isOk then .failed else .passed] := by
  have complete (defined : ∀ step ∈ steps, executor.registry.find step.text ≠ .ok none) :
      (steps.any fun step => executor.registry.isMissing step.text) = false := by
    refine Bool.eq_false_iff.mpr fun some => ?_
    obtain ⟨step, member, lacking⟩ := Registry.any_isMissing_iff.mp some
    exact defined step member lacking
  have unrun := (orderly_skipped steps).1
  cases trace with
  | passed defined ran =>
    rw [ran.orderly.1.ends, complete defined, Bool.and_false]
    rfl
  | failed defined ran =>
    rw [ran.orderly.1.ends, complete defined, Bool.and_false]
    rfl
  | worldless defined =>
    rw [unrun.ends, complete defined, Bool.and_false]
    rfl
  | refused lacking strict told =>
    rw [(orderly_zipWith (isSome_end?_of_refused told)).1.ends, strict]
    rfl
  | skipped lacking lenient =>
    rw [unrun.ends, lenient, Registry.any_isMissing_iff.mpr lacking]
    rfl

theorem CaseTrace.isOk {steps : List Step} {told : List ScenarioEvent} {value : Except Failure Unit}
    (trace : executor.CaseTrace steps told value)
    (lenient : (!executor.failOnMissingSteps &&
      steps.any fun step => executor.registry.isMissing step.text) = true) : value.isOk = true := by
  obtain ⟨allowed, missing⟩ := (Bool.and_eq_true_iff ..).mp lenient
  obtain ⟨step, member, lacking⟩ := Registry.any_isMissing_iff.mp missing
  cases trace with
  | passed | skipped => rfl
  | failed defined | worldless defined => exact absurd lacking (defined step member)
  | refused _ strict => simp [strict] at allowed

end Executor

namespace Runner

variable {σ ω : Type} {runner : Runner σ ω}

/-- What is told of a case ends the scenario once, and once each of the steps that are to be run. -/
theorem ends_caseEvents {id : FeatureId} {group : TestGroup} (feature : group.feature = some id)
    (case : TestCase) :
    (runner.caseEvents ⟨id, group.background, case⟩).filterMap (·.ofScenario? ScenarioEvent.end?) =
        [runner.endOf group case] ∧
      ((runner.caseEvents ⟨id, group.background, case⟩).filterMap
        (·.ofScenario? ScenarioEvent.stepEnd?)).map Prod.fst = runner.endedSteps group case := by
  obtain ⟨told, all, _, ofSkipped, ofRun⟩ := runner.caseEvents_spec ⟨id, group.background, case⟩
  rw [all, RunEvent.filterMap_ofScenario?, RunEvent.filterMap_ofScenario?, endOf, endedSteps,
    passesOver, failsCase, feature]
  cases skips : runner.config.skips case with
  | true =>
    rw [(ofSkipped skips).1]
    exact ⟨rfl, rfl⟩
  | false =>
    have trace := ofRun skips
    refine ⟨?_, trace.report.1.steps⟩
    rw [trace.ends, Bool.false_or, Bool.not_false, Bool.true_and]
    rfl

/-- Only what is told of cases tells of scenarios. -/
theorem Schedules.perm_ofScenario? {β : Type} {plan : TestPlan} {events : List RunEvent}
    (scheduled : runner.Schedules plan events) (tell? : ScenarioEvent → Option β) :
    (events.filterMap (·.ofScenario? tell?)).Perm
      ((runner.selected plan).flatMap fun placed =>
        (runner.caseEvents placed).filterMap (·.ofScenario? tell?)) := by
  have all := scheduled.interleaved.perm.filterMap (·.ofScenario? tell?)
  have marks : (plan.featureIds.flatMap fun id =>
      [RunEvent.featureStarted id, .featureFinished id].filterMap (·.ofScenario? tell?)) = [] :=
    List.flatMap_eq_nil_iff.mpr fun _ _ => rfl
  have frame : [RunEvent.started, .finished].filterMap (·.ofScenario? tell?) = [] := rfl
  rw [traces, List.filterMap_flatten, List.map_append, List.map_append, List.flatten_append,
    List.flatten_append, List.map_map, List.map_map, ← List.flatMap_def, ← List.flatMap_def] at all
  simpa [Function.comp_def, marks, frame] using all

section

variable {plan : TestPlan} {events : List RunEvent} (scheduled : runner.Schedules plan events)
  (featured : ∀ pair ∈ plan.allCases, ∃ id, pair.1.feature = some id)

include scheduled featured

/-- Each selected case ends once. -/
theorem Schedules.perm_ends : (events.filterMap (·.ofScenario? ScenarioEvent.end?)).Perm
    ((runner.selectedCases plan).map fun pair => runner.endOf pair.1 pair.2) := by
  have each := runner.flatMap_selected featured
    (fun placed => (runner.caseEvents placed).filterMap (·.ofScenario? ScenarioEvent.end?))
    (fun group case => [runner.endOf group case])
    fun id group case feature => (ends_caseEvents feature case).1
  rw [List.map_eq_flatMap, ← each]
  exact scheduled.perm_ofScenario? ScenarioEvent.end?

/-- Each step of a selected case ends once, if the case is run at all. -/
theorem Schedules.perm_steps :
    ((events.filterMap (·.ofScenario? ScenarioEvent.stepEnd?)).map Prod.fst).Perm
      ((runner.selectedCases plan).flatMap fun pair => runner.endedSteps pair.1 pair.2) := by
  have each := runner.flatMap_selected featured
    (fun placed => ((runner.caseEvents placed).filterMap
      (·.ofScenario? ScenarioEvent.stepEnd?)).map Prod.fst) runner.endedSteps
    fun id group case feature => (ends_caseEvents feature case).2
  rw [← each, ← List.map_flatMap]
  exact (scheduled.perm_ofScenario? ScenarioEvent.stepEnd?).map Prod.fst

end

variable (runner)

/-- Each selected case is counted once, and so is each step of those that are not work in progress,
in whatever order their events arrive. -/
structure CountsCases (plan : TestPlan) (events : List RunEvent) : Prop where
  scenarios : (Summary.ofEvents events).scenarios.total = (runner.selectedCases plan).length
  steps : (Summary.ofEvents events).steps.total =
    (((runner.selectedCases plan).filter fun (_, case) => !runner.config.skips case).flatMap
      fun (group, case) => group.background ++ case.steps).length
  failed : (Summary.ofEvents events).scenarios.failed =
    (runner.selectedCases plan).countP fun (group, case) => runner.failsCase group case
  skipped : (Summary.ofEvents events).scenarios.skipped =
    (runner.selectedCases plan).countP fun (group, case) => runner.passesOver group case
  passed : (Summary.ofEvents events).scenarios.passed =
    (runner.selectedCases plan).countP fun (group, case) =>
      !runner.failsCase group case && !runner.passesOver group case
  unordered : ∀ arrived, arrived.Perm events → Summary.ofEvents arrived = Summary.ofEvents events

variable {runner}

/-- A case that is passed over does not fail. -/
theorem failsCase_eq_false {group : TestGroup} {case : TestCase}
    (idle : runner.passesOver group case = true) : runner.failsCase group case = false := by
  unfold failsCase
  cases skips : runner.config.skips case with
  | true => rfl
  | false =>
    rw [passesOver, skips, Bool.false_or] at idle
    cases feature : group.feature with
    | none =>
      simp only [caseTest]
      rfl
    | some id =>
      obtain ⟨_, _, _, _, ofRun⟩ := runner.caseEvents_spec ⟨id, group.background, case⟩
      have ok := (ofRun skips).isOk idle
      show (!false && !(runner.testOf ⟨id, group.background, case⟩).body.value.isOk) = false
      rw [ok]
      rfl

theorem endOf_beq (group : TestGroup) (case : TestCase) :
    (runner.endOf group case == .failed) = runner.failsCase group case ∧
      (runner.endOf group case == .skipped) = runner.passesOver group case ∧
      (runner.endOf group case == .passed) =
        (!runner.failsCase group case && !runner.passesOver group case) := by
  unfold endOf
  cases idle : runner.passesOver group case with
  | true =>
    rw [failsCase_eq_false idle]
    exact ⟨rfl, rfl, rfl⟩
  | false => cases runner.failsCase group case <;> exact ⟨rfl, rfl, rfl⟩

theorem Schedules.countsCases {plan : TestPlan} {events : List RunEvent}
    (scheduled : runner.Schedules plan events)
    (featured : ∀ pair ∈ plan.allCases, ∃ id, pair.1.feature = some id) :
    runner.CountsCases plan events := by
  have ends := scheduled.perm_ends featured
  have steps := scheduled.perm_steps featured
  have counted {status : Status} {kind : TestGroup → TestCase → Bool}
      (same : ∀ group case, (runner.endOf group case == status) = kind group case) :
      (events.filterMap (·.ofScenario? ScenarioEvent.end?)).count status =
        (runner.selectedCases plan).countP fun pair => kind pair.1 pair.2 := by
    rw [ends.count_eq, List.count_eq_countP, List.countP_map]
    exact List.countP_congr fun pair _ => by rw [← same]; rfl
  refine ⟨?_, ?_, ?_, ?_, ?_, fun _ => Summary.ofEvents_perm⟩
  · rw [Summary.total_scenarios, ends.length_eq, List.length_map]
  · rw [Summary.total_steps, ← List.length_map Prod.fst, steps.length_eq]
    exact congrArg List.length (flatMap_unless (fun pair : TestGroup × TestCase =>
      runner.config.skips pair.2) _ _)
  · rw [Summary.ofEvents_eq]
    exact counted fun group case => (endOf_beq group case).1
  · rw [Summary.ofEvents_eq]
    exact counted fun group case => (endOf_beq group case).2.1
  · rw [Summary.ofEvents_eq]
    exact counted fun group case => (endOf_beq group case).2.2

variable (runner)

/-- A run over any documents counts the cases of its plan. -/
theorem countsCases_run (builder : PlanBuilder) (features : List Feature) :
    runner.CountsCases (builder.build features)
      (eventsOf (runner.suite (builder.build features)).run.outputs) := by
  refine (runner.schedules_run _).countsCases fun pair member => ?_
  obtain ⟨feature, _, made⟩ := builder.exists_feature_of_mem_allCases member
  rw [made]
  exact ⟨.ofFeature feature, rfl⟩

end Runner

end ScenarioRunner
