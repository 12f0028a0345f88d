import ScenarioRunner.Proofs.Run.Counted
import ScenarioRunner.Run.Session

namespace ScenarioRunner

/-- A scenario is told to have failed just when its test has failed. -/
theorem Executor.CaseTrace.exists_isFailure_iff {σ ω π : Type} {executor : Executor σ ω π}
    {steps : List Step} {told : List ScenarioEvent} {value : Except Failure Unit}
    (trace : executor.CaseTrace steps told value) :
    (∃ event ∈ told, event.isFailure = true) ↔ ∃ failure, value = .error failure := by
  have ends : (∃ event ∈ told, event.isFailure = true) ↔ .failed ∈ told.filterMap (·.end?) := by
    rw [List.mem_filterMap]
    exact exists_congr fun event => and_congr_right fun _ => event.isFailure_iff
  rw [ends, trace.ends, List.mem_singleton]
  cases value with
  | ok =>
    refine iff_of_false ?_ nofun
    split <;> exact nofun
  | error failure =>
    rw [if_neg (mt trace.isOk nofun)]
    exact iff_of_true rfl ⟨failure, rfl⟩

namespace Runner

variable {σ ω : Type} (runner : Runner σ ω)

/-- The test of the case fails. -/
def Fails (placed : PlacedCase) : Prop := ∃ failure, (runner.testOf placed).body.value = .error failure

theorem exists_isFailure_caseEvents (placed : PlacedCase) :
    (∃ event ∈ runner.caseEvents placed, event.isFailure = true) ↔ runner.Fails placed := by
  obtain ⟨told, all, _, ofSkipped, ofRun⟩ := runner.caseEvents_spec placed
  have inside : (∃ event ∈ runner.caseEvents placed, event.isFailure = true) ↔
      ∃ event ∈ told, event.isFailure = true := by
    simp [all, RunEvent.isFailure]
  rw [inside, Fails]
  cases skips : runner.config.skips placed.case with
  | true =>
    obtain ⟨rfl, passed⟩ := ofSkipped skips
    rw [passed]
    exact iff_of_false (by simp [ScenarioEvent.isFailure]) nofun
  | false => exact (ofRun skips).exists_isFailure_iff

theorem Schedules.exists_isFailure_iff {runner : Runner σ ω} {plan : TestPlan}
    {events : List RunEvent} (scheduled : runner.Schedules plan events) :
    (∃ event ∈ events, event.isFailure = true) ↔
      ∃ placed ∈ runner.selected plan, runner.Fails placed := by
  constructor
  · rintro ⟨event, member, fails⟩
    rcases (scheduled.mem_iff event).mp member with
      ⟨placed, known, inside⟩ | ⟨id, _, rfl | rfl⟩ | rfl | rfl
    · exact ⟨placed, known, (runner.exists_isFailure_caseEvents placed).mp ⟨event, inside, fails⟩⟩
    all_goals cases fails
  · rintro ⟨placed, known, failed⟩
    obtain ⟨event, inside, fails⟩ := (runner.exists_isFailure_caseEvents placed).mpr failed
    exact ⟨event, (scheduled.mem_iff event).mpr (.inl ⟨placed, known, inside⟩), fails⟩

/-- A case outside of features does not fail. -/
theorem isFailed_resultOf (located : LocatedCase) : (runner.resultOf located).isFailed = true ↔
    ∃ placed, PlacedCase.of? located.group located.case = some placed ∧ runner.Fails placed := by
  rw [TestResult.isFailed_iff, outcome_resultOf, PlacedCase.of?]
  cases feature : located.group.feature with
  | none =>
    refine iff_of_false ?_ ?_
    · rintro ⟨failure, same⟩
      split at same <;> cases same
    · rintro ⟨placed, same, _⟩
      cases same
  | some id =>
    cases skips : runner.config.skips located.case with
    | true =>
      refine iff_of_false ?_ ?_
      · rintro ⟨failure, same⟩
        cases same
      · rintro ⟨placed, same, failure, failed⟩
        cases same
        simp only [testOf, caseTest, skips] at failed
        cases failed
    | false =>
      rw [if_neg Bool.false_ne_true]
      simp [TestOutcome.ofBody_eq_failed_iff, Fails, testOf]

theorem mem_selected_iff_located {plan : TestPlan} {placed : PlacedCase} :
    placed ∈ runner.selected plan ↔ ∃ located ∈ plan.runOrder,
      runner.config.selects located.case = true ∧
        PlacedCase.of? located.group located.case = some placed := by
  have case_eq {located : LocatedCase}
      (made : PlacedCase.of? located.group located.case = some placed) :
      placed.case = located.case := by
    obtain ⟨id, _, rfl⟩ := Option.map_eq_some_iff.mp made
    rfl
  rw [selected, TestPlan.placed, ← plan.map_located, List.mem_filter, List.filterMap_map,
    List.mem_filterMap]
  simp only [plan.perm_runOrder.mem_iff]
  constructor
  · rintro ⟨⟨located, listed, made⟩, selects⟩
    exact ⟨located, listed, case_eq made ▸ selects, made⟩
  · rintro ⟨located, listed, selects, made⟩
    exact ⟨⟨located, listed, made⟩, (case_eq made).symm ▸ selects⟩

/-- A run has a failed result just when the test of a selected case fails. -/
theorem exists_isFailed_iff (plan : TestPlan) :
    (∃ result ∈ (runner.suite plan).run.value, result.isFailed = true) ↔
      ∃ placed ∈ runner.selected plan, runner.Fails placed := by
  simp only [results_run, List.mem_map, List.mem_filter, mem_selected_iff_located]
  constructor
  · rintro ⟨_, ⟨located, ⟨listed, selects⟩, rfl⟩, failed⟩
    obtain ⟨placed, made, fails⟩ := (runner.isFailed_resultOf located).mp failed
    exact ⟨placed, ⟨located, listed, selects, made⟩, fails⟩
  · rintro ⟨placed, ⟨located, listed, selects, made⟩, fails⟩
    have failed := (runner.isFailed_resultOf located).mpr ⟨placed, made, fails⟩
    exact ⟨_, ⟨located, ⟨listed, selects⟩, rfl⟩, failed⟩

/-- The verdict over a run's events is that over its results. -/
theorem hasFailed_iff_exists_isFailed (plan : TestPlan) :
    (Summary.ofEvents (eventsOf (runner.suite plan).run.outputs)).hasFailed = true ↔
      ∃ result ∈ (runner.suite plan).run.value, result.isFailed = true := by
  rw [Summary.hasFailed_ofEvents, (runner.schedules_run plan).exists_isFailure_iff,
    exists_isFailed_iff]

end Runner

namespace Session

variable {σ ω : Type} (session : Session σ ω)

theorem run_eq_ok_iff {run : Timeline (RunOutput ω) (List (TestResult Failure))} :
    session.run = .ok run ↔ ∃ features, session.features = .ok features ∧
      (Suite.ofRegistrations (session.registrations features)).run = run := by
  unfold Session.run prepare
  cases session.features with
  | error error => exact iff_of_false nofun nofun
  | ok features =>
    constructor
    · intro same
      cases same
      exact ⟨features, rfl, rfl⟩
    · rintro ⟨_, same, rfl⟩
      cases same
      rfl

theorem build_nil (builder : PlanBuilder) : builder.build [] = ⟨[]⟩ := by
  unfold PlanBuilder.build
  cases builder.mode <;> rfl

/-- With nothing to run, a test fails of which nothing is told. -/
theorem run_nothing : (Suite.ofRegistrations (session.registrations [])).run.value =
      [⟨[], "no features found", [], .failed (.noFeatures session.roots)⟩] ∧
    eventsOf (Suite.ofRegistrations (session.registrations [])).run.outputs =
      [.started, .finished] := by
  rw [registrations, build_nil]
  exact ⟨rfl, rfl⟩

/-- A run that ends says the same in its summary and in its results, if there was a document. -/
theorem run_verdict {run : Timeline (RunOutput ω) (List (TestResult Failure))}
    (ended : session.run = .ok run) : ∃ features, session.features = .ok features ∧
      (features ≠ [] → ((Summary.ofEvents (eventsOf run.outputs)).hasFailed = true ↔
        ∃ result ∈ run.value, result.isFailed = true)) ∧
      (features = [] → (Summary.ofEvents (eventsOf run.outputs)).hasFailed = false ∧
        run.value = [⟨[], "no features found", [], .failed (.noFeatures session.roots)⟩]) := by
  obtain ⟨features, loaded, rfl⟩ := session.run_eq_ok_iff.mp ended
  refine ⟨features, loaded, fun found => ?_, fun nothing => ?_⟩
  · have registered : session.registrations features =
        session.runner.registrations (session.planBuilder.build features) := by
      rw [registrations, if_neg (by simpa using found), List.append_nil]
    rw [registered]
    exact session.runner.hasFailed_iff_exists_isFailed _
  · subst nothing
    obtain ⟨results, events⟩ := session.run_nothing
    rw [events]
    exact ⟨rfl, results⟩

/-- A run without steps or handlers over the documents of a store. -/
def plain (documents : List (SourcePath × String)) : Session Unit Unit where
  runner := ⟨.empty, fun _ => pure (.ok (.ok ())), none, {}, {}⟩
  provider := (DocumentStore.ofDocuments documents).provider
  roots := [⟨"f"⟩]

/-- A document with one scenario, whose step has no definition. -/
theorem run_verdict_failing : ∃ run, (plain [(⟨"f"⟩, "Scenario: a\nGiven x")]).run = .ok run ∧
    (Summary.ofEvents (eventsOf run.outputs)).hasFailed = true ∧
    ∃ result ∈ run.value, result.isFailed = true := by
  obtain ⟨session, made⟩ : ∃ session, session = plain [(⟨"f"⟩, "Scenario: a\nGiven x")] := ⟨_, rfl⟩
  obtain ⟨feature, shape⟩ : ∃ feature : Feature, feature = {
      name := "Unnamed Feature", path := some ⟨"f"⟩
      scenarios := [{ name := "a", steps := [{
        keyword := .context, text := "x", location := some ⟨⟨"f"⟩, 2⟩ }] }] } := ⟨_, rfl⟩
  have loaded : session.features = .ok [feature] := by
    rw [made, shape]
    decide +kernel
  have ended := session.run_eq_ok_iff.mpr ⟨_, loaded, rfl⟩
  obtain ⟨features, same, found, _⟩ := session.run_verdict ended
  cases loaded.symm.trans same
  have agree := found (List.cons_ne_nil _ _)
  have failed : (Summary.ofEvents (eventsOf
      (Suite.ofRegistrations (session.registrations [feature])).run.outputs)).hasFailed = true := by
    rw [made, shape]
    decide +kernel
  rw [← made]
  exact ⟨_, ended, failed, agree.mp failed⟩

/-- Without documents the results tell of a failure and the summary does not. -/
theorem run_verdict_without_documents : ∃ run, (plain []).run = .ok run ∧
    ¬ ((Summary.ofEvents (eventsOf run.outputs)).hasFailed = true ↔
      ∃ result ∈ run.value, result.isFailed = true) := by
  obtain ⟨results, events⟩ := (plain []).run_nothing
  refine ⟨_, (plain []).run_eq_ok_iff.mpr ⟨[], rfl, rfl⟩, ?_⟩
  rw [results, events]
  exact fun agree => absurd (agree.mpr ⟨_, List.mem_singleton_self _, rfl⟩) (by decide)

end Session

end ScenarioRunner
