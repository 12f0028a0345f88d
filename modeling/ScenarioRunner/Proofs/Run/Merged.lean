import ScenarioRunner.Proofs.Event
import ScenarioRunner.Proofs.Plan.Groups
import ScenarioRunner.Proofs.Plan.Names
import ScenarioRunner.Proofs.Run.Interleaving
import ScenarioRunner.Proofs.Run.Trace
import ScenarioRunner.Run.Plan

namespace ScenarioRunner

/-- A case with what its feature gives to it. -/
structure PlacedCase where
  feature : FeatureId
  background : List Step
  case : TestCase

namespace PlacedCase

def id (placed : PlacedCase) : ScenarioId := ⟨placed.feature, placed.case.name⟩

def steps (placed : PlacedCase) : List Step := placed.background ++ placed.case.steps

/-- Outside of features nothing is run. -/
def of? (group : TestGroup) (case : TestCase) : Option PlacedCase :=
  group.feature.map (⟨·, group.background, case⟩)

end PlacedCase

def TestPlan.placed (plan : TestPlan) : List PlacedCase :=
  plan.allCases.filterMap fun pair => PlacedCase.of? pair.1 pair.2

def Feature.placed (feature : Feature) : List PlacedCase :=
  (TestGroup.ofFeature feature).cases.map (⟨.ofFeature feature, feature.backgroundSteps, ·⟩)

theorem PlanBuilder.perm_placed (builder : PlanBuilder) (features : List Feature) :
    (builder.build features).placed.Perm (features.flatMap Feature.placed) := by
  have all := (builder.perm_allCases features).filterMap fun pair => PlacedCase.of? pair.1 pair.2
  rw [List.filterMap_flatMap] at all
  have each (feature : Feature) : ((TestGroup.ofFeature feature).cases.map
      (TestGroup.ofFeature feature, ·)).filterMap (fun pair => PlacedCase.of? pair.1 pair.2) =
      feature.placed := by
    rw [List.filterMap_map, Feature.placed, ← List.filterMap_eq_map]
    rfl
  simp only [each] at all
  exact all

/-- Different cases are told apart by their features or by their names. -/
theorem PlanBuilder.distinct_placed (builder : PlanBuilder) {features : List Feature}
    (distinct : DistinctFeatures features) :
    (builder.build features).placed.Pairwise fun a b => ¬ (a.id == b.id) = true := by
  have symmetric {a b : PlacedCase} (apart : ¬ (a.id == b.id) = true) : ¬ (b.id == a.id) = true :=
    fun same => apart (BEq.symm same)
  refine ((builder.perm_placed features).pairwise_iff symmetric).mpr ?_
  refine List.pairwise_flatMap.mpr ⟨fun feature _ => ?_, ?_⟩
  · refine List.pairwise_map.mpr ((List.pairwise_map.mp (nodup_caseNames feature)).imp ?_)
    intro a b apart same
    exact apart (ScenarioId.beq_iff.mp same).2
  · refine distinct.imp fun apart => ?_
    intro x first y second same
    obtain ⟨_, _, rfl⟩ := List.mem_map.mp first
    obtain ⟨_, _, rfl⟩ := List.mem_map.mp second
    exact apart (ScenarioId.beq_iff.mp same).1

namespace Runner

variable {σ ω : Type} (runner : Runner σ ω)

/-- The test of a case. -/
def testOf (placed : PlacedCase) : Test (RunOutput ω) Failure :=
  runner.caseTest (some placed.feature) placed.background placed.case

/-- What is told of a case: by its test, or in its place if it is not run. -/
def caseEvents (placed : PlacedCase) : List RunEvent :=
  if runner.config.skips placed.case then [.scenario placed.id .skipped]
  else eventsOf (runner.testOf placed).body.outputs

def selected (plan : TestPlan) : List PlacedCase :=
  plan.placed.filter fun placed => runner.config.selects placed.case

/-- All that tells events in a run: cases, the starts and ends of features, and those of the run. -/
def traces (plan : TestPlan) : List (List RunEvent) :=
  (runner.selected plan).map runner.caseEvents ++
    (plan.featureIds.map fun id => [.featureStarted id, .featureFinished id]) ++
    [[.started, .finished]]

/-- A case that is work in progress is only told to be skipped. Any other goes its way. -/
theorem caseEvents_spec (placed : PlacedCase) :
    ∃ told, runner.caseEvents placed = told.map (.scenario placed.id) ∧ told ≠ [] ∧
      (runner.config.skips placed.case = true → told = [.skipped] ∧
        (runner.testOf placed).body.value = .ok ()) ∧
      (runner.config.skips placed.case = false →
        (runner.executor placed.id).CaseTrace placed.steps told
          (runner.testOf placed).body.value) := by
  unfold caseEvents
  cases skips : runner.config.skips placed.case with
  | true =>
    refine ⟨[.skipped], rfl, by simp, fun _ => ⟨rfl, ?_⟩, nofun⟩
    simp only [testOf, caseTest, skips]
    rfl
  | false =>
    have body : (runner.testOf placed).body = runner.runScenario placed.id placed.steps := by
      simp only [testOf, caseTest, skips]
      rfl
    obtain ⟨told, all, trace⟩ := (runner.course_runScenario placed.id placed.steps).trace
    refine ⟨told, ?_, ?_, nofun, fun _ => ?_⟩
    · rw [body]
      exact all
    · rintro rfl
      cases trace.count_started
    · rw [body]
      exact trace

/-- The events come from the cases and features of the plan, which take turns in any order, but a
feature starts before its scenarios and ends after them. -/
structure Schedules (plan : TestPlan) (events : List RunEvent) : Prop where
  interleaved : Interleaving (runner.traces plan) events
  enclosed : RunEvent.Enclosed events

namespace Schedules

variable {runner} {plan : TestPlan} {events : List RunEvent}

theorem mem_iff (scheduled : runner.Schedules plan events) (event : RunEvent) :
    event ∈ events ↔ (∃ placed ∈ runner.selected plan, event ∈ runner.caseEvents placed) ∨
      (∃ id ∈ plan.featureIds, event = .featureStarted id ∨ event = .featureFinished id) ∨
      event = .started ∨ event = .finished := by
  rw [scheduled.interleaved.mem_iff, traces]
  simp only [List.mem_append, List.mem_map, List.mem_singleton]
  constructor
  · rintro ⟨list, (⟨placed, known, rfl⟩ | ⟨id, known, rfl⟩) | rfl, inside⟩
    · exact .inl ⟨placed, known, inside⟩
    · exact .inr (.inl ⟨id, known, by simpa using inside⟩)
    · exact .inr (.inr (by simpa using inside))
  · rintro (⟨placed, known, inside⟩ | ⟨id, known, marks⟩ | ends)
    · exact ⟨_, .inl (.inl ⟨placed, known, rfl⟩), inside⟩
    · exact ⟨_, .inl (.inr ⟨id, known, rfl⟩), by simpa using marks⟩
    · exact ⟨_, .inr rfl, by simpa using ends⟩

/-- Scenarios have events only where a case of theirs was selected. -/
theorem scenario_mem (scheduled : runner.Schedules plan events) {id : ScenarioId}
    {told : ScenarioEvent} (member : .scenario id told ∈ events) :
    ∃ placed ∈ runner.selected plan, placed.id = id := by
  rcases (scheduled.mem_iff _).mp member with ⟨placed, known, inside⟩ | ⟨_, _, same | same⟩ | same | same
  · obtain ⟨events, all, _⟩ := runner.caseEvents_spec placed
    rw [all] at inside
    obtain ⟨event, _, same⟩ := List.mem_map.mp inside
    cases same
    exact ⟨placed, known, rfl⟩
  all_goals cases same

/-- What is told of a case in a run is what its own trace tells. -/
theorem filterMap_told? (scheduled : runner.Schedules plan events)
    (distinct : plan.placed.Pairwise fun a b => ¬ (a.id == b.id) = true) {placed : PlacedCase}
    (known : placed ∈ runner.selected plan) {told : List ScenarioEvent}
    (all : runner.caseEvents placed = told.map (.scenario placed.id)) (filled : told ≠ []) :
    events.filterMap (·.told? placed.id) = told := by
  have own : (runner.caseEvents placed).filterMap (·.told? placed.id) = told := by
    rw [all, RunEvent.filterMap_told?, if_pos (BEq.refl _)]
  have silent : ∀ list ∈ (plan.featureIds.map fun id =>
      [RunEvent.featureStarted id, .featureFinished id]) ++ [[.started, .finished]],
      list.filterMap (·.told? placed.id) = [] := by
    intro list member
    rcases List.mem_append.mp member with marks | ends
    · obtain ⟨id, _, rfl⟩ := List.mem_map.mp marks
      rfl
    · rw [List.mem_singleton.mp ends]
      rfl
  have alone : ((runner.selected plan).map runner.caseEvents).Pairwise fun a b =>
      a.filterMap (·.told? placed.id) = [] ∨ b.filterMap (·.told? placed.id) = [] := by
    refine List.pairwise_map.mpr ((distinct.filter _).imp fun {a b} apart => ?_)
    obtain ⟨first, allFirst, _⟩ := runner.caseEvents_spec a
    obtain ⟨second, allSecond, _⟩ := runner.caseEvents_spec b
    rw [allFirst, allSecond, RunEvent.filterMap_told?, RunEvent.filterMap_told?]
    by_cases same : (a.id == placed.id) = true
    · have other : ¬ (b.id == placed.id) = true := fun also =>
        apart (PartialEquivBEq.trans same (BEq.symm also))
      exact .inr (if_neg other)
    · exact .inl (if_neg same)
  have turns : Interleaving ([] ++ (runner.selected plan).map runner.caseEvents ++
      ((plan.featureIds.map fun id => [RunEvent.featureStarted id, .featureFinished id]) ++
        [[.started, .finished]])) events := by
    have whole := scheduled.interleaved
    rwa [traces, List.append_assoc] at whole
  rw [← own]
  exact turns.filterMap_eq_of_part (fun _ member => nomatch member) silent alone
    (List.mem_map.mpr ⟨placed, known, rfl⟩) (by rw [own]; exact filled)

end Schedules

end Runner

end ScenarioRunner
