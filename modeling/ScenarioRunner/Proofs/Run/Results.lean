import Mathlib.Data.List.Forall2
import ScenarioRunner.Proofs.Plan.Located
import ScenarioRunner.Proofs.Run.Scheduled
import ScenarioRunner.Proofs.Suite.Results

namespace ScenarioRunner

namespace Runner

variable {σ ω : Type} (runner : Runner σ ω)

/-- What the test of a case gives. -/
def resultOf (located : LocatedCase) : TestResult Failure :=
  ((runner.caseTest located.group.feature located.group.background located.case).run
    located.path).value

theorem value_groupItem (path : List String) (name : String) (feature : Option FeatureId)
    (background : List Step) (groups : List TestGroup) (cases : List TestCase) :
    ((runner.groupItem (.mk name feature background groups cases)).run path).value =
      (groups.flatMap fun group => ((runner.groupItem group).run (path ++ [name])).value) ++
        (cases.filter runner.config.selects).map fun case =>
          ((runner.caseTest feature background case).run (path ++ [name])).value := by
  rw [groupItem, SuiteItem.value_run_group,
    (runner.groupBody_parts name feature background groups cases).2.2, List.flatMap_append,
    List.flatMap_map, List.flatMap_map, List.map_eq_flatMap]
  simp only [SuiteItem.value_run_test]

mutual

theorem results_group (path : List String) : (group : TestGroup) →
    ((runner.groupItem group).run path).value =
      ((group.runOrder path).filter fun located => runner.config.selects located.case).map
        runner.resultOf
  | .mk name feature background groups cases => by
    rw [value_groupItem, results_groups _ groups, TestGroup.runOrder, List.filter_append,
      List.map_append, List.filter_map, List.map_map]
    rfl

theorem results_groups (path : List String) : (groups : List TestGroup) →
    (groups.flatMap fun group => ((runner.groupItem group).run path).value) =
      ((runOrderOf path groups).filter fun located => runner.config.selects located.case).map
        runner.resultOf
  | [] => rfl
  | group :: rest => by
    rw [List.flatMap_cons, results_group path group, results_groups path rest, runOrderOf,
      List.filter_append, List.map_append]

end

/-- The results of a run are those of the selected cases, in the order in which these are run. -/
theorem results_run (plan : TestPlan) :
    (runner.suite plan).run.value =
      (plan.runOrder.filter fun located => runner.config.selects located.case).map
        runner.resultOf := by
  rw [suite, Suite.run_ofRegistrations, value_runAround,
    (runner.registrations_parts plan).2.2, List.flatMap_map, List.flatMap_map,
    runner.results_groups [] plan.groups]
  rfl

theorem value_suite {plan : TestPlan} (unmixed : ∀ group ∈ plan.groups, group.Unmixed) :
    (runner.suite plan).run.value =
      (plan.located.filter fun located => runner.config.selects located.case).map
        runner.resultOf := by
  rw [results_run, TestPlan.runOrder_eq unmixed]

/-- The result of the test of a case: where the test stands, and how it went. -/
structure ResultOf (located : LocatedCase) (result : TestResult Failure) : Prop where
  path : result.path = located.path
  name : result.name = located.case.name
  tags : result.tags = located.case.tags
  skipped : result.outcome = .skipped ↔ runner.config.skips located.case = true
  ran : ∀ id, located.group.feature = some id → runner.config.skips located.case = false →
    result.outcome = .ofBody (runner.runScenario ⟨id, located.case.name⟩
      (located.group.background ++ located.case.steps)).value

theorem outcome_resultOf (located : LocatedCase) : (runner.resultOf located).outcome =
    if runner.config.skips located.case then .skipped
    else .ofBody (runner.caseTest located.group.feature located.group.background
      located.case).body.value :=
  congrArg TestResult.outcome ((runner.caseTest located.group.feature located.group.background
    located.case).value_run located.path)

theorem resultOf_spec (located : LocatedCase) :
    runner.ResultOf located (runner.resultOf located) := by
  have value := (runner.caseTest located.group.feature located.group.background
    located.case).value_run located.path
  refine ⟨congrArg TestResult.path value, congrArg TestResult.name value,
    congrArg TestResult.tags value, ?_, fun id feature runs => ?_⟩
  · rw [outcome_resultOf]
    cases runner.config.skips located.case with
    | true => exact iff_of_true rfl rfl
    | false => exact iff_of_false (TestOutcome.ofBody_ne_skipped _) Bool.false_ne_true
  · rw [outcome_resultOf, runs, if_neg Bool.false_ne_true]
    simp only [caseTest, feature, runs]

/-- What is told of a case: nothing if it is not selected, that it is skipped and nothing else if it
is work in progress, and otherwise its start once. -/
structure TellsCase (id : FeatureId) (case : TestCase) (events : List RunEvent) : Prop where
  unselected : runner.config.selects case = false →
    events.filterMap (·.told? ⟨id, case.name⟩) = []
  skipped : runner.config.selects case = true → runner.config.skips case = true →
    events.filterMap (·.told? ⟨id, case.name⟩) = [.skipped]
  started : runner.config.selects case = true → runner.config.skips case = false →
    (events.filterMap (·.told? ⟨id, case.name⟩)).count .started = 1

variable {runner}

theorem Schedules.tellsCase {plan : TestPlan} {events : List RunEvent}
    (scheduled : runner.Schedules plan events)
    (distinct : plan.placed.Pairwise fun a b => ¬ (a.id == b.id) = true) {placed : PlacedCase}
    (known : placed ∈ plan.placed) : runner.TellsCase placed.feature placed.case events := by
  obtain ⟨told, all, filled, ofSkipped, ofRun⟩ := runner.caseEvents_spec placed
  have own (selects : runner.config.selects placed.case = true) :
      events.filterMap (·.told? placed.id) = told :=
    scheduled.filterMap_told? distinct (List.mem_filter.mpr ⟨known, selects⟩) all filled
  refine ⟨fun unselected => ?_, fun selects skips => ?_, fun selects runs => ?_⟩
  · refine List.filterMap_eq_nil_iff.mpr fun event member => ?_
    cases event with
    | started | finished | featureStarted | featureFinished => rfl
    | scenario id told =>
      obtain ⟨other, listed, rfl⟩ := scheduled.scenario_mem member
      obtain ⟨placedOther, selects⟩ := List.mem_filter.mp listed
      refine if_neg fun same => ?_
      have equal := eq_of_pairwise_apart distinct placedOther known same
      rw [equal, unselected] at selects
      cases selects
  · exact (own selects).trans (ofSkipped skips).1
  · rw [show events.filterMap (·.told? ⟨placed.feature, placed.case.name⟩) = told from own selects]
    exact (ofRun runs).count_started

theorem mem_placed_of_mem_located {plan : TestPlan} {located : LocatedCase}
    (member : located ∈ plan.located) {id : FeatureId} (feature : located.group.feature = some id) :
    ⟨id, located.group.background, located.case⟩ ∈ plan.placed := by
  have listed : (located.group, located.case) ∈ plan.allCases :=
    plan.map_located ▸ List.mem_map_of_mem member
  refine List.mem_filterMap.mpr ⟨_, listed, ?_⟩
  rw [PlacedCase.of?, feature]
  rfl

variable (runner)

/-- A run does what the plan says: its results are those of the selected cases in the order of the
plan, each case is told of as it should be, and the bodies of skipped tests have no part in it. -/
structure FollowsPlan (plan : TestPlan)
    (run : Timeline (RunOutput ω) (List (TestResult Failure))) : Prop where
  cases : plan.located.map (fun located => (located.group, located.case)) = plan.allCases
  results : List.Forall₂ runner.ResultOf
    (plan.located.filter fun located => runner.config.selects located.case) run.value
  told : ∀ located ∈ plan.located, ∃ id, located.group.feature = some id ∧
    runner.TellsCase id located.case (eventsOf run.outputs)
  bodiless : ∀ body, (Suite.ofRegistrations
    ((runner.registrations plan).map (·.withBodies body))).run = run

/-- Registering a plan and running it follows the plan. -/
theorem run_followsPlan (builder : PlanBuilder) {features : List Feature}
    (distinct : DistinctFeatures features) :
    runner.FollowsPlan (builder.build features) (runner.suite (builder.build features)).run := by
  refine ⟨TestPlan.map_located _, ?_, fun located member => ?_, fun body => ?_⟩
  · rw [runner.value_suite (builder.unmixed_build features), List.forall₂_map_right_iff]
    exact List.forall₂_same.mpr fun located _ => runner.resultOf_spec located
  · obtain ⟨feature, _, made⟩ := builder.exists_feature_of_mem_located member
    have known : located.group.feature = some (.ofFeature feature) := by
      rw [made]
      rfl
    exact ⟨_, known, (runner.schedules_run _).tellsCase (builder.distinct_placed distinct)
      (mem_placed_of_mem_located member known)⟩
  · exact Suite.run_withBodies body _

/-- Two features from different directories, with a case that is work in progress. -/
theorem run_followsPlan_wip : ∃ features : List Feature, DistinctFeatures features ∧
    features.map (fun feature => (feature.path.map (·.text), feature.scenarios.map (·.name))) =
      [(some "d/f.feature", ["a", "b"]), (some "e/g.feature", ["c"])] ∧
    ∃ run, (⟨.empty, fun _ => pure (.ok (.ok ())), none, {}, {}⟩ : Runner Unit Unit).FollowsPlan
        ((⟨.tree, ⟨""⟩⟩ : PlanBuilder).build features) run ∧
      run.value.map (fun result => (result.path, result.name, result.outcome)) =
        [(["d", "F"], "a", .passed), (["d", "F"], "b", .skipped), (["e", "G"], "c", .passed)] := by
  obtain ⟨features, shape⟩ : ∃ features : List Feature, features = [{
      name := "F", path := some ⟨"d/f.feature"⟩,
      scenarios := [{ name := "a" }, { name := "b", tags := ["wip"] }] },
    { name := "G", path := some ⟨"e/g.feature"⟩, scenarios := [{ name := "c" }] }] := ⟨_, rfl⟩
  have distinct : DistinctFeatures features := by
    rw [shape]
    exact List.pairwise_pair.mpr (by decide)
  have follows := run_followsPlan
    (⟨.empty, fun _ => pure (.ok (.ok ())), none, {}, {}⟩ : Runner Unit Unit) ⟨.tree, ⟨""⟩⟩ distinct
  refine ⟨features, distinct, ?_, _, follows, ?_⟩
  · rw [shape]
    rfl
  · rw [shape]
    decide +kernel

end Runner

end ScenarioRunner
