import ScenarioRunner.Proofs.Report.Scenario
import ScenarioRunner.Proofs.Report.Verdict
import ScenarioRunner.Proofs.Run.Scheduled

namespace ScenarioRunner

theorem Feature.feature_of_mem_placed {feature : Feature} {placed : PlacedCase}
    (known : placed ∈ feature.placed) : placed.feature = .ofFeature feature := by
  obtain ⟨_, _, rfl⟩ := List.mem_map.mp known
  rfl

namespace Runner

variable {σ ω : Type} (runner : Runner σ ω)

/-- The cases of a feature that pass the filters. -/
def selectedOf (feature : Feature) : List PlacedCase :=
  feature.placed.filter fun placed => runner.config.selects placed.case

theorem mem_selected_iff (builder : PlanBuilder) (features : List Feature) (placed : PlacedCase) :
    placed ∈ runner.selected (builder.build features) ↔
      ∃ feature ∈ features, placed ∈ runner.selectedOf feature := by
  unfold selected selectedOf
  rw [List.mem_filter, (builder.perm_placed features).mem_iff, List.mem_flatMap]
  simp only [List.mem_filter]
  constructor
  · rintro ⟨⟨feature, known, member⟩, selects⟩
    exact ⟨feature, known, member, selects⟩
  · rintro ⟨feature, known, member, selects⟩
    exact ⟨⟨feature, known, member⟩, selects⟩

/-- A case has the report that its events and its test give to it. -/
structure ReportsCase (placed : PlacedCase) (report : ScenarioReport) : Prop where
  ends : report.EndsAs (runner.testOf placed).body.value
  skipped : runner.config.skips placed.case = true → report = { status := .skipped }
  listed : runner.config.skips placed.case = false → report.ListsSteps placed.steps
    ((runner.caseEvents placed).filterMap (·.told? placed.id))

namespace Schedules

variable {runner} {builder : PlanBuilder} {features : List Feature} {events : List RunEvent}

theorem features_ofEvents {plan : TestPlan} (scheduled : runner.Schedules plan events) :
    (Report.ofEvents events).features = events.foldl Report.recorded .empty :=
  Report.features_foldl scheduled.enclosed.announced Report.empty

/-- Each case that was selected has its report. -/
theorem case_reported {plan : TestPlan} (scheduled : runner.Schedules plan events)
    (distinct : plan.placed.Pairwise fun a b => ¬ (a.id == b.id) = true) {placed : PlacedCase}
    (known : placed ∈ runner.selected plan) : ∃ report,
      (Report.ofEvents events).scenario? placed.id = some report ∧
        runner.ReportsCase placed report := by
  obtain ⟨told, all, filled, skipped, executed⟩ := runner.caseEvents_spec placed
  have own := scheduled.filterMap_told? distinct known all filled
  have alone : (runner.caseEvents placed).filterMap (·.told? placed.id) = told := by
    rw [all, RunEvent.filterMap_told?, if_pos (BEq.refl _)]
  refine ⟨told.foldl ScenarioReport.observe {}, ?_, ?_⟩
  · show Report.scenarioIn (Report.ofEvents events).features placed.id = _
    rw [scheduled.features_ofEvents, Report.scenarioIn_foldl_recorded, own]
    show told.foldl Report.heard none = _
    rw [Report.foldl_heard, if_neg filled]
  · cases skips : runner.config.skips placed.case with
    | true =>
      obtain ⟨rfl, value⟩ := skipped skips
      refine ⟨?_, fun _ => rfl, fun runs => ?_⟩
      · rw [value]
        exact ⟨nofun, ⟨nofun, nofun⟩, nofun⟩
      · rw [skips] at runs
        cases runs
    | false =>
      obtain ⟨listed, ends⟩ := (executed skips).report
      refine ⟨ends, fun waits => ?_, fun _ => ?_⟩
      · rw [skips] at waits
        cases waits
      · rw [alone]
        exact listed

/-- A scenario is in the report only when a case of this identity was selected. -/
theorem selected_of_scenario? {plan : TestPlan} (scheduled : runner.Schedules plan events)
    {id : ScenarioId} {report : ScenarioReport}
    (found : (Report.ofEvents events).scenario? id = some report) :
    ∃ placed ∈ runner.selected plan, (placed.id == id) = true := by
  have told : events.filterMap (·.told? id) ≠ [] := by
    intro none
    have missing : Report.scenarioIn (Report.ofEvents events).features id = some report := found
    rw [scheduled.features_ofEvents, Report.scenarioIn_foldl_recorded, none] at missing
    cases missing
  obtain ⟨heard, member⟩ := List.exists_mem_of_ne_nil _ told
  obtain ⟨event, inside, tells⟩ := List.mem_filterMap.mp member
  cases event with
  | started | finished | featureStarted | featureFinished => cases tells
  | scenario other event =>
    obtain ⟨placed, known, rfl⟩ := scheduled.scenario_mem inside
    refine ⟨placed, known, ?_⟩
    by_contra apart
    rw [RunEvent.told?, if_neg apart] at tells
    cases tells

section

variable (scheduled : runner.Schedules (builder.build features) events)
  (distinct : DistinctFeatures features)
  {feature : Feature} (known : feature ∈ features) {found : FeatureReport}
  (here : (Report.ofEvents events).feature? (.ofFeature feature) = some found)

include scheduled distinct known here

theorem report_of_selected {placed : PlacedCase} (selected : placed ∈ runner.selectedOf feature) :
    ∃ report, found.scenarios.get? placed.case.name = some report ∧
      runner.ReportsCase placed report := by
  have member := (runner.mem_selected_iff builder features placed).mpr ⟨feature, known, selected⟩
  obtain ⟨report, reported, matching⟩ :=
    scheduled.case_reported (builder.distinct_placed distinct) member
  refine ⟨report, ?_, matching⟩
  have own : placed.id.feature = .ofFeature feature :=
    Feature.feature_of_mem_placed (List.mem_filter.mp selected).1
  rwa [Report.scenario?, own, here, Option.bind_some] at reported

/-- A scenario of a feature is a selected case of this very feature. -/
theorem selected_of_report {name : String} {report : ScenarioReport}
    (reported : found.scenarios.get? name = some report) :
    ∃ placed ∈ runner.selectedOf feature, placed.case.name = name := by
  have inside : (Report.ofEvents events).scenario? ⟨.ofFeature feature, name⟩ = some report := by
    rwa [Report.scenario?, here, Option.bind_some]
  obtain ⟨placed, member, same⟩ := scheduled.selected_of_scenario? inside
  obtain ⟨sameFeature, sameName⟩ := ScenarioId.beq_iff.mp same
  obtain ⟨other, otherKnown, selected⟩ :=
    (runner.mem_selected_iff builder features placed).mp member
  have own : placed.id.feature = .ofFeature other :=
    Feature.feature_of_mem_placed (List.mem_filter.mp selected).1
  rw [own] at sameFeature
  obtain rfl := eq_of_pairwise_apart distinct otherKnown known sameFeature
  exact ⟨placed, selected, sameName⟩

theorem names (apart : found.scenarios.Distinct) :
    found.scenarios.keys.Perm ((runner.selectedOf feature).map (·.case.name)) := by
  have unique : ((runner.selectedOf feature).map (·.case.name)).Nodup := by
    refine List.Nodup.sublist (List.filter_sublist.map _) ?_
    rw [Feature.placed, List.map_map]
    exact nodup_caseNames feature
  refine (List.perm_ext_iff_of_nodup apart.nodup unique).mpr fun name => ?_
  rw [List.mem_map]
  constructor
  · intro member
    obtain ⟨⟨name, report⟩, entry, rfl⟩ := List.mem_map.mp member
    exact selected_of_report scheduled distinct known here (apart.get?_of_mem entry)
  · rintro ⟨placed, selected, rfl⟩
    obtain ⟨report, reported, _⟩ := report_of_selected scheduled distinct known here selected
    exact List.mem_map.mpr ⟨_, KeyedList.mem_entries_of_get? reported, rfl⟩

end

/-- The features of the plan that the events tell of are those that it was built from. -/
theorem feature_of_event (scheduled : runner.Schedules (builder.build features) events)
    {event : RunEvent} (member : event ∈ events) {id : FeatureId}
    (carried : event.featureId? = some id) : id ∈ features.map FeatureId.ofFeature := by
  have listed : id ∈ (builder.build features).featureIds ↔ id ∈ features.map FeatureId.ofFeature :=
    (builder.perm_featureIds features).mem_iff
  rcases (scheduled.mem_iff event).mp member with
    ⟨placed, selected, inside⟩ | ⟨other, there, rfl | rfl⟩ | rfl | rfl
  · obtain ⟨told, all, _⟩ := runner.caseEvents_spec placed
    rw [all] at inside
    obtain ⟨event, _, rfl⟩ := List.mem_map.mp inside
    obtain ⟨feature, known, selected⟩ := (runner.mem_selected_iff builder features placed).mp selected
    have own := Feature.feature_of_mem_placed (List.mem_filter.mp selected).1
    cases carried
    exact List.mem_map.mpr ⟨feature, known, own.symm⟩
  · cases carried
    exact listed.mp there
  · cases carried
    exact listed.mp there
  · cases carried
  · cases carried

theorem keys (scheduled : runner.Schedules (builder.build features) events)
    (distinct : DistinctFeatures features) :
    (Report.ofEvents events).features.keys.Perm (features.map FeatureId.ofFeature) := by
  rw [scheduled.features_ofEvents]
  have apart : (events.foldl Report.recorded .empty).Distinct :=
    Report.distinct_foldl_recorded events KeyedList.distinct_empty
  have nodup : (features.map FeatureId.ofFeature).Nodup := by
    refine List.pairwise_map.mpr (distinct.imp fun apart same => ?_)
    rw [same] at apart
    exact apart (BEq.refl _)
  have spelled : ∀ id ∈ (events.foldl Report.recorded .empty).keys,
      id ∈ features.map FeatureId.ofFeature := by
    intro id member
    rcases Report.featureId?_of_mem_keys member with none | ⟨event, inside, carried⟩
    · cases none
    · exact scheduled.feature_of_event inside carried
  refine (List.perm_ext_iff_of_nodup apart.nodup nodup).mpr fun id => ⟨spelled id, fun known => ?_⟩
  have there := (builder.perm_featureIds features).mem_iff.mpr known
  have started := (scheduled.mem_iff _).mpr (.inr (.inl ⟨id, there, .inl rfl⟩))
  have contained := Report.contains_of_started started Report.empty
  rw [Report.features_foldl scheduled.enclosed.announced, KeyedList.contains_iff_mem_keys] at contained
  obtain ⟨other, member, same⟩ := contained
  have spelling : other ∈ features.map FeatureId.ofFeature := spelled other member
  obtain ⟨feature, first, rfl⟩ := List.mem_map.mp spelling
  obtain ⟨_, second, rfl⟩ := List.mem_map.mp known
  rwa [← eq_of_pairwise_apart distinct first second same]

end Schedules

end Runner

end ScenarioRunner
