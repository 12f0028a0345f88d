import ScenarioRunner.Proofs.Run.Results

namespace ScenarioRunner

namespace Config

/-- The configurations may select other cases, but what happens to a case is the same. -/
structure SameButFilters (a b : Config) : Prop where
  wipTag : a.wipTag = b.wipTag
  runWip : a.runWip = b.runWip
  failOnMissingSteps : a.failOnMissingSteps = b.failOnMissingSteps

/-- The configuration that selects all cases. -/
def unfiltered (config : Config) : Config :=
  { config with tagsFilter := none, nameFilter := none }

theorem selects_unfiltered (config : Config) (case : TestCase) :
    config.unfiltered.selects case = true := rfl

theorem SameButFilters.skips_eq {a b : Config} (same : a.SameButFilters b) (case : TestCase) :
    a.skips case = b.skips case := by
  rw [skips, skips, same.runWip, same.wipTag]

end Config

namespace Runner

variable {σ ω : Type} (runner : Runner σ ω)

/-- The runner with another configuration. -/
def under (config : Config) : Runner σ ω := { runner with config := config }

variable {first second : Config}

/-- All that a scenario gets to know of the configuration is whether missing steps fail it. -/
theorem runScenario_under (same : first.failOnMissingSteps = second.failOnMissingSteps)
    (id : ScenarioId) (steps : List Step) :
    (runner.under first).runScenario id steps = (runner.under second).runScenario id steps := by
  have alike : (runner.under first).executor id = (runner.under second).executor id := by
    simp only [executor, under, same]
  rw [runScenario, runScenario, alike]

theorem caseTest_under (same : first.SameButFilters second) (feature : Option FeatureId)
    (background : List Step) (case : TestCase) :
    (runner.under first).caseTest feature background case =
      (runner.under second).caseTest feature background case := by
  have skips : (runner.under first).config.skips case = (runner.under second).config.skips case :=
    same.skips_eq case
  simp only [caseTest, skips, runner.runScenario_under same.failOnMissingSteps]

theorem resultOf_under (same : first.SameButFilters second) :
    (runner.under first).resultOf = (runner.under second).resultOf := by
  funext located
  rw [resultOf, resultOf, runner.caseTest_under same]

/-- What is told of a case, by its test or in its place. -/
def caseTrace (placed : PlacedCase) : List ScenarioEvent :=
  (runner.caseEvents placed).filterMap (·.told? placed.id)

theorem caseEvents_eq (placed : PlacedCase) :
    runner.caseEvents placed = (runner.caseTrace placed).map (.scenario placed.id) := by
  obtain ⟨told, all, _⟩ := runner.caseEvents_spec placed
  rw [caseTrace, all, RunEvent.filterMap_told?, if_pos (BEq.refl _)]

theorem caseTrace_ne_nil (placed : PlacedCase) : runner.caseTrace placed ≠ [] := by
  obtain ⟨told, all, filled, _⟩ := runner.caseEvents_spec placed
  rwa [caseTrace, all, RunEvent.filterMap_told?, if_pos (BEq.refl _)]

theorem caseEvents_under (same : first.SameButFilters second) :
    (runner.under first).caseEvents = (runner.under second).caseEvents := by
  funext placed
  have skips : (runner.under first).config.skips placed.case =
      (runner.under second).config.skips placed.case := same.skips_eq placed.case
  rw [caseEvents, caseEvents, skips, testOf, testOf, runner.caseTest_under same]

theorem caseTrace_under (same : first.SameButFilters second) :
    (runner.under first).caseTrace = (runner.under second).caseTrace := by
  funext placed
  rw [caseTrace, caseTrace, runner.caseEvents_under same]

/-- A run under a configuration has the results of the cases that are selected, and tells of them
what their traces tell, whatever the order in which they take turns. -/
structure RunsSelected (plan : TestPlan) (results : List (LocatedCase × TestResult Failure))
    (trace : PlacedCase → List ScenarioEvent) (config : Config)
    (run : Timeline (RunOutput ω) (List (TestResult Failure))) : Prop where
  results : run.value = (results.filter fun result => config.selects result.1.case).map Prod.snd
  interleaved : Interleaving
    ((plan.placed.filter fun placed => config.selects placed.case).map
        (fun placed => (trace placed).map (.scenario placed.id)) ++
      (plan.featureIds.map fun id => [.featureStarted id, .featureFinished id]) ++
      [[.started, .finished]]) (eventsOf run.outputs)
  told : (plan.placed.Pairwise fun a b => ¬ (a.id == b.id) = true) →
    ∀ placed ∈ plan.placed, config.selects placed.case = true →
      (eventsOf run.outputs).filterMap (·.told? placed.id) = trace placed

theorem runsSelected (plan : TestPlan) : RunsSelected plan
    (plan.runOrder.map fun located => (located, runner.resultOf located)) runner.caseTrace
    runner.config (runner.suite plan).run := by
  have scheduled := runner.schedules_run plan
  refine ⟨?_, ?_, fun distinct placed known selects => ?_⟩
  · rw [results_run, List.filter_map, List.map_map]
    rfl
  · have traces : runner.caseEvents =
        fun placed => (runner.caseTrace placed).map (.scenario placed.id) :=
      funext runner.caseEvents_eq
    rw [← traces]
    exact scheduled.interleaved
  · exact scheduled.filterMap_told? distinct (List.mem_filter.mpr ⟨known, selects⟩)
      (runner.caseEvents_eq placed) (runner.caseTrace_ne_nil placed)

/-- Filters only remove. All cases have one list of results and one trace each; under whatever
filters, a run has the part of them that belongs to the selected cases, in the same order and under
the same names. -/
theorem filters_only_remove (plan : TestPlan) (base : Config) :
    ∃ (results : List (LocatedCase × TestResult Failure))
      (trace : PlacedCase → List ScenarioEvent),
      results.map Prod.fst = plan.runOrder ∧
      (∀ result ∈ results, result.2.path = result.1.path ∧ result.2.name = result.1.case.name ∧
        result.2.tags = result.1.case.tags) ∧
      ((runner.under base.unfiltered).suite plan).run.value = results.map Prod.snd ∧
      ∀ config : Config, config.SameButFilters base →
        RunsSelected plan results trace config ((runner.under config).suite plan).run := by
  have whole := (runner.under base.unfiltered).runsSelected plan
  refine ⟨plan.runOrder.map fun located =>
      (located, (runner.under base.unfiltered).resultOf located),
    (runner.under base.unfiltered).caseTrace, ?_, ?_, ?_, fun config same => ?_⟩
  · rw [List.map_map]
    exact List.map_id _
  · intro result member
    obtain ⟨located, _, rfl⟩ := List.mem_map.mp member
    have spec := (runner.under base.unfiltered).resultOf_spec located
    exact ⟨spec.path, spec.name, spec.tags⟩
  · have all : ∀ result ∈ plan.runOrder.map fun located =>
        (located, (runner.under base.unfiltered).resultOf located),
        (runner.under base.unfiltered).config.selects result.1.case = true :=
      fun result _ => base.selects_unfiltered result.1.case
    rw [whole.results, List.filter_eq_self.mpr all]
  · have alike : config.SameButFilters base.unfiltered :=
      ⟨same.wipTag, same.runWip, same.failOnMissingSteps⟩
    rw [← runner.resultOf_under alike, ← runner.caseTrace_under alike]
    exact (runner.under config).runsSelected plan

/-- One case fails, since its step has no definition, and the other passes. Leaving out the second
changes nothing about the first. -/
theorem filters_only_remove_tagged : ∃ (runner : Runner Unit Unit) (plan : TestPlan)
    (config : Config), config.SameButFilters runner.config ∧
    ∃ results trace, RunsSelected plan results trace config ((runner.under config).suite plan).run ∧
      results.map (fun result => (result.2.name, result.2.isFailed)) = [("a", true), ("b", false)] ∧
      ((runner.under config).suite plan).run.value.map (fun result => (result.name, result.isFailed)) =
        [("a", true)] := by
  obtain ⟨runner, made⟩ : ∃ runner : Runner Unit Unit,
    runner = ⟨.empty, fun _ => pure (.ok (.ok ())), none, {}, {}⟩ := ⟨_, rfl⟩
  obtain ⟨plan, shape⟩ : ∃ plan : TestPlan, plan = PlanBuilder.build {} [{
      name := "F"
      scenarios := [{ name := "a", tags := ["t"], steps := [{ keyword := .context, text := "x" }] },
        { name := "b" }] }] := ⟨_, rfl⟩
  obtain ⟨config, chosen⟩ : ∃ config : Config, config = { tagsFilter := some (.tag "t") } := ⟨_, rfl⟩
  have same : config.SameButFilters runner.config := by
    rw [made, chosen]
    exact ⟨rfl, rfl, rfl⟩
  obtain ⟨results, trace, _, _, whole, selected⟩ := runner.filters_only_remove plan runner.config
  refine ⟨runner, plan, config, same, results, trace, selected config same, ?_, ?_⟩
  · have each := congrArg (List.map fun result => (result.name, result.isFailed)) whole
    rw [List.map_map] at each
    refine each.symm.trans ?_
    rw [made, shape]
    rfl
  · rw [made, shape, chosen]
    rfl

end Runner

end ScenarioRunner
