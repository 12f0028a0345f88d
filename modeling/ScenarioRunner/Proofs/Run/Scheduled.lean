import ScenarioRunner.Proofs.Run.Gathered
import ScenarioRunner.Proofs.Run.Merged
import ScenarioRunner.Proofs.Suite.Registered

namespace ScenarioRunner

theorem flatMap_unless {α β : Type} (test : α → Bool) (f : α → List β) (list : List α) :
    (list.flatMap fun a => if test a then [] else f a) = (list.filter (!test ·)).flatMap f := by
  induction list with
  | nil => rfl
  | cons a rest ih =>
    rw [List.flatMap_cons, List.filter_cons, ih]
    cases test a <;> rfl

namespace Runner

variable {σ ω : Type} (runner : Runner σ ω)

/-- What a case tells in a run, if it is selected and belongs to a feature. -/
def traceOf? (pair : TestGroup × TestCase) : Option (List RunEvent) :=
  ((PlacedCase.of? pair.1 pair.2).filter fun placed => runner.config.selects placed.case).map
    runner.caseEvents

/-- The part of a plan's traces that one of its groups has. -/
def groupTraces (group : TestGroup) : List (List RunEvent) :=
  group.allCases.filterMap runner.traceOf? ++
    group.featureIds.map fun id => [.featureStarted id, .featureFinished id]

theorem perm_flatMap_groupTraces (groups : List TestGroup) :
    ((casesOfGroups groups).filterMap runner.traceOf? ++
      (featureIdsOf groups).map fun id => [RunEvent.featureStarted id, .featureFinished id]).Perm
    (groups.flatMap runner.groupTraces) := by
  rw [casesOfGroups_eq, featureIdsOf_eq, List.filterMap_flatMap, List.map_flatMap]
  exact List.flatMap_append_perm groups _ _

theorem perm_traces (plan : TestPlan) :
    (plan.groups.flatMap runner.groupTraces ++ [[RunEvent.started, .finished]]).Perm
      (runner.traces plan) := by
  have cases : (runner.selected plan).map runner.caseEvents =
      plan.allCases.filterMap runner.traceOf? := by
    unfold selected TestPlan.placed traceOf?
    rw [List.filter_filterMap, List.map_filterMap]
  rw [traces, cases]
  exact (runner.perm_flatMap_groupTraces plan.groups).symm.append_right _

/-- The registrations inside of a group. -/
def groupBody : TestGroup → List (Registration (RunOutput ω) Failure)
  | .mk _ feature background groups cases =>
    let selected := cases.filter runner.config.selects
    (feature.map (runner.featureHooks · selected)).getD [] ++ runner.groupRegistrations groups ++
      selected.map (.test ∘ runner.caseTest feature background)

theorem groupRegistration_eq (group : TestGroup) :
    runner.groupRegistration group = .group group.name (runner.groupBody group) := by
  cases group
  rw [groupRegistration]
  rfl

theorem groupRegistrations_eq (groups : List TestGroup) :
    runner.groupRegistrations groups =
      groups.map fun group => .group group.name (runner.groupBody group) := by
  induction groups with
  | nil => rfl
  | cons group rest ih => rw [groupRegistrations, ih, groupRegistration_eq, List.map_cons]

/-- The tests and groups of tests that come of a group of the plan. -/
def groupItem (group : TestGroup) : SuiteItem (RunOutput ω) Failure :=
  .group group.name ((runner.groupBody group).filterMap Registration.setUp?)
    ((runner.groupBody group).filterMap Registration.tearDown?)
    (Registration.itemsOf (runner.groupBody group))

/-- What a group tells in a run. -/
def groupEvents (path : List String) (group : TestGroup) : List RunEvent :=
  eventsOf ((runner.groupItem group).run path).outputs

theorem groupRegistrations_parts (groups : List TestGroup) :
    (runner.groupRegistrations groups).filterMap Registration.setUp? = [] ∧
      (runner.groupRegistrations groups).filterMap Registration.tearDown? = [] ∧
      (runner.groupRegistrations groups).flatMap Registration.items =
        groups.map runner.groupItem := by
  rw [groupRegistrations_eq, List.filterMap_map, List.filterMap_map, List.flatMap_map,
    List.map_eq_flatMap]
  refine ⟨?_, ?_, rfl⟩
  · exact List.filterMap_eq_nil_iff.mpr fun _ _ => rfl
  · exact List.filterMap_eq_nil_iff.mpr fun _ _ => rfl

theorem registrations_parts (plan : TestPlan) :
    (runner.registrations plan).filterMap Registration.setUp? = [tell [.started]] ∧
      (runner.registrations plan).filterMap Registration.tearDown? = [tell [.finished]] ∧
      (runner.registrations plan).flatMap Registration.items = plan.groups.map runner.groupItem := by
  obtain ⟨noSetUp, noTearDown, groupItems⟩ := runner.groupRegistrations_parts plan.groups
  rw [registrations]
  simp only [List.filterMap_append, List.flatMap_append, noSetUp, noTearDown, groupItems]
  exact ⟨rfl, rfl, List.append_nil _⟩

theorem tests_parts (feature : Option FeatureId) (background : List Step) (cases : List TestCase) :
    (cases.map (.test ∘ runner.caseTest feature background)).filterMap Registration.setUp? = [] ∧
      (cases.map (.test ∘ runner.caseTest feature background)).filterMap
        Registration.tearDown? = [] ∧
      (cases.map (.test ∘ runner.caseTest feature background)).flatMap Registration.items =
        cases.map fun case => .test (runner.caseTest feature background case) := by
  rw [List.filterMap_map, List.filterMap_map, List.flatMap_map, List.map_eq_flatMap]
  refine ⟨?_, ?_, rfl⟩
  · exact List.filterMap_eq_nil_iff.mpr fun _ _ => rfl
  · exact List.filterMap_eq_nil_iff.mpr fun _ _ => rfl

/-- What the set-up hooks of a group tell, before any of its tests. -/
def startEvents (id : FeatureId) (selected : List TestCase) : List RunEvent :=
  .featureStarted id :: (selected.filter runner.config.skips).map fun case =>
    .scenario ⟨id, case.name⟩ .skipped

theorem groupBody_parts (name : String) (feature : Option FeatureId) (background : List Step)
    (groups : List TestGroup) (cases : List TestCase) :
    (runner.groupBody (.mk name feature background groups cases)).filterMap Registration.setUp? =
        (feature.map fun id =>
          tell (runner.startEvents id (cases.filter runner.config.selects))).toList ∧
      (runner.groupBody (.mk name feature background groups cases)).filterMap
        Registration.tearDown? = (feature.map fun id => tell [.featureFinished id]).toList ∧
      Registration.itemsOf (runner.groupBody (.mk name feature background groups cases)) =
        groups.map runner.groupItem ++ (cases.filter runner.config.selects).map fun case =>
          .test (runner.caseTest feature background case) := by
  obtain ⟨noSetUp, noTearDown, groupItems⟩ := runner.groupRegistrations_parts groups
  obtain ⟨noSetUp', noTearDown', testItems⟩ :=
    runner.tests_parts feature background (cases.filter runner.config.selects)
  rw [Registration.itemsOf_eq, groupBody]
  simp only [List.filterMap_append, List.flatMap_append, noSetUp, noTearDown, groupItems, noSetUp',
    noTearDown', testItems, List.append_nil]
  cases feature <;> exact ⟨rfl, rfl, rfl⟩

/-- What the test of a case tells. -/
def testEvents (feature : Option FeatureId) (background : List Step) (case : TestCase) :
    List RunEvent :=
  if runner.config.skips case then []
  else eventsOf (runner.caseTest feature background case).body.outputs

theorem eventsOf_tell (events : List RunEvent) : eventsOf (tell (ω := ω) events).outputs = events := by
  simp [tell, Timeline.emit, Timeline.outputs, eventsOf, List.filterMap_map, RunOutput.event?,
    Function.comp_def]

/-- The events of a group, with those that its members tell in between. -/
theorem groupEvents_spec (path : List String) (name : String) (feature : Option FeatureId)
    (background : List Step) (groups : List TestGroup) (cases : List TestCase) : ∃ inner merged,
    runner.groupEvents path (.mk name feature background groups cases) =
      (feature.map fun id => runner.startEvents id (cases.filter runner.config.selects)).getD [] ++
        merged ++ (feature.map fun id => [.featureFinished id]).getD [] ∧
      Interleaving (groups.map (runner.groupEvents inner) ++
        (cases.filter runner.config.selects).map (runner.testEvents feature background)) merged := by
  obtain ⟨merged, all, turns⟩ := eventsOf_runAround
    ((feature.map fun id =>
      tell (runner.startEvents id (cases.filter runner.config.selects))).toList)
    ((feature.map fun id => tell [.featureFinished id]).toList)
    (runItems (path ++ [name]) (groups.map runner.groupItem ++
      (cases.filter runner.config.selects).map fun case =>
        .test (runner.caseTest feature background case)))
  obtain ⟨setUp, tearDown, items⟩ := runner.groupBody_parts name feature background groups cases
  refine ⟨path ++ [name], merged, ?_, ?_⟩
  · rw [groupEvents, groupItem, SuiteItem.run, setUp, tearDown, items, all]
    cases feature with
    | none => rfl
    | some id => simp [eventsOf_tell]
  · rw [Suite.runItems_eq, List.map_append, List.map_append, List.map_map, List.map_map,
      List.map_map, List.map_map] at turns
    have same : (cases.filter runner.config.selects).map (runner.testEvents feature background) =
        (cases.filter runner.config.selects).map fun case => eventsOf
          ((SuiteItem.test (runner.caseTest feature background case)).run
            (path ++ [name])).outputs := by
      refine List.map_congr_left fun case _ => ?_
      rw [eventsOf_test]
      rfl
    rw [same]
    exact turns

theorem testEvents_none (background : List Step) (case : TestCase) :
    runner.testEvents none background case = [] := by
  unfold testEvents
  split <;> rfl

theorem testEvents_some (id : FeatureId) (background : List Step) (case : TestCase) :
    runner.testEvents (some id) background case =
      if runner.config.skips case then [] else runner.caseEvents ⟨id, background, case⟩ := by
  unfold testEvents caseEvents
  split <;> rfl

/-- In a group of a feature, cases that are work in progress are told of at its start and others
when they run. -/
theorem interleaving_feature {id : FeatureId} {background : List Step} {selected : List TestCase}
    {lists : List (List RunEvent)} {merged : List RunEvent}
    (turns : Interleaving (selected.map (runner.testEvents (some id) background) ++ lists) merged) :
    Interleaving ([.featureStarted id, .featureFinished id] ::
        (selected.map (fun case => runner.caseEvents ⟨id, background, case⟩) ++ lists))
      (runner.startEvents id selected ++ merged ++ [.featureFinished id]) := by
  have each : ∀ case ∈ selected, Interleaving
      (if runner.config.skips case then [] else [runner.caseEvents ⟨id, background, case⟩])
      (runner.testEvents (some id) background case) := by
    intro case _
    rw [testEvents_some]
    split
    · exact .nothing
    · exact .single _
  have ran := (turns.flatMap_append each).eachFirst
    ((selected.filter runner.config.skips).map fun case => RunEvent.scenario ⟨id, case.name⟩ .skipped)
  have told : ((selected.filter runner.config.skips).map fun case =>
      RunEvent.scenario ⟨id, case.name⟩ .skipped).map ([·]) =
      (selected.filter runner.config.skips).map fun case =>
        runner.caseEvents ⟨id, background, case⟩ := by
    rw [List.map_map]
    refine List.map_congr_left fun case member => ?_
    rw [caseEvents, if_pos (List.mem_filter.mp member).2]
    rfl
  rw [told, flatMap_unless, ← List.map_eq_flatMap, ← List.append_assoc, ← List.map_append] at ran
  have ordered := ran.of_perm
    (((List.filter_append_perm runner.config.skips selected).map _).append_right lists)
  exact (ordered.thenLast [.featureFinished id]).first _

theorem feature_of_mem_testEvents {feature : FeatureId} {background : List Step} {case : TestCase}
    {id : ScenarioId} {told : ScenarioEvent}
    (member : .scenario id told ∈ runner.testEvents (some feature) background case) :
    id.feature = feature := by
  rw [testEvents_some] at member
  split at member
  · cases member
  · obtain ⟨events, all, _⟩ := runner.caseEvents_spec ⟨feature, background, case⟩
    rw [all] at member
    obtain ⟨_, _, same⟩ := List.mem_map.mp member
    cases same
    rfl

/-- Scenarios of a group are its own, or those of a group in it, which has enclosed them. -/
theorem enclosed_feature {feature : FeatureId} {background : List Step} {selected : List TestCase}
    {lists : List (List RunEvent)} {merged : List RunEvent}
    (turns : Interleaving (selected.map (runner.testEvents (some feature) background) ++ lists)
      merged) (inner : ∀ list ∈ lists, RunEvent.Enclosed list) :
    RunEvent.Enclosed (runner.startEvents feature selected ++ merged ++ [.featureFinished feature]) := by
  have all := turns.eachFirst ((selected.filter runner.config.skips).map fun case =>
    RunEvent.scenario ⟨feature, case.name⟩ .skipped)
  refine RunEvent.enclosed_between rfl rfl fun before id told after whole => ?_
  obtain ⟨list, member, front, back, split, earlier, later⟩ := all.around whole
  have inside : .scenario id told ∈ list := by rw [split]; simp
  rcases List.mem_append.mp member with skipped | ran
  · obtain ⟨event, known, rfl⟩ := List.mem_map.mp skipped
    obtain ⟨case, _, rfl⟩ := List.mem_map.mp known
    cases List.mem_singleton.mp inside
    exact .inl ⟨rfl, rfl⟩
  · rcases List.mem_append.mp ran with test | group
    · obtain ⟨case, _, rfl⟩ := List.mem_map.mp test
      rw [runner.feature_of_mem_testEvents inside]
      exact .inl ⟨rfl, rfl⟩
    · obtain ⟨starts, ends⟩ := inner list group front id told back split
      exact .inr ⟨earlier starts, later ends⟩

theorem enclosed_of_interleaving {lists : List (List RunEvent)} {merged : List RunEvent}
    (turns : Interleaving lists merged) (inner : ∀ list ∈ lists, RunEvent.Enclosed list) :
    RunEvent.Enclosed merged := by
  intro before id told after whole
  obtain ⟨list, member, front, back, split, earlier, later⟩ := turns.around whole
  obtain ⟨starts, ends⟩ := inner list member front id told back split
  exact ⟨earlier starts, later ends⟩

theorem ownTraces_none {group : TestGroup} (none : group.feature = .none) (cases : List TestCase) :
    (cases.map (group, ·)).filterMap runner.traceOf? = [] := by
  rw [List.filterMap_map]
  refine List.filterMap_eq_nil_iff.mpr fun case _ => ?_
  simp [traceOf?, PlacedCase.of?, none]

theorem ownTraces_some {group : TestGroup} {id : FeatureId} (some : group.feature = .some id)
    (cases : List TestCase) : (cases.map (group, ·)).filterMap runner.traceOf? =
      (cases.filter runner.config.selects).map fun case =>
        runner.caseEvents ⟨id, group.background, case⟩ := by
  rw [List.filterMap_map]
  induction cases with
  | nil => rfl
  | cons case rest ih =>
    rw [List.filterMap_cons, List.filter_cons, ih]
    have here : (runner.traceOf? ∘ (group, ·)) case = if runner.config.selects case then
        .some (runner.caseEvents ⟨id, group.background, case⟩) else none := by
      cases selects : runner.config.selects case <;>
        simp [traceOf?, PlacedCase.of?, some, selects]
    rw [here]
    cases runner.config.selects case <;> rfl

/-- A group tells all that its cases and features, and the groups in it, have to tell. -/
def Tells (path : List String) (group : TestGroup) : Prop :=
  Interleaving (runner.groupTraces group) (runner.groupEvents path group) ∧
    RunEvent.Enclosed (runner.groupEvents path group)

variable {runner}

theorem enclosed_of_tells {path : List String} {groups : List TestGroup}
    (inner : ∀ group ∈ groups, runner.Tells path group) :
    ∀ list ∈ groups.map (runner.groupEvents path), RunEvent.Enclosed list := by
  intro list member
  obtain ⟨group, known, rfl⟩ := List.mem_map.mp member
  exact (inner group known).2

/-- Outside of features there is nothing but the groups inside. -/
theorem tells_directory {path below : List String} {name : String} {background : List Step}
    {groups : List TestGroup} {cases : List TestCase} {merged : List RunEvent}
    (turns : Interleaving (groups.map (runner.groupEvents below) ++
      (cases.filter runner.config.selects).map (runner.testEvents none background)) merged)
    (inner : ∀ group ∈ groups, runner.Tells below group)
    (all : runner.groupEvents path (.mk name none background groups cases) = merged) :
    runner.Tells path (.mk name none background groups cases) := by
  have silent : ∀ case ∈ cases.filter runner.config.selects,
      Interleaving [] (runner.testEvents none background case) := by
    intro case _
    rw [testEvents_none]
    exact .nothing
  have opened := turns.flatMap_append fun group known => (inner group known).1
  have told := (opened.of_perm List.perm_append_comm).flatMap_append silent
  rw [List.flatMap_eq_nil_iff.mpr fun _ _ => rfl] at told
  constructor
  · rw [all, groupTraces, TestGroup.allCases, TestGroup.featureIds, List.filterMap_append,
      runner.ownTraces_none rfl]
    simpa using told.of_perm (runner.perm_flatMap_groupTraces groups).symm
  · rw [all]
    refine enclosed_of_interleaving turns fun list member => ?_
    rcases List.mem_append.mp member with group | test
    · exact enclosed_of_tells inner list group
    · obtain ⟨case, _, rfl⟩ := List.mem_map.mp test
      rw [testEvents_none]
      exact RunEvent.enclosed_nil

/-- The cases of a feature stand between its start and its end. -/
theorem tells_feature {path below : List String} {name : String} {id : FeatureId}
    {background : List Step} {groups : List TestGroup} {cases : List TestCase}
    {merged : List RunEvent}
    (turns : Interleaving (groups.map (runner.groupEvents below) ++
      (cases.filter runner.config.selects).map (runner.testEvents (some id) background)) merged)
    (inner : ∀ group ∈ groups, runner.Tells below group)
    (all : runner.groupEvents path (.mk name (some id) background groups cases) =
      runner.startEvents id (cases.filter runner.config.selects) ++ merged ++
        [.featureFinished id]) :
    runner.Tells path (.mk name (some id) background groups cases) := by
  have opened := turns.flatMap_append fun group known => (inner group known).1
  have told := runner.interleaving_feature (opened.of_perm List.perm_append_comm)
  constructor
  · rw [all, groupTraces, TestGroup.allCases, TestGroup.featureIds, List.filterMap_append,
      List.map_append, runner.ownTraces_some rfl]
    refine told.of_perm (List.Perm.trans ?_ List.perm_middle.symm)
    rw [List.append_assoc]
    exact ((runner.perm_flatMap_groupTraces groups).symm.append_left _).cons _
  · rw [all]
    exact runner.enclosed_feature (turns.of_perm List.perm_append_comm) (enclosed_of_tells inner)

variable (runner)

mutual

theorem tells_group (path : List String) : (group : TestGroup) → runner.Tells path group
  | .mk name feature background groups cases => by
    obtain ⟨below, merged, all, turns⟩ :=
      runner.groupEvents_spec path name feature background groups cases
    cases feature with
    | none => exact tells_directory turns (tells_groups below groups) (by simpa using all)
    | some id => exact tells_feature turns (tells_groups below groups) all

theorem tells_groups (path : List String) : (groups : List TestGroup) →
    ∀ group ∈ groups, runner.Tells path group
  | [] => fun _ member => nomatch member
  | group :: rest => List.forall_mem_cons.mpr ⟨tells_group path group, tells_groups path rest⟩

end

/-- The tests of a plan, run side by side, follow one of its schedules. -/
theorem schedules_run (plan : TestPlan) :
    runner.Schedules plan (eventsOf (runner.suite plan).run.outputs) := by
  obtain ⟨setUp, tearDown, items⟩ := runner.registrations_parts plan
  obtain ⟨merged, all, turns⟩ := eventsOf_runAround [tell [.started]] [tell [.finished]]
    ((plan.groups.map runner.groupItem).map (·.run []))
  have whole : eventsOf (runner.suite plan).run.outputs = .started :: (merged ++ [.finished]) := by
    rw [suite, Suite.run_ofRegistrations, setUp, tearDown, items, all]
    simp [eventsOf_tell]
  rw [List.map_map, List.map_map] at turns
  have inner := runner.tells_groups [] plan.groups
  have outer : Interleaving (plan.groups.map (runner.groupEvents []) ++ []) merged := by
    rw [List.append_nil]
    exact turns
  have traced : Interleaving (plan.groups.flatMap runner.groupTraces) merged := by
    simpa using outer.flatMap_append fun group known => (inner group known).1
  rw [whole]
  constructor
  · have framed := (traced.thenLast [.finished]).first .started
    exact framed.of_perm ((List.perm_append_singleton _ _).symm.trans (runner.perm_traces plan))
  · refine RunEvent.enclosed_between rfl rfl fun before id told after split => .inr ?_
    exact enclosed_of_interleaving turns (enclosed_of_tells inner) before id told after split

end Runner

end ScenarioRunner
