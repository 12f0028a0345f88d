import Mathlib.Data.List.Induction
import ScenarioRunner.Proofs.Event
import ScenarioRunner.Proofs.KeyedList
import ScenarioRunner.Report

namespace ScenarioRunner

/-- What an event of the feature tells about it. -/
def FeatureReport.observe (report : FeatureReport) : RunEvent → FeatureReport
  | .started | .finished => report
  | .featureStarted _ => { report with status := .running }
  | .featureFinished _ => { report with status := report.verdict }
  | .scenario id event =>
    { report with scenarios := report.scenarios.update id.scenario {} (·.observe event) }

namespace Report

/-- The features after an event that is counted for the feature it carries. -/
def recorded (features : KeyedList FeatureId FeatureReport) (event : RunEvent) :
    KeyedList FeatureId FeatureReport :=
  match event.featureId? with
  | none => features
  | some id => features.update id {} (·.observe event)

theorem features_observe {report : Report} {event : RunEvent}
    (owned : ∀ id told, event = .scenario id told → report.owner id.feature = id.feature) :
    (report.observe event).features = recorded report.features event := by
  cases event with
  | started | finished | featureStarted id | featureFinished id => rfl
  | scenario id told =>
    have own := owned id told rfl
    simp only [observe, observeScenario, own]
    rfl

theorem contains_observe {report : Report} {id : FeatureId} (event : RunEvent)
    (there : report.features.contains id = true) :
    (report.observe event).features.contains id = true := by
  cases event with
  | started | finished => exact there
  | featureStarted other | featureFinished other =>
    show (KeyedList.update _ _ _ _).contains id = true
    rw [KeyedList.contains_update, there, Bool.or_true]
  | scenario other told =>
    show (KeyedList.update _ _ _ _).contains id = true
    rw [KeyedList.contains_update, there, Bool.or_true]

theorem contains_of_started {events : List RunEvent} {id : FeatureId}
    (started : .featureStarted id ∈ events) (report : Report) :
    (events.foldl observe report).features.contains id = true := by
  induction events using List.reverseRecOn with
  | nil => cases started
  | append_singleton events event ih =>
    rw [List.foldl_append, List.foldl_cons, List.foldl_nil]
    rcases List.mem_append.mp started with before | last
    · exact contains_observe event (ih before)
    · rw [← List.mem_singleton.mp last]
      show (KeyedList.update _ _ _ _).contains id = true
      rw [KeyedList.contains_update, BEq.refl, Bool.true_or]

/-- The current scenario is asked only about unknown features without a path, and of these there are
none when every one of them was announced. -/
theorem features_foldl {events : List RunEvent} (announced : RunEvent.Announced events)
    (report : Report) :
    (events.foldl observe report).features = events.foldl recorded report.features := by
  induction events using List.reverseRecOn with
  | nil => rfl
  | append_singleton events event ih =>
    obtain ⟨earlier, ends⟩ := RunEvent.announced_concat_iff.mp announced
    rw [List.foldl_append, List.foldl_cons, List.foldl_nil, List.foldl_append, List.foldl_cons,
      List.foldl_nil, ← ih earlier]
    refine features_observe fun id told same => ?_
    unfold owner
    by_cases pathless : id.feature.path = none
    · obtain ⟨feature, started, equal⟩ := ends id told same pathless
      have known := contains_of_started started report
      rw [KeyedList.contains_eq_isSome, KeyedList.pair?_congr equal,
        ← KeyedList.contains_eq_isSome] at known
      rw [known]
      simp
    · rw [Option.isNone_eq_false_iff.mpr (Option.isSome_iff_ne_none.mpr pathless)]
      simp

/-- What an event makes of the entry of the feature it carries. -/
def noted (entry : Option (FeatureId × FeatureReport)) (event : RunEvent) :
    Option (FeatureId × FeatureReport) :=
  match event.featureId? with
  | none => entry
  | some id => some (KeyedList.changed id {} (·.observe event) entry)

theorem pair?_recorded (features : KeyedList FeatureId FeatureReport) (event : RunEvent)
    (feature : FeatureId) :
    (recorded features event).pair? feature =
      if event.concerns feature then noted (features.pair? feature) event
      else features.pair? feature := by
  unfold recorded noted RunEvent.concerns
  cases event.featureId? with
  | none => rfl
  | some id => exact KeyedList.pair?_update features id {} _ feature

theorem pair?_foldl_recorded (events : List RunEvent)
    (features : KeyedList FeatureId FeatureReport) (feature : FeatureId) :
    (events.foldl recorded features).pair? feature =
      (events.filter (·.concerns feature)).foldl noted (features.pair? feature) := by
  induction events generalizing features with
  | nil => rfl
  | cons event rest ih =>
    rw [List.foldl_cons, ih, pair?_recorded, List.filter_cons]
    by_cases concerned : event.concerns feature = true
    · rw [if_pos concerned, if_pos concerned, List.foldl_cons]
    · rw [if_neg concerned, if_neg concerned]

/-- What is known about a scenario after an event of it. -/
def heard (known : Option ScenarioReport) (event : ScenarioEvent) : Option ScenarioReport :=
  some ((known.getD {}).observe event)

/-- The scenario that is found in the features. -/
def scenarioIn (features : KeyedList FeatureId FeatureReport) (id : ScenarioId) :
    Option ScenarioReport :=
  (features.get? id.feature).bind (·.scenarios.get? id.scenario)

theorem scenarioIn_recorded (features : KeyedList FeatureId FeatureReport) (event : RunEvent)
    (id : ScenarioId) :
    scenarioIn (recorded features event) id =
      match event.told? id with
      | some told => heard (scenarioIn features id) told
      | none => scenarioIn features id := by
  unfold scenarioIn recorded
  cases event with
  | started | finished => rfl
  | featureStarted other | featureFinished other =>
    show ((KeyedList.update _ _ _ _).get? id.feature).bind _ = _
    rw [KeyedList.get?_update]
    by_cases same : (other == id.feature) = true
    · rw [if_pos same]
      cases features.get? id.feature <;> rfl
    · rw [if_neg same]
      rfl
  | scenario other told =>
    show ((KeyedList.update _ _ _ _).get? id.feature).bind _ = _
    rw [KeyedList.get?_update]
    by_cases same : (other.feature == id.feature) = true
    · rw [if_pos same]
      show ((KeyedList.update _ _ _ _).get? id.scenario) = _
      rw [KeyedList.get?_update]
      by_cases own : other.scenario = id.scenario
      · have equal : (other == id) = true := ScenarioId.beq_iff.mpr ⟨same, own⟩
        rw [if_pos (beq_iff_eq.mpr own)]
        simp only [RunEvent.told?, if_pos equal]
        cases features.get? id.feature <;> rfl
      · have apart : ¬ (other == id) = true := fun equal => own (ScenarioId.beq_iff.mp equal).2
        rw [if_neg (fun equal => own (beq_iff_eq.mp equal))]
        simp only [RunEvent.told?, if_neg apart]
        cases features.get? id.feature <;> rfl
    · have apart : ¬ (other == id) = true := fun equal => same (ScenarioId.beq_iff.mp equal).1
      rw [if_neg same]
      simp only [RunEvent.told?, if_neg apart]

theorem scenarioIn_foldl_recorded (events : List RunEvent)
    (features : KeyedList FeatureId FeatureReport) (id : ScenarioId) :
    scenarioIn (events.foldl recorded features) id =
      (events.filterMap (·.told? id)).foldl heard (scenarioIn features id) := by
  induction events generalizing features with
  | nil => rfl
  | cons event rest ih =>
    rw [List.foldl_cons, ih, scenarioIn_recorded, List.filterMap_cons]
    cases event.told? id <;> rfl

/-- A scenario is known as soon as there is an event of it. -/
theorem foldl_heard (events : List ScenarioEvent) :
    events.foldl heard none =
      if events = [] then none else some (events.foldl ScenarioReport.observe {}) := by
  have known (report : ScenarioReport) :
      events.foldl heard (some report) = some (events.foldl ScenarioReport.observe report) := by
    induction events generalizing report with
    | nil => rfl
    | cons event rest ih => exact ih (report.observe event)
  cases events with
  | nil => rfl
  | cons event rest =>
    rw [if_neg (by simp)]
    exact known _

/-- Each feature is reported as if its events had come alone, and each scenario as its own events
tell, one after another. Which scenario started last has no part in it. -/
theorem ofEvents_isolated {events : List RunEvent} (announced : RunEvent.Announced events) :
    (∀ feature : FeatureId,
      (ofEvents events).features.pair? feature =
        (ofEvents (events.filter (·.concerns feature))).features.pair? feature ∧
      (ofEvents events).feature? feature =
        (ofEvents (events.filter (·.concerns feature))).feature? feature) ∧
    (∀ id : ScenarioId, (ofEvents events).scenario? id =
      if events.filterMap (·.told? id) = [] then none
      else some ((events.filterMap (·.told? id)).foldl ScenarioReport.observe {})) ∧
    (∀ others : List RunEvent, RunEvent.Announced others → ∀ id : ScenarioId,
      others.filterMap (·.told? id) = events.filterMap (·.told? id) →
      (ofEvents others).scenario? id = (ofEvents events).scenario? id) ∧
    ∀ current : Option ScenarioId,
      (events.foldl observe { current := current }).features = (ofEvents events).features := by
  have alone (feature : FeatureId) : (ofEvents events).features.pair? feature =
      (ofEvents (events.filter (·.concerns feature))).features.pair? feature := by
    unfold ofEvents
    rw [features_foldl announced, features_foldl (announced.filter feature), pair?_foldl_recorded,
      pair?_foldl_recorded, List.filter_filter]
    simp only [Bool.and_self]
  have told {events : List RunEvent} (announced : RunEvent.Announced events) (id : ScenarioId) :
      (ofEvents events).scenario? id = (events.filterMap (·.told? id)).foldl heard none := by
    show scenarioIn (events.foldl observe empty).features id = _
    rw [features_foldl announced, scenarioIn_foldl_recorded]
    rfl
  refine ⟨fun feature => ⟨alone feature, ?_⟩, fun id => ?_, fun others also id same => ?_,
    fun current => ?_⟩
  · exact congrArg (Option.map Prod.snd) (alone feature)
  · rw [told announced, foldl_heard]
  · rw [told also, told announced, same]
  · unfold ofEvents
    rw [features_foldl announced, features_foldl announced]
    rfl

/-- Two scenarios take turns. The one that fails leaves no trace in the report of the other. -/
theorem ofEvents_isolated_unpathed :
    ∃ (a b : ScenarioId) (step : Step) (events : List RunEvent), RunEvent.Announced events ∧
      a.feature.path = none ∧ b.feature.path = none ∧
      events = [.featureStarted a.feature, .featureStarted b.feature, .scenario a .started,
        .scenario b .started, .scenario a (.step step .started), .scenario b (.step step .started),
        .scenario a (.step step (.failed "no")), .scenario b (.step step .passed),
        .scenario a (.finished (.failed "no")), .scenario b (.finished .passed)] ∧
      (ofEvents events).scenario? a =
        some ⟨.failed, some "no", [⟨step.keyword, step.text, none, .failed, some "no"⟩]⟩ ∧
      (ofEvents events).scenario? b =
        some ⟨.passed, none, [⟨step.keyword, step.text, none, .passed, none⟩]⟩ := by
  obtain ⟨a, isA⟩ : ∃ a : ScenarioId, a = ⟨⟨"F", none⟩, "a"⟩ := ⟨_, rfl⟩
  obtain ⟨b, isB⟩ : ∃ b : ScenarioId, b = ⟨⟨"G", none⟩, "b"⟩ := ⟨_, rfl⟩
  obtain ⟨step, isStep⟩ : ∃ step : Step, step = ⟨.context, "x", none, none, none⟩ := ⟨_, rfl⟩
  have announced : RunEvent.Announced ([.featureStarted a.feature, .featureStarted b.feature] ++
      [.scenario a .started, .scenario b .started, .scenario a (.step step .started),
        .scenario b (.step step .started), .scenario a (.step step (.failed "no")),
        .scenario b (.step step .passed), .scenario a (.finished (.failed "no")),
        .scenario b (.finished .passed)]) := by
    refine RunEvent.announced_append (by simp [RunEvent.scenarioId?]) fun event member id carried => ?_
    have known : id = a ∨ id = b := by
      simp only [List.mem_cons, List.not_mem_nil, or_false] at member
      rcases member with rfl | rfl | rfl | rfl | rfl | rfl | rfl | rfl <;> cases carried <;> simp
    rcases known with rfl | rfl <;> exact ⟨_, by simp, BEq.refl _⟩
  obtain ⟨_, each, _⟩ := ofEvents_isolated announced
  refine ⟨a, b, step, _, announced, by rw [isA], by rw [isB], rfl, ?_, ?_⟩
  · rw [each a, isA, isB, isStep]
    rfl
  · rw [each b, isA, isB, isStep]
    rfl

end Report

end ScenarioRunner
