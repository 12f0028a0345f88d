import ScenarioRunner.Event

namespace ScenarioRunner

namespace FeatureId

theorem beq_iff {a b : FeatureId} : (a == b) = true ↔ a.key = b.key :=
  beq_iff_eq (a := a.key) (b := b.key)

instance : EquivBEq FeatureId where
  rfl := beq_iff.mpr rfl
  symm := fun same => beq_iff.mpr (beq_iff.mp same).symm
  trans := fun one two => beq_iff.mpr ((beq_iff.mp one).trans (beq_iff.mp two))

end FeatureId

/-- No two of the features have the same identity. -/
def DistinctFeatures (features : List Feature) : Prop :=
  features.Pairwise fun a b => ¬ (FeatureId.ofFeature a == FeatureId.ofFeature b) = true

namespace ScenarioId

theorem beq_iff {a b : ScenarioId} :
    (a == b) = true ↔ (a.feature == b.feature) = true ∧ a.scenario = b.scenario := by
  show (a.feature == b.feature && a.scenario == b.scenario) = true ↔ _
  rw [Bool.and_eq_true, beq_iff_eq (a := a.scenario)]

instance : EquivBEq ScenarioId where
  rfl := beq_iff.mpr ⟨BEq.refl _, rfl⟩
  symm := fun same => beq_iff.mpr ⟨BEq.symm (beq_iff.mp same).1, (beq_iff.mp same).2.symm⟩
  trans := fun one two => beq_iff.mpr ⟨PartialEquivBEq.trans (beq_iff.mp one).1 (beq_iff.mp two).1,
    (beq_iff.mp one).2.trans (beq_iff.mp two).2⟩

end ScenarioId

namespace RunEvent

/-- The feature that an event carries. -/
def featureId? : RunEvent → Option FeatureId
  | started | finished => none
  | featureStarted id | featureFinished id => some id
  | scenario id _ => some id.feature

def concerns (event : RunEvent) (feature : FeatureId) : Bool := event.featureId?.any (· == feature)

/-- What an event tells about a scenario. -/
def told? (id : ScenarioId) : RunEvent → Option ScenarioEvent
  | scenario other event => if other == id then some event else none
  | _ => none

/-- Does the event mark the start of the feature, or its end? -/
def mark? (feature : FeatureId) : RunEvent → Option Bool
  | featureStarted id => if id == feature then some true else none
  | featureFinished id => if id == feature then some false else none
  | _ => none

theorem filterMap_told? (told : List ScenarioEvent) (id other : ScenarioId) :
    (told.map (scenario other)).filterMap (·.told? id) = if other == id then told else [] := by
  rw [List.filterMap_map]
  by_cases same : (other == id) = true
  · rw [if_pos same]
    have each : (fun event => (scenario other event).told? id) = some := by
      funext event
      exact if_pos same
    exact (congrArg (List.filterMap · told) each).trans List.filterMap_some
  · rw [if_neg same]
    exact List.filterMap_eq_nil_iff.mpr fun event _ => if_neg same

/-- Features without a path were started before their scenarios have events. -/
def Announced (events : List RunEvent) : Prop :=
  ∀ before id event after, events = before ++ scenario id event :: after →
    id.feature.path = none → ∃ feature, featureStarted feature ∈ before ∧
      (feature == id.feature) = true

/-- Each feature starts before its scenarios have events, and ends after them. -/
def Enclosed (events : List RunEvent) : Prop :=
  ∀ before id told after, events = before ++ scenario id told :: after →
    featureStarted id.feature ∈ before ∧ featureFinished id.feature ∈ after

theorem enclosed_nil : Enclosed [] := by
  intro before id told after whole
  simp at whole

theorem Enclosed.announced {events : List RunEvent} (enclosed : Enclosed events) :
    Announced events := by
  intro before id told after whole _
  exact ⟨id.feature, (enclosed before id told after whole).1, BEq.refl _⟩

/-- Between two events, scenarios are enclosed by these or by others among which they stand. -/
theorem enclosed_between {first last : RunEvent} {middle : List RunEvent}
    (start : first.scenarioId? = none) (stop : last.scenarioId? = none)
    (inside : ∀ before id told after, middle = before ++ scenario id told :: after →
      (first = featureStarted id.feature ∧ last = featureFinished id.feature) ∨
        (featureStarted id.feature ∈ before ∧ featureFinished id.feature ∈ after)) :
    Enclosed (first :: (middle ++ [last])) := by
  intro before id told after whole
  cases before with
  | nil =>
    obtain ⟨rfl, _⟩ := List.cons.inj whole
    cases start
  | cons other before =>
    obtain ⟨rfl, rest⟩ := List.cons.inj whole
    rcases List.eq_nil_or_concat after with rfl | ⟨after, final, rfl⟩
    · obtain ⟨_, same⟩ := List.append_inj' rest rfl
      obtain ⟨rfl, _⟩ := List.cons.inj same
      cases stop
    · have split : middle ++ [last] = (before ++ scenario id told :: after) ++ [final] := by
        simpa using rest
      obtain ⟨own, same⟩ := List.append_inj' split rfl
      obtain ⟨rfl, _⟩ := List.cons.inj same
      rcases inside before id told after own with ⟨rfl, rfl⟩ | ⟨earlier, later⟩
      · exact ⟨List.mem_cons_self .., by simp⟩
      · exact ⟨List.mem_cons_of_mem _ earlier, by simp [later]⟩

theorem announced_concat_iff {events : List RunEvent} {last : RunEvent} :
    Announced (events ++ [last]) ↔ Announced events ∧
      ∀ id event, last = scenario id event → id.feature.path = none →
        ∃ feature, featureStarted feature ∈ events ∧ (feature == id.feature) = true := by
  constructor
  · intro announced
    refine ⟨fun before id event after whole => ?_, fun id event same => ?_⟩
    · exact announced before id event (after ++ [last]) (by rw [whole]; simp)
    · exact announced events id event [] (by rw [same])
  · rintro ⟨announced, ends⟩ before id event after whole
    rcases List.eq_nil_or_concat after with rfl | ⟨others, final, rfl⟩
    · obtain ⟨rfl, same⟩ := List.append_inj' whole rfl
      exact ends id event (List.cons.inj same).1
    · rw [List.concat_eq_append, ← List.cons_append, ← List.append_assoc] at whole
      obtain ⟨rfl, _⟩ := List.append_inj' whole rfl
      exact announced before id event others rfl

/-- All features may start before any of the scenarios has events. -/
theorem announced_append {starts told : List RunEvent}
    (silent : ∀ event ∈ starts, event.scenarioId? = none)
    (started : ∀ event ∈ told, ∀ id, event.scenarioId? = some id →
      ∃ feature, featureStarted feature ∈ starts ∧ (feature == id.feature) = true) :
    Announced (starts ++ told) := by
  intro before id event after whole _
  have inTold (later : List RunEvent) (split : told = later ++ scenario id event :: after) :
      ∃ feature, featureStarted feature ∈ starts ∧ (feature == id.feature) = true :=
    started (scenario id event) (by simp [split]) id rfl
  rcases List.append_eq_append_iff.mp whole with ⟨earlier, rfl, split⟩ | ⟨later, rfl, split⟩
  · obtain ⟨feature, inside, same⟩ := inTold earlier split
    exact ⟨feature, List.mem_append_left _ inside, same⟩
  · cases later with
    | nil => simpa using inTold [] split.symm
    | cons first others =>
      cases (List.cons.inj split).1
      cases silent (scenario id event) (by simp)

/-- The announcements of a feature are among its own events. -/
theorem Announced.filter {events : List RunEvent} (announced : Announced events)
    (feature : FeatureId) : Announced (events.filter (·.concerns feature)) := by
  intro before id event after whole pathless
  obtain ⟨first, rest, split, kept, later⟩ := List.filter_eq_append_iff.mp whole
  obtain ⟨skipped, tail, split', none, here, _⟩ := List.filter_eq_cons_iff.mp later
  rw [split', ← List.append_assoc] at split
  obtain ⟨started, member, same⟩ := announced _ id event tail split pathless
  refine ⟨started, ?_, same⟩
  have concerned : (featureStarted started).concerns feature = true := by
    have own : (id.feature == feature) = true := here
    exact PartialEquivBEq.trans same own
  rcases List.mem_append.mp member with inFirst | inSkipped
  · rw [← kept]
    exact List.mem_filter.mpr ⟨inFirst, concerned⟩
  · exact absurd concerned (none _ inSkipped)

end RunEvent

end ScenarioRunner
