import ScenarioRunner.Proofs.Document.Settled

namespace ScenarioRunner

namespace LineRole

def header? : LineRole → Option Header
  | header kind _ => some kind
  | _ => none

@[simp] theorem header?_header (kind : Header) (title : String) :
    (LineRole.header kind title).header? = some kind := rfl

theorem eq_header_of_header? {role : LineRole} {kind : Header} (known : role.header? = some kind) :
    ∃ title, role = .header kind title := by
  cases role <;> cases known
  exact ⟨_, rfl⟩

/-- How many steps a line adds to the section it is in. -/
def newSteps : LineRole → Nat
  | step _ _ => 1
  | _ => 0

/-- The tags that wait for a header below the line. -/
def tagNames : LineRole → List String
  | tags names => names
  | _ => []

/-- The step that a line tells. -/
def step? (path : Option SourcePath) (number : Nat) : LineRole → Option Step
  | step keyword text => some { keyword, text, location := path.map (⟨·, number⟩) }
  | _ => none

theorem step?_eq_some {path : Option SourcePath} {number : Nat} {role : LineRole} {told : Step}
    (found : role.step? path number = some told) : ∃ keyword text, role = .step keyword text ∧
      told = { keyword, text, location := path.map (⟨·, number⟩) } := by
  cases role <;> cases found
  exact ⟨_, _, rfl, rfl⟩

theorem length_step? (path : Option SourcePath) (number : Nat) (role : LineRole) :
    (role.step? path number).toList.length = role.newSteps := by
  cases role <;> rfl

end LineRole

/-- The step as its own line tells it, before it gets a table or a doc string. -/
def Step.unattached (step : Step) : Step := { step with table := none, docString := none }

/-- The table as its header line tells it, without the rows below. -/
def ExampleTable.heading (table : ExampleTable) : ExampleTable := { table with headers := [], rows := [] }

theorem map_changeLast_of_same {α β : Type} {change : α → α} {f : α → β}
    (same : ∀ a, f (change a) = f a) (list : List α) : (changeLast change list).map f = list.map f := by
  have mapped : (changeLast change list).map f = changeLast id (list.map f) := map_changeLast same list
  rw [mapped, changeLast_eq_modify, List.modify_id]

namespace Section

/-- The section goes on with so many more steps. -/
inductive Continues (more : Nat) : Section → Section → Prop
  | start : Continues more .start .start
  | feature (before after : Bool) : Continues more (.feature before) (.feature after)
  | background {before after : List Step} : after.length = before.length + more →
      Continues more (.background before) (.background after)
  | scenario {before after : Scenario} : after.steps.length = before.steps.length + more →
      Continues more (.scenario before) (.scenario after)
  | outline {before after : ScenarioOutline} : after.steps.length = before.steps.length + more →
      Continues more (.outline before) (.outline after)
  | examples (outline : ScenarioOutline) (before after : ExampleTable) :
      Continues more (.examples outline before) (.examples outline after)

theorem continues_mapSteps {change : List Step → List Step} {more : Nat}
    (grows : ∀ steps, (change steps).length = steps.length + more) (current : Section) :
    current.Continues more (current.mapSteps change) := by
  cases current with
  | start => exact .start
  | feature describing => exact .feature _ _
  | background steps => exact .background (grows _)
  | scenario s => exact .scenario (grows _)
  | outline o => exact .outline (grows _)
  | examples o table => exact .examples _ _ _

theorem mapSteps_id (current : Section) : current.mapSteps id = current := by
  cases current <;> rfl

theorem eq_feature_of_mapSteps {change : List Step → List Step} {current : Section}
    {describing : Bool} (same : current.mapSteps change = .feature describing) :
    current = .feature describing := by
  cases current <;> cases same
  rfl

/-- What a line that opens no section can do to the one it is in, where it adds these steps. -/
inductive Grows (added : List Step) : Section → Section → Prop
  | steps {change : List Step → List Step} (current : Section) :
      (∀ steps, (change steps).map Step.unattached =
        steps.map Step.unattached ++ added.map Step.unattached) →
      Grows added current (current.mapSteps change)
  | description (before after : Bool) : Grows added (.feature before) (.feature after)
  | row (outline : ScenarioOutline) {before after : ExampleTable} :
      after.heading = before.heading →
      Grows added (.examples outline before) (.examples outline after)

theorem Grows.refl (current : Section) : current.Grows [] current := by
  have same : current.Grows [] (current.mapSteps id) :=
    .steps current fun _ => (List.append_nil _).symm
  rwa [mapSteps_id] at same

theorem Grows.continues {added : List Step} {current later : Section}
    (grows : current.Grows added later) : current.Continues added.length later := by
  cases grows with
  | steps current grows =>
    refine continues_mapSteps (fun steps => ?_) current
    have long := congrArg List.length (grows steps)
    rwa [List.length_append, List.length_map, List.length_map, List.length_map] at long
  | description before after => exact .feature before after
  | row outline same => exact .examples outline _ _

end Section

namespace Reader

/-- What is gathered goes to a step that is there already. -/
theorem exists_current_finishGathering (reader : Reader) : ∃ change : List Step → List Step,
    (∀ steps, (change steps).map Step.unattached = steps.map Step.unattached) ∧
      reader.finishGathering.current = reader.current.mapSteps change := by
  unfold finishGathering
  split
  · exact ⟨id, fun _ => rfl, reader.current.mapSteps_id.symm⟩
  · refine ⟨_, map_changeLast_of_same ?_, rfl⟩
    exact fun _ => rfl
  · refine ⟨_, map_changeLast_of_same ?_, rfl⟩
    exact fun _ => rfl

theorem grows_finishGathering (reader : Reader) :
    reader.current.Grows [] reader.finishGathering.current := by
  obtain ⟨change, same, current⟩ := reader.exists_current_finishGathering
  rw [current]
  exact .steps _ fun steps => (same steps).trans (List.append_nil _).symm

theorem continues_finishGathering (reader : Reader) :
    reader.current.Continues 0 reader.finishGathering.current :=
  reader.grows_finishGathering.continues

/-- What a line can do to a reader, where it opens no section, tells these steps, and has these tags. -/
structure Extends (reader : Reader) (added : List Step) (tags : List String) (later : Reader) :
    Prop where
  feature : ∃ description, later.feature = { reader.feature with description }
  current : reader.current.Grows added later.current
  pendingTags : later.pendingTags = reader.pendingTags ++ tags

/-- A reader that only goes on gathering. -/
theorem Extends.of_same {reader later : Reader} (feature : later.feature = reader.feature)
    (current : later.current = reader.current) (pendingTags : later.pendingTags = reader.pendingTags) :
    reader.Extends [] [] later :=
  ⟨⟨_, feature⟩, current ▸ .refl _, pendingTags.trans (List.append_nil _).symm⟩

theorem extends_finishGathering (reader : Reader) : reader.Extends [] [] reader.finishGathering :=
  ⟨⟨_, reader.feature_finishGathering⟩, reader.grows_finishGathering,
    reader.pendingTags_finishGathering.trans (List.append_nil _).symm⟩

/-- Only headers end a section, only step lines add to its steps, and below the last header all a line
can tell the feature is its description. -/
theorem extends_act (reader : Reader) {role : LineRole} (plain : role.header? = none) (number : Nat) :
    reader.Extends (role.step? reader.path number).toList role.tagNames
      (reader.act number role) := by
  have settled := reader.extends_finishGathering
  cases role with
  | header header title => cases plain
  | docStringText line =>
    simp only [act, addDocLine]
    split <;> exact .of_same rfl rfl rfl
  | exampleRow cells =>
    simp only [act, addExampleRow]
    split
    · rename_i outline table current
      refine ⟨⟨_, rfl⟩, ?_, (List.append_nil _).symm⟩
      rw [current]
      refine .row _ ?_
      split <;> rfl
    · exact .of_same rfl rfl rfl
  | tableRow cells =>
    simp only [act, addTableRow]
    split <;> exact .of_same rfl rfl rfl
  | blank =>
    simp only [act]
    split
    · rename_i describing
      obtain ⟨change, _, current⟩ := reader.exists_current_finishGathering
      rw [describing] at current
      refine ⟨settled.feature, ?_, settled.pendingTags⟩
      rw [Section.eq_feature_of_mapSteps current.symm]
      exact .description true false
    · exact settled
  | tags names =>
    refine ⟨settled.feature, settled.current, ?_⟩
    exact congrArg (· ++ names) reader.pendingTags_finishGathering
  | step keyword text =>
    obtain ⟨change, same, current⟩ := reader.exists_current_finishGathering
    refine ⟨settled.feature, ?_, settled.pendingTags⟩
    simp only [act, addStep, current, Section.mapSteps_mapSteps]
    refine .steps _ fun steps => ?_
    rw [Function.comp_apply, List.map_append, same, path_finishGathering]
    rfl
  | description line =>
    refine ⟨?_, settled.current, settled.pendingTags⟩
    exact ⟨_, by rw [act, addDescription, feature_finishGathering]⟩
  | docStringStart mark mediaType =>
    exact ⟨settled.feature, settled.current, settled.pendingTags⟩
  | docStringEnd | comment | unrecognized line => exact settled

theorem continues_act (reader : Reader) {role : LineRole} (plain : role.header? = none)
    (number : Nat) : reader.current.Continues role.newSteps (reader.act number role).current := by
  rw [← role.length_step? reader.path number]
  exact (reader.extends_act plain number).current.continues

end Reader

end ScenarioRunner
