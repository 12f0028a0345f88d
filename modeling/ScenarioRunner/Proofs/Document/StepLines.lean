import Mathlib.Data.List.Perm.Subperm
import ScenarioRunner.Proofs.Document.Documented
import ScenarioRunner.Proofs.Document.Opened

namespace ScenarioRunner

/-- All steps of a document. -/
def Feature.steps (feature : Feature) : List Step :=
  feature.backgroundSteps ++ feature.scenarios.flatMap (·.steps) ++
    feature.outlines.flatMap (·.steps)

/-- The steps that lines tell, in the order of the lines. -/
def stepLines (path : Option SourcePath) (number : Nat) : List LineRole → List Step
  | [] => []
  | role :: later => (role.step? path number).toList ++ stepLines path (number + 1) later

/-- Ways in which a list can be part of another. -/
structure IsPart (part : List Step → List Step → Prop) : Prop where
  of_sublist : ∀ {few many : List Step}, few.Sublist many → part few many
  trans : ∀ {few more many : List Step}, part few more → part more many → part few many
  append : ∀ {few many : List Step}, part few many → ∀ added, part (few ++ added) (many ++ added)
  map : ∀ {few many : List Step}, part few many → ∀ change, part (few.map change) (many.map change)

theorem IsPart.of_eq {part : List Step → List Step → Prop} (isPart : IsPart part) {few many : List Step}
    (same : few = many) : part few many := isPart.of_sublist (same ▸ List.Sublist.refl many)

theorem isPart_sublist : IsPart List.Sublist where
  of_sublist := id
  trans := List.Sublist.trans
  append := fun part added => part.append_right added
  map := fun part change => part.map change

theorem isPart_subperm : IsPart List.Subperm where
  of_sublist := List.Sublist.subperm
  trans := List.Subperm.trans
  append := fun part added => (List.subperm_append_right added).mpr part
  map := fun ⟨list, same, part⟩ change => ⟨list.map change, same.map change, part.map change⟩

/-- Ways to collect steps from what a document tells, so that closing a section puts no step in twice,
and for sublists none before an earlier one. -/
structure Selects (part : List Step → List Step → Prop) (collect : Feature → List Step) : Prop where
  empty : ∀ (name : String) (path : Option SourcePath), collect { name, path } = []
  addTo : ∀ (current : Section) (feature : Feature),
    part (collect (current.addTo feature)) (collect feature ++ current.held)
  congr : ∀ {f g : Feature}, f.background = g.background → f.scenarios = g.scenarios →
    f.outlines = g.outlines → collect f = collect g

theorem selects_background : Selects List.Sublist Feature.backgroundSteps where
  empty _ _ := rfl
  addTo current feature := by
    cases current with
    | background steps => exact List.sublist_append_right _ _
    | start | feature describing | scenario s | outline o | examples o table =>
      exact List.sublist_append_left _ _
  congr background _ _ := by rw [Feature.backgroundSteps, background, Feature.backgroundSteps]

theorem selects_scenarios :
    Selects List.Sublist fun feature => feature.scenarios.flatMap (·.steps) where
  empty _ _ := rfl
  addTo current feature := by
    cases current with
    | scenario s => simp [Section.addTo, Section.held]
    | start | feature describing | background steps | outline o | examples o table =>
      exact List.sublist_append_left _ _
  congr _ scenarios _ := by rw [scenarios]

theorem selects_outlines :
    Selects List.Sublist fun feature => feature.outlines.flatMap (·.steps) where
  empty _ _ := rfl
  addTo current feature := by
    cases current with
    | outline o | examples o table => simp [Section.addTo, Section.held]
    | start | feature describing | background steps | scenario s =>
      exact List.sublist_append_left _ _
  congr _ _ outlines := by rw [outlines]

/-- Scenarios and outlines take turns in a document, so all steps together lose their order. -/
theorem selects_steps : Selects List.Subperm Feature.steps where
  empty _ _ := rfl
  addTo current feature := by
    cases current with
    | start | feature describing => exact (List.sublist_append_left _ _).subperm
    | background steps =>
      have moved : (Feature.steps { feature with background := some steps }).Perm
          (feature.scenarios.flatMap (·.steps) ++ feature.outlines.flatMap (·.steps) ++ steps) := by
        rw [Feature.steps, List.append_assoc]
        exact List.perm_append_comm
      refine moved.subperm.trans (List.Sublist.subperm (List.Sublist.append_right ?_ steps))
      rw [Feature.steps, List.append_assoc]
      exact List.sublist_append_right _ _
    | scenario s =>
      refine List.Perm.subperm ?_
      simp only [Section.addTo, Section.held, Feature.steps, List.flatMap_append,
        List.flatMap_singleton, List.append_assoc]
      exact (List.perm_append_comm.append_left _).append_left _
    | outline o | examples o table =>
      refine List.Perm.subperm (List.Perm.of_eq ?_)
      simp [Section.addTo, Section.held, Feature.steps, Feature.backgroundSteps]
  congr background scenarios outlines := by
    rw [Feature.steps, Feature.backgroundSteps, background, scenarios, outlines, Feature.steps,
      Feature.backgroundSteps]

theorem Section.Grows.map_unattached_held {current later : Section} (grows : current.Grows [] later) :
    later.held.map Step.unattached = current.held.map Step.unattached := by
  cases grows with
  | steps current same =>
    cases current with
    | start | feature describing | examples o table => rfl
    | background steps | scenario s | outline o => exact (same _).trans (List.append_nil _)
  | description before after => rfl
  | row outline same => rfl

namespace Reader

variable {part : List Step → List Step → Prop} {collect : Feature → List Step}

/-- What is collected from the feature so far, and behind it the steps of the section that is open. -/
def collected (collect : Feature → List Step) (reader : Reader) : List Step :=
  (collect reader.feature ++ reader.current.held).map Step.unattached

theorem collected_finishGathering (reader : Reader) :
    reader.finishGathering.collected collect = reader.collected collect := by
  rw [collected, List.map_append, reader.grows_finishGathering.map_unattached_held,
    feature_finishGathering, ← List.map_append, collected]

theorem held_closeSection (reader : Reader) : reader.closeSection.current.held = [] := by
  rw [closeSection_eq]
  rfl

theorem collected_closeSection (isPart : IsPart part) (selects : Selects part collect)
    (reader : Reader) : part (reader.closeSection.collected collect) (reader.collected collect) := by
  rw [← reader.collected_finishGathering, collected, held_closeSection, List.append_nil,
    closeSection_eq]
  exact isPart.map (selects.addTo _ _) Step.unattached

theorem collected_congr (selects : Selects part collect) {a b : Reader}
    (background : a.feature.background = b.feature.background)
    (scenarios : a.feature.scenarios = b.feature.scenarios)
    (outlines : a.feature.outlines = b.feature.outlines)
    (held : a.current.held.map Step.unattached = b.current.held.map Step.unattached) :
    a.collected collect = b.collected collect := by
  rw [collected, collected, List.map_append, List.map_append,
    selects.congr background scenarios outlines, held]

theorem Opens.held_eq {reader opened : Reader} {header : Header} {title : String}
    (opens : reader.Opens header title opened) : opened.current.held = [] := by
  rw [opens.current]
  cases header <;> rfl

theorem collected_openSection (isPart : IsPart part) (selects : Selects part collect)
    (reader : Reader) (header : Header) (title : String) :
    part ((reader.openSection header title).collected collect) (reader.collected collect) := by
  rcases reader.openSection_cases header title with ⟨outline, rfl, known, opened⟩ | ⟨_, opens⟩
  · have held := (Section.held_of_outline? known).symm
    rw [opened, ← reader.collected_finishGathering]
    exact isPart.of_eq (collected_congr selects rfl rfl rfl (congrArg _ held))
  · have held := opens.held_eq.trans reader.held_closeSection.symm
    rw [collected_congr selects opens.background opens.scenarios opens.outlines (congrArg _ held)]
    exact reader.collected_closeSection isPart selects

/-- A step line outside of scenarios and backgrounds is passed over, so its step may be missing. -/
theorem collected_addStep (isPart : IsPart part) (reader : Reader) (number : Nat)
    (keyword : StepKeyword) (text : String) :
    part ((reader.addStep number keyword text).collected collect)
      (reader.collected collect ++
        ((LineRole.step keyword text).step? reader.path number).toList) := by
  simp only [addStep, collected]
  cases reader.current with
  | start | feature describing | examples o table =>
    exact isPart.of_sublist (List.sublist_append_left _ _)
  | background steps | scenario s | outline o =>
    refine isPart.of_eq ?_
    simp [Section.mapSteps, Section.held, LineRole.step?, Step.unattached]

theorem collected_quiet (selects : Selects part collect) (reader : Reader) {role : LineRole}
    (plain : role.header? = none) (number : Nat) (quiet : role.step? reader.path number = none) :
    (reader.act number role).collected collect = reader.collected collect := by
  obtain ⟨⟨description, feature⟩, grows, _⟩ := reader.extends_act plain number
  rw [quiet] at grows
  have held := grows.map_unattached_held
  exact collected_congr selects (by rw [feature]) (by rw [feature]) (by rw [feature]) held

/-- A line adds its own step to the steps that were read, at the end, or no step. -/
theorem collected_act (isPart : IsPart part) (selects : Selects part collect) (reader : Reader)
    (number : Nat) (role : LineRole) :
    part ((reader.act number role).collected collect)
      (reader.collected collect ++ (role.step? reader.path number).toList) := by
  have settled : reader.finishGathering.collected collect = reader.collected collect :=
    reader.collected_finishGathering
  cases role with
  | step keyword text =>
    rw [act, ← settled, ← path_finishGathering]
    exact collected_addStep isPart _ number keyword text
  | header header title =>
    show part _ (reader.collected collect ++ [])
    rw [act_header, List.append_nil]
    exact reader.collected_openSection isPart selects header title
  | docStringStart mark mediaType | docStringText line | docStringEnd | exampleRow cells
  | tableRow cells | blank | comment | tags names | description line | unrecognized line =>
    show part _ (reader.collected collect ++ [])
    rw [List.append_nil]
    exact isPart.of_eq (reader.collected_quiet selects rfl number rfl)

theorem collected_readLines (isPart : IsPart part) (selects : Selects part collect) (reader : Reader)
    (number : Nat) (lines : List (List Char)) :
    part ((reader.readLines number lines).collected collect)
      (reader.collected collect ++ stepLines reader.path number (reader.roles number lines)) := by
  induction lines generalizing reader number with
  | nil => exact isPart.of_eq (List.append_nil _).symm
  | cons line rest ih =>
    have here := isPart.append (reader.collected_act isPart selects number (reader.role line))
      (stepLines reader.path (number + 1) ((reader.read number line).roles (number + 1) rest))
    have later := ih (reader.read number line) (number + 1)
    rw [read, path_act] at later
    rw [List.append_assoc] at here
    exact isPart.trans later here

end Reader

/-- The steps of a document are steps that its lines tell. -/
theorem collect_readFeature {part : List Step → List Step → Prop} {collect : Feature → List Step}
    (isPart : IsPart part) (selects : Selects part collect) (path : Option SourcePath) (text : String) :
    part ((collect (readFeature path text)).map Step.unattached)
      (stepLines path 1 ((Reader.start path).roles 1 (linesOf text.toList))) := by
  have read := (Reader.start path).collected_readLines isPart selects 1 (linesOf text.toList)
  have closed := ((Reader.start path).readLines 1 (linesOf text.toList)).collected_closeSection isPart
    selects
  have nothing : (Reader.start path).collected collect = [] := by
    rw [Reader.collected, Reader.start, selects.empty]
    rfl
  rw [nothing, List.nil_append] at read
  rw [Reader.collected, Reader.held_closeSection, List.append_nil] at closed
  exact isPart.trans closed read

end ScenarioRunner
