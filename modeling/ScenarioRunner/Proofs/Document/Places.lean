import ScenarioRunner.Proofs.Document.Continued
import ScenarioRunner.Proofs.Document.Mirrored

namespace ScenarioRunner

theorem modify_append_of_lt {α : Type} (change : α → α) {list : List α} {i : Nat}
    (inside : i < list.length) (more : List α) :
    (list ++ more).modify i change = list.modify i change ++ more := by
  have within := Nat.le_of_lt inside
  rw [List.modify_eq_take_drop, List.modify_eq_take_drop, List.take_append_of_le_length within,
    List.drop_append_of_le_length within]
  cases rest : list.drop i with
  | nil =>
    rw [List.drop_eq_nil_iff] at rest
    omega
  | cons a others => simp

/-- Which step of a feature is meant. All counts begin at zero. -/
inductive StepPlace where
  | background (step : Nat)
  | scenario (scenario step : Nat)
  | outline (outline step : Nat)
  deriving DecidableEq, Repr

namespace Feature

def step? (feature : Feature) : StepPlace → Option Step
  | .background i => feature.backgroundSteps[i]?
  | .scenario k i => feature.scenarios[k]?.bind fun s => s.steps[i]?
  | .outline k i => feature.outlines[k]?.bind fun o => o.steps[i]?

def modifyStep (change : Step → Step) (feature : Feature) : StepPlace → Feature
  | .background i => { feature with background := feature.background.map (·.modify i change) }
  | .scenario k i =>
    { feature with
      scenarios := feature.scenarios.modify k fun s => { s with steps := s.steps.modify i change } }
  | .outline k i =>
    { feature with
      outlines := feature.outlines.modify k fun o => { o with steps := o.steps.modify i change } }

theorem step?_modifyStep (change : Step → Step) (feature : Feature) (place : StepPlace) :
    (feature.modifyStep change place).step? place = (feature.step? place).map change := by
  cases place with
  | background i =>
    cases steps : feature.background <;> simp [step?, modifyStep, backgroundSteps, steps]
  | scenario k i => cases found : feature.scenarios[k]? <;> simp [step?, modifyStep, found]
  | outline k i => cases found : feature.outlines[k]? <;> simp [step?, modifyStep, found]

end Feature

namespace Section

/-- The steps in a section. An outline keeps them where its examples are read. -/
def held : Section → List Step
  | background steps => steps
  | scenario s => s.steps
  | outline o | examples o _ => o.steps
  | start | feature _ => []

def modifyStep (change : Step → Step) (i : Nat) : Section → Section
  | background steps => background (steps.modify i change)
  | scenario s => scenario { s with steps := s.steps.modify i change }
  | outline o => outline { o with steps := o.steps.modify i change }
  | examples o table => examples { o with steps := o.steps.modify i change } table
  | start => start
  | feature describing => feature describing

/-- Where in the feature a step of the section will be, given what the later lines are. Examples make
a scenario an outline, and another background takes the place of this one. -/
def place? (feature : Feature) (i : Nat) (later : List LineRole) : Section → Option StepPlace
  | background _ =>
    if later.any fun role => decide (role.header? = some .background) then none
    else some (.background i)
  | scenario _ =>
    if later.findSome? LineRole.header? = some .examples then
      some (.outline feature.outlines.length i)
    else some (.scenario feature.scenarios.length i)
  | outline _ | examples _ _ => some (.outline feature.outlines.length i)
  | start | Section.feature _ => none

theorem Continues.place?_eq {current later : Section} {more : Nat}
    (continues : current.Continues more later) (feature : Feature) (description : Option String)
    (i : Nat) (roles : List LineRole) :
    later.place? { feature with description } i roles = current.place? feature i roles := by
  cases continues <;> rfl

theorem held_modifyStep (change : Step → Step) (i : Nat) (current : Section) :
    (current.modifyStep change i).held = current.held.modify i change := by
  cases current <;> simp [modifyStep, held]

theorem setting_modifyStep (change : Step → Step) (i : Nat) (current : Section) :
    (current.modifyStep change i).setting = current.setting := by
  have keep (steps : List Step) : (steps.modify i change).isEmpty = steps.isEmpty := by
    cases steps <;> cases i <;> rfl
  cases current with
  | start | feature describing | examples o table => rfl
  | background steps | scenario s | outline o =>
    exact congrArg (Setting.mk · false false) (congrArg (!·) (keep _))

theorem step?_addTo {current : Section} {feature : Feature} {i : Nat} {place : StepPlace}
    (goes : current.place? feature i [] = some place) :
    (current.addTo feature).step? place = current.held[i]? := by
  cases current <;> cases goes <;> simp [addTo, Feature.step?, Feature.backgroundSteps, held]

theorem addTo_modifyStep (change : Step → Step) {current : Section} {feature : Feature} {i : Nat}
    {place : StepPlace} (goes : current.place? feature i [] = some place) :
    (current.modifyStep change i).addTo feature =
      (current.addTo feature).modifyStep change place := by
  cases current <;> cases goes <;>
    simp [addTo, Feature.modifyStep, modifyStep, modify_concat_length]

theorem relocated_id (current : Section) : current.relocated id = current := by
  have same : Step.relocated id = id := rfl
  cases current <;>
    simp [relocated, Scenario.relocated, ScenarioOutline.relocated, same]

/-- Whether the section is a background, which will take the place of any other. -/
def isBackground : Section → Bool
  | background _ => true
  | _ => false

theorem Continues.isBackground_eq {current later : Section} {more : Nat}
    (continues : current.Continues more later) : later.isBackground = current.isBackground := by
  cases continues <;> rfl

theorem isSome_background_addTo (feature : Feature) (current : Section) :
    (current.addTo feature).background.isSome =
      (feature.background.isSome || current.isBackground) := by
  cases current <;> simp [addTo, isBackground]

end Section

namespace Reader

/-- The feature will have a background even if no more lines follow. -/
def hasBackground (reader : Reader) : Bool :=
  reader.feature.background.isSome || reader.current.isBackground

theorem hasBackground_finishGathering (reader : Reader) :
    reader.finishGathering.hasBackground = reader.hasBackground := by
  rw [hasBackground, feature_finishGathering, reader.continues_finishGathering.isBackground_eq,
    hasBackground]

theorem isSome_background_closeSection (reader : Reader) :
    reader.closeSection.feature.background.isSome = reader.hasBackground := by
  rw [closeSection_eq, Section.isSome_background_addTo]
  exact reader.hasBackground_finishGathering

theorem hasBackground_openSection (reader : Reader) (header : Header) (title : String) :
    (reader.openSection header title).hasBackground =
      (reader.hasBackground || decide (header = .background)) := by
  have closed := reader.isSome_background_closeSection
  cases header with
  | examples =>
    have settled := reader.hasBackground_finishGathering
    simp only [openSection, openExamples]
    cases outline : reader.finishGathering.current.outline? with
    | none => simpa [hasBackground, Section.isBackground, closeSection_finishGathering] using closed
    | some found =>
      have plain : reader.finishGathering.current.isBackground = false := by
        cases current : reader.finishGathering.current <;>
          simp_all [Section.outline?, Section.isBackground]
      rw [hasBackground, plain] at settled
      simpa [hasBackground, Section.isBackground] using settled
  | background => simp [openSection, hasBackground, Section.isBackground]
  | feature | scenario | outline =>
    simpa [openSection, hasBackground, Section.isBackground] using closed

theorem hasBackground_act (reader : Reader) (number : Nat) (role : LineRole) :
    (reader.act number role).hasBackground =
      (reader.hasBackground || decide (role.header? = some .background)) := by
  cases kind : role.header? with
  | some header =>
    obtain ⟨title, rfl⟩ := LineRole.eq_header_of_header? kind
    rw [act_header, hasBackground_openSection]
    simp
  | none =>
    obtain ⟨description, feature⟩ := (reader.extends_act kind number).feature
    have current := (reader.continues_act kind number).isBackground_eq
    simp [hasBackground, feature, current]

theorem hasBackground_readLines (reader : Reader) (number : Nat) (lines : List (List Char)) :
    (reader.readLines number lines).hasBackground =
      (reader.hasBackground ||
        (reader.roles number lines).any fun role => decide (role.header? = some .background)) := by
  induction lines generalizing reader number with
  | nil => simp [readLines, roles]
  | cons line rest ih =>
    rw [readLines, ih, read, hasBackground_act, roles, List.any_cons, Bool.or_assoc, read]

/-- Readers that differ in what the document said before read the same lines alike. -/
theorem finish_readLines_alike {alike : Feature → Feature → Prop} (keeps : Relation id alike)
    (reader : Reader) {feature : Feature} (before : alike reader.feature feature) (number : Nat)
    (lines : List (List Char)) :
    alike (reader.readLines number lines).finish
        ({ reader with feature }.readLines number lines).finish ∧
      { reader with feature }.roles number lines = reader.roles number lines := by
  have mirrors : Mirrors id id alike reader { reader with feature } :=
    ⟨before, reader.current.relocated_id.symm, rfl, rfl, fun _ => rfl⟩
  exact ⟨(mirrors.readLines_renumbered keeps fun _ _ => rfl).finish keeps,
    mirrors.roles keeps fun _ _ => rfl⟩

/-- Scenarios and outlines, once told, stay where they are. -/
theorem relation_modifyStep (change : Step → Step) (step : Step) {place : StepPlace}
    (stays : ∀ i, place ≠ .background i) :
    Relation id fun f g => f.step? place = some step ∧ g = f.modifyStep change place where
  addTo := by
    rintro f _ current ⟨told, rfl⟩
    rw [Section.relocated_id]
    cases place with
    | background i => exact absurd rfl (stays i)
    | scenario k i =>
      obtain ⟨s, known, found⟩ := Option.bind_eq_some_iff.mp told
      obtain ⟨inside, _⟩ := List.getElem?_eq_some_iff.mp known
      cases current <;>
        simp [Section.addTo, Feature.modifyStep, Feature.step?, modify_append_of_lt _ inside,
          List.getElem?_append_left inside, known, found]
    | outline k i =>
      obtain ⟨o, known, found⟩ := Option.bind_eq_some_iff.mp told
      obtain ⟨inside, _⟩ := List.getElem?_eq_some_iff.mp known
      cases current <;>
        simp [Section.addTo, Feature.modifyStep, Feature.step?, modify_append_of_lt _ inside,
          List.getElem?_append_left inside, known, found]
  header := by
    rintro f _ title tags ⟨told, rfl⟩
    cases place <;> exact ⟨told, rfl⟩
  description := by
    rintro a b line ⟨told, same⟩
    cases place <;> simp_all [addDescription, Feature.modifyStep, Feature.step?]

/-- The background that was told before counts unless another one follows. -/
theorem relation_background (steps : Option (List Step)) :
    Relation id fun f g : Feature => g = { f with background := f.background.or steps } where
  addTo := by
    rintro f _ current rfl
    rw [Section.relocated_id]
    cases current <;> simp [Section.addTo]
  header := by
    rintro f _ title tags rfl
    rfl
  description := by
    rintro a b line same
    simp [addDescription, same]

/-- The section that is open and those that the lines open bring no background. -/
def keepsBackground (reader : Reader) (later : List LineRole) : Bool :=
  !reader.current.isBackground && later.all fun role => decide (role.header? ≠ some .background)

theorem finish_readLines_background (reader : Reader) (steps : Option (List Step)) (number : Nat)
    (lines : List (List Char)) :
    ({ reader with feature := { reader.feature with background := steps } }.readLines number
        lines).finish =
      if reader.keepsBackground (reader.roles number lines) then
        { (reader.readLines number lines).finish with background := steps }
      else (reader.readLines number lines).finish := by
  let bare : Reader := { reader with feature := { reader.feature with background := none } }
  have read (told : Option (List Step)) :=
    finish_readLines_alike (relation_background told) bare rfl number lines
  obtain ⟨given, _⟩ := read steps
  obtain ⟨own, roles⟩ := read reader.feature.background
  change (reader.readLines number lines).finish = _ at own
  change reader.roles number lines = _ at roles
  have later : (bare.readLines number lines).finish.background.isSome =
      !reader.keepsBackground (reader.roles number lines) := by
    rw [finish, isSome_background_closeSection, hasBackground_readLines, roles, keepsBackground]
    simp [bare, hasBackground, List.any_eq_not_all_not]
  rw [own]
  refine given.trans ?_
  cases keeps : reader.keepsBackground (reader.roles number lines) with
  | false =>
    rw [keeps, Bool.not_false, Option.isSome_iff_exists] at later
    obtain ⟨found, later⟩ := later
    simp [later]
  | true =>
    rw [keeps, Bool.not_true, Option.isSome_eq_false_iff, Option.isNone_iff_eq_none] at later
    simp [later]

/-- Whether the step stays where the feature was told to have it. -/
def keepsStep (reader : Reader) (later : List LineRole) : StepPlace → Bool
  | .background _ => reader.keepsBackground later
  | .scenario _ _ | .outline _ _ => true

/-- A step that was told lasts, and so does a change to it, or both are lost. -/
theorem finish_readLines_modifyStep {reader : Reader} {place : StepPlace} {step : Step}
    (told : reader.feature.step? place = some step) (change : Step → Step) (number : Nat)
    (lines : List (List Char)) :
    let changed := { reader with feature := reader.feature.modifyStep change place }
    if reader.keepsStep (reader.roles number lines) place then
      (reader.readLines number lines).finish.step? place = some step ∧
        (changed.readLines number lines).finish =
          (reader.readLines number lines).finish.modifyStep change place
    else (changed.readLines number lines).finish = (reader.readLines number lines).finish := by
  intro changed
  cases place with
  | scenario k i | outline k i =>
    rw [keepsStep, if_pos rfl]
    exact (finish_readLines_alike (relation_modifyStep change step (by simp)) reader ⟨told, rfl⟩ number
      lines).1
  | background i =>
    have own := finish_readLines_background reader reader.feature.background number lines
    have new := finish_readLines_background reader
      (reader.feature.background.map (·.modify i change)) number lines
    change (changed.readLines number lines).finish = _ at new
    change (reader.readLines number lines).finish = _ at own
    rw [new, keepsStep]
    split at own
    · rename_i keeps
      rw [if_pos keeps, if_pos keeps, own]
      exact ⟨told, rfl⟩
    · rename_i lost
      rw [if_neg lost, if_neg lost]

end Reader

end ScenarioRunner
