import ScenarioRunner.Proofs.Document.Places

namespace ScenarioRunner

def Step.documented (docString : DocString) (step : Step) : Step :=
  { step with docString := some docString }

/-- The feature as if the step at the place, if there is one, had the doc string. -/
def Feature.documented (docString : DocString) (feature : Feature) : Option StepPlace → Feature
  | none => feature
  | some place => feature.modifyStep (Step.documented docString) place

/-- The step apart from its table, which it may get after its doc string. -/
def Step.untabled (step : Step) : Step := { step with table := none }

theorem changeLast_modify_comm {α : Type} {change next : α → α} {i : Nat} {list : List α}
    (comm : next ∘ change = change ∘ next ∨ list.length ≠ i + 1) :
    changeLast next (list.modify i change) = (changeLast next list).modify i change := by
  rw [changeLast_eq_modify, changeLast_eq_modify, List.length_modify]
  by_cases last : i = list.length - 1
  · subst last
    rcases comm with comm | other
    · rw [List.modify_modify_eq, List.modify_modify_eq, comm]
    · have empty : list = [] := List.eq_nil_of_length_eq_zero (by omega)
      simp [empty]
  · exact List.modify_modify_ne change next list last

theorem changeLast_modify_of_absorbs {α : Type} {change next : α → α}
    (absorbs : next ∘ change = next) {i : Nat} {list : List α} (last : list.length = i + 1) :
    changeLast next (list.modify i change) = changeLast next list := by
  rw [changeLast_eq_modify, changeLast_eq_modify, List.length_modify, last, Nat.add_sub_cancel,
    List.modify_modify_eq, absorbs]

namespace Section

/-- The step is the one that gets what is gathered. -/
def endsWith (current : Section) (i : Nat) : Bool :=
  current.steps?.any fun steps => steps.length == i + 1

theorem mapSteps_modifyStep {change : Step → Step} {next : List Step → List Step} {i : Nat}
    {current : Section}
    (comm : ∀ steps ∈ current.steps?, next (steps.modify i change) = (next steps).modify i change) :
    (current.modifyStep change i).mapSteps next = (current.mapSteps next).modifyStep change i := by
  cases current with
  | start | feature describing | examples o table => rfl
  | background steps | scenario s | outline o => simp [modifyStep, mapSteps, comm _ rfl]

theorem mapSteps_modifyStep_of_absorbs {change : Step → Step} {next : List Step → List Step}
    {i : Nat} {current : Section} (last : current.endsWith i = true)
    (absorbs : ∀ steps : List Step, steps.length = i + 1 →
      next (steps.modify i change) = next steps) :
    (current.modifyStep change i).mapSteps next = current.mapSteps next := by
  cases current with
  | start | feature describing | examples o table => cases last
  | background steps | scenario s | outline o =>
    simp [modifyStep, mapSteps, absorbs _ (by simpa [endsWith, steps?] using last)]

theorem mapSteps_changeLast {current : Section} {i : Nat} (last : current.endsWith i = true)
    (change : Step → Step) : current.mapSteps (changeLast change) = current.modifyStep change i := by
  cases current with
  | start | feature describing | examples o table => cases last
  | background steps | scenario s | outline o =>
    have long := by simpa [endsWith, steps?] using last
    simp [mapSteps, modifyStep, changeLast_eq_modify, long]

theorem exists_last_of_hasStep {current : Section} (step : current.setting.hasStep = true) :
    ∃ last, current.held.getLast? = some last ∧
      current.held[current.held.length - 1]? = some last ∧
      current.endsWith (current.held.length - 1) = true := by
  have filled : current.held ≠ [] ∧ current.steps? = some current.held := by
    cases current <;> simp_all [setting, hasStep, steps?, held]
  obtain ⟨nonempty, known⟩ := filled
  refine ⟨current.held.getLast nonempty, List.getLast?_eq_some_getLast nonempty, ?_, ?_⟩
  · rw [← List.getLast?_eq_getElem?, List.getLast?_eq_some_getLast nonempty]
  · have long : current.held.length = current.held.length - 1 + 1 := by
      have positive := List.length_pos_iff.mpr nonempty
      omega
    simp [endsWith, known, ← long]

theorem modifyStep_modifyStep (first second : Step → Step) (i : Nat) (current : Section) :
    (current.modifyStep first i).modifyStep second i = current.modifyStep (second ∘ first) i := by
  cases current <;> simp [modifyStep, List.modify_modify_eq]

theorem held_of_steps? {current : Section} {steps : List Step} (known : current.steps? = some steps) :
    current.held = steps := by
  cases current <;> cases known <;> rfl

theorem held_of_outline? {current : Section} {outline : ScenarioOutline}
    (known : current.outline? = some outline) : current.held = outline.steps := by
  cases current <;> cases known <;> rfl

theorem place?_of_outline? {current : Section} {outline : ScenarioOutline}
    (known : current.outline? = some outline) (feature : Feature) (i : Nat) (title : String)
    (later : List LineRole) :
    current.place? feature i (.header .examples title :: later) =
      some (.outline feature.outlines.length i) := by
  cases current <;> cases known <;> rfl

theorem Continues.endsWith_eq {current later : Section} (continues : current.Continues 0 later)
    (i : Nat) : later.endsWith i = current.endsWith i := by
  cases continues <;> simp_all [endsWith, steps?]

theorem Continues.endsWith_eq_false {current later : Section} (continues : current.Continues 1 later)
    {i : Nat} (inside : i < current.held.length) : later.endsWith i = false := by
  cases continues with
  | start | feature before after | examples outline before after => rfl
  | background long | scenario long | outline long =>
    simp only [held] at inside
    simp [endsWith, steps?, long]
    omega

theorem untabled_held_mapSteps {change : List Step → List Step} {current : Section} {i : Nat}
    (keep : ∀ steps ∈ current.steps?,
      ((change steps)[i]?).map Step.untabled = steps[i]?.map Step.untabled) :
    ((current.mapSteps change).held[i]?).map Step.untabled = current.held[i]?.map Step.untabled := by
  cases current with
  | start | feature describing | examples o table => rfl
  | background steps | scenario s | outline o => exact keep _ rfl

theorem place?_of_held {current : Section} {i : Nat} (feature : Feature)
    (inside : i < current.held.length) : ∃ place, current.place? feature i [] = some place := by
  cases current with
  | start | feature describing => cases inside
  | background steps | scenario s | outline o | examples o table => exact ⟨_, rfl⟩

theorem outline?_modifyStep (change : Step → Step) (i : Nat) (current : Section) :
    (current.modifyStep change i).outline? =
      current.outline?.map fun o => { o with steps := o.steps.modify i change } := by
  cases current <;> rfl

theorem modifyStep_eq_feature_iff {change : Step → Step} {i : Nat} {current : Section}
    {describing : Bool} :
    current.modifyStep change i = .feature describing ↔ current = .feature describing := by
  cases current <;> simp [modifyStep]

end Section

/-- Another doc string of the step that was last begins before the next step and the next section. -/
def redocumented : List LineRole → Bool
  | .docStringStart _ _ :: _ => true
  | .step _ _ :: _ | .header _ _ :: _ | [] => false
  | _ :: later => redocumented later

namespace Reader

variable (docString : DocString)

/-- The reader as if a step of the section it is in had the doc string. -/
def hold (i : Nat) (reader : Reader) : Reader :=
  { reader with current := reader.current.modifyStep (Step.documented docString) i }

variable {docString : DocString} {reader : Reader} {i : Nat}

theorem role_hold (raw : List Char) : (reader.hold docString i).role raw = reader.role raw :=
  role_congr (a := reader.hold docString i) (b := reader) rfl (Section.setting_modifyStep _ _ _) raw

/-- What is gathered for another step, and a table for the same one, go to their places. -/
theorem finishGathering_hold
    (free : reader.openMark? = none ∨ reader.current.endsWith i = false) :
    (reader.hold docString i).finishGathering = reader.finishGathering.hold docString i := by
  unfold finishGathering
  cases gathering : reader.gathering with
  | nothing => simp [hold, gathering]
  | table table =>
    simp only [hold, gathering]
    rw [Section.mapSteps_modifyStep]
    exact fun steps _ => changeLast_modify_comm (.inl rfl)
  | docString mark mediaType lines =>
    have other : reader.current.endsWith i = false := by simpa [openMark?, gathering] using free
    simp only [hold, gathering]
    rw [Section.mapSteps_modifyStep]
    intro steps known
    refine changeLast_modify_comm (.inr ?_)
    simpa [Section.endsWith, Option.mem_def.mp known] using other

theorem finishGathering_hold_of_overwritten {mark : DocMark} (inside : reader.openMark? = some mark)
    (last : reader.current.endsWith i = true) :
    (reader.hold docString i).finishGathering = reader.finishGathering := by
  unfold openMark? at inside
  unfold finishGathering
  cases gathering : reader.gathering with
  | nothing | table table => simp [gathering] at inside
  | docString mark mediaType lines =>
    simp only [hold, gathering]
    rw [Section.mapSteps_modifyStep_of_absorbs last]
    exact fun steps long => changeLast_modify_of_absorbs rfl long

theorem addDocLine_hold (line : List Char) :
    (reader.hold docString i).addDocLine line = (reader.addDocLine line).hold docString i := by
  unfold addDocLine
  cases gathering : reader.gathering <;> simp [hold, gathering]

theorem current_addDocLine (line : List Char) :
    (reader.addDocLine line).current = reader.current := by
  unfold addDocLine
  split <;> rfl

/-- A doc string that is being read leaves nothing of an earlier one of the same step. -/
theorem finish_readLines_of_overwritten {mark : DocMark} (inside : reader.openMark? = some mark)
    (last : reader.current.endsWith i = true) (number : Nat) (lines : List (List Char)) :
    ((reader.hold docString i).readLines number lines).finish =
      (reader.readLines number lines).finish := by
  induction lines generalizing reader number with
  | nil =>
    rw [readLines, readLines, finish, ← closeSection_finishGathering,
      finishGathering_hold_of_overwritten inside last, closeSection_finishGathering, finish]
  | cons line rest ih =>
    rw [readLines, readLines, read, read, role_hold, role_of_inside inside]
    split
    · rw [act, finishGathering_hold_of_overwritten inside last, act]
    · rw [act, addDocLine_hold, act]
      exact ih ((reader.openMark?_addDocLine line).trans inside) (by rwa [current_addDocLine]) _

/-- The section has the step, and no doc string that is being read is for it. -/
structure HoldsStep (reader : Reader) (i : Nat) (step : Step) : Prop where
  held : reader.current.held[i]?.map Step.untabled = some step
  free : reader.openMark? = none ∨ reader.current.endsWith i = false

variable {step : Step}

theorem HoldsStep.inside (holds : reader.HoldsStep i step) : i < reader.current.held.length := by
  obtain ⟨found, known, _⟩ := Option.map_eq_some_iff.mp holds.held
  exact (List.getElem?_eq_some_iff.mp known).1

theorem untabled_changeLast {change : Step → Step} {steps : List Step}
    (keep : (∀ step, (change step).untabled = step.untabled) ∨ steps.length ≠ i + 1) :
    (changeLast change steps)[i]?.map Step.untabled = steps[i]?.map Step.untabled := by
  rw [changeLast_eq_modify, List.getElem?_modify]
  cases known : steps[i]? with
  | none => rfl
  | some found =>
    have inside := (List.getElem?_eq_some_iff.mp known).1
    rcases keep with keep | other
    · simp only [Option.map_eq_map, Option.map_some]
      split <;> simp [keep]
    · have earlier : steps.length - 1 ≠ i := by omega
      simp [earlier]

theorem endsWith_finishGathering (reader : Reader) (i : Nat) :
    reader.finishGathering.current.endsWith i = reader.current.endsWith i :=
  reader.continues_finishGathering.endsWith_eq i

theorem HoldsStep.finishGathering (holds : reader.HoldsStep i step) :
    reader.finishGathering.HoldsStep i step where
  held := by
    rw [← holds.held]
    unfold Reader.finishGathering
    cases gathering : reader.gathering with
    | nothing => rfl
    | table table =>
      exact Section.untabled_held_mapSteps fun steps _ => untabled_changeLast (.inl fun _ => rfl)
    | docString mark mediaType lines =>
      have other : reader.current.endsWith i = false := by
        simpa [openMark?, gathering] using holds.free
      refine Section.untabled_held_mapSteps fun steps known => untabled_changeLast (.inr ?_)
      simpa [Section.endsWith, Option.mem_def.mp known] using other
  free := .inl (by simp [openMark?, gathering_finishGathering])

theorem act_hold (holds : reader.HoldsStep i step) {role : LineRole}
    (plain : role.header? = none) (number : Nat) :
    (reader.hold docString i).act number role = (reader.act number role).hold docString i := by
  have settled : (reader.hold docString i).finishGathering = reader.finishGathering.hold docString i :=
    finishGathering_hold holds.free
  cases role with
  | header header title => cases plain
  | docStringText line => exact addDocLine_hold line
  | exampleRow cells =>
    simp only [act, addExampleRow]
    cases current : reader.current <;> simp [hold, current, Section.modifyStep]
  | tableRow cells =>
    simp only [act, addTableRow]
    cases gathering : reader.gathering <;> simp [hold, gathering]
  | blank =>
    have same : (reader.finishGathering.hold docString i).current = .feature true ↔
        reader.finishGathering.current = .feature true := Section.modifyStep_eq_feature_iff
    simp only [act, settled, same]
    split
    · simp [hold, Section.modifyStep]
    · rfl
  | step keyword text =>
    simp only [act, settled]
    unfold addStep
    simp only [hold]
    rw [Section.mapSteps_modifyStep]
    intro steps known
    have inside := holds.finishGathering.inside
    rw [Section.held_of_steps? known] at inside
    exact (modify_append_of_lt _ inside _).symm
  | docStringStart mark mediaType | tags names | description line =>
    simp only [act, settled]
    rfl
  | docStringEnd | comment | unrecognized line => exact settled

/-- Where the feature will have the doc string of a step, if no other takes its place. -/
def documentedPlace? (reader : Reader) (i : Nat) (later : List LineRole) : Option StepPlace :=
  if reader.current.endsWith i && redocumented later then none
  else reader.current.place? reader.feature i later

theorem HoldsStep.act (holds : reader.HoldsStep i step) {role : LineRole}
    (plain : role.header? = none)
    (started : ∀ mark mediaType, role = .docStringStart mark mediaType →
      reader.current.endsWith i = false) (number : Nat) :
    (reader.act number role).HoldsStep i step := by
  have settled := holds.finishGathering
  cases role with
  | header header title => cases plain
  | docStringStart mark mediaType =>
    refine ⟨settled.held, .inr ?_⟩
    show reader.finishGathering.current.endsWith i = false
    rw [endsWith_finishGathering]
    exact started mark mediaType rfl
  | docStringText line =>
    exact ⟨by rw [Reader.act, current_addDocLine]; exact holds.held,
      by rw [Reader.act, openMark?_addDocLine, current_addDocLine]; exact holds.free⟩
  | exampleRow cells =>
    obtain ⟨held, free⟩ := holds
    simp only [Reader.act, addExampleRow]
    split
    · rename_i outline table current
      rw [current] at held
      exact ⟨held, .inr rfl⟩
    · exact ⟨held, free⟩
  | tableRow cells =>
    obtain ⟨held, free⟩ := holds
    simp only [Reader.act, addTableRow]
    split <;> exact ⟨held, .inl rfl⟩
  | blank =>
    simp only [Reader.act]
    split
    · rename_i describing
      have held := settled.held
      rw [describing] at held
      cases held
    · exact settled
  | step keyword text =>
    refine ⟨?_, .inl (by simp [Reader.act, addStep, openMark?, gathering_finishGathering])⟩
    simp only [Reader.act, addStep]
    rw [Section.untabled_held_mapSteps]
    · exact settled.held
    · intro steps known
      have inside := settled.inside
      rw [Section.held_of_steps? known] at inside
      rw [List.getElem?_append_left inside]
  | docStringEnd | comment | tags names | description line | unrecognized line =>
    exact ⟨settled.held, settled.free⟩

theorem place?_finishGathering (reader : Reader) (i : Nat) (later : List LineRole) :
    reader.finishGathering.current.place? reader.finishGathering.feature i later =
      reader.current.place? reader.feature i later := by
  rw [feature_finishGathering]
  exact reader.continues_finishGathering.place?_eq reader.feature _ i later

theorem HoldsStep.closeSection (holds : reader.HoldsStep i step) (docString : DocString) :
    ∃ place, reader.current.place? reader.feature i [] = some place ∧
      (reader.closeSection.feature.step? place).map Step.untabled = some step ∧
      (reader.hold docString i).closeSection =
        { reader.closeSection with
          feature := reader.closeSection.feature.modifyStep (Step.documented docString) place } := by
  have settled := holds.finishGathering
  obtain ⟨place, goes⟩ := Section.place?_of_held reader.finishGathering.feature settled.inside
  refine ⟨place, ?_, ?_, ?_⟩
  · rw [← place?_finishGathering, goes]
  · rw [closeSection_eq, Section.step?_addTo goes, settled.held]
  · rw [closeSection_eq, closeSection_eq, finishGathering_hold holds.free]
    simp only [hold]
    rw [Section.addTo_modifyStep _ goes]

/-- A line that opens no section leaves the step where it is. -/
theorem documentedPlace?_act (holds : reader.HoldsStep i step) {role : LineRole}
    (plain : role.header? = none)
    (started : ∀ mark mediaType, role = .docStringStart mark mediaType →
      reader.current.endsWith i = false) (number : Nat) (later : List LineRole) :
    (reader.act number role).documentedPlace? i later =
      reader.documentedPlace? i (role :: later) := by
  have continues := reader.continues_act plain number
  have place : (reader.act number role).current.place? (reader.act number role).feature i later =
      reader.current.place? reader.feature i (role :: later) := by
    obtain ⟨description, feature⟩ := (reader.extends_act plain number).feature
    rw [feature, continues.place?_eq]
    cases reader.current <;> simp [Section.place?, plain]
  have last : ((reader.act number role).current.endsWith i && redocumented later) =
      (reader.current.endsWith i && redocumented (role :: later)) := by
    cases role with
    | header header title => cases plain
    | docStringStart mark mediaType =>
      rw [continues.endsWith_eq, started mark mediaType rfl]
      rfl
    | step keyword text =>
      rw [continues.endsWith_eq_false holds.inside, redocumented, Bool.and_false]
      rfl
    | docStringText line | exampleRow cells | tableRow cells | blank | docStringEnd | comment
    | tags names | description line | unrecognized line =>
      rw [continues.endsWith_eq]
      rfl
  rw [documentedPlace?, documentedPlace?, place, last]

theorem isBackground_openSection (reader : Reader) (header : Header) (title : String) :
    (reader.openSection header title).current.isBackground = decide (header = .background) := by
  cases header with
  | examples =>
    simp only [openSection, openExamples]
    split <;> rfl
  | feature | background | scenario | outline => rfl

/-- A header that ends the section tells the feature of the step. -/
theorem HoldsStep.openSection (holds : reader.HoldsStep i step) (docString : DocString)
    {header : Header} (ends : header ≠ .examples ∨ reader.finishGathering.current.outline? = none)
    (title : String) :
    ∃ place, reader.current.place? reader.feature i [] = some place ∧
      ((reader.openSection header title).feature.step? place).map Step.untabled = some step ∧
      (reader.hold docString i).openSection header title =
        { reader.openSection header title with
          feature := (reader.openSection header title).feature.modifyStep
            (Step.documented docString) place } := by
  obtain ⟨place, goes, told, closed⟩ := holds.closeSection docString
  refine ⟨place, goes, ?_⟩
  cases header with
  | examples =>
    have none : reader.finishGathering.current.outline? = none := by simpa using ends
    have held : (reader.finishGathering.hold docString i).current.outline? = Option.none := by
      rw [hold, Section.outline?_modifyStep, none]
      rfl
    simp only [Reader.openSection, openExamples, finishGathering_hold holds.free, held, none,
      closeSection_finishGathering]
    rw [← finishGathering_hold holds.free, closeSection_finishGathering, closed]
    exact ⟨told, rfl⟩
  | feature =>
    refine ⟨?_, ?_⟩
    · cases place <;> exact told
    · simp only [Reader.openSection, closed]
      cases place <;> rfl
  | background =>
    refine ⟨told, ?_⟩
    simp only [Reader.openSection, closed]
  | scenario | outline =>
    refine ⟨told, ?_⟩
    simp only [Reader.openSection, closed]
    rfl

/-- Examples keep the step in the section. -/
theorem HoldsStep.openExamples (holds : reader.HoldsStep i step) (docString : DocString)
    {outline : ScenarioOutline} (known : reader.finishGathering.current.outline? = some outline)
    (title : String) :
    (reader.openExamples title).HoldsStep i step ∧
      (reader.hold docString i).openExamples title = (reader.openExamples title).hold docString i ∧
      ∀ later, (reader.openExamples title).documentedPlace? i later =
        reader.current.place? reader.feature i (.header .examples title :: later) := by
  have held : (reader.finishGathering.hold docString i).current.outline? =
      some { outline with steps := outline.steps.modify i (Step.documented docString) } := by
    rw [hold, Section.outline?_modifyStep, known]
    rfl
  constructor
  · refine ⟨?_, .inr ?_⟩
    · simp only [Reader.openExamples, known]
      show outline.steps[i]?.map Step.untabled = some step
      rw [← Section.held_of_outline? known]
      exact holds.finishGathering.held
    · simp only [Reader.openExamples, known]
      rfl
  · refine ⟨?_, fun later => ?_⟩
    · simp only [Reader.openExamples, finishGathering_hold holds.free, held, known]
      rfl
    · rw [← place?_finishGathering, Section.place?_of_outline? known]
      simp only [Reader.openExamples, known]
      rfl

theorem place?_header {place : StepPlace}
    (goes : reader.current.place? reader.feature i [] = some place) {header : Header}
    (ends : header ≠ .examples ∨ reader.current.outline? = none) (title : String)
    (later : List LineRole) :
    reader.current.place? reader.feature i (.header header title :: later) =
      if (reader.openSection header title).keepsStep later place then some place else none := by
  unfold keepsStep keepsBackground
  rw [isBackground_openSection]
  cases current : reader.current with
  | start | feature describing =>
    rw [current] at goes
    cases goes
  | background steps =>
    rw [current] at goes
    cases goes
    have noOther : (later.all fun role => decide (role.header? ≠ some .background)) =
        !later.any fun role => decide (role.header? = some .background) := by
      simp [List.not_any_eq_all_not]
    simp only [Section.place?, List.any_cons, LineRole.header?_header, Option.some.injEq, noOther]
    cases later.any (fun role => decide (role.header? = some .background)) <;>
      cases decide (header = .background) <;> rfl
  | scenario s =>
    rw [current] at goes ends
    cases goes
    have other : header ≠ .examples := by simpa [Section.outline?] using ends
    simp [Section.place?, List.findSome?_cons, other]
  | outline o | examples o table =>
    rw [current] at goes
    cases goes
    rfl

/-- The lines below a header that ends the section only add to what the feature has been told. -/
theorem HoldsStep.finish_readLines_of_ends (holds : reader.HoldsStep i step)
    (nothing : reader.gathering = .nothing) (docString : DocString) {header : Header}
    (ends : header ≠ .examples ∨ reader.current.outline? = none) (title : String) (number : Nat)
    (lines : List (List Char)) :
    let after := reader.openSection header title
    let place? := reader.current.place? reader.feature i
      (.header header title :: after.roles number lines)
    (((reader.hold docString i).openSection header title).readLines number lines).finish =
        (after.readLines number lines).finish.documented docString place? ∧
      ∀ place ∈ place?,
        ((after.readLines number lines).finish.step? place).map Step.untabled = some step := by
  intro after place?
  have settled := finishGathering_of_nothing nothing
  obtain ⟨place, goes, told, opened⟩ := holds.openSection docString (by rwa [settled]) title
  obtain ⟨found, known, same⟩ := Option.map_eq_some_iff.mp told
  have later := finish_readLines_modifyStep known (Step.documented docString) number lines
  have decided : place? =
      if after.keepsStep (after.roles number lines) place then some place else none :=
    place?_header goes ends title _
  rw [opened, decided]
  split at later
  · rename_i keeps
    rw [if_pos keeps]
    refine ⟨later.2, ?_⟩
    rintro _ ⟨⟩
    rw [later.1, Option.map_some, same]
  · rename_i lost
    rw [if_neg lost]
    exact ⟨later, by simp⟩

/-- Whatever the later lines are, they read the same with the doc string as without it. -/
theorem HoldsStep.finish_readLines (holds : reader.HoldsStep i step) (docString : DocString)
    (number : Nat) (lines : List (List Char)) :
    let place? := reader.documentedPlace? i (reader.roles number lines)
    ((reader.hold docString i).readLines number lines).finish =
        (reader.readLines number lines).finish.documented docString place? ∧
      ∀ place ∈ place?,
        ((reader.readLines number lines).finish.step? place).map Step.untabled = some step := by
  -- The section keeps the step from line to line until a header ends it. From then on the feature
  -- keeps the step, and from the mark of another doc string on nothing is left of the first.
  induction lines generalizing reader number with
  | nil =>
    obtain ⟨place, goes, told, closed⟩ := holds.closeSection docString
    have same : reader.documentedPlace? i (reader.roles number []) = some place := by
      simp [documentedPlace?, roles, redocumented, goes]
    rw [same]
    refine ⟨?_, ?_⟩
    · rw [readLines, finish, closed]
      rfl
    · rintro _ ⟨⟩
      exact told
  | cons line rest ih =>
    rw [readLines, readLines, roles, read, read, role_hold]
    generalize reader.role line = role
    cases kind : role.header? with
    | some header =>
      obtain ⟨title, rfl⟩ := LineRole.eq_header_of_header? kind
      have same : reader.documentedPlace? i (.header header title ::
            (reader.act number (.header header title)).roles (number + 1) rest) =
          reader.finishGathering.current.place? reader.finishGathering.feature i
            (.header header title ::
              (reader.finishGathering.openSection header title).roles (number + 1) rest) := by
        rw [place?_finishGathering, documentedPlace?, redocumented, Bool.and_false]
        rfl
      have settled := holds.finishGathering
      rw [same, Reader.act, Reader.act, finishGathering_hold holds.free]
      by_cases ends : header ≠ .examples ∨ reader.finishGathering.current.outline? = none
      · have nothing := reader.gathering_finishGathering
        exact settled.finish_readLines_of_ends nothing docString ends title _ rest
      · obtain ⟨examples, continues⟩ := not_or.mp ends
        have isExamples : header = .examples := Decidable.not_not.mp examples
        subst isExamples
        obtain ⟨outline, known⟩ := Option.ne_none_iff_exists'.mp continues
        rw [← finishGathering_finishGathering] at known
        obtain ⟨holdsAfter, held, place⟩ := settled.openExamples docString known title
        rw [← place, Reader.openSection, Reader.openSection, held]
        exact ih holdsAfter (number + 1)
    | none =>
      by_cases started : ∃ mark mediaType, role = .docStringStart mark mediaType ∧
          reader.current.endsWith i = true
      · -- What is read from here on takes the place of the doc string.
        obtain ⟨mark, mediaType, rfl, last⟩ := started
        rw [documentedPlace?, redocumented, last, act_hold holds kind]
        refine ⟨?_, by simp⟩
        refine finish_readLines_of_overwritten (show _ = some mark from rfl) ?_ _ _
        show reader.finishGathering.current.endsWith i = true
        rw [endsWith_finishGathering, last]
      · have fresh : ∀ mark mediaType, role = .docStringStart mark mediaType →
            reader.current.endsWith i = false := by
          intro mark mediaType starts
          simpa using fun last => started ⟨mark, mediaType, starts, last⟩
        rw [act_hold holds kind, ← documentedPlace?_act holds kind fresh number]
        exact ih (holds.act kind fresh number) (number + 1)

end Reader

end ScenarioRunner
