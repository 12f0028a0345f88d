import ScenarioRunner.Proofs.Document.Settled

namespace ScenarioRunner

/-- The step as if it had been read from another place. -/
def Step.relocated (place : Option SourceLocation → Option SourceLocation) (step : Step) : Step :=
  { step with location := place step.location }

def Scenario.relocated (place : Option SourceLocation → Option SourceLocation)
    (scenario : Scenario) : Scenario :=
  { scenario with steps := scenario.steps.map (Step.relocated place) }

def ScenarioOutline.relocated (place : Option SourceLocation → Option SourceLocation)
    (outline : ScenarioOutline) : ScenarioOutline :=
  { outline with steps := outline.steps.map (Step.relocated place) }

def Feature.relocated (place : Option SourceLocation → Option SourceLocation) (feature : Feature) :
    Feature :=
  { feature with
    background := feature.background.map (·.map (Step.relocated place))
    scenarios := feature.scenarios.map (Scenario.relocated place)
    outlines := feature.outlines.map (ScenarioOutline.relocated place) }

variable {place : Option SourceLocation → Option SourceLocation}

namespace Section

/-- The section as if its steps had been read from other places. -/
def relocated (place : Option SourceLocation → Option SourceLocation) : Section → Section
  | background steps => background (steps.map (Step.relocated place))
  | scenario s => scenario (s.relocated place)
  | outline o => outline (o.relocated place)
  | examples o table => examples (o.relocated place) table
  | start => start
  | feature describing => feature describing

theorem setting_relocated (current : Section) :
    (current.relocated place).setting = current.setting := by
  cases current with
  | start | feature describing | examples o table => rfl
  | background steps | scenario s | outline o =>
    exact congrArg (Setting.mk · false false) (congrArg (!·) List.isEmpty_map)

theorem relocated_eq_feature_iff {current : Section} {describing : Bool} :
    current.relocated place = .feature describing ↔ current = .feature describing := by
  cases current <;> simp [relocated]

theorem relocated_mapSteps {change changed : List Step → List Step}
    (commute : ∀ steps, (change steps).map (Step.relocated place) =
      changed (steps.map (Step.relocated place))) (current : Section) :
    (current.mapSteps change).relocated place = (current.relocated place).mapSteps changed := by
  cases current <;>
    simp [relocated, mapSteps, Scenario.relocated, ScenarioOutline.relocated, commute]

theorem outline?_relocated (current : Section) :
    (current.relocated place).outline? =
      current.outline?.map (ScenarioOutline.relocated place) := by
  cases current <;> rfl

end Section

namespace Reader

/-- How the features of two readers may be related for the relation to outlast reading: both get
what one section holds, the same header line, and the same line of description. -/
structure Relation (place : Option SourceLocation → Option SourceLocation)
    (alike : Feature → Feature → Prop) : Prop where
  addTo : ∀ {f g : Feature} (current : Section),
    alike f g → alike (current.addTo f) ((current.relocated place).addTo g)
  header : ∀ {f g : Feature} (title : String) (tags : List String), alike f g →
    alike { f with name := title, tags := f.tags ++ tags }
      { g with name := title, tags := g.tags ++ tags }
  description : ∀ {a b : Reader} (line : List Char), alike a.feature b.feature →
    alike (a.addDescription line).feature (b.addDescription line).feature

/-- The second reader stands where the first one does, but for the places of its steps, and for
what the documents said before. The lines it is given have other numbers. -/
structure Mirrors (place : Option SourceLocation → Option SourceLocation) (renumber : Nat → Nat)
    (alike : Feature → Feature → Prop) (a b : Reader) : Prop where
  feature : alike a.feature b.feature
  current : b.current = a.current.relocated place
  gathering : b.gathering = a.gathering
  pendingTags : b.pendingTags = a.pendingTags
  placed : ∀ number, (b.path.map fun path => (⟨path, renumber number⟩ : SourceLocation)) =
    place (a.path.map fun path => ⟨path, number⟩)

variable {renumber : Nat → Nat} {alike : Feature → Feature → Prop} {a b : Reader}

theorem consecutive_succ {renumber : Nat → Nat} {number first count : Nat}
    (consecutive : ∀ i < count + 1, renumber (number + i) = first + i) :
    renumber number = first ∧ ∀ i < count, renumber (number + 1 + i) = first + 1 + i := by
  refine ⟨consecutive 0 (Nat.succ_pos _), fun i known => ?_⟩
  rw [Nat.add_assoc, Nat.add_assoc, Nat.add_comm 1 i]
  exact consecutive (i + 1) (Nat.succ_lt_succ known)

namespace Mirrors

theorem finishGathering (mirrors : Mirrors place renumber alike a b) :
    Mirrors place renumber alike a.finishGathering b.finishGathering := by
  constructor
  case feature => simpa only [feature_finishGathering] using mirrors.feature
  case pendingTags => simpa only [pendingTags_finishGathering] using mirrors.pendingTags
  case placed => simpa only [path_finishGathering] using mirrors.placed
  case gathering => rw [gathering_finishGathering, gathering_finishGathering]
  case current =>
    have last (change : Step → Step) (commute : ∀ step : Step,
        (change step).relocated place = change (step.relocated place)) :
        b.current.mapSteps (changeLast change) =
          (a.current.mapSteps (changeLast change)).relocated place := by
      rw [mirrors.current, Section.relocated_mapSteps fun steps => map_changeLast commute steps]
    unfold Reader.finishGathering
    rw [mirrors.gathering]
    cases a.gathering with
    | nothing => exact mirrors.current
    | table table => exact last _ fun _ => rfl
    | docString mark mediaType lines => exact last _ fun _ => rfl

theorem closeSection (keeps : Relation place alike) (mirrors : Mirrors place renumber alike a b) :
    Mirrors place renumber alike a.closeSection b.closeSection := by
  have settled := mirrors.finishGathering
  rw [closeSection_eq, closeSection_eq]
  constructor
  case feature =>
    show alike _ (b.finishGathering.current.addTo _)
    rw [settled.current]
    exact keeps.addTo _ settled.feature
  case current => rfl
  case gathering => exact settled.gathering
  case pendingTags => exact settled.pendingTags
  case placed => exact settled.placed

/-- Both readers enter the same section. -/
theorem enter (mirrors : Mirrors place renumber alike a b) (current : Section) :
    Mirrors place renumber alike { a with current } { b with current := current.relocated place } :=
  ⟨mirrors.feature, rfl, mirrors.gathering, mirrors.pendingTags, mirrors.placed⟩

/-- Both readers begin, or go on, to gather the same. -/
theorem gather (mirrors : Mirrors place renumber alike a b) (gathering : Gathering) :
    Mirrors place renumber alike { a with gathering } { b with gathering } :=
  ⟨mirrors.feature, mirrors.current, rfl, mirrors.pendingTags, mirrors.placed⟩

/-- The same tags wait for what comes next. -/
theorem tag (mirrors : Mirrors place renumber alike a b) (pendingTags : List String) :
    Mirrors place renumber alike { a with pendingTags } { b with pendingTags } :=
  ⟨mirrors.feature, mirrors.current, mirrors.gathering, rfl, mirrors.placed⟩

theorem openExamples (keeps : Relation place alike) (mirrors : Mirrors place renumber alike a b)
    (title : String) :
    Mirrors place renumber alike (a.openExamples title) (b.openExamples title) := by
  have settled := mirrors.finishGathering
  have known : b.finishGathering.current.outline? =
      a.finishGathering.current.outline?.map (ScenarioOutline.relocated place) := by
    rw [settled.current, Section.outline?_relocated]
  unfold Reader.openExamples
  cases outline : a.finishGathering.current.outline? with
  | some found =>
    simp only [known, outline, Option.map_some, settled.pendingTags]
    exact (settled.enter (.examples found _)).tag []
  | none =>
    simp only [known, outline, Option.map_none]
    exact ((settled.closeSection keeps).enter (.feature false)).tag []

theorem openSection (keeps : Relation place alike) (mirrors : Mirrors place renumber alike a b)
    (header : Header) (title : String) :
    Mirrors place renumber alike (a.openSection header title) (b.openSection header title) := by
  have closed := mirrors.closeSection keeps
  cases header with
  | examples => exact mirrors.openExamples keeps title
  | feature =>
    simp only [Reader.openSection, closed.pendingTags]
    exact ⟨keeps.header title _ closed.feature, rfl, closed.gathering, rfl, closed.placed⟩
  | background => exact closed.enter (.background [])
  | scenario =>
    simp only [Reader.openSection, mirrors.pendingTags]
    exact (closed.enter (.scenario _)).tag []
  | outline =>
    simp only [Reader.openSection, mirrors.pendingTags]
    exact (closed.enter (.outline _)).tag []

theorem addStep (mirrors : Mirrors place renumber alike a b) (number : Nat) (keyword : StepKeyword)
    (text : String) :
    Mirrors place renumber alike (a.addStep number keyword text)
      (b.addStep (renumber number) keyword text) where
  feature := mirrors.feature
  current := by
    simp only [Reader.addStep]
    rw [mirrors.current, mirrors.placed number, Section.relocated_mapSteps]
    intro steps
    simp [Step.relocated]
  gathering := mirrors.gathering
  pendingTags := mirrors.pendingTags
  placed := mirrors.placed

theorem addExampleRow (mirrors : Mirrors place renumber alike a b) (cells : List String) :
    Mirrors place renumber alike (a.addExampleRow cells) (b.addExampleRow cells) := by
  have current := mirrors.current
  unfold Reader.addExampleRow
  cases found : a.current with
  | examples outline table =>
    simp only [found, Section.relocated] at current
    simp only [current]
    exact mirrors.enter (.examples outline _)
  | start | feature describing | background steps | scenario s | outline o =>
    simp only [found, Section.relocated] at current
    simpa only [current] using mirrors

theorem addTableRow (mirrors : Mirrors place renumber alike a b) (cells : List String) :
    Mirrors place renumber alike (a.addTableRow cells) (b.addTableRow cells) := by
  unfold Reader.addTableRow
  rw [mirrors.gathering]
  cases a.gathering with
  | nothing | table table | docString mark mediaType lines => exact mirrors.gather _

theorem addDocLine (mirrors : Mirrors place renumber alike a b) (line : List Char) :
    Mirrors place renumber alike (a.addDocLine line) (b.addDocLine line) := by
  unfold Reader.addDocLine
  rw [mirrors.gathering]
  cases a.gathering with
  | nothing | table table => exact mirrors
  | docString mark mediaType lines => exact mirrors.gather _

theorem addDescription (keeps : Relation place alike) (mirrors : Mirrors place renumber alike a b)
    (line : List Char) :
    Mirrors place renumber alike (a.addDescription line) (b.addDescription line) :=
  ⟨keeps.description line mirrors.feature, mirrors.current, mirrors.gathering, mirrors.pendingTags,
    mirrors.placed⟩

theorem role (mirrors : Mirrors place renumber alike a b) (raw : List Char) :
    b.role raw = a.role raw := by
  apply role_congr
  · rw [openMark?, mirrors.gathering, openMark?]
  · rw [mirrors.current, Section.setting_relocated]

/-- What a line does depends on no line before the section it is in. -/
theorem act (keeps : Relation place alike) (mirrors : Mirrors place renumber alike a b) (number : Nat)
    (role : LineRole) :
    Mirrors place renumber alike (a.act number role) (b.act (renumber number) role) := by
  have settled := mirrors.finishGathering
  cases role with
  | docStringStart mark mediaType => exact settled.gather _
  | docStringText line => exact mirrors.addDocLine line
  | docStringEnd | comment | unrecognized line => exact settled
  | exampleRow cells => exact mirrors.addExampleRow cells
  | tableRow cells => exact mirrors.addTableRow cells
  | blank =>
    have same : b.finishGathering.current = .feature true ↔
        a.finishGathering.current = .feature true := by
      rw [settled.current, Section.relocated_eq_feature_iff]
    simp only [Reader.act, same]
    split
    · exact settled.enter (.feature false)
    · exact settled
  | tags names =>
    simp only [Reader.act, settled.pendingTags]
    exact settled.tag _
  | header header title => exact settled.openSection keeps header title
  | step keyword text => exact settled.addStep number keyword text
  | description line => exact settled.addDescription keeps line

theorem read (keeps : Relation place alike) (mirrors : Mirrors place renumber alike a b) (number : Nat)
    (raw : List Char) :
    Mirrors place renumber alike (a.read number raw) (b.read (renumber number) raw) := by
  rw [Reader.read, Reader.read, mirrors.role]
  exact mirrors.act keeps number _

/-- Lines that follow each other in both documents are read alike. -/
theorem readLines_renumbered (keeps : Relation place alike)
    (mirrors : Mirrors place renumber alike a b) {number first : Nat} {lines : List (List Char)}
    (consecutive : ∀ i < lines.length, renumber (number + i) = first + i) :
    Mirrors place renumber alike (a.readLines number lines) (b.readLines first lines) := by
  induction lines generalizing a b number first with
  | nil => exact mirrors
  | cons line rest ih =>
    obtain ⟨here, later⟩ := consecutive_succ consecutive
    have read := mirrors.read keeps number line
    rw [here] at read
    exact ih read later

theorem roles (keeps : Relation place alike) (mirrors : Mirrors place renumber alike a b)
    {number first : Nat} {lines : List (List Char)}
    (consecutive : ∀ i < lines.length, renumber (number + i) = first + i) :
    b.roles first lines = a.roles number lines := by
  induction lines generalizing a b number first with
  | nil => rfl
  | cons line rest ih =>
    obtain ⟨here, later⟩ := consecutive_succ consecutive
    have read := mirrors.read keeps number line
    rw [here] at read
    rw [Reader.roles, Reader.roles, mirrors.role, ih read later]

theorem readLines {shift : Nat} (keeps : Relation place alike)
    (mirrors : Mirrors place (· + shift) alike a b) (number : Nat) (lines : List (List Char)) :
    Mirrors place (· + shift) alike (a.readLines number lines) (b.readLines (number + shift) lines) :=
  mirrors.readLines_renumbered keeps fun i _ => Nat.add_right_comm number i shift

theorem finish (keeps : Relation place alike) (mirrors : Mirrors place renumber alike a b) :
    alike a.finish b.finish := (mirrors.closeSection keeps).feature

end Mirrors

end Reader

end ScenarioRunner
