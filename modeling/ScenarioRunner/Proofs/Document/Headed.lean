import ScenarioRunner.Proofs.Document.Headers

namespace ScenarioRunner

/-- The scenario as its header tells it. -/
def Scenario.heading (scenario : Scenario) : Scenario := { scenario with steps := [] }

/-- The outline as its header and those of its examples tell it. -/
def ScenarioOutline.heading (outline : ScenarioOutline) : ScenarioOutline :=
  { outline with steps := [], examples := outline.examples.map (·.heading) }

namespace Section

def heading : Section → Section
  | start => start
  | feature _ => feature false
  | background _ => background []
  | scenario s => scenario s.heading
  | outline o => outline o.heading
  | examples o table => examples o.heading table.heading

/-- Between headers, a section only gets steps and rows. -/
theorem Grows.heading_eq {added : List Step} {current later : Section}
    (grows : current.Grows added later) : later.heading = current.heading := by
  cases grows with
  | steps current grows => cases current <;> rfl
  | description before after => rfl
  | row outline same => rw [heading, heading, same]

/-- The scenario that the section will be, if these tables are all that follow. -/
def scenarioWith? (tables : List ExampleTable) (current : Section) : Option Scenario :=
  match current.heading with
  | scenario s => if tables = [] then some s else none
  | _ => none

/-- The outline that the section will be, if these tables are all that follow. -/
def outlineWith? (tables : List ExampleTable) (current : Section) : Option ScenarioOutline :=
  match current.heading with
  | scenario s =>
    if tables = [] then none else some { name := s.name, tags := s.tags, examples := tables }
  | outline o => some { o with examples := o.examples ++ tables }
  | examples o table => some { o with examples := o.examples ++ table :: tables }
  | _ => none

theorem scenarioWith?_congr {a b : Section} (same : a.heading = b.heading)
    (tables : List ExampleTable) : a.scenarioWith? tables = b.scenarioWith? tables := by
  rw [scenarioWith?, same, scenarioWith?]

theorem outlineWith?_congr {a b : Section} (same : a.heading = b.heading)
    (tables : List ExampleTable) : a.outlineWith? tables = b.outlineWith? tables := by
  rw [outlineWith?, same, outlineWith?]

theorem scenarioWith?_cons (table : ExampleTable) (tables : List ExampleTable) (current : Section) :
    current.scenarioWith? (table :: tables) = none := by
  cases current <;> rfl

theorem outlineWith?_cons {current : Section} {outline : ScenarioOutline}
    (known : current.outline? = some outline) (table : ExampleTable) (tables : List ExampleTable) :
    current.outlineWith? (table.heading :: tables) =
      (examples outline table).outlineWith? tables := by
  cases current <;> cases known <;>
    simp [outlineWith?, heading, Scenario.heading, ScenarioOutline.heading]

theorem scenarioWith?_of_outline?_eq_none {current : Section} (none : current.outline? = none)
    (tables : List ExampleTable) : current.scenarioWith? tables = .none := by
  cases current <;> first | rfl | cases none

theorem outlineWith?_of_outline?_eq_none {current : Section} (none : current.outline? = none)
    (tables : List ExampleTable) : current.outlineWith? tables = .none := by
  cases current <;> first | rfl | cases none

/-- Neither other headers nor stray examples add tables to the section that is open. -/
theorem with_tablesBelow_of_ends {current : Section} {header : Header}
    (ends : header.opensSection = true ∨ current.outline? = none) (above : List LineRole)
    (title : String) (later : List LineRole) :
    current.scenarioWith? (tablesBelow above (.header header title :: later)) =
        current.scenarioWith? [] ∧
      current.outlineWith? (tablesBelow above (.header header title :: later)) =
        current.outlineWith? [] := by
  rcases ends with opens | none
  · rw [tablesBelow_cons_of_opensSection opens]
    exact ⟨rfl, rfl⟩
  · simp only [scenarioWith?_of_outline?_eq_none none, outlineWith?_of_outline?_eq_none none,
      and_self]

theorem isSome_outline?_opened (title : String) (tags : List String) (header : Header) :
    (opened title tags header).outline?.isSome = header.opensScenario := by
  cases header <;> rfl

theorem scenarios_addTo (current : Section) (feature : Feature) :
    (current.addTo feature).scenarios.map (·.heading) =
      feature.scenarios.map (·.heading) ++ (current.scenarioWith? []).toList := by
  cases current <;> simp [addTo, scenarioWith?, heading]

theorem outlines_addTo (current : Section) (feature : Feature) :
    (current.addTo feature).outlines.map (·.heading) =
      feature.outlines.map (·.heading) ++ (current.outlineWith? []).toList := by
  cases current <;> simp [addTo, outlineWith?, heading, ScenarioOutline.heading]

theorem tags_addTo (current : Section) (feature : Feature) :
    (current.addTo feature).tags = feature.tags := by
  cases current <;> rfl

end Section

namespace HeaderPlace

theorem scenarioWith?_opened (place : HeaderPlace) :
    (Section.opened place.title place.tags place.header).scenarioWith? place.examples =
      place.scenario? := by
  rw [scenario?]
  cases place.header <;> simp [Section.opened, Section.scenarioWith?, Section.heading,
    Scenario.heading]

theorem outlineWith?_opened (place : HeaderPlace) :
    (Section.opened place.title place.tags place.header).outlineWith? place.examples =
      place.outline? := by
  rw [outline?]
  cases place.header <;> simp [Section.opened, Section.outlineWith?, Section.heading,
    Scenario.heading, ScenarioOutline.heading]

end HeaderPlace

namespace Reader

theorem heading_finishGathering (reader : Reader) :
    reader.finishGathering.current.heading = reader.current.heading :=
  reader.grows_finishGathering.heading_eq

theorem tags_closeSection (reader : Reader) :
    reader.closeSection.feature.tags = reader.feature.tags := by
  rw [closeSection_eq]
  show (Section.addTo _ _).tags = _
  rw [Section.tags_addTo, feature_finishGathering]

theorem scenarios_closeSection (reader : Reader) :
    reader.closeSection.feature.scenarios.map (·.heading) =
      reader.feature.scenarios.map (·.heading) ++ (reader.current.scenarioWith? []).toList := by
  rw [closeSection_eq]
  show (Section.addTo _ _).scenarios.map _ = _
  rw [Section.scenarios_addTo, Section.scenarioWith?_congr reader.heading_finishGathering,
    feature_finishGathering]

theorem outlines_closeSection (reader : Reader) :
    reader.closeSection.feature.outlines.map (·.heading) =
      reader.feature.outlines.map (·.heading) ++ (reader.current.outlineWith? []).toList := by
  rw [closeSection_eq]
  show (Section.addTo _ _).outlines.map _ = _
  rw [Section.outlines_addTo, Section.outlineWith?_congr reader.heading_finishGathering,
    feature_finishGathering]

/-- The reader has read these lines, as far as its tags and its section tell. -/
structure Below (above : List LineRole) (reader : Reader) : Prop where
  pendingTags : reader.pendingTags = waitingTags above
  inScenario : reader.current.outline?.isSome = inScenario above

theorem below_start (path : Option SourcePath) : (start path).Below [] := ⟨rfl, rfl⟩

variable {reader : Reader} {above : List LineRole}

theorem Below.openSection (below : reader.Below above) (header : Header) (title : String) :
    (reader.openSection header title).Below (above ++ [.header header title]) := by
  rcases reader.openSection_cases header title with ⟨outline, rfl, known, opened⟩ | ⟨kind, opens⟩
  · have continues := below.inScenario
    rw [← reader.grows_finishGathering.isSome_outline?_eq, known] at continues
    rw [opened]
    constructor
    case pendingTags =>
      rw [waitingTags_concat]
      rfl
    case inScenario =>
      rw [inScenario_concat_header]
      exact continues
  · constructor
    case pendingTags =>
      rw [opens.pendingTags, waitingTags_concat, below.pendingTags]
      show _ = if header.takesTags then [] else _ ++ []
      rw [List.append_nil]
    case inScenario =>
      rw [opens.current, Section.isSome_outline?_opened, inScenario_concat_header]
      split
      · rfl
      · rename_i continues
        have stray := kind.resolve_left continues
        rw [← below.inScenario, stray]
        cases header <;> first | rfl | exact absurd rfl continues

theorem Below.act (below : reader.Below above) (number : Nat) (role : LineRole) :
    (reader.act number role).Below (above ++ [role]) := by
  cases kind : role.header? with
  | some header =>
    obtain ⟨title, rfl⟩ := LineRole.eq_header_of_header? kind
    rw [act_header]
    exact below.openSection header title
  | none =>
    have leaves : role.takesTags = false := by rw [LineRole.takesTags, kind, Option.any_none]
    obtain ⟨_, grows, pending⟩ := reader.extends_act kind number
    constructor
    case pendingTags =>
      rw [pending, waitingTags_concat, leaves, below.pendingTags]
      rfl
    case inScenario =>
      rw [grows.isSome_outline?_eq, inScenario_concat_of_plain kind]
      exact below.inScenario

theorem Below.readLines (below : reader.Below above) (number : Nat) (lines : List (List Char)) :
    (reader.readLines number lines).Below (above ++ reader.roles number lines) := by
  induction lines generalizing reader above number with
  | nil => rwa [roles, List.append_nil]
  | cons line rest ih =>
    have later := ih (below.act number (reader.role line)) (number + 1)
    rwa [List.append_assoc] at later

/-- The feature tells what was told before, what the open section will be, and what the headers below
are for. -/
structure Heads (reader : Reader) (above later : List LineRole) (told : Feature) : Prop where
  tags : told.tags =
    reader.feature.tags ++ ((headerPlaces above later).filter (·.header == .feature)).flatMap (·.tags)
  scenarios : told.scenarios.map (·.heading) =
    reader.feature.scenarios.map (·.heading) ++
      (reader.current.scenarioWith? (tablesBelow above later)).toList ++
      (headerPlaces above later).filterMap (·.scenario?)
  outlines : told.outlines.map (·.heading) =
    reader.feature.outlines.map (·.heading) ++
      (reader.current.outlineWith? (tablesBelow above later)).toList ++
      (headerPlaces above later).filterMap (·.outline?)

theorem heads_finish (reader : Reader) (above : List LineRole) :
    reader.Heads above [] reader.finish where
  tags := reader.tags_closeSection.trans (List.append_nil _).symm
  scenarios := reader.scenarios_closeSection.trans (List.append_nil _).symm
  outlines := reader.outlines_closeSection.trans (List.append_nil _).symm

variable {role : LineRole} {later : List LineRole} {told : Feature} {number : Nat}

theorem Heads.of_plain (plain : role.header? = none)
    (heads : (reader.act number role).Heads (above ++ [role]) later told) :
    reader.Heads above (role :: later) told := by
  obtain ⟨⟨description, feature⟩, grows, _⟩ := reader.extends_act plain number
  have heading := grows.heading_eq
  obtain ⟨tags, scenarios, outlines⟩ := heads
  rw [feature] at tags scenarios outlines
  rw [← headerPlaces_cons_of_plain plain] at tags scenarios outlines
  rw [← tablesBelow_cons_of_plain plain] at scenarios outlines
  rw [Section.scenarioWith?_congr heading] at scenarios
  rw [Section.outlineWith?_congr heading] at outlines
  exact ⟨tags, scenarios, outlines⟩

theorem Heads.of_header {header : Header} {title : String} (below : reader.Below above)
    (heads : (reader.openSection header title).Heads (above ++ [.header header title]) later told) :
    reader.Heads above (.header header title :: later) told := by
  obtain ⟨tags, scenarios, outlines⟩ := heads
  let place : HeaderPlace := ⟨above, header, title, later⟩
  have pending : reader.pendingTags = place.tags := below.pendingTags
  rcases reader.openSection_cases header title with ⟨outline, rfl, known, opened⟩ | ⟨kind, opens⟩
  · have continued := tablesBelow_cons_examples above title later
    rw [opened, feature_finishGathering] at tags scenarios outlines
    refine ⟨tags, ?_, ?_⟩
    · rw [continued, Section.scenarioWith?_cons]
      exact scenarios
    · rw [continued, ← Section.outlineWith?_congr reader.heading_finishGathering, ← below.pendingTags]
      have adds := Section.outlineWith?_cons known (reader.newTable title)
        (tablesBelow (above ++ [.header .examples title]) later)
      rw [← adds] at outlines
      exact outlines
  · obtain ⟨noScenario, noOutline⟩ := Section.with_tablesBelow_of_ends kind above title later
    have scenario := place.scenarioWith?_opened
    have outline := place.outlineWith?_opened
    rw [← pending] at scenario outline
    rw [opens.tags, tags_closeSection, pending] at tags
    rw [opens.scenarios, scenarios_closeSection, opens.current] at scenarios
    rw [opens.outlines, outlines_closeSection, opens.current] at outlines
    constructor
    case tags =>
      rw [tags, List.append_assoc]
      refine congrArg _ ?_
      by_cases feature : header = .feature <;> simp [feature, headerPlaces, place]
    case scenarios =>
      rw [scenarios, noScenario, filterMap_headerPlaces_cons, ← scenario, List.append_assoc]
      rfl
    case outlines =>
      rw [outlines, noOutline, filterMap_headerPlaces_cons, ← outline, List.append_assoc]
      rfl

theorem heads_readLines (below : reader.Below above) (number : Nat) (lines : List (List Char)) :
    reader.Heads above (reader.roles number lines) (reader.readLines number lines).finish := by
  induction lines generalizing reader above number with
  | nil => exact reader.heads_finish above
  | cons line rest ih =>
    have heads := ih (below.act number (reader.role line)) (number + 1)
    rw [roles, readLines, read]
    cases kind : (reader.role line).header? with
    | none => exact .of_plain kind heads
    | some header =>
      obtain ⟨title, role⟩ := LineRole.eq_header_of_header? kind
      rw [role, act_header] at heads ⊢
      exact .of_header below heads

end Reader

end ScenarioRunner
