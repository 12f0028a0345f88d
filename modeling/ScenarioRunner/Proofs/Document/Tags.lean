import ScenarioRunner.Proofs.Document.Headed
import ScenarioRunner.Proofs.Document.HeadLines

namespace ScenarioRunner

/-- The tags of the outline and of its examples. -/
def ScenarioOutline.allTags (outline : ScenarioOutline) : List String :=
  outline.tags ++ outline.examples.flatMap (·.tags)

def Feature.allTags (feature : Feature) : List String :=
  feature.tags ++ feature.scenarios.flatMap (·.tags) ++ feature.outlines.flatMap (·.allTags)

namespace Section

def tags : Section → List String
  | scenario s => s.tags
  | outline o => o.allTags
  | examples o table => o.allTags ++ table.tags
  | start | feature _ | background _ => []

theorem tags_heading (current : Section) : current.heading.tags = current.tags := by
  cases current <;>
    simp [heading, tags, Scenario.heading, ScenarioOutline.heading, ScenarioOutline.allTags,
      ExampleTable.heading, List.flatMap_map]

theorem tags_of_outline? {current : Section} {outline : ScenarioOutline}
    (known : current.outline? = some outline) : outline.allTags = current.tags := by
  cases current <;> cases known <;> simp [tags, ScenarioOutline.allTags]

theorem perm_allTags_addTo (current : Section) (feature : Feature) :
    (current.addTo feature).allTags.Perm (feature.allTags ++ current.tags) := by
  refine List.perm_iff_count.mpr fun tag => ?_
  cases current <;>
    simp [addTo, tags, Feature.allTags, ScenarioOutline.allTags, Nat.add_comm, Nat.add_left_comm,
      Nat.add_assoc]

end Section

/-- The tags that were meant for examples where there can be none. -/
def strayTags (above later : List LineRole) : List String :=
  ((headerPlaces above later).filter (·.isStray)).flatMap (·.tags)

theorem strayTags_cons_header (above : List LineRole) (header : Header) (title : String)
    (later : List LineRole) :
    strayTags above (.header header title :: later) =
      (if header = .examples ∧ inScenario above = false then waitingTags above else []) ++
        strayTags (above ++ [.header header title]) later := by
  cases header <;> cases open_ : inScenario above <;>
    simp [strayTags, headerPlaces, HeaderPlace.isStray, HeaderPlace.tags, open_]

namespace Reader

/-- All tags that were read and have not been dropped. -/
def tags (reader : Reader) : List String :=
  reader.feature.allTags ++ reader.current.tags ++ reader.pendingTags

variable {reader : Reader} {above : List LineRole}

theorem tags_current_finishGathering (reader : Reader) :
    reader.finishGathering.current.tags = reader.current.tags := by
  rw [← Section.tags_heading, heading_finishGathering, Section.tags_heading]

theorem perm_allTags_closeSection (reader : Reader) :
    reader.closeSection.feature.allTags.Perm (reader.feature.allTags ++ reader.current.tags) := by
  have closed := reader.finishGathering.current.perm_allTags_addTo reader.finishGathering.feature
  rw [tags_current_finishGathering] at closed
  rw [closeSection_eq, ← reader.feature_finishGathering]
  exact closed

/-- Whatever opens a section takes the tags that wait for it, or leaves them to the next header. -/
theorem Opens.perm_tags {header : Header} {title : String} {opened : Reader}
    (opens : reader.Opens header title opened) :
    (opened.tags ++ if header = .examples then reader.pendingTags else []).Perm reader.tags := by
  refine List.perm_iff_count.mpr fun tag => ?_
  have closed := reader.perm_allTags_closeSection.count_eq tag
  rw [Feature.allTags] at closed
  rw [Reader.tags, Feature.allTags, opens.tags, opens.scenarios, opens.outlines, opens.current,
    opens.pendingTags, Reader.tags]
  cases header <;>
    simp [Section.opened, Section.tags, ScenarioOutline.allTags, Header.takesTags] at closed ⊢ <;>
    omega

/-- A header keeps all tags, but for those of stray examples. -/
theorem perm_tags_openSection (below : reader.Below above) (header : Header) (title : String) :
    ((reader.openSection header title).tags ++
      if header = .examples ∧ inScenario above = false then waitingTags above else []).Perm
        reader.tags := by
  have inside := below.inScenario
  rcases reader.openSection_cases header title with ⟨outline, rfl, known, opened⟩ | ⟨kind, opens⟩
  · rw [← reader.grows_finishGathering.isSome_outline?_eq, known, Option.isSome_some] at inside
    rw [← inside, opened, if_neg (by simp), tags, tags, feature_finishGathering, Section.tags,
      Section.tags_of_outline? known, tags_current_finishGathering, newTable]
    simp
  · have dropped : (if header = .examples ∧ inScenario above = false then waitingTags above else []) =
        if header = .examples then reader.pendingTags else [] := by
      rw [below.pendingTags, ← inside]
      rcases kind with opens | none
      · cases header <;> first | rfl | cases opens
      · rw [none]
        simp
    rw [dropped]
    exact opens.perm_tags

theorem tags_act (reader : Reader) {role : LineRole} (plain : role.header? = none) (number : Nat) :
    (reader.act number role).tags = reader.tags ++ role.tagNames := by
  obtain ⟨⟨description, feature⟩, grows, pending⟩ := reader.extends_act plain number
  rw [tags, ← Section.tags_heading, grows.heading_eq, Section.tags_heading, pending, feature,
    ← List.append_assoc]
  rfl

theorem perm_tags_readLines (below : reader.Below above) (number : Nat) (lines : List (List Char)) :
    ((reader.readLines number lines).tags ++ strayTags above (reader.roles number lines)).Perm
      (reader.tags ++ (reader.roles number lines).flatMap LineRole.tagNames) := by
  induction lines generalizing reader above number with
  | nil => exact .refl _
  | cons line rest ih =>
    have later := ih (below.act number (reader.role line)) (number + 1)
    rw [readLines, roles, read, List.flatMap_cons]
    cases kind : (reader.role line).header? with
    | none =>
      rw [strayTags, headerPlaces_cons_of_plain kind, ← List.append_assoc, ← reader.tags_act kind number]
      exact later
    | some header =>
      obtain ⟨title, role⟩ := LineRole.eq_header_of_header? kind
      rw [role, act_header] at later ⊢
      rw [strayTags_cons_header]
      have here := perm_tags_openSection below header title
      refine List.perm_iff_count.mpr fun tag => ?_
      have counted := later.count_eq tag
      have countedHere := here.count_eq tag
      simp only [LineRole.tagNames, List.nil_append, List.count_append] at counted countedHere ⊢
      omega

/-- At the end, the tags that still wait are lost. -/
theorem perm_allTags_finish (below : reader.Below above) (number : Nat) (lines : List (List Char)) :
    ((reader.readLines number lines).finish.allTags ++ strayTags above (reader.roles number lines) ++
        waitingTags (above ++ reader.roles number lines)).Perm
      (reader.tags ++ (reader.roles number lines).flatMap LineRole.tagNames) := by
  refine List.perm_iff_count.mpr fun tag => ?_
  have read := (perm_tags_readLines below number lines).count_eq tag
  have closed := (reader.readLines number lines).perm_allTags_closeSection.count_eq tag
  rw [← (below.readLines number lines).pendingTags]
  rw [Reader.tags] at read
  simp only [finish, List.count_append] at read closed ⊢
  omega

end Reader

/-- The scenarios and outlines of the feature are those that the headers among these lines are for,
each with the tags from the lines above it. -/
structure Feature.HeadedBy (feature : Feature) (lines : List (List Char)) (roles : List LineRole) :
    Prop where
  heads : HeadsLines false lines roles
  scenarios : feature.scenarios.map (·.heading) =
    (headerPlaces [] roles).filterMap (·.scenario?)
  outlines : feature.outlines.map (·.heading) = (headerPlaces [] roles).filterMap (·.outline?)
  /-- Each header of a scenario or an outline gives one of both. -/
  titles : (feature.scenarios.map (·.name) ++ feature.outlines.map (·.name)).Perm
    (((headerPlaces [] roles).filter (·.header.opensScenario)).map (·.title))
  tags : feature.tags =
    ((headerPlaces [] roles).filter (·.header == .feature)).flatMap (·.tags)
  /-- No tag is given twice, and none is lost but above stray examples and below the last header. -/
  allTags : (feature.allTags ++ strayTags [] roles ++ waitingTags roles).Perm
    (roles.flatMap LineRole.tagNames)

theorem readFeature_headedBy (path : Option SourcePath) (text : String) :
    (readFeature path text).HeadedBy (linesOf text.toList)
      ((Reader.start path).roles 1 (linesOf text.toList)) := by
  have start := Reader.below_start path
  obtain ⟨tags, scenarios, outlines⟩ := Reader.heads_readLines start 1 (linesOf text.toList)
  have scenarioNames := congrArg (List.map Scenario.name) scenarios
  have outlineNames := congrArg (List.map ScenarioOutline.name) outlines
  rw [List.map_map] at scenarioNames outlineNames
  refine ⟨(Reader.start path).headsLines_roles 1 _, scenarios, outlines, ?_, tags,
    Reader.perm_allTags_finish start 1 (linesOf text.toList)⟩
  have titles := HeaderPlace.perm_titles
    (headerPlaces [] ((Reader.start path).roles 1 (linesOf text.toList)))
  exact (List.Perm.of_eq (congrArg₂ _ scenarioNames outlineNames)).trans titles

/-- A background leaves its tags to the scenario below, and the examples of that make it an outline. -/
example : (headerPlaces [] [.tags ["a"], .header .background "", .header .scenario "s",
    .header .examples ""]).filterMap (·.outline?) =
      [{ name := "s", tags := ["a"], examples := [{}] }] := by decide

end ScenarioRunner
