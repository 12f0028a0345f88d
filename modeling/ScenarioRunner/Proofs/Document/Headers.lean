import Mathlib.Data.List.DropRight
import ScenarioRunner.Proofs.Document.Opened

namespace ScenarioRunner

def Header.opensScenario (header : Header) : Bool := header == .scenario || header == .outline

namespace LineRole

def takesTags (role : LineRole) : Bool := role.header?.any Header.takesTags

def opensSection (role : LineRole) : Bool := role.header?.any Header.opensSection

end LineRole

/-- The tags below the last of these lines that takes tags. -/
def waitingTags (above : List LineRole) : List String :=
  (above.rtakeWhile fun role => !role.takesTags).flatMap LineRole.tagNames

/-- The last section that these lines open is a scenario or an outline, so examples can follow. -/
def inScenario (above : List LineRole) : Bool :=
  ((above.filterMap LineRole.header?).filter Header.opensSection).getLast?.any Header.opensScenario

theorem waitingTags_concat (above : List LineRole) (role : LineRole) :
    waitingTags (above ++ [role]) =
      if role.takesTags then [] else waitingTags above ++ role.tagNames := by
  rw [waitingTags, List.rtakeWhile_concat]
  cases role.takesTags with
  | true => rfl
  | false => simp [waitingTags]

theorem inScenario_concat_of_plain {role : LineRole} (plain : role.header? = none)
    (above : List LineRole) : inScenario (above ++ [role]) = inScenario above := by
  simp [inScenario, plain]

theorem inScenario_concat_header (above : List LineRole) (header : Header) (title : String) :
    inScenario (above ++ [.header header title]) =
      if header.opensSection then header.opensScenario else inScenario above := by
  cases opens : header.opensSection <;> simp [inScenario, opens]

/-- A header line, with what the lines above and below it are. -/
structure HeaderPlace where
  above : List LineRole
  header : Header
  title : String
  below : List LineRole

def headerPlaces (above : List LineRole) : List LineRole → List HeaderPlace
  | [] => []
  | .header header title :: below =>
    ⟨above, header, title, below⟩ :: headerPlaces (above ++ [.header header title]) below
  | role :: below => headerPlaces (above ++ [role]) below

theorem headerPlaces_cons_of_plain {role : LineRole} (plain : role.header? = none)
    (above below : List LineRole) :
    headerPlaces above (role :: below) = headerPlaces (above ++ [role]) below := by
  cases role <;> first | rfl | cases plain

theorem filterMap_headerPlaces_cons {α : Type} (f : HeaderPlace → Option α) (above : List LineRole)
    (header : Header) (title : String) (below : List LineRole) :
    (headerPlaces above (.header header title :: below)).filterMap f =
      (f ⟨above, header, title, below⟩).toList ++
        (headerPlaces (above ++ [.header header title]) below).filterMap f := by
  simp only [List.filterMap_eq_flatMap_toList]
  rfl

namespace HeaderPlace

/-- The tags above the header that no header before it took. -/
def tags (place : HeaderPlace) : List String := waitingTags place.above

/-- The table of examples that the header opens. Its rows do not count here. -/
def table? (place : HeaderPlace) : Option ExampleTable :=
  if place.header = .examples then
    some { name := if place.title.isEmpty then none else some place.title, tags := place.tags }
  else none

/-- Examples that stand in no scenario and no outline. -/
def isStray (place : HeaderPlace) : Bool :=
  place.header == .examples && !inScenario place.above

end HeaderPlace

/-- The tables that lines tell before they open another section. -/
def tablesBelow (above below : List LineRole) : List ExampleTable :=
  (headerPlaces above (below.takeWhile fun role => !role.opensSection)).filterMap HeaderPlace.table?

theorem tablesBelow_cons_of_plain {role : LineRole} (plain : role.header? = none)
    (above below : List LineRole) :
    tablesBelow above (role :: below) = tablesBelow (above ++ [role]) below := by
  have stays : role.opensSection = false := by rw [LineRole.opensSection, plain, Option.any_none]
  rw [tablesBelow, List.takeWhile_cons, stays, Bool.not_false, if_pos rfl,
    headerPlaces_cons_of_plain plain, tablesBelow]

theorem tablesBelow_cons_of_opensSection {header : Header} (opens : header.opensSection = true)
    (above : List LineRole) (title : String) (below : List LineRole) :
    tablesBelow above (.header header title :: below) = [] := by
  have ends : (LineRole.header header title).opensSection = true := opens
  rw [tablesBelow, List.takeWhile_cons, ends]
  rfl

theorem tablesBelow_cons_examples (above : List LineRole) (title : String) (below : List LineRole) :
    tablesBelow above (.header .examples title :: below) =
      { name := if title.isEmpty then none else some title, tags := waitingTags above } ::
        tablesBelow (above ++ [.header .examples title]) below := by
  rfl

namespace HeaderPlace

/-- The tables that belong to the section of the header. -/
def examples (place : HeaderPlace) : List ExampleTable :=
  tablesBelow (place.above ++ [.header place.header place.title]) place.below

/-- The scenario that the header is for, without its steps. -/
def scenario? (place : HeaderPlace) : Option Scenario :=
  if place.header = .scenario ∧ place.examples = [] then
    some { name := place.title, tags := place.tags }
  else none

/-- The outline that the header is for, without its steps. A scenario with examples is one. -/
def outline? (place : HeaderPlace) : Option ScenarioOutline :=
  if place.header = .outline ∨ place.header = .scenario ∧ place.examples ≠ [] then
    some { name := place.title, tags := place.tags, examples := place.examples }
  else none

/-- A header of a scenario or an outline is for one of both, and no other header is. -/
theorem element_cases (place : HeaderPlace) :
    (place.header.opensScenario = true ∧ place.outline? = none ∧
      place.scenario? = some { name := place.title, tags := place.tags }) ∨
    (place.header.opensScenario = true ∧ place.scenario? = none ∧
      place.outline? =
        some { name := place.title, tags := place.tags, examples := place.examples }) ∨
    (place.header.opensScenario = false ∧ place.scenario? = none ∧ place.outline? = none) := by
  by_cases empty : place.examples = [] <;> cases header : place.header <;>
    simp [scenario?, outline?, header, empty, Header.opensScenario]

theorem perm_titles (places : List HeaderPlace) :
    ((places.filterMap scenario?).map (·.name) ++ (places.filterMap outline?).map (·.name)).Perm
      ((places.filter (·.header.opensScenario)).map (·.title)) := by
  induction places with
  | nil => exact .nil
  | cons place rest ih =>
    rw [List.filterMap_cons, List.filterMap_cons, List.filter_cons]
    rcases place.element_cases with ⟨opens, none, some⟩ | ⟨opens, none, some⟩ | ⟨other, none, none'⟩
    · rw [opens, none, some, if_pos rfl]
      exact ih.cons place.title
    · rw [opens, none, some, if_pos rfl]
      exact List.perm_middle.trans (ih.cons place.title)
    · rw [other, none, none', if_neg Bool.false_ne_true]
      exact ih

end HeaderPlace

end ScenarioRunner
