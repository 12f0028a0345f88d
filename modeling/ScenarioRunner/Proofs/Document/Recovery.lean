import ScenarioRunner.Proofs.Document.PrintedSteps
import ScenarioRunner.Proofs.Document.Unlocated

namespace ScenarioRunner

/-- The section holds this outline, with all tables that were read for it. -/
def Section.IsOutline (current : Section) (whole : ScenarioOutline) : Prop :=
  current = .outline whole ∨
    ∃ outline table, current = .examples outline table ∧
      whole = { outline with examples := outline.examples ++ [table] }

theorem Section.IsOutline.outline?_eq {current : Section} {whole : ScenarioOutline}
    (holds : current.IsOutline whole) : current.outline? = some whole := by
  rcases holds with rfl | ⟨outline, table, rfl, rfl⟩ <;> rfl

theorem Section.IsOutline.addTo_eq {current : Section} {whole : ScenarioOutline}
    (holds : current.IsOutline whole) (feature : Feature) :
    current.addTo feature = { feature with outlines := feature.outlines ++ [whole] } := by
  rcases holds with rfl | ⟨outline, table, rfl, rfl⟩ <;> rfl

namespace Reader

variable (feature : Feature)

theorem readLines_exampleRows {allowed : Char → Prop} {rows : List (List String)}
    {outline : ScenarioOutline} (table : ExampleTable) (columns : table.headers ≠ [])
    (width : ∀ row ∈ rows, row.length = table.headers.length)
    (cells : ∀ row ∈ rows, ∀ cell ∈ row, IsCell allowed cell) (number : Nat) :
    (resting true feature (.examples outline table)).readLines number (rows.map rowLine) =
      resting true feature (.examples outline { table with rows := table.rows ++ rows }) := by
  induction rows generalizing table number with
  | nil => simp [readLines]
  | cons row rest ih =>
    have long := width row (List.mem_cons_self ..)
    have filled : row ≠ [] := by
      intro empty
      rw [empty] at long
      exact columns (List.eq_nil_of_length_eq_zero long.symm)
    have fits : fitRow table.headers.length row = row := by simp [fitRow, ← long]
    have role : (resting true feature (.examples outline table)).role (rowLine row) =
        .exampleRow row :=
      (role_of_outside rfl _).trans
        (role_rowLine _ filled (cells row (List.mem_cons_self ..)) (.inl rfl))
    have here : (resting true feature (.examples outline table)).read number
        (rowLine row) =
        resting true feature (.examples outline { table with rows := table.rows ++ [row] }) := by
      rw [read, role]
      simp [act, addExampleRow, resting, columns, fits]
    rw [List.map_cons, readLines, here, ih { table with rows := table.rows ++ [row] } columns
      (fun other member => width other (List.mem_cons_of_mem _ member))
      (fun other member => cells other (List.mem_cons_of_mem _ member))]
    simp

theorem act_examplesHeader {current : Section} {outline : ScenarioOutline}
    (above : current.outline? = some outline) {table : ExampleTable}
    (named : ∀ name ∈ table.name, name ≠ "") (number : Nat) :
    (resting true feature current table.tags).act number
      (.header .examples (table.name.getD "")) =
      resting true feature (.examples outline { name := table.name, tags := table.tags }) := by
  have name : (if (table.name.getD "").isEmpty then none else some (table.name.getD "")) =
      table.name := by
    cases given : table.name with
    | none => rfl
    | some name =>
      have filled : name.isEmpty = false := by simpa using named name given
      simp [filled]
  have rest : (resting true feature current table.tags).finishGathering =
      resting true feature current table.tags := rfl
  simp only [act, openSection, openExamples, rest]
  simp only [resting, above, name]

/-- A table of examples continues the outline above it, whether or not that has tables already. -/
theorem reads_exampleTable {allowed : Char → Prop} {table : ExampleTable}
    (valid : table.PrintableIn allowed) {current : Section} {outline : ScenarioOutline}
    (above : current.outline? = some outline) :
    (resting true feature current).Reads table.lines
      (resting true feature (.examples outline table)) := by
  have tags : (resting true feature current).Reads (tagLines table.tags)
      (resting true feature current table.tags) := reads_tagLines true feature [] valid.tags
  refine tags.append ?_
  have trimmed : Trimmed (table.name.getD "").toList := by
    cases given : table.name with
    | none => exact .nil
    | some name => exact (valid.name name given).2.trimmed
  have known : ("Examples:", Header.examples) ∈ Header.spellings := by decide
  refine .cons (role_headerLine _ known trimmed) rfl fun number => ?_
  rw [act_examplesHeader feature above fun name given => (valid.name name given).1]
  by_cases columns : table.headers = []
  · have whole : ({ name := table.name, tags := table.tags } : ExampleTable) = table := by
      have rowless := valid.rowless columns
      obtain ⟨name, tags, headers, rows⟩ := table
      simp_all
    rw [if_pos columns, whole]
    exact settles_resting ..
  · have role : (resting true feature (.examples outline
        { name := table.name, tags := table.tags })).role (rowLine table.headers) =
        .exampleRow table.headers :=
      (role_of_outside rfl _).trans
        (role_rowLine _ columns (valid.cells _ (List.mem_cons_self ..)) (.inl rfl))
    have here : (resting true feature (.examples outline
        { name := table.name, tags := table.tags })).read (number + 1) (rowLine table.headers) =
        resting true feature (.examples outline
          { name := table.name, tags := table.tags, headers := table.headers }) := by
      rw [read, role]
      rfl
    rw [if_neg columns, List.map_cons, readLines, here,
      readLines_exampleRows feature { name := table.name, tags := table.tags, headers := table.headers }
        columns valid.width (fun row member => valid.cells row (List.mem_cons_of_mem _ member))]
    exact settles_resting ..

theorem reads_exampleTables {allowed : Char → Prop} {tables : List ExampleTable}
    (valid : ∀ table ∈ tables, table.PrintableIn allowed) {current : Section}
    {outline : ScenarioOutline} (holds : current.IsOutline outline) :
    ∃ last : Section,
      last.IsOutline { outline with examples := outline.examples ++ tables } ∧
      (resting true feature current).Reads (tables.flatMap ExampleTable.lines)
        (resting true feature last) := by
  induction tables generalizing current outline with
  | nil => exact ⟨current, by simpa using holds, .nil _⟩
  | cons table rest ih =>
    have here := reads_exampleTable feature (valid table (List.mem_cons_self ..)) holds.outline?_eq
    obtain ⟨last, whole, later⟩ := ih
      (fun other member => valid other (List.mem_cons_of_mem _ member))
      (.inr ⟨outline, table, rfl, rfl⟩)
    refine ⟨last, by simpa using whole, ?_⟩
    rw [List.flatMap_cons]
    exact here.append later

/-- What has been read so far makes up the feature. -/
def Holds (reader : Reader) (feature : Feature) : Prop :=
  ∃ rest current, reader = resting true rest current ∧ current.addTo rest = feature

variable {feature : Feature}

theorem Holds.background {allowed : Char → Prop} {reader : Reader} (holds : reader.Holds feature)
    {steps : List Step} (valid : ∀ step ∈ steps, step.PrintableIn allowed) :
    ∃ later : Reader,
      later.Holds { feature with background := some (steps.map Step.unlocated) } ∧
      reader.Reads ("Background:".toList :: linesOfSteps steps) later := by
  obtain ⟨rest, current, rfl, whole⟩ := holds
  refine ⟨_, ⟨feature, .background (steps.map Step.unlocated), rfl, rfl⟩, ?_⟩
  refine .cons (role_backgroundLine _) rfl fun number => ?_
  have opened : (resting true rest current).act number (.header .background "") =
      resting true feature (.background []) := by
    simp only [act, openSection, closeSection_eq, finishGathering_finishGathering, ← whole]
    rfl
  have read : (resting true feature (.background [])).Reads (linesOfSteps steps)
      (resting true feature (.background (steps.map Step.unlocated))) :=
    reads_steps true feature [] valid rfl
  rw [opened]
  exact read _ _ (settles_resting ..)

theorem Holds.scenario {allowed : Char → Prop} {reader : Reader} (holds : reader.Holds feature)
    {scenario : Scenario} (valid : scenario.PrintableIn allowed) :
    ∃ later : Reader,
      later.Holds { feature with scenarios := feature.scenarios ++ [scenario.unlocated] } ∧
      reader.Reads scenario.lines later := by
  obtain ⟨rest, current, rfl, whole⟩ := holds
  refine ⟨_, ⟨feature, .scenario scenario.unlocated, rfl, rfl⟩, ?_⟩
  have tags : (resting true rest current).Reads (tagLines scenario.tags)
      (resting true rest current scenario.tags) := reads_tagLines true rest [] valid.tags
  have known : ("Scenario:", Header.scenario) ∈ Header.spellings := by decide
  refine tags.append (.cons (role_headerLine _ known valid.name.trimmed) rfl fun number => ?_)
  have opened : (resting true rest current scenario.tags).act number
      (.header .scenario scenario.name) =
      resting true feature (.scenario { name := scenario.name, tags := scenario.tags }) := by
    simp only [act, openSection, closeSection_eq, finishGathering_finishGathering, ← whole]
    rfl
  have read : (resting true feature (.scenario { name := scenario.name, tags := scenario.tags })).Reads
      (linesOfSteps scenario.steps) (resting true feature (.scenario scenario.unlocated)) :=
    reads_steps true feature [] valid.steps rfl
  rw [opened]
  exact read _ _ (settles_resting ..)

theorem Holds.outline {allowed : Char → Prop} {reader : Reader} (holds : reader.Holds feature)
    {outline : ScenarioOutline} (valid : outline.PrintableIn allowed) :
    ∃ later : Reader,
      later.Holds { feature with outlines := feature.outlines ++ [outline.unlocated] } ∧
      reader.Reads outline.lines later := by
  obtain ⟨rest, current, rfl, whole⟩ := holds
  let bare : ScenarioOutline :=
    { name := outline.name, tags := outline.tags, steps := outline.steps.map Step.unlocated }
  obtain ⟨last, complete, examples⟩ := reads_exampleTables feature valid.examples
    (show (Section.outline bare).IsOutline bare from .inl rfl)
  refine ⟨_, ⟨feature, last, rfl, complete.addTo_eq feature⟩, ?_⟩
  have tags : (resting true rest current).Reads (tagLines outline.tags)
      (resting true rest current outline.tags) := reads_tagLines true rest [] valid.tags
  have known : ("Scenario Outline:", Header.outline) ∈ Header.spellings := by decide
  refine tags.append (.cons (role_headerLine _ known valid.name.trimmed) rfl fun number => ?_)
  have opened : (resting true rest current outline.tags).act number
      (.header .outline outline.name) =
      resting true feature (.outline { name := outline.name, tags := outline.tags }) := by
    simp only [act, openSection, closeSection_eq, finishGathering_finishGathering, ← whole]
    rfl
  have steps : (resting true feature (.outline { name := outline.name, tags := outline.tags })).Reads
      (linesOfSteps outline.steps) (resting true feature (.outline bare)) :=
    reads_steps true feature [] valid.steps rfl
  rw [opened]
  exact steps.append examples _ _ (settles_resting ..)

theorem Holds.scenarios {allowed : Char → Prop} {scenarios : List Scenario}
    (valid : ∀ scenario ∈ scenarios, scenario.PrintableIn allowed) {reader : Reader}
    (holds : reader.Holds feature) :
    ∃ later : Reader,
      later.Holds { feature with
        scenarios := feature.scenarios ++ scenarios.map Scenario.unlocated } ∧
      reader.Reads (scenarios.flatMap Scenario.lines) later := by
  induction scenarios generalizing reader feature with
  | nil => exact ⟨reader, by simpa using holds, .nil _⟩
  | cons scenario rest ih =>
    obtain ⟨next, nextHolds, here⟩ := holds.scenario (valid scenario (List.mem_cons_self ..))
    obtain ⟨later, laterHolds, after⟩ :=
      ih (fun other member => valid other (List.mem_cons_of_mem _ member)) nextHolds
    refine ⟨later, by simpa using laterHolds, ?_⟩
    rw [List.flatMap_cons]
    exact here.append after

theorem Holds.outlines {allowed : Char → Prop} {outlines : List ScenarioOutline}
    (valid : ∀ outline ∈ outlines, outline.PrintableIn allowed) {reader : Reader}
    (holds : reader.Holds feature) :
    ∃ later : Reader,
      later.Holds { feature with
        outlines := feature.outlines ++ outlines.map ScenarioOutline.unlocated } ∧
      reader.Reads (outlines.flatMap ScenarioOutline.lines) later := by
  induction outlines generalizing reader feature with
  | nil => exact ⟨reader, by simpa using holds, .nil _⟩
  | cons outline rest ih =>
    obtain ⟨next, nextHolds, here⟩ := holds.outline (valid outline (List.mem_cons_self ..))
    obtain ⟨later, laterHolds, after⟩ :=
      ih (fun other member => valid other (List.mem_cons_of_mem _ member)) nextHolds
    refine ⟨later, by simpa using laterHolds, ?_⟩
    rw [List.flatMap_cons]
    exact here.append after

end Reader

end ScenarioRunner
