import ScenarioRunner.Proofs.Feature.Substitution

namespace ScenarioRunner

/-- The table with every header and every cell changed. -/
def DataTable.mapTexts (change : String → String) (table : DataTable) : DataTable where
  headers := table.headers.map change
  rows := table.rows.map (·.map change)

namespace Step

/-- The step with every text changed that is part of a template. -/
def mapTexts (change : String → String) (step : Step) : Step :=
  { step with
    text := change step.text
    table := step.table.map (·.mapTexts change)
    docString := step.docString.map fun doc => { doc with content := change doc.content } }

/-- The texts of a step that are part of a template. -/
def texts (step : Step) : List String :=
  step.text :: (step.table.toList.flatMap fun table => table.allRows.flatten) ++
    step.docString.toList.map (·.content)

theorem substitute_eq_mapTexts (values : RowValues) (step : Step) :
    step.substitute values = step.mapTexts (ScenarioRunner.substitute values) := rfl

theorem mapTexts_congr {step : Step} {one other : String → String}
    (same : ∀ text ∈ step.texts, one text = other text) : step.mapTexts one = step.mapTexts other := by
  obtain ⟨keyword, text, location, table, docString⟩ := step
  obtain ⟨inText, inDoc⟩ := List.forall_mem_append.mp same
  obtain ⟨here, inTable⟩ := List.forall_mem_cons.mp inText
  have tables : table.map (DataTable.mapTexts one) = table.map (DataTable.mapTexts other) := by
    cases table with
    | none => rfl
    | some table =>
      have inRow : ∀ row ∈ table.allRows, row.map one = row.map other := fun row listed =>
        List.map_congr_left fun cell inside =>
          inTable cell (by simpa using List.mem_flatten_of_mem listed inside)
      obtain ⟨headers, rows⟩ := List.forall_mem_cons.mp inRow
      simp only [Option.map_some, DataTable.mapTexts, headers, List.map_congr_left rows]
  have docs : docString.map (fun doc => { doc with content := one doc.content }) =
      docString.map fun doc => { doc with content := other doc.content } := by
    cases docString with
    | none => rfl
    | some doc =>
      have content : one doc.content = other doc.content := inDoc _ (List.mem_singleton_self _)
      rw [Option.map_some, Option.map_some, content]
  simp only [mapTexts, tables, docs, here]

end Step

namespace ScenarioOutline

/-- The columns of every table can be referred to, and every row has a value for each of them. -/
structure Tabular (outline : ScenarioOutline) : Prop where
  names : ∀ table ∈ outline.examples, ColumnNames table.headers
  full : ∀ table ∈ outline.examples, ∀ row ∈ table.rows, row.length = table.headers.length

theorem map_steps_scenarios (outline : ScenarioOutline) : outline.scenarios.map (·.steps) =
    outline.examples.flatMap fun table => table.rows.map fun row =>
      outline.steps.map (·.substitute (table.headers.zip row)) := by
  have inTable (table : ExampleTable) (tableIndex : Nat) :
      (table.rows.zipIdx.map fun entry =>
        (outline.instantiate table tableIndex entry.1 entry.2).steps) =
      table.rows.map fun row => outline.steps.map (·.substitute (table.headers.zip row)) := by
    conv_rhs => rw [← List.zipIdx_map_fst 0 table.rows, List.map_map]
    rfl
  conv_rhs => rw [← List.zipIdx_map_fst 0 outline.examples, List.flatMap_map]
  rw [scenarios, List.map_flatMap]
  refine List.flatMap_congr fun entry _ => ?_
  rw [List.map_map]
  exact inTable entry.1 entry.2

/-- Expanding an outline fills in every reference to a column unless one stands inside of a reference
that names no column, and then there are rows for which it does not. -/
theorem scenarios_substituted {outline : ScenarioOutline} (tabular : outline.Tabular) :
    ((∀ table ∈ outline.examples, ∀ step ∈ outline.steps, ∀ text ∈ step.texts,
        ¬ HidesColumn table.headers text) →
      outline.scenarios.map (·.steps) =
        outline.examples.flatMap fun table => table.rows.map fun row =>
          outline.steps.map (·.mapTexts (substituteEvery (table.headers.zip row)))) ∧
    ∀ table ∈ outline.examples, ∀ text,
      (∀ row, row.length = table.headers.length →
        substitute (table.headers.zip row) text = substituteEvery (table.headers.zip row) text) ↔
      ¬ HidesColumn table.headers text := by
  constructor
  · intro plain
    rw [map_steps_scenarios]
    refine List.flatMap_congr fun table listed => List.map_congr_left fun row inTable =>
      List.map_congr_left fun step inOutline => ?_
    rw [step.substitute_eq_mapTexts]
    refine Step.mapTexts_congr fun text inStep => ?_
    exact substitute_of_not_hides (tabular.names table listed) (tabular.full table listed row inTable)
      (plain table listed step inOutline text inStep)
  · intro table listed text
    constructor
    · intro same hidden
      obtain ⟨row, full, differs⟩ := substitute_of_hides (tabular.names table listed) hidden
      exact differs (same row full)
    · exact fun plain row full => substitute_of_not_hides (tabular.names table listed) full plain

theorem scenarios_substituted_row :
    ∃ outline : ScenarioOutline, outline.Tabular ∧
      (∀ table ∈ outline.examples, ∀ step ∈ outline.steps, ∀ text ∈ step.texts,
        ¬ HidesColumn table.headers text) ∧
      outline.scenarios.map (·.steps.map (·.text)) = [["take 2 plums of <m>"]] := by
  obtain ⟨outline, shape⟩ : ∃ outline : ScenarioOutline, outline =
      ⟨"o", [], [⟨.context, "take <n> \x7bwhat\x7d of <m>", none, none, none⟩],
        [⟨none, [], ["n", "what"], [["2", "plums"]]⟩]⟩ := ⟨_, rfl⟩
  have tabular : outline.Tabular := by
    rw [shape]
    exact ⟨List.forall_mem_singleton.mpr (columnNames_of_all (by decide) (by decide)), by decide⟩
  have plain : ∀ table ∈ outline.examples, ∀ step ∈ outline.steps, ∀ text ∈ step.texts,
      ¬ HidesColumn table.headers text := by
    rw [shape]
    decide +kernel
  have filled := congrArg (List.map (List.map (·.text))) ((scenarios_substituted tabular).1 plain)
  rw [List.map_map] at filled
  refine ⟨outline, tabular, plain, ?_⟩
  rw [show outline.scenarios.map (·.steps.map (·.text)) = _ from filled, shape]
  decide +kernel

/-- `<a>` stands inside of `{x <a>}`, which names no column, and stays as it is. -/
theorem scenarios_hidden_column :
    ∃ outline : ScenarioOutline, outline.Tabular ∧
      outline.examples.map (fun table => (table.headers, table.rows)) = [(["a"], [["1"]])] ∧
      outline.steps.map (·.text) = ["\x7bx <a>\x7d"] ∧
      outline.scenarios.map (·.steps.map (·.text)) = [["\x7bx <a>\x7d"]] ∧
      substituteEvery [("a", "1")] "\x7bx <a>\x7d" = "\x7bx 1\x7d" := by
  refine ⟨⟨"o", [], [⟨.context, "\x7bx <a>\x7d", none, none, none⟩],
    [⟨none, [], ["a"], [["1"]]⟩]⟩, ?_, rfl, rfl, ?_, ?_⟩
  · exact ⟨List.forall_mem_singleton.mpr (columnNames_of_all (by decide) (by decide)), by decide⟩
  · decide +kernel
  · decide +kernel

end ScenarioOutline

end ScenarioRunner
