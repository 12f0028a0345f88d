import ScenarioRunner.Feature.Basic

namespace ScenarioRunner

/-- A stretch of an outline's text: one character that stands for itself, or a reference to a
column between `opening` and its counterpart. -/
inductive OutlinePiece where
  | plain (c : Char)
  | reference (opening : Char) (column : List Char)
  deriving DecidableEq, Repr

/-- The bracket that closes a reference opened by `c`. -/
def closingBracket? (c : Char) : Option Char :=
  if c = '<' then some '>' else if c = '\x7b' then some '\x7d' else none

/-- Reads a column name up to its closing bracket. A name is not empty, stays on its line and holds
neither of its brackets. -/
def columnName? (opening closing : Char) (text : List Char) : Option (List Char × List Char) :=
  let isNamed := fun c => c != opening && c != closing && c != '\n'
  match text.takeWhile isNamed, text.dropWhile isNamed with
  | [], _ => none
  | _ :: _, [] => none
  | name@(_ :: _), c :: rest => if c = closing then some (name, rest) else none

theorem columnName?_length {opening closing : Char} {text name rest : List Char}
    (h : columnName? opening closing text = some (name, rest)) : rest.length < text.length := by
  have whole := List.takeWhile_append_dropWhile
    (p := fun c => c != opening && c != closing && c != '\n') (l := text)
  unfold columnName? at h
  simp only at h
  split at h
  · cases h
  · cases h
  · rename_i first names c tail taken dropped
    split at h
    · cases h
      rw [← whole, taken, dropped]
      simp
      omega
    · cases h

/-- Reads a reference right after its opening bracket, and what follows it. -/
def reference? (opening : Char) (text : List Char) : Option (List Char × List Char) :=
  (closingBracket? opening).bind fun closing => columnName? opening closing text

theorem reference?_length {opening : Char} {text name rest : List Char}
    (h : reference? opening text = some (name, rest)) : rest.length < text.length := by
  obtain ⟨closing, _, found⟩ := Option.bind_eq_some_iff.1 h
  exact columnName?_length found

/-- Splits a text from left to right; a bracket that opens no reference stands for itself. -/
def outlinePieces : List Char → List OutlinePiece
  | [] => []
  | c :: rest =>
    match _h : reference? c rest with
    | some (name, after) => .reference c name :: outlinePieces after
    | none => .plain c :: outlinePieces rest
termination_by text => text.length
decreasing_by
  · have := reference?_length _h
    simp only [List.length_cons]
    omega
  · simp

/-- Column names of an example table with the values of one row. -/
abbrev RowValues := List (String × String)

/-- A reference to a column becomes its value; any other piece stays as it was written. -/
def OutlinePiece.fill (values : RowValues) : OutlinePiece → List Char
  | .plain c => [c]
  | .reference opening column =>
    match values.lookup (String.ofList column) with
    | some value => value.toList
    | none => opening :: column ++ (closingBracket? opening).toList

/-- Fills all references in one pass, so that values are never read as references themselves. -/
def substitute (values : RowValues) (text : String) : String :=
  String.ofList ((outlinePieces text.toList).flatMap (·.fill values))

def DataTable.substitute (values : RowValues) (table : DataTable) : DataTable where
  headers := table.headers.map (ScenarioRunner.substitute values)
  rows := table.rows.map (·.map (ScenarioRunner.substitute values))

/-- Fills text, table cells and doc string; the media type is not part of the template. -/
def Step.substitute (values : RowValues) (step : Step) : Step :=
  { step with
    text := ScenarioRunner.substitute values step.text
    table := step.table.map (·.substitute values)
    docString := step.docString.map fun doc =>
      { doc with content := ScenarioRunner.substitute values doc.content } }

/-- The table's own name, or its position counted from one. -/
def ExampleTable.label (table : ExampleTable) (index : Nat) : String :=
  table.name.getD ("Example " ++ toString (index + 1))

namespace ScenarioOutline

/-- The scenario for one row of one table. -/
def instantiate (outline : ScenarioOutline) (table : ExampleTable) (tableIndex : Nat)
    (row : List String) (rowIndex : Nat) : Scenario where
  name := outline.name ++ " (" ++ table.label tableIndex ++ " #" ++ toString (rowIndex + 1) ++ ")"
  tags := (outline.tags ++ table.tags).eraseDups
  steps := outline.steps.map (·.substitute (table.headers.zip row))

/-- One scenario per row, table after table. -/
def scenarios (outline : ScenarioOutline) : List Scenario :=
  outline.examples.zipIdx.flatMap fun (table, tableIndex) =>
    table.rows.zipIdx.map fun (row, rowIndex) =>
      outline.instantiate table tableIndex row rowIndex

/-- The rows of all tables, each of which gives one scenario. -/
def rows (outline : ScenarioOutline) : List (List String) := outline.examples.flatMap (·.rows)

end ScenarioOutline

namespace Feature

/-- The plain scenarios, then those of the outlines. -/
def allScenarios (feature : Feature) : List Scenario :=
  feature.scenarios ++ feature.outlines.flatMap ScenarioOutline.scenarios

/-- How many scenarios there are, without expanding any outline. -/
def scenarioCount (feature : Feature) : Nat :=
  feature.scenarios.length + (feature.outlines.flatMap ScenarioOutline.rows).length

/-- How many steps the scenarios have, without expanding any outline or counting the background. -/
def stepCount (feature : Feature) : Nat :=
  (feature.scenarios.flatMap (·.steps)).length +
    (feature.outlines.flatMap fun outline => outline.rows.flatMap fun _ => outline.steps).length

end Feature

end ScenarioRunner
