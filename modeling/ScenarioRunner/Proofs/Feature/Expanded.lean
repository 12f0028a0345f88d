import Mathlib.Algebra.BigOperators.Group.List.Basic
import Mathlib.Algebra.GroupWithZero.Nat
import Mathlib.Algebra.Order.Group.Nat
import Mathlib.Data.List.Forall2
import ScenarioRunner.Proofs.Deduplicated
import ScenarioRunner.Proofs.Feature.Outline

namespace ScenarioRunner

/-- Both lists in one, each element once and where it occurs first. -/
structure Merged {α : Type} [BEq α] (first second merged : List α) : Prop where
  mem_iff : ∀ a, a ∈ merged ↔ a ∈ first ∨ a ∈ second
  ordered : merged.Pairwise fun a b => (first ++ second).idxOf a < (first ++ second).idxOf b
  nodup : merged.Nodup

theorem merged_eraseDups {α : Type} [BEq α] [LawfulBEq α] (first second : List α) :
    Merged first second (first ++ second).eraseDups where
  mem_iff _ := List.mem_eraseDups.trans List.mem_append
  ordered := pairwise_eraseDups _
  nodup := (pairwise_eraseDups _).imp fun before same => before.ne (congrArg ((first ++ second).idxOf ·) same)

/-- How many headers there are, and how many cells in each row. -/
def DataTable.dimensions (table : DataTable) : Nat × List Nat :=
  (table.headers.length, table.rows.map List.length)

/-- All that filling in values leaves as it is. -/
structure Step.SameShape (template step : Step) : Prop where
  keyword : step.keyword = template.keyword
  location : step.location = template.location
  mediaType : step.docString.map DocString.mediaType = template.docString.map DocString.mediaType
  dimensions : step.table.map DataTable.dimensions = template.table.map DataTable.dimensions

theorem Step.sameShape_substitute (values : RowValues) (step : Step) :
    step.SameShape (step.substitute values) := by
  obtain ⟨keyword, text, location, table, docString⟩ := step
  refine ⟨rfl, rfl, ?_, ?_⟩
  · cases docString <;> rfl
  · cases table <;> simp [Step.substitute, DataTable.substitute, DataTable.dimensions]

/-- Where a row stands: the positions of its outline, its table and the row itself. -/
structure RowAddress where
  outline : Nat
  table : Nat
  row : Nat
  deriving DecidableEq, Repr

/-- Outline by outline, in it table by table, and in that row by row. -/
def RowAddress.Before (a b : RowAddress) : Prop :=
  a.outline < b.outline ∨ a.outline = b.outline ∧ (a.table < b.table ∨ a.table = b.table ∧ a.row < b.row)

/-- The row that stands at an address, with its table and its outline. -/
structure Feature.RowAt (feature : Feature) (address : RowAddress) (outline : ScenarioOutline)
    (table : ExampleTable) (row : List String) : Prop where
  inFeature : feature.outlines[address.outline]? = some outline
  inOutline : outline.examples[address.table]? = some table
  inTable : table.rows[address.row]? = some row

/-- A scenario that is made of an outline for one row. -/
structure ScenarioOutline.Shapes (outline : ScenarioOutline) (table : ExampleTable)
    (address : RowAddress) (scenario : Scenario) : Prop where
  named : ∀ name, table.name = some name →
    scenario.name = outline.name ++ " (" ++ name ++ " #" ++ toString (address.row + 1) ++ ")"
  unnamed : table.name = none → scenario.name = outline.name ++ " (Example " ++
    toString (address.table + 1) ++ " #" ++ toString (address.row + 1) ++ ")"
  tags : Merged outline.tags table.tags scenario.tags
  steps : List.Forall₂ Step.SameShape outline.steps scenario.steps

theorem ScenarioOutline.shapes_instantiate (outline : ScenarioOutline) (table : ExampleTable)
    (address : RowAddress) (row : List String) :
    outline.Shapes table address (outline.instantiate table address.table row address.row) where
  named name known := by simp [instantiate, ExampleTable.label, known]
  unnamed none := by
    have joined (text : String) : " (" ++ ("Example " ++ text) = " (Example " ++ text :=
      (String.append_assoc ..).symm
    simp [instantiate, ExampleTable.label, none, String.append_assoc, joined]
  tags := merged_eraseDups _ _
  steps := List.forall₂_map_right_iff.mpr
    (List.forall₂_same.mpr fun step _ => step.sameShape_substitute _)

theorem pairwise_zipIdx {α : Type} (list : List α) : list.zipIdx.Pairwise fun a b => a.2 < b.2 := by
  rw [← List.pairwise_map (f := Prod.snd) (R := (· < ·)), List.zipIdx_map_snd]
  exact List.pairwise_lt_range' 1

theorem zipIdx_flatMap_fst {α β : Type} (list : List α) (f : α → List β) :
    (list.zipIdx.flatMap fun entry => f entry.1) = list.flatMap f := by
  conv_rhs => rw [← List.zipIdx_map_fst 0 list, List.flatMap_map]

namespace Feature

/-- The scenarios that are made of outlines, each with the address of its row. -/
def expansions (feature : Feature) : List (RowAddress × Scenario) :=
  feature.outlines.zipIdx.flatMap fun (outline, outlineIndex) =>
    outline.examples.zipIdx.flatMap fun (table, tableIndex) =>
      table.rows.zipIdx.map fun (row, rowIndex) =>
        (⟨outlineIndex, tableIndex, rowIndex⟩, outline.instantiate table tableIndex row rowIndex)

theorem map_snd_expansions (feature : Feature) :
    feature.expansions.map Prod.snd = feature.outlines.flatMap ScenarioOutline.scenarios := by
  rw [← zipIdx_flatMap_fst, expansions, List.map_flatMap]
  refine List.flatMap_congr fun outline _ => ?_
  rw [ScenarioOutline.scenarios, List.map_flatMap]
  refine List.flatMap_congr fun table _ => ?_
  rw [List.map_map]
  rfl

theorem mem_expansions_iff {feature : Feature} {address : RowAddress} {scenario : Scenario} :
    (address, scenario) ∈ feature.expansions ↔ ∃ outline table row,
      feature.RowAt address outline table row ∧
        scenario = outline.instantiate table address.table row address.row := by
  simp only [expansions, List.mem_flatMap, List.mem_map, List.mem_zipIdx_iff_getElem?, Prod.exists]
  constructor
  · rintro ⟨outline, i, atOutline, table, j, atTable, row, k, atRow, same⟩
    cases same
    exact ⟨outline, table, row, ⟨atOutline, atTable, atRow⟩, rfl⟩
  · rintro ⟨outline, table, row, ⟨atOutline, atTable, atRow⟩, rfl⟩
    exact ⟨outline, _, atOutline, table, _, atTable, row, _, atRow, rfl⟩

theorem pairwise_expansions (feature : Feature) :
    feature.expansions.Pairwise fun a b => a.1.Before b.1 := by
  refine List.pairwise_flatMap.mpr ⟨fun outline _ => List.pairwise_flatMap.mpr
    ⟨fun table _ => ?_, ?_⟩, ?_⟩
  · refine List.pairwise_map.mpr ((pairwise_zipIdx table.1.rows).imp fun before => ?_)
    exact .inr ⟨rfl, .inr ⟨rfl, before⟩⟩
  · refine (pairwise_zipIdx outline.1.examples).imp fun before one first other second => ?_
    obtain ⟨_, _, rfl⟩ := List.mem_map.mp first
    obtain ⟨_, _, rfl⟩ := List.mem_map.mp second
    exact .inr ⟨rfl, .inl before⟩
  · refine (pairwise_zipIdx feature.outlines).imp fun before one first other second => ?_
    obtain ⟨_, _, inFirst⟩ := List.mem_flatMap.mp first
    obtain ⟨_, _, inSecond⟩ := List.mem_flatMap.mp second
    obtain ⟨_, _, rfl⟩ := List.mem_map.mp inFirst
    obtain ⟨_, _, rfl⟩ := List.mem_map.mp inSecond
    exact .inl before

/-- The scenarios of a feature are the plain ones and then one for each row of its outlines, and both
counts agree with them. -/
structure Expands (feature : Feature) : Prop where
  scenarios : ∃ expansions : List (RowAddress × Scenario),
    feature.allScenarios = feature.scenarios ++ expansions.map Prod.snd ∧
    (expansions.Pairwise fun a b => a.1.Before b.1) ∧
    (∀ address, address ∈ expansions.map Prod.fst ↔
      ∃ outline table row, feature.RowAt address outline table row) ∧
    ∀ address scenario, (address, scenario) ∈ expansions → ∃ outline table row,
      feature.RowAt address outline table row ∧ outline.Shapes table address scenario
  scenarioCount : feature.scenarioCount = feature.allScenarios.length
  scenarioCount_eq : feature.scenarioCount = feature.scenarios.length +
    (feature.outlines.map fun outline => (outline.examples.map (·.rows.length)).sum).sum
  stepCount : feature.stepCount = (feature.allScenarios.map (·.steps.length)).sum
  stepCount_eq : feature.stepCount = (feature.scenarios.map (·.steps.length)).sum +
    (feature.outlines.map fun outline =>
      outline.steps.length * (outline.examples.map (·.rows.length)).sum).sum

theorem scenarioCount_eq_sum (feature : Feature) :
    feature.scenarioCount = feature.scenarios.length +
      (feature.outlines.map fun outline => (outline.examples.map (·.rows.length)).sum).sum := by
  simp only [scenarioCount, List.length_flatMap, ScenarioOutline.rows]

theorem stepCount_eq_sum (feature : Feature) :
    feature.stepCount = (feature.scenarios.map (·.steps.length)).sum +
      (feature.outlines.map fun outline =>
        outline.steps.length * (outline.examples.map (·.rows.length)).sum).sum := by
  simp only [stepCount, List.length_flatMap, ScenarioOutline.rows, List.map_const',
    List.sum_replicate_nat, Nat.mul_comm]

end Feature

/-- Each row of an outline gives as many steps as the outline has. -/
theorem ScenarioOutline.map_length_steps_scenarios (outline : ScenarioOutline) :
    outline.scenarios.map (·.steps.length) = outline.rows.map fun _ => outline.steps.length := by
  have lengths := congrArg (List.map List.length) outline.map_steps_scenarios
  simpa [rows, List.map_flatMap, Function.comp_def] using lengths

theorem ScenarioOutline.length_scenarios (outline : ScenarioOutline) :
    outline.scenarios.length = outline.rows.length := by
  simpa using congrArg List.length outline.map_length_steps_scenarios

namespace Feature

theorem scenarioCount_eq_length (feature : Feature) :
    feature.scenarioCount = feature.allScenarios.length := by
  simp only [scenarioCount, allScenarios, List.length_append, List.length_flatMap,
    ScenarioOutline.length_scenarios]

theorem stepCount_eq_total (feature : Feature) :
    feature.stepCount = (feature.allScenarios.map (·.steps.length)).sum := by
  have expanded : (feature.outlines.flatMap ScenarioOutline.scenarios).map (·.steps.length) =
      (feature.outlines.map fun outline => outline.rows.map fun _ => outline.steps.length).flatten := by
    simp only [List.map_flatMap, ScenarioOutline.map_length_steps_scenarios]
    rfl
  rw [allScenarios, List.map_append, List.sum_append, expanded, List.sum_flatten]
  simp only [stepCount, List.length_flatMap, List.map_map, Function.comp_def]

/-- The scenarios of a feature are its own and one for each row of its outlines, shaped by the outline and
in the order of the rows, and they are as many, with as many steps, as is counted without them. -/
theorem expands (feature : Feature) : feature.Expands where
  scenarios := by
    refine ⟨feature.expansions, ?_, feature.pairwise_expansions, fun address => ?_, ?_⟩
    · rw [allScenarios, map_snd_expansions]
    · simp only [List.mem_map, Prod.exists, exists_and_right, exists_eq_right, mem_expansions_iff]
      exact ⟨fun ⟨_, outline, table, row, at_, _⟩ => ⟨outline, table, row, at_⟩,
        fun ⟨outline, table, row, at_⟩ => ⟨_, outline, table, row, at_, rfl⟩⟩
    · intro address scenario member
      obtain ⟨outline, table, row, at_, rfl⟩ := mem_expansions_iff.mp member
      exact ⟨outline, table, row, at_, outline.shapes_instantiate table address row⟩
  scenarioCount := feature.scenarioCount_eq_length
  scenarioCount_eq := feature.scenarioCount_eq_sum
  stepCount := feature.stepCount_eq_total
  stepCount_eq := feature.stepCount_eq_sum

end Feature

end ScenarioRunner
