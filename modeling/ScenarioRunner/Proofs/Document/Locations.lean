import ScenarioRunner.Proofs.Document.ReadRoles
import ScenarioRunner.Proofs.Document.StepLines
import ScenarioRunner.Proofs.Feature.Outline
import ScenarioRunner.Proofs.Plan.Groups
import ScenarioRunner.Proofs.Plan.Names

namespace ScenarioRunner

theorem step_of_plainRole {describing : Bool} {line : List Char} {keyword : StepKeyword} {text : String}
    (step : Reader.plainRole describing line = .step keyword text) :
    readStep? line = some (keyword, text) := by
  unfold Reader.plainRole at step
  split at step
  · cases step
  · split at step
    · cases step
    · split at step
      · cases step
      · cases header : Header.read? line with
        | some found => simp [header] at step
        | none =>
          cases read : readStep? line with
          | some found =>
            rw [header, read] at step
            cases step
            rfl
          | none => cases describing <;> simp [header, read] at step

theorem Reader.step_of_role {reader : Reader} {raw : List Char} {keyword : StepKeyword} {text : String}
    (step : reader.role raw = .step keyword text) : readStep? (trim raw) = some (keyword, text) := by
  cases inside : reader.openMark? with
  | some mark =>
    rw [role_of_inside inside] at step
    split at step <;> cases step
  | none =>
    rw [role_of_outside inside, Setting.role] at step
    split at step
    · cases step
    · split at step
      · cases step
      · split at step
        · cases step
        · exact step_of_plainRole step

namespace Step

def lineNumber? (step : Step) : Option Nat := step.location.map (·.line)

/-- The step stands on an earlier line than the other one. -/
def Above (step other : Step) : Prop :=
  ∃ m n, step.lineNumber? = some m ∧ other.lineNumber? = some n ∧ m < n

/-- But for the blanks around it, the line is the keyword of the step, blanks, and its text. -/
def WrittenOn (step : Step) (line : List Char) : Prop :=
  ∃ blanks, trim line = step.keyword.text.toList ++ blanks ++ step.text.toList ∧ blanks ≠ [] ∧
    (∀ c ∈ blanks, isBlank c = true) ∧ step.text ≠ "" ∧ Trimmed step.text.toList

end Step

theorem Step.writtenOn_of_role {reader : Reader} {line : List Char} {step : Step}
    (role : reader.role line = .step step.keyword step.text) : step.WrittenOn line := by
  have read := Reader.step_of_role role
  obtain ⟨blanks, whole, gap, blank, filled, _⟩ := readStep?_eq_some read
  exact ⟨blanks, whole, gap, blank, filled, readStep?_trimmed (trimmed_trim line) read⟩

/-- A step that lines tell stands on one of them. -/
theorem mem_stepLines {path : Option SourcePath} {reader : Reader} {number : Nat}
    {lines : List (List Char)} {step : Step}
    (told : step ∈ stepLines path number (reader.roles number lines)) :
    ∃ i line, lines[i]? = some line ∧ step.location = path.map (⟨·, number + i⟩) ∧
      step.WrittenOn line := by
  induction lines generalizing reader number with
  | nil => cases told
  | cons line rest ih =>
    rcases List.mem_append.mp told with here | later
    · obtain ⟨keyword, text, role, rfl⟩ := LineRole.step?_eq_some (Option.mem_toList.mp here)
      exact ⟨0, line, rfl, rfl, Step.writtenOn_of_role role⟩
    · obtain ⟨i, line, known, location, written⟩ := ih later
      refine ⟨i + 1, line, known, ?_, written⟩
      rw [location, Nat.add_assoc, Nat.add_comm 1 i]

theorem pairwise_stepLines (path : SourcePath) (number : Nat) (roles : List LineRole) :
    (stepLines (some path) number roles).Pairwise Step.Above ∧
      ∀ step ∈ stepLines (some path) number roles, ∃ n, step.lineNumber? = some n ∧ number ≤ n := by
  induction roles generalizing number with
  | nil => exact ⟨.nil, List.forall_mem_nil _⟩
  | cons role later ih =>
    obtain ⟨ordered, below⟩ := ih (number + 1)
    cases found : role.step? (some path) number with
    | none =>
      rw [stepLines, found]
      refine ⟨ordered, fun step told => ?_⟩
      obtain ⟨n, known, lower⟩ := below step told
      exact ⟨n, known, Nat.le_of_succ_le lower⟩
    | some told =>
      obtain ⟨keyword, text, _, rfl⟩ := LineRole.step?_eq_some found
      rw [stepLines, found]
      refine ⟨List.pairwise_cons.mpr ⟨fun step told => ?_, ordered⟩,
        List.forall_mem_cons.mpr ⟨⟨number, rfl, Nat.le_refl number⟩, fun step told => ?_⟩⟩
      · obtain ⟨n, known, lower⟩ := below step told
        exact ⟨number, n, rfl, known, lower⟩
      · obtain ⟨n, known, lower⟩ := below step told
        exact ⟨n, known, Nat.le_of_succ_le lower⟩

/-- The steps of a document of these lines say where they stand. -/
structure Feature.LocatedIn (path : SourcePath) (lines : List (List Char)) (feature : Feature) :
    Prop where
  placed : ∀ step ∈ feature.steps, ∃ n, step.location = some ⟨path, n⟩ ∧ 1 ≤ n ∧ n ≤ lines.length ∧
    ∃ line ∈ lines[n - 1]?, step.WrittenOn line
  background : feature.backgroundSteps.Pairwise Step.Above
  scenarios : (feature.scenarios.flatMap (·.steps)).Pairwise Step.Above
  outlines : (feature.outlines.flatMap (·.steps)).Pairwise Step.Above
  /-- No two steps share a line. -/
  distinct : (feature.steps.map Step.lineNumber?).Nodup

theorem exists_line_of_mem_steps {path : Option SourcePath} {text : String} {step : Step}
    (member : step ∈ (readFeature path text).steps) :
    ∃ i line, (linesOf text.toList)[i]? = some line ∧ step.location = path.map (⟨·, 1 + i⟩) ∧
      step.WrittenOn line := by
  have told := (collect_readFeature isPart_subperm selects_steps path text).subset
    (List.mem_map_of_mem member)
  obtain ⟨i, line, known, location, written⟩ := mem_stepLines told
  exact ⟨i, line, known, location, written⟩

/-- Steps that are collected in their order stand below each other. -/
theorem pairwise_collect {collect : Feature → List Step} (selects : Selects List.Sublist collect)
    (path : SourcePath) (text : String) :
    (collect (readFeature (some path) text)).Pairwise Step.Above := by
  have part := collect_readFeature isPart_sublist selects (some path) text
  have ordered := (pairwise_stepLines path 1 _).1.sublist part
  rw [List.pairwise_map] at ordered
  exact ordered

theorem Step.Above.lineNumber?_ne {a b : Step} (above : a.Above b) :
    a.lineNumber? ≠ b.lineNumber? := by
  obtain ⟨m, n, first, second, less⟩ := above
  rw [first, second]
  exact fun same => Nat.ne_of_lt less (Option.some.inj same)

theorem nodup_lineNumber?_steps (path : SourcePath) (text : String) :
    ((readFeature (some path) text).steps.map Step.lineNumber?).Nodup := by
  obtain ⟨told, same, part⟩ := collect_readFeature isPart_subperm selects_steps (some path) text
  have apart := ((pairwise_stepLines path 1 _).1.sublist part).imp Step.Above.lineNumber?_ne
  have distinct := (same.map Step.lineNumber?).nodup_iff.mp (List.pairwise_map.mpr apart)
  rwa [List.map_map] at distinct

theorem locatedIn_readFeature (path : SourcePath) (text : String) :
    (readFeature (some path) text).LocatedIn path (linesOf text.toList) where
  placed := by
    intro step member
    obtain ⟨i, line, known, location, written⟩ := exists_line_of_mem_steps member
    obtain ⟨inside, _⟩ := List.getElem?_eq_some_iff.mp known
    refine ⟨1 + i, location, Nat.le_add_right 1 i, by omega, line, ?_, written⟩
    rwa [Nat.add_sub_cancel_left]
  background := pairwise_collect selects_background path text
  scenarios := pairwise_collect selects_scenarios path text
  outlines := pairwise_collect selects_outlines path text
  distinct := nodup_lineNumber?_steps path text

/-- The steps that each scenario of a feature is made from. -/
def Feature.templates (feature : Feature) : List (List Step) :=
  feature.scenarios.map (·.steps) ++
    feature.outlines.flatMap fun outline => outline.rows.map fun _ => outline.steps

theorem ScenarioOutline.map_location_scenarios (outline : ScenarioOutline) :
    outline.scenarios.map (·.steps.map (·.location)) =
      outline.rows.map fun _ => outline.steps.map (·.location) := by
  have steps := congrArg (List.map (List.map (·.location))) outline.map_steps_scenarios
  rw [List.map_map] at steps
  refine steps.trans ?_
  rw [rows, List.map_flatMap, List.map_flatMap]
  refine List.flatMap_congr fun table _ => ?_
  rw [List.map_map]
  refine List.map_congr_left fun row _ => ?_
  exact List.map_map

theorem map_steps_cases (feature : Feature) :
    (TestGroup.ofFeature feature).cases.map (·.steps) = feature.allScenarios.map (·.steps) := by
  have long : (uniqueNames [] (feature.allScenarios.map (·.name))).length =
      feature.allScenarios.length := by
    rw [length_uniqueNames, List.length_map]
  have pairs := congrArg (List.map Scenario.steps) (List.map_snd_zip (Nat.le_of_eq long.symm))
  rw [List.map_map] at pairs
  rw [TestGroup.ofFeature, List.map_zipWith, ← List.map_uncurry_zip_eq_zipWith]
  exact pairs

/-- The cases of a group have the steps of the templates of its feature, at the same places. -/
theorem map_location_cases (feature : Feature) :
    (TestGroup.ofFeature feature).cases.map (·.steps.map (·.location)) =
      feature.templates.map (·.map (·.location)) := by
  have steps := congrArg (List.map (List.map Step.location)) (map_steps_cases feature)
  rw [List.map_map, List.map_map] at steps
  refine steps.trans ?_
  rw [Feature.allScenarios, Feature.templates, List.map_append, List.map_append, List.map_map,
    List.map_flatMap, List.map_flatMap]
  refine congrArg _ (List.flatMap_congr fun outline _ => ?_)
  rw [List.map_map]
  exact outline.map_location_scenarios

/-- The cases of the plan are made from the features, and each step is at the place of the step it was
made from. -/
def TestPlan.KeepsLocations (plan : TestPlan) (features : List Feature) : Prop :=
  ∀ pair ∈ plan.allCases, pair.2 ∈ pair.1.cases ∧ ∃ feature ∈ features,
    pair.1.background = feature.backgroundSteps ∧
      pair.1.cases.map (·.steps.map (·.location)) = feature.templates.map (·.map (·.location))

theorem keepsLocations_build (builder : PlanBuilder) (features : List Feature) :
    (builder.build features).KeepsLocations features := by
  intro pair member
  obtain ⟨feature, known, inside⟩ :=
    List.mem_flatMap.mp ((builder.perm_allCases features).mem_iff.mp member)
  obtain ⟨case, listed, rfl⟩ := List.mem_map.mp inside
  exact ⟨listed, feature, known, rfl, map_location_cases feature⟩

/-- Wherever a step of a document ends up, it says on which line it stands. -/
theorem readFeature_locates (text : String) :
    (∀ path, (readFeature (some path) text).LocatedIn path (linesOf text.toList)) ∧
      (∀ step ∈ (readFeature none text).steps, step.location = none) ∧
      (∀ outline : ScenarioOutline, ∀ scenario ∈ outline.scenarios,
        scenario.steps.map (·.location) = outline.steps.map (·.location)) ∧
      ∀ (builder : PlanBuilder) (features : List Feature),
        (builder.build features).KeepsLocations features := by
  refine ⟨fun path => locatedIn_readFeature path text, fun step member => ?_,
    fun outline scenario member => ?_, keepsLocations_build⟩
  · obtain ⟨_, _, _, location, _⟩ := exists_line_of_mem_steps member
    exact location
  · have listed := List.mem_map_of_mem (f := (·.steps.map (·.location))) member
    rw [outline.map_location_scenarios] at listed
    obtain ⟨_, _, same⟩ := List.mem_map.mp listed
    exact same.symm

end ScenarioRunner
