import ScenarioRunner.Proofs.Document.Mirrored

namespace ScenarioRunner

/-- The section without the places its steps were read from. -/
def Section.unlocated : Section → Section
  | background steps => background (steps.map Step.unlocated)
  | scenario s => scenario s.unlocated
  | outline o => outline o.unlocated
  | examples o table => examples o.unlocated table
  | start => start
  | feature describing => feature describing

theorem Section.unlocated_eq_relocated (current : Section) :
    current.unlocated = current.relocated fun _ => none := by
  cases current <;> rfl

namespace Reader

/-- The reader without the places that steps were read from. It also gives none to later steps. -/
def unlocated (reader : Reader) : Reader :=
  { reader with
    path := none
    feature := reader.feature.unlocated
    current := reader.current.unlocated }

theorem relation_unlocated :
    Relation (fun _ => none) (fun feature bare : Feature => bare = feature.unlocated) where
  addTo := by
    rintro feature _ current rfl
    cases current <;>
      simp [Section.relocated, Section.addTo, Feature.unlocated, Scenario.unlocated,
        Scenario.relocated, ScenarioOutline.unlocated, ScenarioOutline.relocated, Step.unlocated,
        Step.relocated]
  header := by
    rintro feature _ title tags rfl
    rfl
  description := by
    intro reader bare line same
    simp [addDescription, same, Feature.unlocated]

theorem mirrors_unlocated (reader : Reader) (shift : Nat) :
    Mirrors (fun _ => none) (· + shift) (fun feature bare => bare = feature.unlocated) reader
      reader.unlocated where
  feature := rfl
  current := reader.current.unlocated_eq_relocated
  gathering := rfl
  pendingTags := rfl
  placed := fun _ => rfl

/-- What lines say has nothing to do with the places of the steps, nor with the numbers of the lines. -/
theorem unlocated_finish_readLines (reader : Reader) (number shift : Nat) (lines : List (List Char)) :
    (reader.readLines number lines).finish.unlocated =
      (reader.unlocated.readLines (number + shift) lines).finish :=
  (((reader.mirrors_unlocated shift).readLines relation_unlocated number lines).finish
    relation_unlocated).symm

end Reader

end ScenarioRunner
