import ScenarioRunner.Proofs.Document.Continued

namespace ScenarioRunner

namespace Header

/-- A background leaves the tags above it to the next header. -/
def takesTags (header : Header) : Bool := header != .background

/-- Examples belong to the section above them. -/
def opensSection (header : Header) : Bool := header != .examples

end Header

namespace Section

theorem Grows.isSome_outline?_eq {added : List Step} {current later : Section}
    (grows : current.Grows added later) : later.outline?.isSome = current.outline?.isSome := by
  cases grows with
  | steps current grows => cases current <;> rfl
  | description before after | row outline same => rfl

/-- The section that a header opens where it does not continue one. -/
def opened (title : String) (tags : List String) : Header → Section
  | .feature => feature true
  | .background => background []
  | .scenario => scenario { name := title, tags }
  | .outline => outline { name := title, tags }
  | .examples => feature false

end Section

namespace Reader

/-- The header ends the section that is open and opens one of its own. -/
structure Opens (reader : Reader) (header : Header) (title : String) (opened : Reader) : Prop where
  current : opened.current = .opened title reader.pendingTags header
  tags : opened.feature.tags =
    reader.closeSection.feature.tags ++ if header = .feature then reader.pendingTags else []
  background : opened.feature.background = reader.closeSection.feature.background
  scenarios : opened.feature.scenarios = reader.closeSection.feature.scenarios
  outlines : opened.feature.outlines = reader.closeSection.feature.outlines
  pendingTags : opened.pendingTags = if header.takesTags then [] else reader.pendingTags

/-- The table that a header of examples opens. -/
def newTable (reader : Reader) (title : String) : ExampleTable where
  name := if title.isEmpty then none else some title
  tags := reader.pendingTags

/-- Examples continue an outline, or a scenario, and all other headers open a section. -/
theorem openSection_cases (reader : Reader) (header : Header) (title : String) :
    (∃ outline, header = .examples ∧ reader.finishGathering.current.outline? = some outline ∧
      reader.openSection header title =
        { reader.finishGathering with
          current := .examples outline (reader.newTable title), pendingTags := [] }) ∨
    ((header.opensSection = true ∨ reader.current.outline? = none) ∧
      reader.Opens header title (reader.openSection header title)) := by
  have pending := reader.pendingTags_closeSection
  have same := reader.grows_finishGathering.isSome_outline?_eq
  cases header with
  | examples =>
    cases found : reader.finishGathering.current.outline? with
    | some outline =>
      refine .inl ⟨outline, rfl, rfl, ?_⟩
      simp only [openSection, openExamples, found, newTable, pendingTags_finishGathering]
    | none =>
      rw [found, Option.isSome_none, eq_comm, Option.isSome_eq_false_iff,
        Option.isNone_iff_eq_none] at same
      refine .inr ⟨.inr same, ?_⟩
      simp only [openSection, openExamples, found, closeSection_finishGathering]
      exact ⟨rfl, (List.append_nil _).symm, rfl, rfl, rfl, rfl⟩
  | feature =>
    refine .inr ⟨.inl rfl, rfl, ?_, rfl, rfl, rfl, rfl⟩
    rw [if_pos rfl, ← pending]
    rfl
  | background => exact .inr ⟨.inl rfl, rfl, (List.append_nil _).symm, rfl, rfl, rfl, pending⟩
  | scenario | outline => exact .inr ⟨.inl rfl, rfl, (List.append_nil _).symm, rfl, rfl, rfl, rfl⟩

end Reader

end ScenarioRunner
