import ScenarioRunner.Proofs.Document.PrintedRoles

namespace ScenarioRunner

/-- A text that stands on one line, and whose end cannot be taken for a part of the line's end. -/
def IsLine (line : List Char) : Prop := '\n' ∉ line ∧ line.getLast? ≠ some '\r'

theorem IsLine.of_onLine {line : List Char} (made : ∀ c ∈ line, OnLine c) : IsLine line := by
  refine ⟨fun inside => (made _ inside).1 rfl, fun last => ?_⟩
  exact (made _ (List.mem_of_getLast? last)).2 rfl

theorem IsLine.of_trimmed {line : List Char} (flat : '\n' ∉ line) (trimmed : Trimmed line) :
    IsLine line := by
  refine ⟨flat, fun last => ?_⟩
  have solid := trimmed.2 _ last
  exact absurd solid (by decide)

theorem onLine_of_solid {c : Char} (solid : isBlank c = false) : OnLine c := by
  constructor
  · rintro rfl
    exact absurd solid (by decide)
  · rintro rfl
    exact absurd solid (by decide)

theorem onLine_tagLines {tags : List String} (valid : ∀ tag ∈ tags, IsTag tag) :
    ∀ line ∈ tagLines tags, ∀ c ∈ line, OnLine c := by
  intro line member c inside
  unfold tagLines at member
  split at member
  · simp at member
  · obtain ⟨_, solid⟩ := tagLine_words valid
    rw [List.mem_singleton.mp member] at inside
    cases words : tags.map fun tag => '@' :: tag.toList with
    | nil => simp [words] at inside
    | cons first others =>
      rw [words, intercalate_eq, List.mem_append, List.mem_flatMap] at inside
      rw [words] at solid
      rcases inside with here | ⟨word, known, here⟩
      · exact onLine_of_solid (solid first (List.mem_cons_self ..) c here)
      · rcases List.mem_cons.mp here with rfl | deeper
        · exact ⟨by decide, by decide⟩
        · exact onLine_of_solid (solid word (List.mem_cons_of_mem _ known) c deeper)

theorem onLine_headerLine {spelling : String} {header : Header}
    (known : (spelling, header) ∈ Header.spellings) {title : String} (valid : Inline OnLine title) :
    ∀ c ∈ headerLine spelling title, OnLine c := by
  have all : ∀ pair ∈ Header.spellings, ∀ c ∈ pair.1.toList, c ≠ '\n' ∧ c ≠ '\r' := by
    have each : Header.spellings.all (fun pair =>
        pair.1.toList.all fun c => decide (c ≠ '\n' ∧ c ≠ '\r')) = true := by decide
    exact fun pair member => forall_mem_of_all (List.all_eq_true.mp each pair member)
  intro c inside
  rcases List.mem_append.mp inside with here | later
  · exact all _ known c here
  · rcases List.mem_cons.mp later with rfl | deeper
    · exact ⟨by decide, by decide⟩
    · exact valid.made c deeper

theorem onLine_rowLine {cells : List String} (valid : ∀ cell ∈ cells, IsCell OnLine cell) :
    ∀ c ∈ rowLine cells, OnLine c := by
  intro c inside
  rcases List.mem_cons.mp inside with rfl | later
  · exact ⟨by decide, by decide⟩
  · obtain ⟨cell, known, here⟩ := List.mem_flatMap.mp later
    simp only [List.cons_append, List.mem_cons, List.mem_append, List.not_mem_nil, or_false] at here
    rcases here with rfl | here | rfl | rfl
    · exact ⟨by decide, by decide⟩
    · exact (valid cell known).inline.made c here
    · exact ⟨by decide, by decide⟩
    · exact ⟨by decide, by decide⟩

theorem onLine_rows {rows : List (List String)}
    (valid : ∀ row ∈ rows, ∀ cell ∈ row, IsCell OnLine cell) :
    ∀ line ∈ rows.map rowLine, ∀ c ∈ line, OnLine c := by
  intro line member
  obtain ⟨row, known, rfl⟩ := List.mem_map.mp member
  exact onLine_rowLine (valid row known)

theorem DocString.onLine_lines {doc : DocString} (valid : doc.PrintableIn OnLine) :
    ∀ line ∈ doc.lines, ∀ c ∈ line, OnLine c := by
  have mark : ∀ c ∈ doc.mark.text, OnLine c := by
    cases doc.mark with
    | doubleQuotes | singleQuotes => simp [DocMark.text, OnLine]
  intro line member c inside
  rcases List.mem_cons.mp member with rfl | later
  · rcases List.mem_append.mp inside with here | here
    · exact mark c here
    · cases given : doc.mediaType with
      | none => simp [given] at here
      | some name =>
        rw [given] at here
        exact (valid.mediaType name given).2.made c here
  · rcases List.mem_append.mp later with here | here
    · exact valid.content line here c inside
    · rw [List.mem_singleton.mp here] at inside
      exact mark c inside

theorem onLine_keyword (keyword : StepKeyword) : ∀ c ∈ keyword.text.toList, OnLine c := by
  have all : ∀ c ∈ keyword.text.toList, c ≠ '\n' ∧ c ≠ '\r' := by
    cases keyword <;> exact forall_mem_of_all (by decide)
  exact all

theorem Step.onLine_lines {step : Step} (valid : step.PrintableIn OnLine) :
    ∀ line ∈ step.lines, ∀ c ∈ line, OnLine c := by
  intro line member c inside
  rcases List.mem_cons.mp member with rfl | later
  · rcases List.mem_append.mp inside with here | here
    · exact onLine_keyword step.keyword c here
    · rcases List.mem_cons.mp here with rfl | deeper
      · exact ⟨by decide, by decide⟩
      · exact valid.text.made c deeper
  · rcases List.mem_append.mp later with here | here
    · cases given : step.table with
      | none => simp [given] at here
      | some table =>
        rw [given] at here
        exact onLine_rows (valid.table table given).cells line here c inside
    · cases given : step.docString with
      | none => simp [given] at here
      | some doc =>
        rw [given] at here
        exact (doc.onLine_lines (valid.docString doc given)) line here c inside

theorem onLine_steps {steps : List Step} (valid : ∀ step ∈ steps, step.PrintableIn OnLine) :
    ∀ line ∈ linesOfSteps steps, ∀ c ∈ line, OnLine c := by
  intro line member
  obtain ⟨step, known, here⟩ := List.mem_flatMap.mp member
  exact step.onLine_lines (valid step known) line here

theorem Scenario.onLine_lines {scenario : Scenario} (valid : scenario.PrintableIn OnLine) :
    ∀ line ∈ scenario.lines, ∀ c ∈ line, OnLine c := by
  intro line member
  rcases List.mem_append.mp member with here | later
  · exact onLine_tagLines valid.tags line here
  · rcases List.mem_cons.mp later with rfl | here
    · have known : ("Scenario:", Header.scenario) ∈ Header.spellings := by decide
      exact onLine_headerLine known valid.name
    · exact onLine_steps valid.steps line here

theorem ExampleTable.onLine_lines {table : ExampleTable} (valid : table.PrintableIn OnLine) :
    ∀ line ∈ table.lines, ∀ c ∈ line, OnLine c := by
  have name : Inline OnLine (table.name.getD "") := by
    cases given : table.name with
    | none => exact ⟨by simp, .nil⟩
    | some name => exact (valid.name name given).2
  intro line member
  rcases List.mem_append.mp member with here | later
  · exact onLine_tagLines valid.tags line here
  · rcases List.mem_cons.mp later with rfl | here
    · have known : ("Examples:", Header.examples) ∈ Header.spellings := by decide
      exact onLine_headerLine known name
    · split at here
      · simp at here
      · exact onLine_rows valid.cells line here

theorem ScenarioOutline.onLine_lines {outline : ScenarioOutline}
    (valid : outline.PrintableIn OnLine) : ∀ line ∈ outline.lines, ∀ c ∈ line, OnLine c := by
  intro line member
  rcases List.mem_append.mp member with here | later
  · exact onLine_tagLines valid.tags line here
  · rcases List.mem_cons.mp later with rfl | later
    · have known : ("Scenario Outline:", Header.outline) ∈ Header.spellings := by decide
      exact onLine_headerLine known valid.name
    · rcases List.mem_append.mp later with here | later
      · exact onLine_steps valid.steps line here
      · obtain ⟨table, known, here⟩ := List.mem_flatMap.mp later
        exact table.onLine_lines (valid.examples table known) line here

/-- What is printed falls into the lines it was printed in. Only a description may hold carriage
returns, and none of them ends its line. -/
theorem Feature.isLine_lines {feature : Feature} (valid : feature.Printable) :
    ∀ line ∈ feature.lines, IsLine line := by
  intro line member
  rcases List.mem_append.mp member with here | later
  · exact .of_onLine (onLine_tagLines valid.tags line here)
  · rcases List.mem_cons.mp later with rfl | later
    · have known : ("Feature:", Header.feature) ∈ Header.spellings := by decide
      exact .of_onLine (onLine_headerLine known valid.name)
    · rcases List.mem_append.mp later with here | later
      · have described := valid.description line here
        refine .of_trimmed ?_ described.trimmed
        unfold Feature.descriptionLines at here
        cases given : feature.description with
        | none => simp [given] at here
        | some text =>
          rw [given] at here
          exact separator_not_mem_piece here
      · rcases List.mem_append.mp later with here | later
        · unfold Feature.backgroundLines at here
          cases given : feature.background with
          | none => simp [given] at here
          | some steps =>
            rw [given] at here
            rcases List.mem_cons.mp here with rfl | deeper
            · exact ⟨by decide, by decide⟩
            · exact .of_onLine (onLine_steps (valid.background steps given) line deeper)
        · rcases List.mem_append.mp later with here | here
          · obtain ⟨scenario, known, deeper⟩ := List.mem_flatMap.mp here
            exact .of_onLine (scenario.onLine_lines (valid.scenarios scenario known) line deeper)
          · obtain ⟨outline, known, deeper⟩ := List.mem_flatMap.mp here
            exact .of_onLine (outline.onLine_lines (valid.outlines outline known) line deeper)

end ScenarioRunner
