import ScenarioRunner.Proofs.Document.Mirrored
import ScenarioRunner.Proofs.Document.PrintedRoles
import ScenarioRunner.Proofs.Document.ReadRoles
import ScenarioRunner.Proofs.Text.Lines

namespace ScenarioRunner

def SourceLocation.movedDown (lines : Nat) (location : SourceLocation) : SourceLocation :=
  { location with line := location.line + lines }

namespace Feature

/-- The feature as if its document had stood so many lines further down. -/
def movedDown (lines : Nat) : Feature → Feature :=
  relocated (Option.map (SourceLocation.movedDown lines))

/-- The whole has the sections of one feature and, behind them, those of another. As there is one
background at most, the later one counts. -/
structure Joins (first later whole : Feature) : Prop where
  scenarios : whole.scenarios = first.scenarios ++ later.scenarios
  outlines : whole.outlines = first.outlines ++ later.outlines
  background : whole.background = later.background.or first.background

end Feature

/-- The first line of the text is a header that ends the section before it. A line `Examples:` may
continue an outline, so it does not count. -/
def OpensSection (text : String) : Prop :=
  ∃ line ∈ (linesOf text.toList).head?, ∃ found ∈ Header.read? (trim line), found.1 ≠ .examples

instance : DecidablePred OpensSection := fun text =>
  inferInstanceAs (Decidable (∃ line ∈ (linesOf text.toList).head?,
    ∃ found ∈ Header.read? (trim line), found.1 ≠ .examples))

/-- Where a reader of a whole text has got to before the end of the text closes what is open. -/
def readerAfter (path : Option SourcePath) (text : String) : Reader :=
  (Reader.start path).readLines 1 (linesOf text.toList)

namespace Reader

/-- A header that ends a section finds it closed as well as open. -/
theorem openSection_closeSection (reader : Reader) {header : Header} (ends : header ≠ .examples)
    (title : String) :
    reader.closeSection.openSection header title = reader.openSection header title := by
  cases header with
  | examples => exact absurd rfl ends
  | feature | background | scenario | outline =>
    simp only [openSection, closeSection_closeSection, pendingTags_closeSection]

theorem read_closeSection {reader : Reader} (outside : reader.openMark? = none) {raw : List Char}
    {header : Header} {title : String} (opens : Header.read? (trim raw) = some (header, title))
    (ends : header ≠ .examples) (number : Nat) :
    reader.closeSection.read number raw = reader.read number raw := by
  obtain ⟨spelling, rest, known, line, rfl⟩ := Header.read?_eq_some opens
  have closed : reader.closeSection.openMark? = none := by
    simp [openMark?, gathering_closeSection]
  have settled := finishGathering_of_nothing reader.gathering_closeSection
  rw [read, read, role_of_outside outside, role_of_outside closed, line, role_spelling _ known,
    role_spelling _ known, act, act, settled, openSection_closeSection reader ends,
    ← openSection_closeSection reader.finishGathering ends, closeSection_finishGathering,
    openSection_closeSection reader ends]

theorem relation_joins (first : Feature) (lines : Nat) :
    Relation (Option.map (SourceLocation.movedDown lines))
      (fun later whole => first.Joins (later.movedDown lines) whole) where
  addTo := by
    rintro later whole current ⟨scenarios, outlines, background⟩
    constructor <;> cases current <;>
      simp_all [Section.relocated, Section.addTo, Feature.movedDown, Feature.relocated,
        ScenarioOutline.relocated]
  header := by
    rintro later whole title tags ⟨scenarios, outlines, background⟩
    exact ⟨scenarios, outlines, background⟩
  description := by
    rintro a b line ⟨scenarios, outlines, background⟩
    exact ⟨scenarios, outlines, background⟩

/-- A closed section leaves no trace but in the feature. -/
theorem mirrors_closeSection {reader : Reader} (noTags : reader.pendingTags = []) (lines : Nat) :
    Mirrors (Option.map (SourceLocation.movedDown lines)) (· + lines)
      (fun later whole => reader.finish.Joins (later.movedDown lines) whole)
      (start reader.path) reader.closeSection where
  feature := ⟨(List.append_nil _).symm, (List.append_nil _).symm, rfl⟩
  current := by rw [closeSection_eq]; rfl
  gathering := reader.gathering_closeSection
  pendingTags := by rw [pendingTags_closeSection, noTags]; rfl
  placed := by
    intro number
    rw [path_closeSection]
    cases reader.path <;> rfl

end Reader

theorem readerAfter_append {path : Option SourcePath} {before after : String}
    (ends : ∀ c ∈ before.toList.getLast?, c = '\n')
    (outside : (readerAfter path before).openMark? = none) (opens : OpensSection after) :
    readerAfter path (before ++ after) =
      (readerAfter path before).closeSection.readLines (1 + (linesOf before.toList).length)
        (linesOf after.toList) := by
  obtain ⟨line, first, ⟨header, title⟩, found, ending⟩ := opens
  obtain ⟨rest, lines⟩ := List.head?_eq_some_iff.mp first
  rw [readerAfter, String.toList_append, linesOf_append ends, Reader.readLines_append]
  show (readerAfter path before).readLines _ _ = _
  rw [lines, Reader.readLines, Reader.readLines, Reader.read_closeSection outside found ending]

/-- Sections are read as if nothing stood before them. -/
theorem readFeature_append (path : Option SourcePath) (before after : String)
    (ends : ∀ c ∈ before.toList.getLast?, c = '\n')
    (outside : (readerAfter path before).openMark? = none)
    (noTags : (readerAfter path before).pendingTags = []) (opens : OpensSection after) :
    (readFeature path before).Joins
      ((readFeature path after).movedDown (linesOf before.toList).length)
      (readFeature path (before ++ after)) := by
  have samePath : (readerAfter path before).path = path := Reader.path_readLines ..
  have mirrors := Reader.mirrors_closeSection noTags (linesOf before.toList).length
  have relation := Reader.relation_joins (readFeature path before) (linesOf before.toList).length
  have joined := (mirrors.readLines relation 1 (linesOf after.toList)).finish relation
  rwa [← readerAfter_append ends outside opens, samePath] at joined

/-- A scenario and its background, and below them an outline. -/
theorem readFeature_append_outline :
    let path : Option SourcePath := some ⟨"f"⟩
    let before := "Background:\nGiven a\nScenario: b\n"
    let after := "Scenario Outline: c\nThen <n>\n"
    (∀ c ∈ before.toList.getLast?, c = '\n') ∧ (readerAfter path before).openMark? = none ∧
      (readerAfter path before).pendingTags = [] ∧ OpensSection after ∧
      (readFeature path before).Joins ((readFeature path after).movedDown 3)
        (readFeature path (before ++ after)) := by
  intro path before after
  have lines : linesOf before.toList =
      ["Background:".toList, "Given a".toList, "Scenario: b".toList] := by decide
  have ends : ∀ c ∈ before.toList.getLast?, c = '\n' := forall_mem_of_optionAll (by decide)
  have outside : (readerAfter path before).openMark? = none := by
    rw [readerAfter, lines]
    decide
  have noTags : (readerAfter path before).pendingTags = [] := by
    rw [readerAfter, lines]
    decide
  have opens : OpensSection after := by decide
  have joined := readFeature_append path before after ends outside noTags opens
  rw [lines] at joined
  exact ⟨ends, outside, noTags, opens, joined⟩

end ScenarioRunner
