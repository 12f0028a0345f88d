import ScenarioRunner.Proofs.Document.Owned
import ScenarioRunner.Proofs.Document.PrintedRoles
import ScenarioRunner.Proofs.Document.Unlocated

namespace ScenarioRunner

theorem Feature.same_of_unlocated {a b : Feature} (bare : a.unlocated = b.unlocated) :
    a.same b = true := by
  have path := congrArg Feature.path bare
  change a.path = b.path at path
  simp [Feature.same, bare, path]

theorem plainRole_settles (describing : Bool) (line : List Char) :
    (Reader.plainRole describing line).settles = true := by
  unfold Reader.plainRole
  split
  · rfl
  · split
    · rfl
    · split
      · rfl
      · cases Header.read? line with
        | some found => rfl
        | none =>
          cases readStep? line with
          | some found => rfl
          | none => cases describing <;> rfl

theorem plainRole_comment {line : List Char} (starts : line.head? = some '#') (describing : Bool) :
    Reader.plainRole describing line = .comment := by
  have filled : line ≠ [] := by
    rintro rfl
    cases starts
  simp [Reader.plainRole, filled, starts]

namespace Setting

/-- Outside of doc strings only rows leave the last step unsettled. -/
theorem role_settles (setting : Setting) {line : List Char} (noRow : line.head? ≠ some '|') :
    (setting.role line).settles = true := by
  unfold role
  split
  · rfl
  · simp only [noRow, false_and, if_false]
    exact plainRole_settles _ line

theorem role_comment (setting : Setting) {line : List Char} (starts : line.head? = some '#') :
    setting.role line = .comment := by
  obtain ⟨rest, rfl⟩ := List.head?_eq_some_iff.mp starts
  rw [role_eq_plainRole (DocMark.read?_eq_none_of_head (by decide) (by decide)) (by simp),
    plainRole_comment starts]

end Setting

namespace Reader

def inTable (reader : Reader) : Bool :=
  match reader.gathering with
  | .table _ => true
  | .nothing | .docString _ _ _ => false

theorem inTable_of_gathers {reader : Reader} (outside : reader.openMark? = none)
    (gathers : reader.gathering ≠ .nothing) : reader.inTable = true := by
  unfold openMark? at outside
  cases gathering : reader.gathering with
  | nothing => exact absurd gathering gathers
  | table table => simp [inTable, gathering]
  | docString mark mediaType lines => simp [gathering] at outside

theorem openMark?_finishGathering (reader : Reader) : reader.finishGathering.openMark? = none := by
  simp [openMark?, gathering_finishGathering]

theorem read_comment {reader : Reader} (outside : reader.openMark? = none) {raw : List Char}
    (starts : (trim raw).head? = some '#') (number : Nat) :
    reader.read number raw = reader.finishGathering := by
  rw [read, role_of_outside outside, Setting.role_comment _ starts]
  rfl

theorem read_blank {reader : Reader} (outside : reader.openMark? = none)
    (step : reader.current.setting.hasStep = true) (number : Nat) :
    reader.read number [] = reader.finishGathering := by
  have blank : reader.role [] = .blank := by
    rw [role_of_outside outside]
    exact Setting.role_eq_plainRole rfl (by decide)
  have noDescription : reader.finishGathering.current ≠ .feature true := by
    intro describing
    rw [← setting_finishGathering, describing] at step
    cases step
  rw [read, blank, act, if_neg noDescription]

/-- The next line is a row, and what it belongs to is the table that is being read. -/
def BetweenRows (reader : Reader) (below : List (List Char)) : Prop :=
  reader.inTable = true ∧ ∃ line ∈ below.head?, (trim line).head? = some '|'

/-- The next line settles the reader anyway, unless it is one more row. -/
theorem finish_readLines_finishGathering {reader : Reader} (outside : reader.openMark? = none)
    {below : List (List Char)} (apart : ¬ reader.BetweenRows below) (number : Nat) :
    (reader.finishGathering.readLines number below).finish =
      (reader.readLines number below).finish := by
  cases below with
  | nil => exact congrArg Reader.feature reader.closeSection_finishGathering
  | cons line rest =>
    have role : reader.finishGathering.role line = reader.role line :=
      role_congr (reader.openMark?_finishGathering.trans outside.symm)
        reader.setting_finishGathering line
    suffices reader.finishGathering.read number line = reader.read number line by
      rw [readLines, readLines, this]
    rw [read, read, role]
    by_cases nothing : reader.gathering = .nothing
    · rw [finishGathering_of_nothing nothing]
    · have noRow : (trim line).head? ≠ some '|' := fun row =>
        apart ⟨inTable_of_gathers outside nothing, line, rfl, row⟩
      rw [act_finishGathering]
      rw [role_of_outside outside]
      exact Setting.role_settles _ noRow

end Reader

/-- A comment outside of doc strings says nothing, but where it stands between two rows of the table
of a step, it ends the table as a blank line does. -/
theorem readFeature_comment (path : Option SourcePath) {text commented : String}
    {above below : List (List Char)} {comment : List Char}
    (lines : linesOf text.toList = above ++ below)
    (inserted : linesOf commented.toList = above ++ comment :: below)
    (starts : (trim comment).head? = some '#')
    (outside : (readerBelow path above).openMark? = none) :
    (¬ (readerBelow path above).BetweenRows below →
      (readFeature path commented).same (readFeature path text) = true) ∧
    ((readerBelow path above).BetweenRows below →
      ∀ blanked : String, linesOf blanked.toList = above ++ [] :: below →
        readFeature path commented = readFeature path blanked) := by
  rw [readFeature_eq inserted, Reader.readLines, Reader.read_comment outside starts]
  constructor
  · intro apart
    apply Feature.same_of_unlocated
    rw [readFeature_eq lines, Reader.finish_readLines_finishGathering outside apart,
      Reader.unlocated_finish_readLines _ _ 0, Reader.unlocated_finish_readLines _ _ 1]
  · intro between blanked blank
    have step : (readerBelow path above).current.setting.hasStep = true := by
      refine readerBelow_owned path above fun nothing => ?_
      have table := between.1
      simp [Reader.inTable, nothing] at table
    rw [readFeature_eq blank, Reader.readLines, Reader.read_blank outside step]

/-- A comment in a table of examples, and one between two rows of the table of a step. -/
theorem readFeature_comment_examples :
    let above := ["Scenario Outline: o", "Given <a>", "Examples:", "| a |"].map String.toList
    let below := ["| 1 |".toList]
    let text := "Scenario Outline: o\nGiven <a>\nExamples:\n| a |\n| 1 |"
    let commented := "Scenario Outline: o\nGiven <a>\nExamples:\n| a |\n # b\n| 1 |"
    linesOf text.toList = above ++ below ∧
      linesOf commented.toList = above ++ " # b".toList :: below ∧
      (trim " # b".toList).head? = some '#' ∧ (readerBelow none above).openMark? = none ∧
      ¬ (readerBelow none above).BetweenRows below ∧
      (readFeature none commented).same (readFeature none text) = true := by
  intro above below text commented
  have lines : linesOf text.toList = above ++ below := by decide
  have inserted : linesOf commented.toList = above ++ " # b".toList :: below := by decide
  have starts : (trim " # b".toList).head? = some '#' := by decide
  have outside : (readerBelow none above).openMark? = none := by decide
  have apart : ¬ (readerBelow none above).BetweenRows below := by
    rintro ⟨table, _⟩
    revert table
    decide
  exact ⟨lines, inserted, starts, outside, apart,
    (readFeature_comment none lines inserted starts outside).1 apart⟩

/-- The second row starts a new table, and the step has no other. -/
theorem readFeature_comment_rows :
    let above := ["Scenario: s", "Given x", "| a |"].map String.toList
    let below := ["| b |".toList]
    let text := "Scenario: s\nGiven x\n| a |\n| b |"
    let commented := "Scenario: s\nGiven x\n| a |\n# c\n| b |"
    linesOf text.toList = above ++ below ∧
      linesOf commented.toList = above ++ "# c".toList :: below ∧
      (trim "# c".toList).head? = some '#' ∧ (readerBelow none above).openMark? = none ∧
      (readFeature none commented).same (readFeature none text) = false := by
  intro above below text commented
  have lines : linesOf text.toList = above ++ below := by decide
  have inserted : linesOf commented.toList = above ++ "# c".toList :: below := by decide
  refine ⟨lines, inserted, by decide, by decide, ?_⟩
  rw [readFeature, readFeature, lines, inserted]
  decide

end ScenarioRunner
