import Mathlib.Data.List.Induction
import ScenarioRunner.Proofs.Document.Continued
import ScenarioRunner.Proofs.Document.Owned

namespace ScenarioRunner

namespace Gathering

/-- The step once it has what was gathered for it. -/
def attach : Gathering → Step → Step
  | nothing, step => step
  | table rows, step => { step with table := some rows }
  | docString _ mediaType lines, step =>
    { step with docString := some ⟨String.ofList (['\n'].intercalate lines), mediaType⟩ }

/-- What a line of the role begins to gather. The first row of a table is the one before which nothing
was gathered; the mark of a doc string may follow the rows of a table. -/
inductive BegunBy (before : Gathering) : LineRole → Gathering → Prop
  | docString (mark : DocMark) (mediaType : Option String) :
      BegunBy before (.docStringStart mark mediaType) (.docString mark mediaType [])
  | table (cells : List String) :
      before = .nothing → BegunBy before (.tableRow cells) (.table { headers := cells, rows := [] })

/-- All the lines are added to what is gathered, as rows of a table or as lines of a doc string. -/
inductive Adds (lines : List (List Char)) : Gathering → Gathering → Prop
  | table (table : DataTable) :
      Adds lines (.table table)
        (.table { table with rows := table.rows ++ lines.map fun line => cellsOf (trim line) })
  | docString (mark : DocMark) (mediaType : Option String) (earlier : List (List Char)) :
      Adds lines (.docString mark mediaType earlier) (.docString mark mediaType (earlier ++ lines))

theorem BegunBy.adds_nil {before begun : Gathering} {role : LineRole} (known : BegunBy before role begun) :
    Adds [] begun begun := by
  cases known with
  | docString mark mediaType => exact .docString mark mediaType []
  | table cells => exact .table { headers := cells, rows := [] }

theorem Adds.append {first second : List (List Char)} {a b c : Gathering} (one : Adds first a b)
    (two : Adds second b c) : Adds (first ++ second) a c := by
  cases one with
  | table table =>
    cases two
    have both : Adds (first ++ second) (.table table) _ := .table table
    rwa [List.map_append, ← List.append_assoc] at both
  | docString mark mediaType earlier =>
    cases two
    have both : Adds (first ++ second) (.docString mark mediaType earlier) _ := .docString ..
    rwa [← List.append_assoc] at both

theorem Adds.ne_nothing {lines : List (List Char)} {before after : Gathering}
    (adds : Adds lines before after) : before ≠ .nothing := by
  cases adds <;> exact Gathering.noConfusion

end Gathering

namespace Section

theorem steps?_mapSteps (change : List Step → List Step) (current : Section) :
    (current.mapSteps change).steps? = current.steps?.map change := by
  cases current <;> rfl

theorem exists_steps_concat {current : Section} (step : current.setting.hasStep = true) :
    ∃ earlier owner, current.steps? = some (earlier ++ [owner]) := by
  obtain ⟨steps, known, filled⟩ := (Option.any_eq_true _ _).mp step
  rcases List.eq_nil_or_concat steps with rfl | ⟨earlier, owner, rfl⟩
  · cases filled
  · exact ⟨earlier, owner, known.trans (by rw [List.concat_eq_append])⟩

end Section

theorem plainRole_ne_tableRow (describing : Bool) (line : List Char) (cells : List String) :
    Reader.plainRole describing line ≠ .tableRow cells := by
  intro row
  have fits := plainRole_fitsIn ⟨false, false, describing⟩ line
  rw [row] at fits
  cases fits

theorem Setting.cells_of_tableRow {setting : Setting} {line : List Char} {cells : List String}
    (row : setting.role line = .tableRow cells) : cells = cellsOf line := by
  unfold Setting.role at row
  split at row
  · cases row
  · split at row
    · cases row
    · split at row
      · exact (LineRole.tableRow.inj row).symm
      · exact absurd row (plainRole_ne_tableRow _ _ _)

namespace Reader

theorem finishGathering_eq (reader : Reader) :
    reader.finishGathering =
      { reader with
        current := reader.current.mapSteps (changeLast reader.gathering.attach)
        gathering := .nothing } := by
  obtain ⟨path, feature, hasFeatureLine, current, gathering, pendingTags⟩ := reader
  cases gathering with
  | table table | docString mark mediaType lines => rfl
  | nothing =>
    have same : changeLast Gathering.nothing.attach = id := by
      funext steps
      rw [changeLast_eq_modify]
      exact List.modify_id ..
    simp only [finishGathering, same, Section.mapSteps_id]

/-- Outside of a doc string a row belongs to a table, and the mark of a doc string begins one. -/
theorem Owned.gathering_outside {reader : Reader} (owned : reader.Owned)
    (outside : reader.openMark? = none) (number : Nat) (raw : List Char) :
    (reader.read number raw).gathering = .nothing ∨
      reader.gathering.BegunBy (reader.role raw) (reader.read number raw).gathering ∨
      (reader.gathering.Adds [raw] (reader.read number raw).gathering ∧
        (reader.read number raw).current = reader.current) := by
  have settled := reader.gathering_finishGathering
  have known := role_of_outside outside raw
  have fits := Setting.role_fitsIn reader.current.setting (trim raw)
  rw [Reader.read]
  rw [← known] at fits
  cases role : reader.role raw with
  | docStringText line | docStringEnd =>
    rw [role] at fits
    exact fits.elim
  | docStringStart mark mediaType => exact .inr (.inl (.docString mark mediaType))
  | tableRow cells =>
    obtain rfl := Setting.cells_of_tableRow (known.symm.trans role)
    simp only [Reader.act, Reader.addTableRow]
    cases gathers : reader.gathering with
    | nothing => exact .inr (.inl (.table _ rfl))
    | table table => exact .inr (.inr ⟨.table table, rfl⟩)
    | docString mark mediaType lines => simp [openMark?, gathers] at outside
  | exampleRow cells =>
    rw [role] at fits
    exact .inl ((reader.gathering_addExampleRow cells).trans (owned.nothing_of_rows fits))
  | blank =>
    refine .inl ?_
    simp only [Reader.act]
    split <;> exact settled
  | header header title => exact .inl (gathering_openSection _ header title)
  | comment | tags names | step keyword text | description line | unrecognized line =>
    exact .inl settled

/-- A line leaves nothing to be gathered, begins something, or adds to it and to nothing else. -/
theorem Owned.gathering_read {reader : Reader} (owned : reader.Owned) (number : Nat) (raw : List Char) :
    (reader.read number raw).gathering = .nothing ∨
      reader.gathering.BegunBy (reader.role raw) (reader.read number raw).gathering ∨
      (reader.gathering.Adds [raw] (reader.read number raw).gathering ∧
        (reader.read number raw).current = reader.current) := by
  cases inside : reader.openMark? with
  | none => exact owned.gathering_outside inside number raw
  | some mark =>
    rw [Reader.read, role_of_inside inside]
    split
    · exact .inl reader.gathering_finishGathering
    · unfold openMark? at inside
      split at inside
      · rename_i found mediaType lines gathers
        simp only [Reader.act, Reader.addDocLine, gathers]
        exact .inr (.inr ⟨.docString found mediaType lines, trivial⟩)
      · cases inside

end Reader

theorem readerBelow_concat (path : Option SourcePath) (lines : List (List Char)) (line : List Char) :
    readerBelow path (lines ++ [line]) = (readerBelow path lines).read (1 + lines.length) line := by
  rw [readerBelow, Reader.readLines_append]
  rfl

/-- Gathering began with the opening line, and all lines since have been added. No step has been added
since then, and the last one gets all that is gathered. -/
structure GathersSince (path : Option SourcePath) (above : List (List Char)) (opening : List Char)
    (inside : List (List Char)) : Prop where
  begun : (readerBelow path above).gathering.BegunBy ((readerBelow path above).role opening)
    (readerBelow path (above ++ [opening])).gathering
  adds : (readerBelow path (above ++ [opening])).gathering.Adds inside
    (readerBelow path (above ++ opening :: inside)).gathering
  current : (readerBelow path (above ++ opening :: inside)).current =
    (readerBelow path (above ++ [opening])).current
  owner : ∃ earlier owner,
    (readerBelow path (above ++ [opening])).current.steps? = some (earlier ++ [owner]) ∧
      (readerBelow path (above ++ opening :: inside)).finishGathering.current.steps? =
        some (earlier ++ [(readerBelow path (above ++ opening :: inside)).gathering.attach owner])

theorem exists_opening (path : Option SourcePath) (lines : List (List Char)) :
    (readerBelow path lines).gathering = .nothing ∨ ∃ above opening inside,
      lines = above ++ opening :: inside ∧
      (readerBelow path above).gathering.BegunBy ((readerBelow path above).role opening)
        (readerBelow path (above ++ [opening])).gathering ∧
      (readerBelow path (above ++ [opening])).gathering.Adds inside (readerBelow path lines).gathering ∧
      (readerBelow path lines).current = (readerBelow path (above ++ [opening])).current := by
  induction lines using List.reverseRecOn with
  | nil => exact .inl rfl
  | append_singleton before line ih =>
    have step := (readerBelow_owned path before).gathering_read (1 + before.length) line
    rw [← readerBelow_concat] at step
    rcases step with ends | begins | ⟨adds, current⟩
    · exact .inl ends
    · exact .inr ⟨before, line, [], rfl, begins, begins.adds_nil, rfl⟩
    · obtain ⟨above, opening, inside, rfl, begun, earlier, same⟩ := ih.resolve_left adds.ne_nothing
      refine .inr ⟨above, opening, inside ++ [line], by simp, begun, earlier.append adds, ?_⟩
      rw [current, same]

/-- Wherever a document is cut off, what is being gathered has an owner: the step that was the last one
when gathering began is still the last one, and it gets all of it. Where there are no steps, nothing is
being gathered. -/
theorem gathersSince_readerBelow (path : Option SourcePath) (lines : List (List Char)) :
    ((readerBelow path lines).gathering ≠ .nothing → ∃ above opening inside,
      lines = above ++ opening :: inside ∧ GathersSince path above opening inside) ∧
    ((readerBelow path lines).current.steps? = none → (readerBelow path lines).gathering = .nothing) := by
  have owned := readerBelow_owned path lines
  constructor
  · intro gathers
    obtain ⟨above, opening, inside, rfl, begun, adds, current⟩ :=
      (exists_opening path lines).resolve_left gathers
    obtain ⟨earlier, owner, steps⟩ := Section.exists_steps_concat (owned gathers)
    refine ⟨above, opening, inside, rfl, begun, adds, current, earlier, owner, current ▸ steps, ?_⟩
    rw [Reader.finishGathering_eq]
    simp only [Section.steps?_mapSteps, steps, Option.map_some, changeLast_concat]
  · intro none
    refine Decidable.byContradiction fun gathers => ?_
    obtain ⟨earlier, owner, steps⟩ := Section.exists_steps_concat (owned gathers)
    rw [none] at steps
    cases steps

end ScenarioRunner
