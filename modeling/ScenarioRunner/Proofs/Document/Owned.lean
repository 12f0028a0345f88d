import ScenarioRunner.Proofs.Document.Settled

namespace ScenarioRunner

/-- What must be around a line, outside of doc strings, for it to have the role. -/
def LineRole.FitsIn (setting : Setting) : LineRole → Prop
  | docStringStart _ _ => setting.hasStep = true
  | exampleRow _ => setting.inExamples = true
  | tableRow _ => setting.hasStep = true
  | description _ => setting.describing = true
  | docStringText _ | docStringEnd => False
  | blank | comment | tags _ | header _ _ | step _ _ | unrecognized _ => True

theorem plainRole_fitsIn (setting : Setting) (line : List Char) :
    (Reader.plainRole setting.describing line).FitsIn setting := by
  unfold Reader.plainRole
  split
  · trivial
  · split
    · trivial
    · split
      · trivial
      · cases Header.read? line with
        | some found => trivial
        | none =>
          cases readStep? line with
          | some found => trivial
          | none =>
            cases describing : setting.describing with
            | true => exact describing
            | false => trivial

theorem Setting.role_fitsIn (setting : Setting) (line : List Char) :
    (setting.role line).FitsIn setting := by
  unfold Setting.role
  split
  · rename_i mark mediaType found
    cases step : setting.hasStep with
    | true => exact step
    | false =>
      rw [step] at found
      cases found
  · split
    · rename_i row
      exact row.2
    · split
      · rename_i row
        exact row.2
      · exact plainRole_fitsIn setting line

namespace Section

/-- Rows of examples and steps do not stand in the same section. -/
theorem hasStep_eq_false {current : Section} (rows : current.setting.inExamples = true) :
    current.setting.hasStep = false := by
  cases current with
  | examples outline table => rfl
  | start | feature describing | background steps | scenario s | outline o => cases rows

end Section

namespace Reader

/-- What is being gathered has a step to go to. -/
def Owned (reader : Reader) : Prop :=
  reader.gathering ≠ .nothing → reader.current.setting.hasStep = true

theorem Owned.of_nothing {reader : Reader} (nothing : reader.gathering = .nothing) : reader.Owned :=
  fun gathers => absurd nothing gathers

theorem gathering_openSection (reader : Reader) (header : Header) (title : String) :
    (reader.openSection header title).gathering = .nothing := by
  cases header with
  | examples =>
    simp only [openSection, openExamples]
    split
    · exact reader.gathering_finishGathering
    · exact gathering_closeSection _
  | feature | background | scenario | outline => exact reader.gathering_closeSection

theorem Owned.addDocLine {reader : Reader} (owned : reader.Owned) (line : List Char) :
    (reader.addDocLine line).Owned := by
  unfold Reader.addDocLine
  split
  · rename_i gathering
    exact fun _ => owned (by simp [gathering])
  · exact owned

theorem Owned.addTableRow {reader : Reader} (step : reader.current.setting.hasStep = true)
    (cells : List String) : (reader.addTableRow cells).Owned := by
  unfold Reader.addTableRow
  split <;> exact fun _ => step

theorem Owned.nothing_of_rows {reader : Reader} (owned : reader.Owned)
    (rows : reader.current.setting.inExamples = true) : reader.gathering = .nothing :=
  Decidable.byContradiction fun gathers => by
    have step := owned gathers
    rw [Section.hasStep_eq_false rows] at step
    cases step

theorem gathering_addExampleRow (reader : Reader) (cells : List String) :
    (reader.addExampleRow cells).gathering = reader.gathering := by
  unfold addExampleRow
  split <;> rfl

theorem Owned.addExampleRow {reader : Reader} (owned : reader.Owned)
    (rows : reader.current.setting.inExamples = true) (cells : List String) :
    (reader.addExampleRow cells).Owned :=
  .of_nothing ((reader.gathering_addExampleRow cells).trans (owned.nothing_of_rows rows))

/-- A line gathers nothing for a step where there is none. -/
theorem Owned.act {reader : Reader} (owned : reader.Owned) {role : LineRole}
    (fits : role.FitsIn reader.current.setting) (number : Nat) : (reader.act number role).Owned := by
  have nothing := reader.gathering_finishGathering
  cases role with
  | docStringText line | docStringEnd => exact fits.elim
  | docStringStart mark mediaType =>
    intro _
    show reader.finishGathering.current.setting.hasStep = true
    rw [setting_finishGathering]
    exact fits
  | tableRow cells => exact .addTableRow fits cells
  | exampleRow cells => exact owned.addExampleRow fits cells
  | blank =>
    refine .of_nothing ?_
    simp only [Reader.act]
    split <;> exact nothing
  | header header title => exact .of_nothing (gathering_openSection _ header title)
  | comment | tags names | step keyword text | description line | unrecognized line =>
    exact .of_nothing nothing

theorem Owned.read {reader : Reader} (owned : reader.Owned) (number : Nat) (raw : List Char) :
    (reader.read number raw).Owned := by
  rw [Reader.read]
  cases inside : reader.openMark? with
  | none =>
    refine owned.act ?_ number
    rw [role_of_outside inside]
    exact Setting.role_fitsIn _ _
  | some mark =>
    rw [role_of_inside inside]
    split
    · exact .of_nothing reader.gathering_finishGathering
    · exact owned.addDocLine raw

theorem Owned.readLines {reader : Reader} (owned : reader.Owned) (number : Nat)
    (lines : List (List Char)) : (reader.readLines number lines).Owned := by
  induction lines generalizing reader number with
  | nil => exact owned
  | cons line rest ih => exact ih (owned.read number line) (number + 1)

end Reader

theorem readerBelow_owned (path : Option SourcePath) (above : List (List Char)) :
    (readerBelow path above).Owned :=
  Reader.Owned.readLines (.of_nothing rfl) 1 above

end ScenarioRunner
