import ScenarioRunner.Document.Reader

namespace ScenarioRunner

/-- All that a section tells about the lines in it. -/
structure Setting where
  hasStep : Bool
  inExamples : Bool
  describing : Bool
  deriving DecidableEq, Repr

namespace Section

def inExamples : Section → Bool
  | examples _ _ => true
  | _ => false

def setting (current : Section) : Setting where
  hasStep := current.hasStep
  inExamples := current.inExamples
  describing := current == .feature true

/-- A change that keeps steps where there are some keeps the setting. -/
theorem setting_mapSteps {change : List Step → List Step}
    (keep : ∀ steps, (change steps).isEmpty = steps.isEmpty) (current : Section) :
    (current.mapSteps change).setting = current.setting := by
  cases current with
  | start | feature describing | examples outline table => rfl
  | background steps | scenario s | outline o =>
    exact congrArg (Setting.mk · false false) (congrArg (!·) (keep _))

end Section

theorem isEmpty_changeLast {α : Type} (change : α → α) (list : List α) :
    (changeLast change list).isEmpty = list.isEmpty := by
  cases list with
  | nil => rfl
  | cons a rest => cases rest <;> rfl

namespace Setting

/-- The role of a line outside of doc strings. -/
def role (setting : Setting) (line : List Char) : LineRole :=
  match if setting.hasStep then DocMark.read? line else none with
  | some (mark, mediaType) => .docStringStart mark mediaType
  | none =>
    if line.head? = some '|' ∧ setting.inExamples then .exampleRow (cellsOf line)
    else if line.head? = some '|' ∧ setting.hasStep then .tableRow (cellsOf line)
    else Reader.plainRole setting.describing line

/-- Only rows, and the marks of doc strings, depend on the lines before them. -/
theorem role_eq_plainRole {setting : Setting} {line : List Char} (noMark : DocMark.read? line = none)
    (noRow : line.head? ≠ some '|') :
    setting.role line = Reader.plainRole setting.describing line := by
  simp [role, noMark, noRow]

end Setting

namespace Reader

theorem roleOutside_eq (reader : Reader) (line : List Char) :
    reader.roleOutside line = reader.current.setting.role line := by
  obtain ⟨path, feature, hasFeatureLine, current, gathering, pendingTags⟩ := reader
  unfold roleOutside Setting.role Section.setting
  cases mark : DocMark.read? line <;> by_cases bar : line.head? = some '|' <;>
    cases step : current.hasStep <;> cases current <;>
    simp_all [Section.inExamples, Section.hasStep, Section.steps?]

/-- The mark that ends the doc string that is being read, if there is one. -/
def openMark? (reader : Reader) : Option DocMark :=
  match reader.gathering with
  | .docString mark _ _ => some mark
  | _ => none

theorem openMark?_addDocLine (reader : Reader) (line : List Char) :
    (reader.addDocLine line).openMark? = reader.openMark? := by
  unfold addDocLine
  cases gathering : reader.gathering <;> simp [openMark?, gathering]

theorem role_of_outside {reader : Reader} (outside : reader.openMark? = none) (raw : List Char) :
    reader.role raw = reader.current.setting.role (trim raw) := by
  unfold openMark? at outside
  rw [← roleOutside_eq, role]
  cases gathering : reader.gathering with
  | docString mark mediaType lines =>
    rw [gathering] at outside
    cases outside
  | nothing | table => rfl

theorem role_of_inside {reader : Reader} {mark : DocMark} (inside : reader.openMark? = some mark)
    (raw : List Char) : reader.role raw =
      if mark.text.isPrefixOf (trim raw) then .docStringEnd else .docStringText raw := by
  unfold openMark? at inside
  split at inside
  · rename_i found mediaType lines open_
    cases inside
    simp only [role, open_]
  · cases inside

/-- Lines are told apart by the section and by the doc string they are in, and by nothing else. -/
theorem role_congr {a b : Reader} (mark : a.openMark? = b.openMark?)
    (setting : a.current.setting = b.current.setting) (raw : List Char) :
    a.role raw = b.role raw := by
  cases atA : a.openMark? with
  | none => rw [role_of_outside atA, role_of_outside (mark.symm.trans atA), setting]
  | some found => rw [role_of_inside atA, role_of_inside (mark.symm.trans atA)]

end Reader

end ScenarioRunner
