import ScenarioRunner.Proofs.Document.Setting

namespace ScenarioRunner

theorem changeLast_concat {α : Type} (change : α → α) (list : List α) (a : α) :
    changeLast change (list ++ [a]) = list ++ [change a] := by
  induction list with
  | nil => rfl
  | cons b rest ih =>
    cases rest with
    | nil => rfl
    | cons c others =>
      simp only [List.cons_append, changeLast]
      simp only [List.cons_append] at ih
      rw [ih]

theorem modify_concat_length {α : Type} (change : α → α) (list : List α) (a : α) :
    (list ++ [a]).modify list.length change = list ++ [change a] := by
  simp [List.modify_eq_take_drop]

theorem changeLast_eq_modify {α : Type} (change : α → α) (list : List α) :
    changeLast change list = list.modify (list.length - 1) change := by
  rcases List.eq_nil_or_concat list with rfl | ⟨first, last, rfl⟩
  · rfl
  · rw [List.concat_eq_append, changeLast_concat, List.length_append, List.length_singleton,
      Nat.add_sub_cancel, modify_concat_length]

theorem map_modify {α β : Type} {change : α → α} {changed : β → β} {f : α → β}
    (commute : ∀ a, f (change a) = changed (f a)) (list : List α) (i : Nat) :
    (list.modify i change).map f = (list.map f).modify i changed := by
  induction list generalizing i with
  | nil => simp
  | cons a rest ih => cases i <;> simp [commute, ih]

theorem map_changeLast {α β : Type} {change : α → α} {changed : β → β} {f : α → β}
    (commute : ∀ a, f (change a) = changed (f a)) (list : List α) :
    (changeLast change list).map f = changeLast changed (list.map f) := by
  rw [changeLast_eq_modify, changeLast_eq_modify, map_modify commute, List.length_map]

namespace Section

theorem mapSteps_mapSteps (change next : List Step → List Step) (current : Section) :
    (current.mapSteps change).mapSteps next = current.mapSteps (next ∘ change) := by
  cases current <;> rfl

/-- The feature once it holds what the section holds. -/
def addTo (feature : Feature) : Section → Feature
  | start | Section.feature _ => feature
  | background steps => { feature with background := some steps }
  | scenario s => { feature with scenarios := feature.scenarios ++ [s] }
  | outline o => { feature with outlines := feature.outlines ++ [o] }
  | examples o table =>
    { feature with
      outlines := feature.outlines ++ [{ o with examples := o.examples ++ [table] }] }

end Section

/-- Lines of most roles first give what was gathered to the last step. -/
def LineRole.settles : LineRole → Bool
  | docStringText _ | exampleRow _ | tableRow _ => false
  | _ => true

namespace Reader

theorem readLines_append (reader : Reader) (number : Nat) (first second : List (List Char)) :
    reader.readLines number (first ++ second) =
      (reader.readLines number first).readLines (number + first.length) second := by
  induction first generalizing reader number with
  | nil => rfl
  | cons line rest ih =>
    simp only [List.cons_append, readLines, ih, List.length_cons]
    congr 1
    omega

/-- What the lines are, each given those before it. -/
def roles (reader : Reader) (number : Nat) : List (List Char) → List LineRole
  | [] => []
  | line :: rest => reader.role line :: (reader.read number line).roles (number + 1) rest

theorem finishGathering_of_nothing {reader : Reader} (nothing : reader.gathering = .nothing) :
    reader.finishGathering = reader := by
  simp [finishGathering, nothing]

theorem gathering_finishGathering (reader : Reader) :
    reader.finishGathering.gathering = .nothing := by
  unfold finishGathering
  split
  · assumption
  · rfl
  · rfl

theorem path_finishGathering (reader : Reader) : reader.finishGathering.path = reader.path := by
  unfold finishGathering
  split <;> rfl

theorem feature_finishGathering (reader : Reader) :
    reader.finishGathering.feature = reader.feature := by
  unfold finishGathering
  split <;> rfl

theorem pendingTags_finishGathering (reader : Reader) :
    reader.finishGathering.pendingTags = reader.pendingTags := by
  unfold finishGathering
  split <;> rfl

theorem finishGathering_finishGathering (reader : Reader) :
    reader.finishGathering.finishGathering = reader.finishGathering :=
  finishGathering_of_nothing reader.gathering_finishGathering

theorem setting_finishGathering (reader : Reader) :
    reader.finishGathering.current.setting = reader.current.setting := by
  unfold finishGathering
  split
  · rfl
  · exact Section.setting_mapSteps (isEmpty_changeLast _) _
  · exact Section.setting_mapSteps (isEmpty_changeLast _) _

theorem closeSection_eq (reader : Reader) :
    reader.closeSection =
      { reader.finishGathering with
        feature := reader.finishGathering.current.addTo reader.finishGathering.feature
        current := .start } := by
  unfold closeSection
  generalize reader.finishGathering = settled
  obtain ⟨path, feature, hasFeatureLine, current, gathering, pendingTags⟩ := settled
  cases current <;> rfl

theorem closeSection_finishGathering (reader : Reader) :
    reader.finishGathering.closeSection = reader.closeSection := by
  rw [closeSection_eq, closeSection_eq, finishGathering_finishGathering]

theorem gathering_closeSection (reader : Reader) : reader.closeSection.gathering = .nothing := by
  rw [closeSection_eq]
  exact reader.gathering_finishGathering

theorem pendingTags_closeSection (reader : Reader) :
    reader.closeSection.pendingTags = reader.pendingTags := by
  rw [closeSection_eq]
  exact reader.pendingTags_finishGathering

theorem closeSection_closeSection (reader : Reader) :
    reader.closeSection.closeSection = reader.closeSection := by
  have settled := finishGathering_of_nothing reader.gathering_closeSection
  rw [closeSection_eq reader.closeSection, settled, closeSection_eq]
  rfl

theorem path_closeSection (reader : Reader) : reader.closeSection.path = reader.path := by
  rw [closeSection_eq]
  exact reader.path_finishGathering

theorem path_openSection (reader : Reader) (header : Header) (title : String) :
    (reader.openSection header title).path = reader.path := by
  cases header with
  | examples =>
    simp only [openSection, openExamples]
    split
    · exact reader.path_finishGathering
    · exact (path_closeSection _).trans reader.path_finishGathering
  | feature | background | scenario | outline => exact reader.path_closeSection

theorem path_act (reader : Reader) (number : Nat) (role : LineRole) :
    (reader.act number role).path = reader.path := by
  have settled := reader.path_finishGathering
  cases role with
  | docStringText line =>
    simp only [act, addDocLine]
    split <;> rfl
  | exampleRow cells =>
    simp only [act, addExampleRow]
    split <;> rfl
  | tableRow cells =>
    simp only [act, addTableRow]
    split <;> rfl
  | blank =>
    simp only [act]
    split <;> exact settled
  | header header title => exact (path_openSection _ _ _).trans settled
  | docStringStart mark mediaType | docStringEnd | comment | tags names | step keyword text
  | description line | unrecognized line => exact settled

theorem path_readLines (reader : Reader) (number : Nat) (lines : List (List Char)) :
    (reader.readLines number lines).path = reader.path := by
  induction lines generalizing reader number with
  | nil => rfl
  | cons line rest ih => exact (ih _ _).trans (reader.path_act number _)

theorem act_finishGathering {role : LineRole} (settles : role.settles = true) (reader : Reader)
    (number : Nat) : reader.finishGathering.act number role = reader.act number role := by
  have twice := reader.finishGathering_finishGathering
  cases role with
  | docStringText line | exampleRow cells | tableRow cells => cases settles
  | docStringStart mark mediaType | docStringEnd | blank | comment | tags names
  | header header title | step keyword text | description line | unrecognized line =>
    simp only [act, twice]

theorem act_header (reader : Reader) (number : Nat) (header : Header) (title : String) :
    reader.act number (.header header title) = reader.openSection header title := by
  cases header <;> simp only [act, openSection, openExamples, finishGathering_finishGathering,
    closeSection_finishGathering, pendingTags_finishGathering]

/-- What a reader becomes outside of doc strings, once the last step has got what belongs to it. -/
def Settles (reader settled : Reader) : Prop :=
  reader.openMark? = none ∧ reader.finishGathering = settled

theorem Settles.refl {reader : Reader} (nothing : reader.gathering = .nothing) :
    reader.Settles reader :=
  ⟨by simp [openMark?, nothing], finishGathering_of_nothing nothing⟩

/-- Lines that settle the reader do the same to it before and after it is settled. -/
theorem Settles.read_eq {reader settled : Reader} (rests : reader.Settles settled) {raw : List Char}
    {role : LineRole} (known : settled.current.setting.role (trim raw) = role)
    (settles : role.settles = true) (number : Nat) :
    reader.read number raw = settled.act number role := by
  obtain ⟨outside, rfl⟩ := rests
  rw [setting_finishGathering] at known
  rw [read, role_of_outside outside, known, act_finishGathering settles]

theorem Settles.finish_eq {reader settled : Reader} (rests : reader.Settles settled) :
    reader.finish = settled.current.addTo settled.feature := by
  obtain ⟨_, rfl⟩ := rests
  rw [finish, closeSection_eq]

/-- Reading the lines leads from the one settled reader to the other. -/
def Reads (before : Reader) (lines : List (List Char)) (after : Reader) : Prop :=
  ∀ (reader : Reader) (number : Nat), reader.Settles before →
    (reader.readLines number lines).Settles after

theorem Reads.nil (reader : Reader) : reader.Reads [] reader := fun _ _ rests => rests

theorem Reads.append {a b c : Reader} {first second : List (List Char)} (one : a.Reads first b)
    (two : b.Reads second c) : a.Reads (first ++ second) c := by
  intro reader number rests
  rw [readLines_append]
  exact two _ _ (one reader number rests)

/-- One line of a known role, and what follows it. -/
theorem Reads.cons {a b : Reader} {raw : List Char} {rest : List (List Char)} {role : LineRole}
    (known : a.current.setting.role (trim raw) = role) (settles : role.settles = true)
    (later : ∀ number, ((a.act number role).readLines (number + 1) rest).Settles b) :
    a.Reads (raw :: rest) b := by
  intro reader number rests
  rw [readLines, rests.read_eq known settles]
  exact later number

end Reader

/-- Where a reader that has read the lines from the first on has got to. -/
def readerBelow (path : Option SourcePath) (above : List (List Char)) : Reader :=
  (Reader.start path).readLines 1 above

theorem readFeature_eq {path : Option SourcePath} {text : String} {above below : List (List Char)}
    (lines : linesOf text.toList = above ++ below) :
    readFeature path text =
      ((readerBelow path above).readLines (1 + above.length) below).finish := by
  rw [readFeature, lines, Reader.readLines_append, readerBelow]

end ScenarioRunner
