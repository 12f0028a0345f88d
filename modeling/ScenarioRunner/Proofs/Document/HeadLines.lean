import ScenarioRunner.Proofs.Document.Owned
import ScenarioRunner.Proofs.Document.PrintedRoles
import ScenarioRunner.Proofs.Document.ReadRoles
import ScenarioRunner.Proofs.Text.Words

namespace ScenarioRunner

/-- The tags among words: what stands behind the `@` of a word, up to a comment. An `@` alone and
words without it are no tags. -/
inductive TagsAmong : List (List Char) → List String → Prop
  | nil : TagsAmong [] []
  | comment {remark : List Char} {words : List (List Char)} : TagsAmong (('#' :: remark) :: words) []
  | tag {c : Char} {rest : List Char} {words : List (List Char)} {tags : List String} :
    TagsAmong words tags → TagsAmong (('@' :: c :: rest) :: words) (String.ofList (c :: rest) :: tags)
  | other {word : List Char} {words : List (List Char)} {tags : List String} :
    word.head? ≠ some '#' → (∀ c rest, word ≠ '@' :: c :: rest) → TagsAmong words tags →
    TagsAmong (word :: words) tags

/-- The tags that the words of a line give. -/
def HasTags (line : List Char) (tags : List String) : Prop :=
  ∃ words, HasWords line words ∧ TagsAmong words tags

namespace LineRole

/-- Is a line in a doc string, if the line above it has this role and is in one or not? -/
def leavesInside (inside : Bool) : LineRole → Bool
  | docStringStart _ _ => true
  | docStringEnd => false
  | _ => inside

/-- A line is for tags if an `@` is the first of it that is not blank, and it gives the tags of its
words then. It is a header if it begins as one is spelled. In a doc string it is neither. -/
structure Heads (inside : Bool) (line : List Char) (role : LineRole) : Prop where
  isTags : (∃ names, role = .tags names) ↔ inside = false ∧ line.find? (!isBlank ·) = some '@'
  tags : ∀ names, role = .tags names → HasTags line names
  header : ∀ header title, role = .header header title ↔ inside = false ∧
    ∃ spelling rest, (spelling, header) ∈ Header.spellings ∧ trim line = spelling.toList ++ rest ∧
      title = String.ofList (trim rest)

end LineRole

/-- All headers and lines for tags are read as such, and no other lines are. -/
inductive HeadsLines : Bool → List (List Char) → List LineRole → Prop
  | nil {inside : Bool} : HeadsLines inside [] []
  | cons {inside : Bool} {line : List Char} {lines : List (List Char)} {role : LineRole}
    {roles : List LineRole} : role.Heads inside line →
    HeadsLines (role.leavesInside inside) lines roles →
    HeadsLines inside (line :: lines) (role :: roles)

theorem tagsAmong_of_words (words : List (List Char)) :
    TagsAmong words ((words.takeWhile fun word => word.head? != some '#').filterMap fun word =>
      match word with
      | '@' :: tag@(_ :: _) => some (String.ofList tag)
      | _ => none) := by
  induction words with
  | nil => exact .nil
  | cons word rest ih =>
    by_cases remark : word.head? = some '#'
    · obtain ⟨_, rfl⟩ := List.head?_eq_some_iff.mp remark
      exact .comment
    · have kept : (word.head? != some '#') = true := by simpa using remark
      rw [List.takeWhile_cons, kept, if_pos rfl, List.filterMap_cons]
      split
      · rename_i none
        refine .other remark (fun c tail same => ?_) ih
        simp [same] at none
      · rename_i tag found
        split at found
        · cases found
          exact .tag ih
        · cases found

theorem hasTags_tagsOf (line : List Char) : HasTags line (tagsOf (trim line)) :=
  ⟨_, .of_trim (hasWords_blankSeparated (trim line)), tagsAmong_of_words _⟩

theorem find?_isBlank (line : List Char) : line.find? (!isBlank ·) = (trim line).head? := by
  obtain ⟨lead, tail, whole, leadBlank, tailBlank, first, _⟩ := trim_decomposition line
  have noneIn {blanks : List Char} (blank : ∀ c ∈ blanks, isBlank c = true) :
      blanks.find? (!isBlank ·) = none := by
    simpa using blank
  conv_lhs => rw [whole]
  rw [List.find?_append, List.find?_append, noneIn leadBlank, noneIn tailBlank]
  cases core : trim line with
  | nil => rfl
  | cons c rest =>
    rw [core] at first
    simp [first c rfl]

namespace Setting

theorem role_of_at {line : List Char} (begins : line.head? = some '@') (setting : Setting) :
    setting.role line = .tags (tagsOf line) := by
  obtain ⟨rest, rfl⟩ := List.head?_eq_some_iff.mp begins
  have noMark : DocMark.read? ('@' :: rest) = none := rfl
  have noComment : (('@' :: rest).head? = some '#' ||
      (afterStart? "import ".toList ('@' :: rest)).isSome) = false := rfl
  rw [role_eq_plainRole noMark (by simp), Reader.plainRole, noComment]
  rfl

theorem head?_of_tags {setting : Setting} {line : List Char} {names : List String}
    (tags : setting.role line = .tags names) : line.head? = some '@' := by
  unfold role at tags
  split at tags
  · cases tags
  · by_contra other
    unfold Reader.plainRole at tags
    repeat' split at tags
    all_goals cases tags

theorem role_eq_header_iff {setting : Setting} {line : List Char} {header : Header}
    {title : String} : setting.role line = .header header title ↔
      ∃ spelling rest, (spelling, header) ∈ Header.spellings ∧ line = spelling.toList ++ rest ∧
        title = String.ofList (trim rest) := by
  constructor
  · intro opens
    refine Header.read?_eq_some ?_
    unfold role at opens
    split at opens
    · cases opens
    · unfold Reader.plainRole at opens
      repeat' split at opens
      all_goals cases opens
      assumption
  · rintro ⟨spelling, rest, known, rfl, rfl⟩
    exact role_spelling setting known rest

end Setting

namespace Reader

theorem heads_role (reader : Reader) (line : List Char) :
    (reader.role line).Heads reader.openMark?.isSome line := by
  cases inside : reader.openMark? with
  | some mark =>
    have text : reader.role line = .docStringEnd ∨ reader.role line = .docStringText line := by
      rw [role_of_inside inside]
      split <;> simp
    rcases text with same | same <;> rw [same] <;> exact ⟨by simp, nofun, by simp⟩
  | none =>
    rw [role_of_outside inside]
    refine ⟨?_, fun names tags => ?_, fun header title => ?_⟩
    · rw [find?_isBlank]
      constructor
      · rintro ⟨names, tags⟩
        exact ⟨rfl, Setting.head?_of_tags tags⟩
      · rintro ⟨_, begins⟩
        exact ⟨_, Setting.role_of_at begins _⟩
    · rw [Setting.role_of_at (Setting.head?_of_tags tags)] at tags
      cases tags
      exact hasTags_tagsOf line
    · rw [Setting.role_eq_header_iff]
      exact (and_iff_right rfl).symm

theorem openMark?_of_nothing {reader : Reader} (nothing : reader.gathering = .nothing) :
    reader.openMark? = none := by
  rw [openMark?, nothing]

/-- Only the marks of doc strings lead into one and out of it. -/
theorem isSome_openMark?_read (reader : Reader) (number : Nat) (line : List Char) :
    (reader.read number line).openMark?.isSome =
      (reader.role line).leavesInside reader.openMark?.isSome := by
  have settled := openMark?_of_nothing reader.gathering_finishGathering
  cases inside : reader.openMark? with
  | some mark =>
    rw [read, role_of_inside inside]
    split
    · rw [act, settled]
      rfl
    · rw [act, openMark?_addDocLine, inside]
      rfl
  | none =>
    have fits := Setting.role_fitsIn reader.current.setting (trim line)
    rw [← role_of_outside inside] at fits
    rw [read]
    cases role : reader.role line with
    | docStringText line | docStringEnd =>
      rw [role] at fits
      exact fits.elim
    | docStringStart mark mediaType => rfl
    | tableRow cells =>
      simp only [act, addTableRow]
      split <;> rfl
    | exampleRow cells =>
      rw [act, openMark?, gathering_addExampleRow, ← openMark?, inside]
      rfl
    | blank =>
      simp only [act]
      split <;> exact congrArg Option.isSome settled
    | header header title =>
      exact congrArg Option.isSome (openMark?_of_nothing (gathering_openSection _ header title))
    | comment | tags names | step keyword text | description line | unrecognized line =>
      exact congrArg Option.isSome settled

theorem headsLines_roles (reader : Reader) (number : Nat) (lines : List (List Char)) :
    HeadsLines reader.openMark?.isSome lines (reader.roles number lines) := by
  induction lines generalizing reader number with
  | nil => exact .nil
  | cons line rest ih =>
    refine .cons (reader.heads_role line) ?_
    rw [← reader.isSome_openMark?_read number]
    exact ih (reader.read number line) (number + 1)

end Reader

end ScenarioRunner
