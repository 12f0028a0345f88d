import ScenarioRunner.Proofs.Document.Printed
import ScenarioRunner.Proofs.Document.Setting
import ScenarioRunner.Proofs.Text.Cut

namespace ScenarioRunner

variable {allowed : Char → Prop}

theorem Inline.of_trim {text : List Char} (made : ∀ c ∈ text, allowed c) :
    Inline allowed (String.ofList (trim text)) := by
  constructor
  · intro c inside
    rw [String.toList_ofList] at inside
    exact made c (mem_of_mem_trim inside)
  · rw [String.toList_ofList]
    exact trimmed_trim text

theorem mem_of_mem_dropFirst {c d : Char} {text : List Char} (member : d ∈ dropFirst c text) :
    d ∈ text := by
  cases text with
  | nil => exact member
  | cons e rest =>
    by_cases same : e = c
    · rw [dropFirst, if_pos same] at member
      exact List.mem_cons_of_mem _ member
    · rwa [dropFirst, if_neg same] at member

theorem Header.read?_eq_some {line : List Char} {header : Header} {title : String}
    (found : Header.read? line = some (header, title)) :
    ∃ spelling rest, (spelling, header) ∈ Header.spellings ∧ line = spelling.toList ++ rest ∧
      title = String.ofList (trim rest) := by
  obtain ⟨⟨spelling, kind⟩, known, read⟩ := List.exists_of_findSome?_eq_some found
  obtain ⟨rest, after, same⟩ := Option.map_eq_some_iff.mp read
  cases same
  exact ⟨spelling, rest, known, afterStart?_eq_some after, rfl⟩

theorem DocMark.read?_eq_some {line : List Char} {mark : DocMark} {mediaType : Option String}
    (found : DocMark.read? line = some (mark, mediaType)) :
    ∃ rest, line = mark.text ++ rest ∧
      ∀ name ∈ mediaType, name = String.ofList (trim rest) ∧ trim rest ≠ [] := by
  obtain ⟨opening, _, read⟩ := List.exists_of_findSome?_eq_some found
  obtain ⟨rest, after, same⟩ := Option.map_eq_some_iff.mp read
  cases same
  refine ⟨rest, afterStart?_eq_some after, fun name given => ?_⟩
  split at given
  · cases given
  · rename_i filled
    cases given
    exact ⟨rfl, filled⟩

/-- Blanks stand between the keyword of a step and its text, and none of them is part of the text. -/
theorem readStep?_eq_some {line : List Char} {keyword : StepKeyword} {text : String}
    (found : readStep? line = some (keyword, text)) :
    ∃ blanks, line = keyword.text.toList ++ blanks ++ text.toList ∧ blanks ≠ [] ∧
      (∀ c ∈ blanks, isBlank c = true) ∧ text ≠ "" ∧ ∀ c ∈ text.toList.head?, isBlank c = false := by
  obtain ⟨spelled, _, read⟩ := List.exists_of_findSome?_eq_some found
  obtain ⟨rest, after, behind⟩ := Option.bind_eq_some_iff.mp read
  split at behind
  · rename_i first others c tail start
    split at behind
    · rename_i blank
      cases behind
      have whole := List.takeWhile_append_dropWhile (p := isBlank) (l := first :: others)
      rw [← trimStart, start] at whole
      have stops := List.head?_dropWhile_not isBlank (first :: others)
      rw [← trimStart, start] at stops
      refine ⟨(first :: others).takeWhile isBlank, ?_, ?_, fun d => List.mem_takeWhile_imp, ?_, ?_⟩
      · rw [String.toList_ofList, List.append_assoc, whole]
        exact afterStart?_eq_some after
      · simp [blank]
      · simp
      · rw [String.toList_ofList]
        rintro d ⟨⟩
        exact stops
    · cases behind
  · cases behind

/-- The text of a step ends where its line ends, so it is trimmed with it. -/
theorem readStep?_trimmed {line : List Char} (trimmed : Trimmed line) {keyword : StepKeyword}
    {text : String} (found : readStep? line = some (keyword, text)) : Trimmed text.toList := by
  obtain ⟨blanks, rfl, _, _, _, first⟩ := readStep?_eq_some found
  refine ⟨first, fun c last => ?_⟩
  apply trimmed.2
  rw [List.getLast?_append, last]
  rfl

theorem readStep?_inline {line : List Char} (trimmed : Trimmed line) (made : ∀ c ∈ line, allowed c)
    {keyword : StepKeyword} {text : String} (found : readStep? line = some (keyword, text)) :
    text ≠ "" ∧ Inline allowed text := by
  have own := readStep?_trimmed trimmed found
  obtain ⟨blanks, rfl, _, _, filled, _⟩ := readStep?_eq_some found
  exact ⟨filled, fun c inside => made c (List.mem_append_right _ inside), own⟩

theorem cellsOf_ne_nil (line : List Char) : cellsOf line ≠ [] := by
  simp [cellsOf]

theorem cellsOf_isCell {line : List Char} (made : ∀ c ∈ line, allowed c) :
    ∀ cell ∈ cellsOf line, IsCell allowed cell := by
  intro cell member
  obtain ⟨piece, known, rfl⟩ := List.mem_map.mp member
  constructor
  · apply Inline.of_trim
    intro c inside
    obtain ⟨within, _⟩ := mem_piece known inside
    exact made c (mem_of_mem_trim (mem_of_mem_dropFirst (mem_of_mem_dropLast within)))
  · rw [String.toList_ofList]
    exact fun inside => separator_not_mem_piece known (mem_of_mem_trim inside)

theorem tagsOf_isTag (line : List Char) : ∀ tag ∈ tagsOf line, IsTag tag := by
  intro tag member
  obtain ⟨word, known, read⟩ := List.mem_filterMap.mp member
  have solid : ∀ c ∈ word, isBlank c = false := by
    have run := (List.mem_filter.mp ((List.takeWhile_prefix _).subset known)).2
    intro c inside
    cases blank : isBlank c with
    | false => rfl
    | true => simp [List.any_eq_true.mpr ⟨c, inside, blank⟩] at run
  split at read
  · rename_i c others
    cases read
    refine ⟨by simp, fun d inside => ?_⟩
    rw [String.toList_ofList] at inside
    exact solid d (List.mem_cons_of_mem _ inside)
  · cases read

/-- What a line tells can be printed again. The text of a doc string cannot end it. -/
def LineRole.PrintableIn (allowed : Char → Prop) (openMark? : Option DocMark) : LineRole → Prop
  | docStringStart _ mediaType => ∀ name ∈ mediaType, name ≠ "" ∧ Inline allowed name
  | docStringText line =>
    (∀ c ∈ line, allowed c) ∧ ∀ mark ∈ openMark?, mark.text.isPrefixOf (trim line) = false
  | exampleRow cells => ∀ cell ∈ cells, IsCell allowed cell
  | tableRow cells => cells ≠ [] ∧ ∀ cell ∈ cells, IsCell allowed cell
  | tags names => ∀ tag ∈ names, IsTag tag
  | header _ title => Inline allowed title
  | step _ text => text ≠ "" ∧ Inline allowed text
  | description line => (∀ c ∈ line, allowed c) ∧ IsDescription line
  | docStringEnd | blank | comment | unrecognized _ => True

theorem plainRole_printableIn {line : List Char} (trimmed : Trimmed line)
    (made : ∀ c ∈ line, allowed c) (describing : Bool) (openMark? : Option DocMark) :
    (Reader.plainRole describing line).PrintableIn allowed openMark? := by
  unfold Reader.plainRole
  split
  · trivial
  · rename_i nonempty
    split
    · trivial
    · rename_i noComment
      split
      · exact tagsOf_isTag line
      · rename_i noTags
        cases header : Header.read? line with
        | some found =>
          obtain ⟨spelling, rest, _, whole, title⟩ := Header.read?_eq_some header
          show Inline allowed found.2
          rw [title]
          exact .of_trim fun c inside => made c (by rw [whole]; exact List.mem_append_right _ inside)
        | none =>
          cases step : readStep? line with
          | some found => exact readStep?_inline trimmed made step
          | none =>
            cases describing with
            | false => trivial
            | true =>
              simp only [Bool.or_eq_true, decide_eq_true_eq, not_or] at noComment
              obtain ⟨noHash, noImport⟩ := noComment
              refine ⟨made, ⟨nonempty, trimmed, noHash, ?_, noTags, header, step⟩⟩
              exact afterStart?_eq_none_iff.mp (by simpa using noImport)

theorem Setting.role_printableIn {line : List Char} (trimmed : Trimmed line)
    (made : ∀ c ∈ line, allowed c) (setting : Setting) (openMark? : Option DocMark) :
    (setting.role line).PrintableIn allowed openMark? := by
  unfold Setting.role
  split
  · rename_i mark mediaType opening
    split at opening
    · obtain ⟨rest, whole, typed⟩ := DocMark.read?_eq_some opening
      intro name given
      obtain ⟨rfl, filled⟩ := typed name given
      refine ⟨by simpa using filled, .of_trim fun c inside => made c ?_⟩
      rw [whole]
      exact List.mem_append_right _ inside
    · cases opening
  · split
    · exact cellsOf_isCell made
    · split
      · exact ⟨cellsOf_ne_nil line, cellsOf_isCell made⟩
      · exact plainRole_printableIn trimmed made _ _

/-- Whatever stands on a line, its role says only what can be printed. -/
theorem Reader.role_printableIn (reader : Reader) {raw : List Char} (made : ∀ c ∈ raw, allowed c) :
    (reader.role raw).PrintableIn allowed reader.openMark? := by
  cases inside : reader.openMark? with
  | none =>
    rw [role_of_outside inside]
    exact Setting.role_printableIn (trimmed_trim raw) (fun c here => made c (mem_of_mem_trim here)) _ _
  | some mark =>
    rw [role_of_inside inside]
    by_cases closes : mark.text.isPrefixOf (trim raw) = true
    · rw [if_pos closes]
      trivial
    · rw [if_neg closes]
      refine ⟨made, fun other same => ?_⟩
      cases same
      exact Bool.eq_false_iff.mpr closes

end ScenarioRunner
