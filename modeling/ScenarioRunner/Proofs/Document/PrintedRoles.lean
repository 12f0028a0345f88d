import ScenarioRunner.Proofs.Document.Printed
import ScenarioRunner.Proofs.Document.Setting
import ScenarioRunner.Proofs.Text.Cut
import ScenarioRunner.Proofs.Text.Separated

namespace ScenarioRunner

theorem DocMark.read?_eq_none_of_head {c : Char} {rest : List Char} (noDouble : c ≠ '"')
    (noSingle : c ≠ '\x27') : DocMark.read? (c :: rest) = none := by
  simp [DocMark.read?, DocMark.text, afterStart?, noDouble.symm, noSingle.symm]

theorem tagLine_words {tags : List String} (valid : ∀ tag ∈ tags, IsTag tag) :
    (∀ word ∈ tags.map fun tag => '@' :: tag.toList, word ≠ []) ∧
      ∀ word ∈ tags.map fun tag => '@' :: tag.toList, ∀ c ∈ word, isBlank c = false := by
  constructor
  · intro word member
    obtain ⟨tag, _, rfl⟩ := List.mem_map.mp member
    simp
  · intro word member c inside
    obtain ⟨tag, known, rfl⟩ := List.mem_map.mp member
    rcases List.mem_cons.mp inside with rfl | deeper
    · decide
    · exact (valid tag known).solid c deeper

theorem tagsOf_tagLine {tags : List String} (valid : ∀ tag ∈ tags, IsTag tag) :
    tagsOf ([' '].intercalate (tags.map fun tag => '@' :: tag.toList)) = tags := by
  obtain ⟨nonempty, solid⟩ := tagLine_words valid
  rw [tagsOf, blankSeparated_intercalate nonempty solid]
  clear nonempty solid
  induction tags with
  | nil => rfl
  | cons tag rest ih =>
    have later := ih fun other member => valid other (List.mem_cons_of_mem _ member)
    have filled : tag.toList ≠ [] := by simpa using (valid tag (List.mem_cons_self ..)).nonempty
    cases letters : tag.toList with
    | nil => exact absurd letters filled
    | cons c others =>
      have whole : String.ofList (c :: others) = tag := by rw [← letters, String.ofList_toList]
      simp [List.takeWhile_cons, letters, later, whole]

theorem role_tagLine (setting : Setting) {tags : List String} (valid : ∀ tag ∈ tags, IsTag tag)
    (nonempty : tags ≠ []) :
    setting.role (trim ([' '].intercalate (tags.map fun tag => '@' :: tag.toList))) =
      .tags tags := by
  obtain ⟨words, solid⟩ := tagLine_words valid
  have read := tagsOf_tagLine valid
  rw [(trimmed_intercalate words solid).trim_eq]
  cases tags with
  | nil => exact absurd rfl nonempty
  | cons tag rest =>
    obtain ⟨line, shape⟩ : ∃ line, [' '].intercalate ((tag :: rest).map fun tag => '@' :: tag.toList)
        = '@' :: line := by
      cases rest with
      | nil => exact ⟨tag.toList, by simp⟩
      | cons next others => exact ⟨_, by rw [List.map_cons, List.map_cons, List.intercalate_cons_cons]; rfl⟩
    rw [shape] at read ⊢
    rw [Setting.role_eq_plainRole (DocMark.read?_eq_none_of_head (by decide) (by decide)) (by simp)]
    simp [Reader.plainRole, afterStart?, read]

theorem plainRole_spelling {spelling : String} {header : Header}
    (known : (spelling, header) ∈ Header.spellings) (describing : Bool) (rest : List Char) :
    Reader.plainRole describing (spelling.toList ++ rest) =
      .header header (String.ofList (trim rest)) := by
  simp only [Header.spellings, List.mem_cons, Prod.mk.injEq, List.not_mem_nil, or_false] at known
  rcases known with ⟨rfl, rfl⟩ | ⟨rfl, rfl⟩ | ⟨rfl, rfl⟩ | ⟨rfl, rfl⟩ | ⟨rfl, rfl⟩ | ⟨rfl, rfl⟩ |
    ⟨rfl, rfl⟩ | ⟨rfl, rfl⟩ <;> rfl

theorem solid_of_spelling {spelling : String} {header : Header}
    (known : (spelling, header) ∈ Header.spellings) :
    spelling.toList ≠ [] ∧ Trimmed spelling.toList ∧
      ∀ c ∈ spelling.toList.head?, c ≠ '"' ∧ c ≠ '\x27' ∧ c ≠ '|' := by
  have each : Header.spellings.all (fun pair => !pair.1.toList.isEmpty &&
      (pair.1.toList.head?.all (fun c => decide (isBlank c = false)) &&
        (pair.1.toList.getLast?.all (fun c => decide (isBlank c = false)) &&
          pair.1.toList.head?.all fun c => decide (c ≠ '"' ∧ c ≠ '\x27' ∧ c ≠ '|')))) = true := by
    decide
  have here := List.all_eq_true.mp each _ known
  simp only [Bool.and_eq_true] at here
  obtain ⟨filled, first, last, special⟩ := here
  exact ⟨by simpa using filled, trimmed_of_all first last, forall_mem_of_optionAll special⟩

/-- A line that begins as a header does is one in every section. -/
theorem role_spelling (setting : Setting) {spelling : String} {header : Header}
    (known : (spelling, header) ∈ Header.spellings) (rest : List Char) :
    setting.role (spelling.toList ++ rest) = .header header (String.ofList (trim rest)) := by
  obtain ⟨nonempty, _, head⟩ := solid_of_spelling known
  rw [← plainRole_spelling known setting.describing rest]
  cases letters : spelling.toList with
  | nil => exact absurd letters nonempty
  | cons c others =>
    obtain ⟨noDouble, noSingle, noBar⟩ := head c (by simp [letters])
    exact Setting.role_eq_plainRole (DocMark.read?_eq_none_of_head noDouble noSingle)
      (by simpa using noBar)

/-- A title is read back from behind any spelling of its header. -/
theorem role_headerLine (setting : Setting) {spelling : String} {header : Header}
    (known : (spelling, header) ∈ Header.spellings) {title : String}
    (trimmed : Trimmed title.toList) :
    setting.role (trim (headerLine spelling title)) = .header header title := by
  obtain ⟨nonempty, solid, _⟩ := solid_of_spelling known
  have behind : trim (trimEnd (' ' :: title.toList)) = title.toList := by
    rw [trim_trimEnd, trimmed.trim_cons (by decide)]
  rw [headerLine, trim_append_of_solid nonempty solid, role_spelling setting known, behind,
    String.ofList_toList]

theorem role_backgroundLine (setting : Setting) :
    setting.role (trim "Background:".toList) = .header .background "" := by
  rw [Setting.role_eq_plainRole (by decide) (by decide)]
  rfl

theorem solid_of_keyword (keyword : StepKeyword) :
    keyword.text.toList ≠ [] ∧ Trimmed keyword.text.toList ∧
      ∀ c ∈ keyword.text.toList.head?, c ≠ '"' ∧ c ≠ '\x27' ∧ c ≠ '|' := by
  cases keyword <;>
  exact ⟨by decide, trimmed_of_all (by decide) (by decide), forall_mem_of_optionAll (by decide)⟩

theorem plainRole_keyword (keyword : StepKeyword) (describing : Bool) {rest others : List Char}
    {c : Char} (start : trimStart (' ' :: rest) = c :: others) :
    Reader.plainRole describing (keyword.text.toList ++ ' ' :: rest) =
      .step keyword (String.ofList (c :: others)) := by
  have blank : isBlank ' ' = true := by decide
  have step : readStep? (keyword.text.toList ++ ' ' :: rest) =
      some (keyword, String.ofList (c :: others)) := by
    cases keyword <;>
      simp [readStep?, StepKeyword.all, StepKeyword.text, afterStart?, start, blank]
  have header : Header.read? (keyword.text.toList ++ ' ' :: rest) = none := by
    cases keyword <;> rfl
  have filled : keyword.text.toList ++ ' ' :: rest ≠ [] := by simp
  have noComment : (keyword.text.toList ++ ' ' :: rest).head? ≠ some '#' := by
    cases keyword <;> exact fun same => by cases same
  have noTags : (keyword.text.toList ++ ' ' :: rest).head? ≠ some '@' := by
    cases keyword <;> exact fun same => by cases same
  have noImport : afterStart? "import ".toList (keyword.text.toList ++ ' ' :: rest) = none := by
    cases keyword <;> rfl
  simp only [Reader.plainRole, step, header, filled, noComment, noTags, noImport]
  rfl

/-- The blank between keyword and text is read over. -/
theorem role_stepLine (setting : Setting) (keyword : StepKeyword) {text : String}
    (nonempty : text ≠ "") (trimmed : Trimmed text.toList) :
    setting.role (trim (keyword.text.toList ++ ' ' :: text.toList)) = .step keyword text := by
  have filled : text.toList ≠ [] := by simpa using nonempty
  obtain ⟨c, others, letters⟩ : ∃ c others, text.toList = c :: others :=
    List.exists_cons_of_ne_nil filled
  have whole : String.ofList (c :: others) = text := by rw [← letters, String.ofList_toList]
  rw [letters] at trimmed ⊢
  have blank : isBlank ' ' = true := by decide
  have solid : isBlank c = false := trimmed.1 c rfl
  have start : trimStart (' ' :: c :: others) = c :: others := by
    simp [trimStart, blank, solid]
  have kept : trimEnd (' ' :: c :: others) = ' ' :: c :: others := by
    apply trimEnd_of_getLast
    intro d last
    rw [List.getLast?_cons_cons] at last
    exact trimmed.2 d last
  obtain ⟨keywordFilled, keywordSolid, head⟩ := solid_of_keyword keyword
  rw [trim_append_of_solid keywordFilled keywordSolid, kept]
  rw [← whole, ← plainRole_keyword keyword setting.describing start]
  cases spelled : keyword.text.toList with
  | nil => exact absurd spelled keywordFilled
  | cons d tail =>
    obtain ⟨noDouble, noSingle, noBar⟩ := head d (by simp [spelled])
    exact Setting.role_eq_plainRole (DocMark.read?_eq_none_of_head noDouble noSingle)
      (by simpa using noBar)

/-- Behind a solid start a row keeps its outer bars, and the cells between them their blanks. -/
theorem cellsOf_rowLine {allowed : Char → Prop} {cells : List String} (nonempty : cells ≠ [])
    (valid : ∀ cell ∈ cells, IsCell allowed cell) :
    Trimmed (rowLine cells) ∧ cellsOf (rowLine cells) = cells := by
  have line : rowLine cells =
      '|' :: (['|'].intercalate (cells.map fun cell => ' ' :: cell.toList ++ [' ']) ++ ['|']) := by
    rw [← flatMap_append_singleton (by simpa using nonempty), rowLine, List.flatMap_map]
    simp
  have bar : isBlank '|' = false := by decide
  have trimmed : Trimmed (rowLine cells) := by
    rw [line]
    refine ⟨by simpa using bar, fun c last => ?_⟩
    rw [← List.cons_append, List.getLast?_concat] at last
    cases last
    exact bar
  refine ⟨trimmed, ?_⟩
  rw [cellsOf, trimmed.trim_eq, line]
  simp only [dropFirst, if_true, dropLast_append_singleton]
  rw [List.splitOn_intercalate]
  · rw [List.map_map]
    conv_rhs => rw [← List.map_id cells]
    apply List.map_congr_left
    intro cell member
    have padded : trim ([' '] ++ cell.toList ++ [' ']) = cell.toList :=
      (valid cell member).inline.trimmed.trim_padded (forall_mem_of_all (by decide))
        (forall_mem_of_all (by decide))
    simp only [Function.comp_apply, id_eq]
    rw [← List.singleton_append, padded, String.ofList_toList]
  · intro piece member inside
    obtain ⟨cell, known, rfl⟩ := List.mem_map.mp member
    have clean := (valid cell known).noBar
    simp [clean] at inside
  · simpa using nonempty

theorem role_rowLine {allowed : Char → Prop} (setting : Setting) {cells : List String}
    (nonempty : cells ≠ []) (valid : ∀ cell ∈ cells, IsCell allowed cell)
    (inTable : setting.inExamples = true ∨ setting.hasStep = true) :
    setting.role (trim (rowLine cells)) =
      if setting.inExamples then .exampleRow cells else .tableRow cells := by
  obtain ⟨trimmed, read⟩ := cellsOf_rowLine nonempty valid
  have noMark : DocMark.read? (rowLine cells) = none :=
    DocMark.read?_eq_none_of_head (by decide) (by decide)
  have bar : (rowLine cells).head? = some '|' := rfl
  rw [trimmed.trim_eq]
  simp only [Setting.role, noMark, bar, read, true_and, ite_self]
  rcases inTable with found | found
  · simp only [found, if_true]
  · simp only [found, if_true]

/-- A line of a description stays one where descriptions are read. -/
theorem role_description {setting : Setting} (noStep : setting.hasStep = false)
    (noTable : setting.inExamples = false) (describing : setting.describing = true)
    {line : List Char} (valid : IsDescription line) :
    setting.role (trim line) = .description line := by
  have noImport : afterStart? "import ".toList line = none :=
    afterStart?_eq_none_iff.mpr valid.noImport
  rw [valid.trimmed.trim_eq]
  simp only [Setting.role, noStep, noTable, describing, Reader.plainRole, valid.nonempty,
    valid.noComment, noImport, valid.noTags, valid.noHeader, valid.noStep]
  simp

theorem DocMark.read?_text (mark : DocMark) (rest : List Char) :
    DocMark.read? (mark.text ++ rest) =
      some (mark, if trim rest = [] then none else some (String.ofList (trim rest))) := by
  cases mark <;> rfl

/-- The media type is what follows the opening mark. -/
theorem role_docOpening {setting : Setting} (step : setting.hasStep = true) (mark : DocMark)
    {mediaType : Option String}
    (valid : ∀ name ∈ mediaType, name ≠ "" ∧ Trimmed name.toList) :
    setting.role (trim (mark.text ++ (mediaType.getD "").toList)) =
      .docStringStart mark mediaType := by
  have solid : Trimmed mark.text := by
    cases mark <;> exact trimmed_of_all (by decide) (by decide)
  have filled : mark.text ≠ [] := by cases mark <;> decide
  have trimmed : Trimmed (mediaType.getD "").toList := by
    cases mediaType with
    | none => exact .nil
    | some name => exact (valid name rfl).2
  rw [trim_append_of_solid filled solid, trimEnd_of_getLast trimmed.2]
  simp only [Setting.role, step, if_true, DocMark.read?_text, trimmed.trim_eq]
  cases mediaType with
  | none => rfl
  | some name =>
    have nonempty : name.toList ≠ [] := by simpa using (valid name rfl).1
    simp [nonempty]

theorem DocString.admits_mark {doc : DocString} (some_ : ∃ mark, doc.Admits mark) :
    doc.Admits doc.mark := by
  obtain ⟨mark, admits⟩ := some_
  unfold DocString.mark
  by_cases double : doc.Admits .doubleQuotes
  · rw [if_pos double]
    exact double
  · rw [if_neg double]
    cases mark with
    | doubleQuotes => exact absurd admits double
    | singleQuotes => exact admits

end ScenarioRunner
