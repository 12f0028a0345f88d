import Mathlib.Data.List.TakeWhile
import ScenarioRunner.Feature.Expansion
import ScenarioRunner.Proofs.Text.Cut

namespace ScenarioRunner

/-- The two spellings of a reference to a column. -/
def columnTokens (column : String) : List (List Char) :=
  ['<' :: column.toList ++ ['>'], '\x7b' :: column.toList ++ ['\x7d']]

/-- What stands behind a reference to the column with which the text starts. -/
def tokenEnd? (column : String) (text : List Char) : Option (List Char) :=
  (columnTokens column).findSome? fun token => afterStart? token text

/-- The value in place of the reference with which the text starts, and what stands behind it. -/
def columnToken? (values : RowValues) (text : List Char) : Option (List Char × List Char) :=
  values.findSome? fun entry =>
    (tokenEnd? entry.1 text).map fun after => (entry.2.toList, after)

theorem mem_columnTokens_iff {column : String} {token : List Char} :
    token ∈ columnTokens column ↔
      ∃ opening closing, closingBracket? opening = some closing ∧
        token = opening :: column.toList ++ [closing] := by
  have braces : closingBracket? '\x7b' = some '\x7d' := by decide
  constructor
  · intro member
    rcases List.mem_cons.mp member with rfl | member
    · exact ⟨'<', '>', rfl, rfl⟩
    · cases List.mem_singleton.mp member
      exact ⟨'\x7b', '\x7d', braces, rfl⟩
  · rintro ⟨opening, closing, bracket, rfl⟩
    unfold closingBracket? at bracket
    split at bracket
    · rename_i angle
      cases bracket
      simp [columnTokens, angle]
    · split at bracket
      · rename_i brace
        cases bracket
        simp [columnTokens, brace]
      · cases bracket

/-- The first character tells the two spellings apart. -/
theorem tokenEnd?_eq_some_iff {column : String} {text after : List Char} :
    tokenEnd? column text = some after ↔ ∃ token ∈ columnTokens column, text = token ++ after := by
  constructor
  · intro found
    obtain ⟨token, member, read⟩ := List.exists_of_findSome?_eq_some found
    exact ⟨token, member, afterStart?_eq_some read⟩
  · rintro ⟨token, member, rfl⟩
    rcases List.mem_cons.mp member with rfl | member
    · rw [tokenEnd?, columnTokens, List.findSome?_cons, afterStart?_append]
    · cases List.mem_singleton.mp member
      have other : afterStart? ('<' :: column.toList ++ ['>'])
          ('\x7b' :: column.toList ++ ['\x7d'] ++ after) = none := rfl
      rw [tokenEnd?, columnTokens, List.findSome?_cons, other, List.findSome?_cons,
        afterStart?_append]

theorem tokenEnd?_cons {column : String} {c : Char} {rest after : List Char} :
    tokenEnd? column (c :: rest) = some after ↔
      ∃ closing, closingBracket? c = some closing ∧ rest = column.toList ++ closing :: after := by
  rw [tokenEnd?_eq_some_iff]
  constructor
  · rintro ⟨token, member, whole⟩
    obtain ⟨opening, closing, bracket, rfl⟩ := mem_columnTokens_iff.mp member
    obtain ⟨rfl, rfl⟩ := List.cons.inj whole
    exact ⟨closing, bracket, by simp⟩
  · rintro ⟨closing, bracket, rfl⟩
    exact ⟨_, mem_columnTokens_iff.mpr ⟨c, closing, bracket, rfl⟩, by simp⟩

theorem columnToken?_cons_entry (entry : String × String) (others : RowValues) (text : List Char) :
    columnToken? (entry :: others) text =
      ((tokenEnd? entry.1 text).map fun after => (entry.2.toList, after)).or
        (columnToken? others text) := by
  unfold columnToken?
  rw [List.findSome?_cons]
  cases tokenEnd? entry.1 text <;> rfl

theorem columnToken?_eq_some {values : RowValues} {text value after : List Char}
    (found : columnToken? values text = some (value, after)) :
    ∃ entry ∈ values, value = entry.2.toList ∧
      ∃ token ∈ columnTokens entry.1, text = token ++ after := by
  obtain ⟨entry, member, read⟩ := List.exists_of_findSome?_eq_some found
  obtain ⟨tail, ended, same⟩ := Option.map_eq_some_iff.mp read
  cases same
  exact ⟨entry, member, rfl, tokenEnd?_eq_some_iff.mp ended⟩

theorem columnToken?_length {values : RowValues} {text value after : List Char}
    (found : columnToken? values text = some (value, after)) : after.length < text.length := by
  obtain ⟨entry, _, _, token, member, rfl⟩ := columnToken?_eq_some found
  obtain ⟨opening, closing, _, rfl⟩ := mem_columnTokens_iff.mp member
  simp only [List.length_append, List.length_cons]
  omega

theorem columnToken?_nil (values : RowValues) : columnToken? values [] = none := by
  cases found : columnToken? values [] with
  | none => rfl
  | some token => exact absurd (columnToken?_length found) (Nat.not_lt_zero _)

/-- The text with the value in place of every reference to a column, wherever it stands. Values are
not read again. -/
def fillColumns (values : RowValues) : List Char → List Char
  | [] => []
  | c :: rest =>
    match _h : columnToken? values (c :: rest) with
    | some (value, after) => value ++ fillColumns values after
    | none => c :: fillColumns values rest
termination_by text => text.length
decreasing_by
  · exact columnToken?_length _h
  · simp

def substituteEvery (values : RowValues) (text : String) : String :=
  String.ofList (fillColumns values text.toList)

theorem fillColumns_token {values : RowValues} {text value after : List Char}
    (found : columnToken? values text = some (value, after)) :
    fillColumns values text = value ++ fillColumns values after := by
  cases text with
  | nil =>
    rw [columnToken?_nil] at found
    cases found
  | cons c rest =>
    rw [fillColumns]
    split
    · rename_i other tail same
      rw [found] at same
      cases same
      rfl
    · rename_i missing
      rw [found] at missing
      cases missing

theorem fillColumns_plain {values : RowValues} {c : Char} {rest : List Char}
    (missing : columnToken? values (c :: rest) = none) :
    fillColumns values (c :: rest) = c :: fillColumns values rest := by
  rw [fillColumns]
  split
  · rename_i value after found
    rw [missing] at found
    cases found
  · rfl

/-- Neither a bracket nor the end of a line. -/
def isColumnChar (c : Char) : Bool := c ∉ ['<', '>', '\x7b', '\x7d', '\n']

/-- Headers that can be referred to. -/
structure ColumnNames (headers : List String) : Prop where
  distinct : headers.Nodup
  nonempty : ∀ header ∈ headers, header ≠ ""
  plain : ∀ header ∈ headers, ∀ c ∈ header.toList, isColumnChar c = true

theorem isColumnChar_eq_false {opening closing : Char}
    (bracket : closingBracket? opening = some closing) :
    isColumnChar opening = false ∧ isColumnChar closing = false := by
  unfold closingBracket? at bracket
  split at bracket
  · rename_i angle
    cases bracket
    cases angle
    decide
  · split at bracket
    · rename_i brace
      cases bracket
      cases brace
      decide
    · cases bracket

theorem brackets_not_mem {text : List Char} (plain : ∀ c ∈ text, isColumnChar c = true)
    {opening closing : Char} (bracket : closingBracket? opening = some closing) :
    opening ∉ text ∧ closing ∉ text := by
  obtain ⟨opens, closes⟩ := isColumnChar_eq_false bracket
  constructor
  · intro inside
    rw [plain opening inside] at opens
    cases opens
  · intro inside
    rw [plain closing inside] at closes
    cases closes

theorem closingBracket?_closing {opening closing : Char}
    (bracket : closingBracket? opening = some closing) : closingBracket? closing = none := by
  unfold closingBracket? at bracket
  split at bracket
  · cases bracket
    decide
  · split at bracket
    · cases bracket
      decide
    · cases bracket

theorem columnNames_of_all {headers : List String} (distinct : headers.Nodup)
    (named : headers.all (fun header => header != "" && header.toList.all isColumnChar) = true) :
    ColumnNames headers := by
  have each (header : String) (member : header ∈ headers) :
      header ≠ "" ∧ header.toList.all isColumnChar = true := by
    simpa using List.all_eq_true.mp named header member
  exact ⟨distinct, fun header member => (each header member).1,
    fun header member => List.all_eq_true.mp (each header member).2⟩

theorem closingBracket?_inj {first second closing : Char} (one : closingBracket? first = some closing)
    (two : closingBracket? second = some closing) : first = second := by
  unfold closingBracket? at one two
  grind

theorem columnName?_eq_some_iff {opening closing : Char} {text name after : List Char} :
    columnName? opening closing text = some (name, after) ↔
      name ≠ [] ∧ (∀ c ∈ name, c ≠ opening ∧ c ≠ closing ∧ c ≠ '\n') ∧
        text = name ++ closing :: after := by
  have whole := List.takeWhile_append_dropWhile
    (p := fun c => c != opening && c != closing && c != '\n') (l := text)
  constructor
  · intro read
    unfold columnName? at read
    simp only at read
    split at read
    · cases read
    · cases read
    · rename_i first others c tail taken dropped
      split at read
      · rename_i close
        cases read
        refine ⟨List.cons_ne_nil _ _, fun d inside => ?_, ?_⟩
        · have named := List.mem_takeWhile_imp (taken ▸ inside)
          simpa [and_assoc] using named
        · rw [← whole, taken, dropped, close]
      · cases read
  · rintro ⟨filled, plain, rfl⟩
    have named : ∀ c ∈ name, (c != opening && c != closing && c != '\n') = true := fun c inside => by
      simpa [and_assoc] using plain c inside
    have stop : (closing != opening && closing != closing && closing != '\n') = false := by simp
    obtain ⟨first, others, rfl⟩ := List.exists_cons_of_ne_nil filled
    unfold columnName?
    simp only [List.takeWhile_append_of_pos named, List.dropWhile_append_of_pos named,
      List.takeWhile_cons, List.dropWhile_cons, stop]
    simp

theorem reference?_eq_some_iff {c : Char} {rest name after : List Char} :
    reference? c rest = some (name, after) ↔
      ∃ closing, closingBracket? c = some closing ∧ name ≠ [] ∧
        (∀ d ∈ name, d ≠ c ∧ d ≠ closing ∧ d ≠ '\n') ∧ rest = name ++ closing :: after := by
  unfold reference?
  rw [Option.bind_eq_some_iff]
  exact exists_congr fun closing => and_congr_right fun _ => columnName?_eq_some_iff

theorem reference?_column {column : String} (filled : column ≠ "")
    (plain : ∀ c ∈ column.toList, isColumnChar c = true) {c : Char} {rest after : List Char} :
    reference? c rest = some (column.toList, after) ↔ tokenEnd? column (c :: rest) = some after := by
  rw [reference?_eq_some_iff, tokenEnd?_cons]
  refine exists_congr fun closing => and_congr_right fun bracket => ?_
  obtain ⟨unopened, unclosed⟩ := brackets_not_mem plain bracket
  constructor
  · rintro ⟨_, _, whole⟩
    exact whole
  · refine fun whole => ⟨by simpa using filled, fun d inside => ⟨?_, ?_, ?_⟩, whole⟩
    · exact fun same => unopened (same ▸ inside)
    · exact fun same => unclosed (same ▸ inside)
    · rintro rfl
      exact absurd (plain _ inside) (by decide)

/-- What a reference names decides what it becomes. -/
theorem ColumnNames.columnToken?_cons {headers : List String} (names : ColumnNames headers)
    (row : List String) (c : Char) (rest : List Char) :
    columnToken? (headers.zip row) (c :: rest) =
      (reference? c rest).bind fun (name, after) =>
        ((headers.zip row).lookup (String.ofList name)).map fun value => (value.toList, after) := by
  have each : ∀ entry ∈ headers.zip row, ∀ after, reference? c rest = some (entry.1.toList, after) ↔
      tokenEnd? entry.1 (c :: rest) = some after := fun entry member after =>
    have listed := (List.of_mem_zip member).1
    reference?_column (names.nonempty _ listed) (names.plain _ listed)
  generalize headers.zip row = values at each
  induction values with
  | nil => cases reference? c rest <;> rfl
  | cons entry others ih =>
    obtain ⟨here, later⟩ := List.forall_mem_cons.mp each
    obtain ⟨column, value⟩ := entry
    rw [columnToken?_cons_entry, ih later]
    cases ended : tokenEnd? column (c :: rest) with
    | some after =>
      rw [(here after).mpr ended]
      simp only [Option.bind_some, String.ofList_toList, List.lookup_cons_self]
      rfl
    | none =>
      cases read : reference? c rest with
      | none => rfl
      | some found =>
        obtain ⟨name, after⟩ := found
        have other : (String.ofList name == column) = false := by
          rw [beq_eq_false_iff_ne]
          rintro rfl
          have begun := (here after).mp (by simpa using read)
          rw [ended] at begun
          cases begun
        simp only [Option.bind_some, List.lookup_cons, other]
        rfl

end ScenarioRunner
