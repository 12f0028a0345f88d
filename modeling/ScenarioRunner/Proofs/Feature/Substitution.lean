import Mathlib.Algebra.Order.BigOperators.Group.List
import Mathlib.Algebra.Order.Group.Nat
import ScenarioRunner.Proofs.Feature.Columns

namespace ScenarioRunner

/-- The text has a reference to one of the columns somewhere. -/
def Mentions (headers : List String) (text : List Char) : Prop :=
  ∃ header ∈ headers, ∃ token ∈ columnTokens header, token <:+: text

instance (headers : List String) (text : List Char) : Decidable (Mentions headers text) :=
  inferInstanceAs (Decidable (∃ header ∈ headers, ∃ token ∈ columnTokens header, token <:+: text))

variable {values : RowValues}

theorem columnToken?_eq_none_iff {text : List Char} : columnToken? values text = none ↔
    ∀ entry ∈ values, ∀ token ∈ columnTokens entry.1, ¬ token <+: text := by
  rw [columnToken?, List.findSome?_eq_none_iff]
  refine forall_congr' fun entry => forall_congr' fun _ => ?_
  rw [Option.map_eq_none_iff, tokenEnd?, List.findSome?_eq_none_iff]
  exact forall_congr' fun token => forall_congr' fun _ => afterStart?_eq_none_iff

theorem fillColumns_of_not_mentions {text : List Char}
    (silent : ¬ Mentions (values.map Prod.fst) text) : fillColumns values text = text := by
  induction text using fillColumns.induct values with
  | case1 => exact fillColumns.eq_1 values
  | case2 c rest value after found ih =>
    obtain ⟨entry, member, _, token, spelled, whole⟩ := columnToken?_eq_some found
    exact absurd ⟨entry.1, List.mem_map_of_mem member, token, spelled, [], after, whole.symm⟩ silent
  | case3 c rest missing ih =>
    have later : ¬ Mentions (values.map Prod.fst) rest := by
      rintro ⟨header, member, token, spelled, inside⟩
      exact silent ⟨header, member, token, spelled, inside.trans (List.suffix_cons c rest).isInfix⟩
    rw [fillColumns_plain missing, ih later]

theorem length_fillColumns_le (empty : ∀ entry ∈ values, entry.2 = "") (text : List Char) :
    (fillColumns values text).length ≤ text.length := by
  induction text using fillColumns.induct values with
  | case1 => rw [fillColumns]
  | case2 c rest value after found ih =>
    obtain ⟨entry, member, rfl, _⟩ := columnToken?_eq_some found
    have shorter := columnToken?_length found
    rw [fillColumns_token found, empty entry member]
    exact (ih.trans_lt shorter).le
  | case3 c rest missing ih =>
    rw [fillColumns_plain missing]
    exact Nat.succ_le_succ ih

/-- With empty values a text becomes shorter if there is anything to fill in. -/
theorem length_fillColumns_lt (empty : ∀ entry ∈ values, entry.2 = "") {text : List Char}
    (mentions : Mentions (values.map Prod.fst) text) :
    (fillColumns values text).length < text.length := by
  induction text using fillColumns.induct values with
  | case1 =>
    obtain ⟨header, _, token, spelled, inside⟩ := mentions
    obtain ⟨_, _, _, rfl⟩ := mem_columnTokens_iff.mp spelled
    cases List.infix_nil.mp inside
  | case2 c rest value after found ih =>
    obtain ⟨entry, member, rfl, _⟩ := columnToken?_eq_some found
    rw [fillColumns_token found, empty entry member]
    exact (length_fillColumns_le empty after).trans_lt (columnToken?_length found)
  | case3 c rest missing ih =>
    obtain ⟨header, member, token, spelled, inside⟩ := mentions
    rw [fillColumns_plain missing]
    rcases List.infix_cons_iff.mp inside with first | later
    · obtain ⟨entry, listed, rfl⟩ := List.mem_map.mp member
      exact absurd first (columnToken?_eq_none_iff.mp missing entry listed token spelled)
    · exact Nat.succ_lt_succ (ih ⟨header, member, token, spelled, later⟩)

/-- A reference in one kind of brackets does not go on behind a bracket of the other kind. -/
theorem tokenEnd?_append_closing {column : String} (plain : ∀ c ∈ column.toList, isColumnChar c = true)
    {opening closing : Char} (bracket : closingBracket? opening = some closing) {text : List Char}
    (unopened : ∀ d ∈ text, d ≠ opening) (after : List Char) :
    tokenEnd? column (text ++ closing :: after) =
      (tokenEnd? column text).map (· ++ closing :: after) := by
  ext tail
  rw [Option.map_eq_some_iff]
  cases text with
  | nil =>
    rw [List.nil_append, tokenEnd?_cons, closingBracket?_closing bracket]
    constructor
    · rintro ⟨_, impossible, _⟩
      cases impossible
    · rintro ⟨_, impossible, _⟩
      cases impossible
  | cons d rest =>
    have other : ∀ own, closingBracket? d = some own → own ≠ closing := by
      rintro own ownBracket rfl
      exact unopened d (List.mem_cons_self ..) (closingBracket?_inj ownBracket bracket)
    have absent : closing ∉ column.toList := (brackets_not_mem plain bracket).2
    simp only [List.cons_append, tokenEnd?_cons]
    constructor
    · rintro ⟨own, ownBracket, whole⟩
      rcases List.append_eq_append_iff.mp whole with ⟨more, longer, split⟩ | ⟨more, shorter, split⟩
      · cases more with
        | nil => exact absurd (List.cons.inj split).1.symm (other own ownBracket)
        | cons e more =>
          obtain ⟨rfl, _⟩ := List.cons.inj split
          exact absurd (longer ▸ List.mem_append_right rest (List.mem_cons_self ..)) absent
      · cases more with
        | nil => exact absurd (List.cons.inj split).1 (other own ownBracket)
        | cons e more =>
          obtain ⟨rfl, rfl⟩ := List.cons.inj split
          exact ⟨more, ⟨own, ownBracket, shorter⟩, rfl⟩
    · rintro ⟨inner, ⟨own, ownBracket, rfl⟩, rfl⟩
      exact ⟨own, ownBracket, by simp⟩

theorem columnToken?_append_closing
    (plain : ∀ entry ∈ values, ∀ c ∈ entry.1.toList, isColumnChar c = true) {opening closing : Char}
    (bracket : closingBracket? opening = some closing) {text : List Char}
    (unopened : ∀ d ∈ text, d ≠ opening) (after : List Char) :
    columnToken? values (text ++ closing :: after) =
      (columnToken? values text).map fun (value, rest) => (value, rest ++ closing :: after) := by
  induction values with
  | nil => rfl
  | cons entry others ih =>
    obtain ⟨here, later⟩ := List.forall_mem_cons.mp plain
    rw [columnToken?_cons_entry, columnToken?_cons_entry, ih later,
      tokenEnd?_append_closing here bracket unopened]
    cases tokenEnd? entry.1 text <;> rfl

/-- What stands between brackets is filled by itself. -/
theorem fillColumns_append_closing
    (plain : ∀ entry ∈ values, ∀ c ∈ entry.1.toList, isColumnChar c = true) {opening closing : Char}
    (bracket : closingBracket? opening = some closing) {text : List Char}
    (unopened : ∀ d ∈ text, d ≠ opening) (after : List Char) :
    fillColumns values (text ++ closing :: after) =
      fillColumns values text ++ closing :: fillColumns values after := by
  induction text using fillColumns.induct values with
  | case1 =>
    have goesOn := columnToken?_append_closing plain bracket unopened after
    rw [columnToken?_nil] at goesOn
    rw [List.nil_append, fillColumns_plain goesOn, fillColumns.eq_1, List.nil_append]
  | case2 c rest value tail found ih =>
    obtain ⟨_, _, _, token, _, whole⟩ := columnToken?_eq_some found
    have later : ∀ d ∈ tail, d ≠ opening := fun d inside =>
      unopened d (whole ▸ List.mem_append_right token inside)
    have goesOn := columnToken?_append_closing plain bracket unopened after
    rw [found] at goesOn
    rw [fillColumns_token goesOn, ih later, fillColumns_token found, List.append_assoc]
  | case3 c rest missing ih =>
    have later : ∀ d ∈ rest, d ≠ opening := fun d inside => unopened d (List.mem_cons_of_mem c inside)
    have goesOn := columnToken?_append_closing plain bracket unopened after
    rw [missing, List.cons_append] at goesOn
    rw [List.cons_append, fillColumns_plain goesOn, ih later, fillColumns_plain missing,
      List.cons_append]

theorem outlinePieces_reference {c : Char} {rest name after : List Char}
    (read : reference? c rest = some (name, after)) :
    outlinePieces (c :: rest) = .reference c name :: outlinePieces after := by
  rw [outlinePieces]
  split
  · rename_i found
    rw [read] at found
    cases found
    rfl
  · rename_i missing
    rw [read] at missing
    cases missing

theorem outlinePieces_plain {c : Char} {rest : List Char} (missing : reference? c rest = none) :
    outlinePieces (c :: rest) = .plain c :: outlinePieces rest := by
  rw [outlinePieces]
  split
  · rename_i found
    rw [missing] at found
    cases found
  · rfl

/-- A piece with every reference filled in, also those inside of one that names no column. -/
def OutlinePiece.fillWithin (values : RowValues) : OutlinePiece → List Char
  | .plain c => [c]
  | .reference opening column =>
    match values.lookup (String.ofList column) with
    | some value => value.toList
    | none => opening :: fillColumns values column ++ (closingBracket? opening).toList

/-- No reference begins in one piece and ends in another. -/
theorem fillColumns_eq_flatMap {headers row : List String} (names : ColumnNames headers)
    (text : List Char) : fillColumns (headers.zip row) text =
      (outlinePieces text).flatMap (·.fillWithin (headers.zip row)) := by
  have plain : ∀ entry ∈ headers.zip row, ∀ c ∈ entry.1.toList, isColumnChar c = true :=
    fun entry member => names.plain _ (List.of_mem_zip member).1
  induction text using outlinePieces.induct with
  | case1 => rw [fillColumns, outlinePieces, List.flatMap_nil]
  | case2 c rest name after read ih =>
    obtain ⟨closing, bracket, _, unopened, rfl⟩ := reference?_eq_some_iff.mp read
    have token := names.columnToken?_cons row c (name ++ closing :: after)
    rw [read, Option.bind_some] at token
    rw [outlinePieces_reference read, List.flatMap_cons, ← ih, OutlinePiece.fillWithin]
    cases known : (headers.zip row).lookup (String.ofList name) with
    | some value =>
      simp only [known] at token
      exact fillColumns_token token
    | none =>
      -- The brackets stay, but there may be references to columns between them.
      simp only [known] at token
      rw [fillColumns_plain token,
        fillColumns_append_closing plain bracket fun d inside => (unopened d inside).1, bracket]
      simp
  | case3 c rest missing ih =>
    have token := names.columnToken?_cons row c rest
    rw [missing, Option.bind_none] at token
    rw [outlinePieces_plain missing, List.flatMap_cons, fillColumns_plain token, ih]
    rfl

/-- The piece names no column, but has a reference to one inside. -/
def OutlinePiece.Hides (headers : List String) : OutlinePiece → Prop
  | .plain _ => False
  | .reference _ column => String.ofList column ∉ headers ∧ Mentions headers column

instance (headers : List String) : (piece : OutlinePiece) → Decidable (piece.Hides headers)
  | .plain _ => inferInstanceAs (Decidable False)
  | .reference _ column =>
    inferInstanceAs (Decidable (String.ofList column ∉ headers ∧ Mentions headers column))

/-- A reference to a column stands inside of one that names no column. -/
def HidesColumn (headers : List String) (text : String) : Prop :=
  ∃ piece ∈ outlinePieces text.toList, piece.Hides headers

instance (headers : List String) (text : String) : Decidable (HidesColumn headers text) :=
  inferInstanceAs (Decidable (∃ piece ∈ outlinePieces text.toList, piece.Hides headers))

variable {headers row : List String}

theorem map_fst_zip_row (full : row.length = headers.length) :
    (headers.zip row).map Prod.fst = headers :=
  List.map_fst_zip full.ge

theorem lookup_row_eq_none_iff (full : row.length = headers.length) {column : String} :
    (headers.zip row).lookup column = none ↔ column ∉ headers := by
  rw [List.lookup_eq_none_iff]
  simp only [bne_iff_ne]
  constructor
  · intro apart member
    rw [← map_fst_zip_row full] at member
    obtain ⟨entry, listed, same⟩ := List.mem_map.mp member
    exact apart entry listed same.symm
  · rintro absent entry listed rfl
    exact absent (List.of_mem_zip listed).1

namespace OutlinePiece

theorem fillWithin_of_not_hides (full : row.length = headers.length) {piece : OutlinePiece}
    (plain : ¬ piece.Hides headers) :
    piece.fillWithin (headers.zip row) = piece.fill (headers.zip row) := by
  cases piece with
  | plain c => rfl
  | reference opening column =>
    cases known : (headers.zip row).lookup (String.ofList column) with
    | some value => simp only [fillWithin, fill, known]
    | none =>
      have silent : ¬ Mentions ((headers.zip row).map Prod.fst) column := by
        rw [map_fst_zip_row full]
        exact fun mentions => plain ⟨(lookup_row_eq_none_iff full).mp known, mentions⟩
      simp only [fillWithin, fill, known, fillColumns_of_not_mentions silent]

theorem length_fillWithin_le (empty : ∀ entry ∈ values, entry.2 = "") (piece : OutlinePiece) :
    (piece.fillWithin values).length ≤ (piece.fill values).length := by
  cases piece with
  | plain c => exact Nat.le_refl 1
  | reference opening column =>
    have shorter := length_fillColumns_le empty column
    cases known : values.lookup (String.ofList column) with
    | some value => simp only [fillWithin, fill, known, Nat.le_refl]
    | none => simpa [fillWithin, fill, known] using shorter

theorem length_fillWithin_lt (full : row.length = headers.length)
    (empty : ∀ entry ∈ headers.zip row, entry.2 = "") {piece : OutlinePiece}
    (hides : piece.Hides headers) :
    (piece.fillWithin (headers.zip row)).length < (piece.fill (headers.zip row)).length := by
  cases piece with
  | plain c => exact absurd hides id
  | reference opening column =>
    obtain ⟨other, mentions⟩ := hides
    have unknown := (lookup_row_eq_none_iff full).mpr other
    rw [← map_fst_zip_row full] at mentions
    have shorter := length_fillColumns_lt empty mentions
    simpa [fillWithin, fill, unknown] using shorter

end OutlinePiece

theorem substitute_of_not_hides (names : ColumnNames headers) (full : row.length = headers.length)
    {text : String} (plain : ¬ HidesColumn headers text) :
    substitute (headers.zip row) text = substituteEvery (headers.zip row) text := by
  rw [substitute, substituteEvery, fillColumns_eq_flatMap names]
  congr 1
  refine List.flatMap_congr fun piece member => ?_
  exact (OutlinePiece.fillWithin_of_not_hides full fun hides => plain ⟨piece, member, hides⟩).symm

/-- A hidden reference is left as it was written, so that an empty value makes the difference. -/
theorem substitute_of_hides (names : ColumnNames headers) {text : String}
    (hidden : HidesColumn headers text) : ∃ row, row.length = headers.length ∧
      substitute (headers.zip row) text ≠ substituteEvery (headers.zip row) text := by
  -- No value makes up for a reference that was left: without it the text would be shorter.
  obtain ⟨piece, member, hides⟩ := hidden
  have full : (headers.map fun _ => "").length = headers.length := List.length_map _
  have empty : ∀ entry ∈ headers.zip (headers.map fun _ => ""), entry.2 = "" := by
    intro entry listed
    obtain ⟨_, _, same⟩ := List.mem_map.mp (List.of_mem_zip listed).2
    exact same.symm
  refine ⟨_, full, fun same => ?_⟩
  have lengths := congrArg (fun text : String => text.toList.length) same
  simp only [substitute, substituteEvery, fillColumns_eq_flatMap names, String.toList_ofList,
    List.length_flatMap] at lengths
  refine absurd lengths (ne_of_gt (List.sum_lt_sum _ _ ?_ ?_))
  · exact fun other _ => other.length_fillWithin_le empty
  · exact ⟨piece, member, OutlinePiece.length_fillWithin_lt full empty hides⟩

end ScenarioRunner
