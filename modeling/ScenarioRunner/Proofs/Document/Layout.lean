import Mathlib.Data.List.DropRight
import ScenarioRunner.Proofs.Document.Settled
import ScenarioRunner.Proofs.Text.Cut
import ScenarioRunner.Proofs.Text.Lines
import ScenarioRunner.Proofs.Text.Trim

namespace ScenarioRunner

/-- The blanks that lines are indented with. -/
def isMargin (c : Char) : Bool := c == ' ' || c == '\t'

/-- The line without the spaces and tabs at both of its ends. -/
def withoutMargins (line : List Char) : List Char := (line.dropWhile isMargin).rdropWhile isMargin

theorem isBlank_of_isMargin {c : Char} (margin : isMargin c = true) : isBlank c = true := by
  simp only [isMargin, Bool.or_eq_true, beq_iff_eq] at margin
  rcases margin with rfl | rfl <;> decide

theorem exists_margins (line : List Char) :
    ∃ left right, line = left ++ withoutMargins line ++ right ∧
      (∀ c ∈ left, isMargin c = true) ∧ ∀ c ∈ right, isMargin c = true := by
  refine ⟨line.takeWhile isMargin, (line.dropWhile isMargin).rtakeWhile isMargin, ?_,
    fun c => List.mem_takeWhile_imp, fun c => List.mem_rtakeWhile_imp⟩
  rw [withoutMargins, List.append_assoc, List.rdropWhile_append_rtakeWhile,
    List.takeWhile_append_dropWhile]

theorem trim_withoutMargins (line : List Char) : trim (withoutMargins line) = trim line := by
  obtain ⟨left, right, whole, leftMargin, rightMargin⟩ := exists_margins line
  have same := trim_append_blank (fun c member => isBlank_of_isMargin (leftMargin c member))
    (fun c member => isBlank_of_isMargin (rightMargin c member)) (withoutMargins line)
  rw [← whole] at same
  exact same.symm

theorem mem_withoutMargins_iff {c : Char} {line : List Char} (solid : isMargin c = false) :
    c ∈ withoutMargins line ↔ c ∈ line := by
  obtain ⟨left, right, whole, leftMargin, rightMargin⟩ := exists_margins line
  have outside : c ∉ left ∧ c ∉ right :=
    ⟨fun member => by simp [leftMargin c member] at solid,
      fun member => by simp [rightMargin c member] at solid⟩
  conv_rhs => rw [whole]
  simp [outside]

theorem return_not_mem_of_margins {line other : List Char}
    (margins : withoutMargins other = withoutMargins line) (here : '\r' ∉ line) : '\r' ∉ other := by
  rwa [← mem_withoutMargins_iff rfl, margins, mem_withoutMargins_iff rfl]

/-- The text with a carriage return before every line feed. -/
def withReturns (text : List Char) : List Char :=
  text.flatMap fun c => if c = '\n' then ['\r', '\n'] else [c]

theorem withReturns_append (first second : List Char) :
    withReturns (first ++ second) = withReturns first ++ withReturns second :=
  List.flatMap_append

theorem withReturns_of_flat {text : List Char} (flat : '\n' ∉ text) : withReturns text = text := by
  have each : ∀ c ∈ text, (if c = '\n' then ['\r', '\n'] else [c]) = [c] := by
    intro c member
    exact if_neg (ne_of_mem_of_not_mem member flat)
  rw [withReturns, List.flatMap_congr each, List.flatMap_singleton']

theorem linesOf_cons {piece : List Char} (flat : '\n' ∉ piece) (rest : List Char) :
    linesOf (piece ++ '\n' :: rest) = dropLast '\r' piece :: linesOf rest := by
  have more := List.splitOn_ne_nil '\n' rest
  rw [linesOf, List.splitOn_append_cons_self_of_not_mem flat, ← List.singleton_append,
    linesOfPieces_append _ more]
  rfl

theorem dropLast_of_not_mem {c : Char} {text : List Char} (absent : c ∉ text) :
    dropLast c text = text :=
  dropLast_of_getLast?_ne fun last => absent (List.mem_of_getLast? last)

theorem linesOf_withReturns_intercalate {pieces : List (List Char)}
    (flat : ∀ piece ∈ pieces, '\n' ∉ piece) (noReturns : ∀ piece ∈ pieces, '\r' ∉ piece) :
    linesOf (withReturns (['\n'].intercalate pieces)) = linesOf (['\n'].intercalate pieces) := by
  induction pieces with
  | nil => rfl
  | cons piece rest ih =>
    obtain ⟨flatHere, flatLater⟩ := List.forall_mem_cons.mp flat
    obtain ⟨here, later⟩ := List.forall_mem_cons.mp noReturns
    cases rest with
    | nil => rw [List.intercalate_singleton, withReturns_of_flat flatHere]
    | cons next others =>
      have withReturn : '\n' ∉ piece ++ ['\r'] := by simp [flatHere]
      have returned := linesOf_cons withReturn (withReturns (['\n'].intercalate (next :: others)))
      have bare := linesOf_cons flatHere (['\n'].intercalate (next :: others))
      rw [dropLast_append_singleton, ih flatLater later] at returned
      rw [dropLast_of_not_mem here, ← returned] at bare
      rw [List.intercalate_cons_cons, withReturns_append, withReturns_append,
        withReturns_of_flat flatHere]
      simpa [withReturns] using bare.symm

/-- Carriage returns that belong to the ends of lines are not read. -/
theorem linesOf_withReturns {text : List Char} (noReturns : '\r' ∉ text) :
    linesOf (withReturns text) = linesOf text := by
  have lines := linesOf_withReturns_intercalate
    (fun piece (member : piece ∈ text.splitOn '\n') => separator_not_mem_piece member)
    (fun piece member inside => noReturns (mem_piece member inside).1)
  rwa [List.intercalate_splitOn] at lines

theorem exists_piece_of_mem {c d : Char} {text : List Char} (inside : d ∈ text) (other : d ≠ c) :
    ∃ piece ∈ text.splitOn c, d ∈ piece := by
  have joined : [c].intercalate (text.splitOn c) = text := List.intercalate_splitOn c
  obtain ⟨first, rest, pieces⟩ := List.exists_cons_of_ne_nil (List.splitOn_ne_nil c text)
  rw [pieces, intercalate_eq] at joined
  rw [← joined] at inside
  simpa [pieces, other] using inside

theorem linesOfPieces_cons {piece next : List Char} (noReturn : '\r' ∉ piece)
    (others : List (List Char)) :
    linesOfPieces (piece :: next :: others) = piece :: linesOfPieces (next :: others) := by
  rw [linesOfPieces, dropLast_of_not_mem noReturn]
  simp

/-- Whether the line is one between the marks of a doc string. -/
def LineRole.isDocText : LineRole → Bool
  | docStringText _ => true
  | _ => false

namespace Reader

/-- The lines below a reader with other spaces and tabs at their ends. Those that are the text of a doc
string keep their own. -/
inductive Relaid : Reader → Nat → List (List Char) → List (List Char) → Prop
  | nil (reader : Reader) (number : Nat) : Relaid reader number [] []
  | cons {reader : Reader} {number : Nat} {line other : List Char} {rest others : List (List Char)} :
      withoutMargins other = withoutMargins line →
      ((reader.role line).isDocText = true → other = line) →
      Relaid (reader.read number line) (number + 1) rest others →
      Relaid reader number (line :: rest) (other :: others)

theorem relaid_cons_iff {reader : Reader} {number : Nat} {line other : List Char}
    {rest others : List (List Char)} :
    reader.Relaid number (line :: rest) (other :: others) ↔
      withoutMargins other = withoutMargins line ∧
        ((reader.role line).isDocText = true → other = line) ∧
        (reader.read number line).Relaid (number + 1) rest others := by
  constructor
  · rintro (_ | ⟨margins, docText, later⟩)
    exact ⟨margins, docText, later⟩
  · rintro ⟨margins, docText, later⟩
    exact .cons margins docText later

instance Relaid.decidable (reader : Reader) (number : Nat) :
    (lines others : List (List Char)) → Decidable (reader.Relaid number lines others)
  | [], [] => isTrue (.nil reader number)
  | [], _ :: _ => isFalse nofun
  | _ :: _, [] => isFalse nofun
  | line :: rest, _ :: others =>
    have := Relaid.decidable (reader.read number line) (number + 1) rest others
    decidable_of_iff _ relaid_cons_iff.symm

/-- Outside of doc strings a line counts without its margins. -/
theorem role_relaid {reader : Reader} {line other : List Char}
    (margins : withoutMargins other = withoutMargins line)
    (docText : (reader.role line).isDocText = true → other = line) :
    reader.role other = reader.role line := by
  have trimmed : trim other = trim line := by
    rw [← trim_withoutMargins, margins, trim_withoutMargins]
  cases inside : reader.openMark? with
  | none => rw [role_of_outside inside, role_of_outside inside, trimmed]
  | some mark =>
    rw [role_of_inside inside] at docText ⊢
    rw [role_of_inside inside, trimmed]
    split
    · rfl
    · rename_i text
      rw [if_neg text] at docText
      rw [docText rfl]

/-- A last line without anything on it ends what the end of the text would end. -/
theorem finish_read_nil {reader : Reader} (outside : (reader.role []).isDocText = false)
    (number : Nat) : (reader.read number []).finish = reader.finish := by
  have blank : reader.role [] = .blank := by
    cases inside : reader.openMark? with
    | none =>
      rw [role_of_outside inside]
      exact Setting.role_eq_plainRole rfl (by decide)
    | some mark =>
      rw [role_of_inside inside] at outside
      cases mark <;> cases outside
  have settled := congrArg Reader.feature reader.closeSection_finishGathering
  rw [read, blank, act]
  split
  · rename_i describing
    simp [finish, closeSection_eq, describing, Section.addTo, finishGathering_of_nothing,
      gathering_finishGathering]
  · exact settled

theorem finish_readLines_last {reader : Reader} {piece : List Char}
    (outside : (reader.role piece).isDocText = false) (number : Nat) :
    (reader.readLines number (linesOfPieces [piece])).finish =
      (reader.read number piece).finish := by
  cases piece with
  | nil => exact (finish_read_nil outside number).symm
  | cons c rest => rfl

/-- The same lines under two layouts lead a reader through the same states. Only the last line may be
one in one layout, and no line in the other. -/
theorem Relaid.finish_eq {reader : Reader} {number : Nat} {pieces others : List (List Char)}
    (relaid : reader.Relaid number pieces others) (noReturns : ∀ piece ∈ pieces, '\r' ∉ piece) :
    (reader.readLines number (linesOfPieces others)).finish =
      (reader.readLines number (linesOfPieces pieces)).finish := by
  induction relaid with
  | nil => rfl
  | @cons reader number line other rest others margins docText later ih =>
    obtain ⟨here, below⟩ := List.forall_mem_cons.mp noReturns
    have role := role_relaid margins docText
    have read : reader.read number other = reader.read number line := by
      rw [Reader.read, Reader.read, role]
    cases later with
    | nil =>
      cases text : (reader.role line).isDocText with
      | true => rw [docText text]
      | false =>
        rw [finish_readLines_last text, finish_readLines_last (role ▸ text), read]
    | cons _ _ _ =>
      have otherHere := return_not_mem_of_margins margins here
      rw [linesOfPieces_cons otherHere, linesOfPieces_cons here, readLines, readLines, read]
      exact ih below

theorem Relaid.return_not_mem {reader : Reader} {number : Nat} {pieces others : List (List Char)}
    (relaid : reader.Relaid number pieces others) (noReturns : ∀ piece ∈ pieces, '\r' ∉ piece) :
    ∀ other ∈ others, '\r' ∉ other := by
  induction relaid with
  | nil => exact List.forall_mem_nil _
  | cons margins _ _ ih =>
    obtain ⟨here, below⟩ := List.forall_mem_cons.mp noReturns
    exact List.forall_mem_cons.mpr ⟨return_not_mem_of_margins margins here, ih below⟩

end Reader

/-- The layout of a document says nothing: neither the spaces and tabs around its lines, but for those
of doc strings, nor how its lines end. -/
theorem readFeature_relaid (path : Option SourcePath) {text relaid : String}
    (noReturns : '\r' ∉ text.toList)
    (layout : (Reader.start path).Relaid 1 (text.toList.splitOn '\n') (relaid.toList.splitOn '\n')) :
    readFeature path relaid = readFeature path text ∧
      readFeature path (String.ofList (withReturns relaid.toList)) = readFeature path text := by
  have pieces : ∀ piece ∈ text.toList.splitOn '\n', '\r' ∉ piece := fun piece member inside =>
    noReturns (mem_piece member inside).1
  have relaidReturns : '\r' ∉ relaid.toList := fun inside =>
    let ⟨piece, member, within⟩ := exists_piece_of_mem inside (by decide)
    layout.return_not_mem pieces piece member within
  have same : readFeature path relaid = readFeature path text := layout.finish_eq pieces
  refine ⟨same, ?_⟩
  rw [← same, readFeature, String.toList_ofList, linesOf_withReturns relaidReturns, readFeature]

/-- A doc string keeps its own indentation, whatever that of its step and its marks is. -/
theorem readFeature_relaid_docString :
    let path : Option SourcePath := some ⟨"f"⟩
    let text := "@a @b\nScenario: s\n Given x\n\"\"\"json\n  y\n\"\"\"\n| c | d |\n"
    let relaid := "\t@a @b \n  Scenario: s\nGiven x \n  \"\"\"json\n  y\n\t\"\"\"\n  | c | d |\t\n"
    '\r' ∉ text.toList ∧
      (Reader.start path).Relaid 1 (text.toList.splitOn '\n') (relaid.toList.splitOn '\n') ∧
      readFeature path relaid = readFeature path text ∧
      readFeature path (String.ofList (withReturns relaid.toList)) = readFeature path text := by
  intro path text relaid
  have noReturns : '\r' ∉ text.toList := by decide
  have layout : (Reader.start path).Relaid 1 (text.toList.splitOn '\n')
      (relaid.toList.splitOn '\n') := by decide
  exact ⟨noReturns, layout, readFeature_relaid path noReturns layout⟩

end ScenarioRunner
