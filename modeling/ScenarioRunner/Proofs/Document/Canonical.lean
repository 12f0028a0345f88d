import ScenarioRunner.Proofs.Document.ReadRoles
import ScenarioRunner.Proofs.Document.Settled

namespace ScenarioRunner

variable {allowed : Char → Prop}

theorem forall_mem_changeLast {α : Type} {holds : α → Prop} {change : α → α}
    (keep : ∀ a, holds a → holds (change a)) {list : List α} (all : ∀ a ∈ list, holds a) :
    ∀ a ∈ changeLast change list, holds a := by
  induction list with
  | nil => exact all
  | cons first rest ih =>
    cases rest with
    | nil =>
      intro a member
      rw [List.mem_singleton.mp member]
      exact keep first (all first (List.mem_cons_self ..))
    | cons second others =>
      intro a member
      rcases List.mem_cons.mp member with rfl | later
      · exact all _ (List.mem_cons_self ..)
      · exact ih (fun b known => all b (List.mem_cons_of_mem _ known)) a later

theorem forall_mem_concat {α : Type} {holds : α → Prop} {list : List α} {last : α}
    (all : ∀ a ∈ list, holds a) (here : holds last) : ∀ a ∈ list ++ [last], holds a :=
  List.forall_mem_append.mpr ⟨all, List.forall_mem_singleton.mpr here⟩

theorem length_fitRow (width : Nat) (cells : List String) : (fitRow width cells).length = width := by
  simp only [fitRow, List.length_append, List.length_take, List.length_replicate]
  omega

theorem forall_mem_fitRow {width : Nat} {cells : List String}
    (valid : ∀ cell ∈ cells, IsCell allowed cell) :
    ∀ cell ∈ fitRow width cells, IsCell allowed cell := by
  intro cell member
  rcases List.mem_append.mp member with here | added
  · exact valid cell (List.take_subset _ _ here)
  · rw [(List.mem_replicate.mp added).2]
    exact ⟨⟨by simp, .nil⟩, by simp⟩

def Section.PrintableIn (allowed : Char → Prop) : Section → Prop
  | start | feature _ => True
  | background steps => ∀ step ∈ steps, step.PrintableIn allowed
  | scenario s => s.PrintableIn allowed
  | outline o => o.PrintableIn allowed
  | examples o table => o.PrintableIn allowed ∧ table.PrintableIn allowed

def Gathering.PrintableIn (allowed : Char → Prop) : Gathering → Prop
  | nothing => True
  | table t => t.PrintableIn allowed
  | docString mark mediaType lines =>
    (∀ name ∈ mediaType, name ≠ "" ∧ Inline allowed name) ∧
      (∀ line ∈ lines, ∀ c ∈ line, allowed c) ∧
      ∀ line ∈ lines, mark.text.isPrefixOf (trim line) = false

/-- All that a reader holds can be printed, on whatever lines it was read. -/
structure Reader.PrintableIn (allowed : Char → Prop) (reader : Reader) : Prop where
  feature : reader.feature.PrintableIn allowed
  current : reader.current.PrintableIn allowed
  gathering : reader.gathering.PrintableIn allowed
  pendingTags : ∀ tag ∈ reader.pendingTags, IsTag tag

/-- The lines of a doc string are those it was gathered from. Without any there is one empty line. -/
theorem DocString.printableIn_ofLines (flat : ¬ allowed '\n') {mark : DocMark}
    {mediaType : Option String} {lines : List (List Char)}
    (valid : (Gathering.docString mark mediaType lines).PrintableIn allowed) :
    (DocString.ofLines mediaType lines).PrintableIn allowed := by
  obtain ⟨typed, made, unmarked⟩ := valid
  have content : (DocString.ofLines mediaType lines).contentLines =
      if lines = [] then [[]] else lines := by
    rw [contentLines, ofLines, String.toList_ofList]
    by_cases none : lines = []
    · simp [none]
    · rw [if_neg none]
      exact List.splitOn_intercalate '\n' (fun line member inside => flat (made line member _ inside)) none
  refine ⟨typed, ?_, mark, ?_⟩
  · rw [content]
    split
    · simp
    · exact made
  · intro line member
    rw [content] at member
    split at member
    · rw [List.mem_singleton.mp member]
      cases mark <;> decide
    · exact unmarked line member

namespace Section

theorem PrintableIn.mapSteps {change : List Step → List Step}
    (keep : ∀ steps : List Step, (∀ step ∈ steps, step.PrintableIn allowed) →
      ∀ step ∈ change steps, step.PrintableIn allowed)
    {current : Section} (valid : current.PrintableIn allowed) :
    (current.mapSteps change).PrintableIn allowed := by
  cases current with
  | start | feature describing | examples o table => exact valid
  | background steps => exact keep steps valid
  | scenario s => exact { valid with steps := keep s.steps valid.steps }
  | outline o => exact { valid with steps := keep o.steps valid.steps }

theorem PrintableIn.addTo {current : Section} (valid : current.PrintableIn allowed)
    {feature : Feature} (whole : feature.PrintableIn allowed) :
    (current.addTo feature).PrintableIn allowed := by
  cases current with
  | start | feature describing => exact whole
  | background steps =>
    refine { whole with background := fun given same => ?_ }
    cases same
    exact valid
  | scenario s => exact { whole with scenarios := forall_mem_concat whole.scenarios valid }
  | outline o => exact { whole with outlines := forall_mem_concat whole.outlines valid }
  | examples o table =>
    obtain ⟨outline, printable⟩ := valid
    exact { whole with
      outlines := forall_mem_concat whole.outlines
        { outline with examples := forall_mem_concat outline.examples printable } }

theorem PrintableIn.outline?_eq {current : Section} (valid : current.PrintableIn allowed)
    {outline : ScenarioOutline} (found : current.outline? = some outline) :
    outline.PrintableIn allowed := by
  cases current with
  | start | feature describing | background steps => cases found
  | scenario s =>
    cases found
    exact ⟨valid.name, valid.tags, valid.steps, by simp⟩
  | outline o =>
    cases found
    exact valid
  | examples o table =>
    cases found
    obtain ⟨whole, printable⟩ := valid
    exact { whole with examples := forall_mem_concat whole.examples printable }

end Section

namespace Reader

theorem PrintableIn.finishGathering (flat : ¬ allowed '\n') {reader : Reader}
    (valid : reader.PrintableIn allowed) : reader.finishGathering.PrintableIn allowed := by
  have gathering := valid.gathering
  unfold Reader.finishGathering
  split
  · exact valid
  · rename_i table gathered
    rw [gathered] at gathering
    refine { valid with current := valid.current.mapSteps fun steps all => ?_, gathering := trivial }
    refine forall_mem_changeLast (fun step printable => ?_) all
    exact { printable with table := fun found same => by cases same; exact gathering }
  · rename_i mark mediaType lines gathered
    rw [gathered] at gathering
    have doc := DocString.printableIn_ofLines flat gathering
    refine { valid with current := valid.current.mapSteps fun steps all => ?_, gathering := trivial }
    refine forall_mem_changeLast (fun step printable => ?_) all
    exact { printable with docString := fun found same => by cases same; exact doc }

theorem PrintableIn.closeSection (flat : ¬ allowed '\n') {reader : Reader}
    (valid : reader.PrintableIn allowed) : reader.closeSection.PrintableIn allowed := by
  have settled := valid.finishGathering flat
  rw [closeSection_eq]
  exact { settled with feature := settled.current.addTo settled.feature, current := trivial }

theorem PrintableIn.openExamples (flat : ¬ allowed '\n') {reader : Reader}
    (valid : reader.PrintableIn allowed) {title : String} (inline : Inline allowed title) :
    (reader.openExamples title).PrintableIn allowed := by
  have settled := valid.finishGathering flat
  unfold Reader.openExamples
  cases above : reader.finishGathering.current.outline? with
  | none =>
    have closed := settled.closeSection flat
    simp only [above]
    exact { closed with current := trivial, pendingTags := by simp }
  | some outline =>
    have whole := settled.current.outline?_eq above
    simp only [above]
    refine { settled with current := ⟨whole, ?_⟩, pendingTags := by simp }
    refine ⟨fun name given => ?_, settled.pendingTags, by simp, by simp, by simp⟩
    split at given
    · cases given
    · rename_i filled
      cases given
      exact ⟨by simpa using filled, inline⟩

theorem PrintableIn.openSection (flat : ¬ allowed '\n') {reader : Reader}
    (valid : reader.PrintableIn allowed) {title : String} (inline : Inline allowed title)
    (header : Header) : (reader.openSection header title).PrintableIn allowed := by
  have closed := valid.closeSection flat
  cases header with
  | examples => exact valid.openExamples flat inline
  | feature =>
    have tags := List.forall_mem_append.mpr ⟨closed.feature.tags, closed.pendingTags⟩
    exact ⟨{ closed.feature with name := inline, tags := tags }, trivial, closed.gathering,
      List.forall_mem_nil _⟩
  | background => exact { closed with current := List.forall_mem_nil _ }
  | scenario =>
    exact { closed with
      current := ⟨inline, valid.pendingTags, List.forall_mem_nil _⟩
      pendingTags := List.forall_mem_nil _ }
  | outline =>
    exact { closed with
      current := ⟨inline, valid.pendingTags, List.forall_mem_nil _, List.forall_mem_nil _⟩
      pendingTags := List.forall_mem_nil _ }

theorem PrintableIn.addExampleRow {reader : Reader} (valid : reader.PrintableIn allowed)
    {cells : List String} (clean : ∀ cell ∈ cells, IsCell allowed cell) :
    (reader.addExampleRow cells).PrintableIn allowed := by
  have current := valid.current
  unfold Reader.addExampleRow
  split
  · rename_i outline table inExamples
    rw [inExamples] at current
    obtain ⟨whole, printable⟩ := current
    refine { valid with current := ⟨whole, ?_⟩ }
    by_cases columns : table.headers = []
    · have rowless := printable.rowless columns
      rw [if_pos (by simp [columns])]
      refine { printable with width := ?_, rowless := fun _ => rowless, cells := ?_ }
      · simp [rowless]
      · simpa [rowless] using clean
    · rw [if_neg (by simpa using columns)]
      refine { printable with
        width := forall_mem_concat printable.width (length_fitRow ..)
        rowless := fun none => absurd none columns
        cells := ?_ }
      exact forall_mem_concat printable.cells (forall_mem_fitRow clean)
  · exact valid

theorem PrintableIn.addTableRow {reader : Reader} (valid : reader.PrintableIn allowed)
    {cells : List String} (filled : cells ≠ []) (clean : ∀ cell ∈ cells, IsCell allowed cell) :
    (reader.addTableRow cells).PrintableIn allowed := by
  have gathering := valid.gathering
  unfold Reader.addTableRow
  split
  · rename_i table gathered
    rw [gathered] at gathering
    refine { valid with gathering := { gathering with rows := ?_, cells := ?_ } }
    · exact forall_mem_concat gathering.rows filled
    · exact forall_mem_concat gathering.cells clean
  · refine { valid with gathering := ⟨filled, by simp, ?_⟩ }
    simpa [DataTable.allRows] using clean

theorem PrintableIn.addDocLine {reader : Reader} (valid : reader.PrintableIn allowed)
    {line : List Char}
    (text : (LineRole.docStringText line).PrintableIn allowed reader.openMark?) :
    (reader.addDocLine line).PrintableIn allowed := by
  have gathering := valid.gathering
  unfold Reader.addDocLine
  split
  · rename_i mark mediaType lines gathered
    rw [gathered] at gathering
    obtain ⟨typed, made, unmarked⟩ := gathering
    have open_ : mark ∈ reader.openMark? := by simp [openMark?, gathered]
    exact { valid with
      gathering := ⟨typed, forall_mem_concat made text.1, forall_mem_concat unmarked (text.2 mark open_)⟩ }
  · exact valid

/-- A line is added to a description below a line feed, so it stays a line of its own. -/
theorem descriptionLines_addDescription (reader : Reader) {line : List Char} (flat : '\n' ∉ line) :
    (reader.addDescription line).feature.descriptionLines =
      reader.feature.descriptionLines ++ [line] := by
  have piece : line.splitOn '\n' = [line] := List.splitOn_eq_singleton flat
  unfold Feature.descriptionLines Reader.addDescription
  cases reader.feature.description with
  | none => simp [piece]
  | some text => simp [List.splitOn_append_cons_self, piece]

theorem PrintableIn.addDescription (flat : ¬ allowed '\n') {reader : Reader}
    (valid : reader.PrintableIn allowed) {line : List Char} (made : ∀ c ∈ line, allowed c)
    (describes : IsDescription line) : (reader.addDescription line).PrintableIn allowed := by
  refine { valid with feature := { valid.feature with description := ?_ } }
  rw [reader.descriptionLines_addDescription fun inside => flat (made _ inside)]
  exact forall_mem_concat valid.feature.description describes

theorem PrintableIn.act (flat : ¬ allowed '\n') {reader : Reader} (valid : reader.PrintableIn allowed)
    {role : LineRole} (printable : role.PrintableIn allowed reader.openMark?) (number : Nat) :
    (reader.act number role).PrintableIn allowed := by
  have settled := valid.finishGathering flat
  cases role with
  | docStringStart mark mediaType =>
    exact { settled with gathering := ⟨printable, by simp, by simp⟩ }
  | docStringText line => exact valid.addDocLine printable
  | docStringEnd | comment | unrecognized line => exact settled
  | exampleRow cells => exact valid.addExampleRow printable
  | tableRow cells => exact valid.addTableRow printable.1 printable.2
  | blank =>
    simp only [Reader.act]
    split
    · exact { settled with current := trivial }
    · exact settled
  | tags names =>
    exact { settled with pendingTags := List.forall_mem_append.mpr ⟨settled.pendingTags, printable⟩ }
  | header header title => exact settled.openSection flat printable header
  | step keyword text =>
    refine { settled with current := settled.current.mapSteps fun steps all => ?_ }
    exact forall_mem_concat all ⟨printable.1, printable.2, by simp, by simp⟩
  | description line => exact settled.addDescription flat printable.1 printable.2

theorem PrintableIn.readLines (flat : ¬ allowed '\n') {lines : List (List Char)}
    (made : ∀ line ∈ lines, ∀ c ∈ line, allowed c) {reader : Reader}
    (valid : reader.PrintableIn allowed) (number : Nat) :
    (reader.readLines number lines).PrintableIn allowed := by
  induction lines generalizing reader number with
  | nil => exact valid
  | cons line rest ih =>
    have role := reader.role_printableIn (made line (List.mem_cons_self ..))
    exact ih (fun other member => made other (List.mem_cons_of_mem _ member))
      (valid.act flat role number) _

theorem start_printableIn (made : ∀ c ∈ Feature.unnamed.toList, allowed c)
    (path : Option SourcePath) : (start path).PrintableIn allowed := by
  have name : Inline allowed Feature.unnamed := ⟨made, trimmed_of_all (by decide) (by decide)⟩
  exact ⟨⟨name, by simp [start], by simp [start, Feature.descriptionLines], by simp [start],
    by simp [start], by simp [start]⟩, trivial, trivial, by simp [start]⟩

end Reader

/-- What is read from lines can be printed, up to the characters that it is made of. -/
theorem readFeature_printableIn (flat : ¬ allowed '\n') (start : ∀ c ∈ Feature.unnamed.toList, allowed c)
    {text : String} (made : ∀ line ∈ linesOf text.toList, ∀ c ∈ line, allowed c)
    (path : Option SourcePath) : (readFeature path text).PrintableIn allowed := by
  have begun := Reader.start_printableIn start path
  have read := begun.readLines flat made 1
  exact (read.closeSection flat).feature

theorem readFeature_printable {text : String} (returns : ReturnsEndLines text.toList)
    (path : Option SourcePath) : (readFeature path text).Printable := by
  have unnamed : ∀ c ∈ Feature.unnamed.toList, c ≠ '\n' ∧ c ≠ '\r' :=
    forall_mem_of_all (by decide)
  refine readFeature_printableIn (fun line => line.1 rfl) unnamed (fun line member c inside => ?_) path
  constructor
  · rintro rfl
    exact newline_not_mem_line member inside
  · rintro rfl
    exact return_not_mem_line returns member inside

end ScenarioRunner
