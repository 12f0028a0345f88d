import ScenarioRunner.Proofs.Document.PrintedRoles
import ScenarioRunner.Proofs.Document.Settled

namespace ScenarioRunner

namespace Reader

/-- A reader between two parts of a document, which gives no places to steps. -/
def resting (begun : Bool) (feature : Feature) (current : Section)
    (pendingTags : List String := []) : Reader :=
  ⟨none, feature, begun, current, .nothing, pendingTags⟩

variable (begun : Bool) (feature : Feature) {current : Section} (pendingTags : List String)

theorem settles_resting :
    (resting begun feature current pendingTags).Settles (resting begun feature current pendingTags) :=
  .refl rfl

theorem reads_tagLines {tags : List String} (valid : ∀ tag ∈ tags, IsTag tag) :
    (resting begun feature current pendingTags).Reads (tagLines tags)
      (resting begun feature current (pendingTags ++ tags)) := by
  unfold tagLines
  by_cases empty : tags = []
  · rw [if_pos empty, empty, List.append_nil]
    exact .nil _
  · rw [if_neg empty]
    exact .cons (role_tagLine _ valid empty) rfl fun _ => settles_resting ..

/-- The reader when something is gathered for the last step. -/
def gathers (reader : Reader) (gathering : Gathering) : Reader := { reader with gathering }

theorem current_gathers (reader : Reader) (gathering : Gathering) :
    (reader.gathers gathering).current = reader.current := rfl

/-- Rows go on a table that has been begun. -/
theorem readLines_rows {allowed : Char → Prop} {rows : List (List String)} {reader : Reader}
    (step : reader.current.setting.hasStep = true)
    (noExamples : reader.current.setting.inExamples = false)
    (filled : ∀ row ∈ rows, row ≠ []) (cells : ∀ row ∈ rows, ∀ cell ∈ row, IsCell allowed cell)
    (table : DataTable) (number : Nat) :
    (reader.gathers (.table table)).readLines number (rows.map rowLine) =
      reader.gathers (.table { table with rows := table.rows ++ rows }) := by
  induction rows generalizing table number with
  | nil => simp [readLines]
  | cons row rest ih =>
    have role : (reader.gathers (.table table)).role (rowLine row) = .tableRow row := by
      rw [role_of_outside rfl, current_gathers, role_rowLine _ (filled row (List.mem_cons_self ..))
        (cells row (List.mem_cons_self ..)) (.inr step), if_neg (by simp [noExamples])]
    have here : (reader.gathers (.table table)).read number (rowLine row) =
        reader.gathers (.table { table with rows := table.rows ++ [row] }) := by
      rw [read, role]
      rfl
    rw [List.map_cons, readLines, here,
      ih (fun other member => filled other (List.mem_cons_of_mem _ member))
        (fun other member => cells other (List.mem_cons_of_mem _ member))]
    simp

theorem readLines_table {allowed : Char → Prop} {table : DataTable}
    (valid : table.PrintableIn allowed) {reader : Reader}
    (step : reader.current.setting.hasStep = true)
    (noExamples : reader.current.setting.inExamples = false) (number : Nat) :
    (reader.gathers .nothing).readLines number table.lines = reader.gathers (.table table) := by
  have role : (reader.gathers .nothing).role (rowLine table.headers) = .tableRow table.headers := by
    rw [role_of_outside rfl, current_gathers, role_rowLine _ valid.headers
      (valid.cells _ (List.mem_cons_self ..)) (.inr step), if_neg (by simp [noExamples])]
  have here : (reader.gathers .nothing).read number (rowLine table.headers) =
      reader.gathers (.table { headers := table.headers, rows := [] }) := by
    rw [read, role]
    rfl
  rw [DataTable.lines, DataTable.allRows, List.map_cons, readLines, here,
    readLines_rows step noExamples valid.rows
      (fun row member => valid.cells row (List.mem_cons_of_mem _ member))]
  simp

/-- Inside a doc string all lines are text that do not begin with its mark. -/
theorem readLines_docText {mark : DocMark} {lines : List (List Char)}
    (admits : ∀ line ∈ lines, mark.text.isPrefixOf (trim line) = false) (reader : Reader)
    (mediaType : Option String) (before : List (List Char)) (number : Nat) :
    (reader.gathers (.docString mark mediaType before)).readLines number lines =
      reader.gathers (.docString mark mediaType (before ++ lines)) := by
  induction lines generalizing before number with
  | nil => simp [readLines]
  | cons line rest ih =>
    have role : (reader.gathers (.docString mark mediaType before)).role line =
        .docStringText line := by
      rw [role_of_inside rfl, admits line (List.mem_cons_self ..)]
      rfl
    have here : (reader.gathers (.docString mark mediaType before)).read number line =
        reader.gathers (.docString mark mediaType (before ++ [line])) := by
      rw [read, role]
      rfl
    rw [readLines, here, ih fun other member => admits other (List.mem_cons_of_mem _ member)]
    simp

/-- A doc string is given to the last step as soon as it is closed. -/
theorem reads_docString {allowed : Char → Prop} {doc : DocString} (valid : doc.PrintableIn allowed)
    (step : current.setting.hasStep = true) :
    (resting begun feature current pendingTags).Reads doc.lines
      (resting begun feature
        (current.mapSteps (changeLast fun step => { step with docString := some doc }))
        pendingTags) := by
  have opening : current.setting.role (trim (doc.mark.text ++ (doc.mediaType.getD "").toList)) =
      .docStringStart doc.mark doc.mediaType := by
    apply role_docOpening step
    intro name member
    exact (valid.mediaType name member).imp_right Inline.trimmed
  refine .cons opening rfl fun number => ?_
  have start : (resting begun feature current pendingTags).act number
      (.docStringStart doc.mark doc.mediaType) =
      (resting begun feature current pendingTags).gathers
        (.docString doc.mark doc.mediaType []) := rfl
  have closing : ((resting begun feature current pendingTags).gathers
      (.docString doc.mark doc.mediaType doc.contentLines)).role doc.mark.text = .docStringEnd := by
    rw [role_of_inside rfl]
    cases doc.mark <;> rfl
  have whole : DocString.ofLines doc.mediaType doc.contentLines = doc := by
    simp [DocString.ofLines, DocString.contentLines]
  rw [start, readLines_append, readLines_docText (DocString.admits_mark valid.admits),
    List.nil_append, readLines, readLines, read, closing, act]
  simp only [gathers, finishGathering, whole]
  exact settles_resting ..

theorem mapSteps_changeLast_concat (current : Section) (change : Step → Step) (step : Step) :
    (current.mapSteps (· ++ [step])).mapSteps (changeLast change) =
      current.mapSteps (· ++ [change step]) := by
  rw [Section.mapSteps_mapSteps]
  congr 1
  funext steps
  exact changeLast_concat change steps step

theorem setting_concat {current : Section} (takes : current.steps?.isSome = true) (step : Step) :
    (current.mapSteps (· ++ [step])).setting = ⟨true, false, false⟩ := by
  cases current with
  | start | feature describing | examples outline table => cases takes
  | background steps | scenario s | outline o =>
    exact congrArg (Setting.mk · false false) (by simp [Section.mapSteps, Section.hasStep, Section.steps?])

theorem settles_table {allowed : Char → Prop} {table : Option DataTable}
    (valid : ∀ found ∈ table, found.PrintableIn allowed) (takes : current.steps?.isSome = true)
    (step : Step) (noTable : step.table = none) (number : Nat) :
    ((resting begun feature (current.mapSteps (· ++ [step])) pendingTags).readLines number
      ((table.map DataTable.lines).getD [])).Settles
      (resting begun feature (current.mapSteps (· ++ [{ step with table := table }]))
        pendingTags) := by
  cases table with
  | none =>
    have same : { step with table := none } = step := by rw [← noTable]
    rw [same]
    exact settles_resting ..
  | some found =>
    have setting := setting_concat takes step
    let reader := resting begun feature (current.mapSteps (· ++ [step])) pendingTags
    have read : (reader.gathers .nothing).readLines number found.lines =
        reader.gathers (.table found) :=
      readLines_table (valid found rfl) (congrArg Setting.hasStep setting)
        (congrArg Setting.inExamples setting) number
    have rests : reader.gathers .nothing = reader := rfl
    show (reader.readLines number found.lines).Settles _
    rw [rests] at read
    rw [read]
    refine ⟨rfl, ?_⟩
    simp only [finishGathering, gathers, reader, resting, mapSteps_changeLast_concat]

/-- A step is read back with all that belongs to it, but without the place it once came from. -/
theorem reads_step {allowed : Char → Prop} {step : Step} (valid : step.PrintableIn allowed)
    (takes : current.steps?.isSome = true) :
    (resting begun feature current pendingTags).Reads step.lines
      (resting begun feature (current.mapSteps (· ++ [step.unlocated])) pendingTags) := by
  refine .cons (role_stepLine _ step.keyword valid.nonempty valid.text.trimmed) rfl
    fun number => ?_
  let bare : Step := { keyword := step.keyword, text := step.text }
  have start : (resting begun feature current pendingTags).act number
      (.step step.keyword step.text) =
      resting begun feature (current.mapSteps (· ++ [bare])) pendingTags := rfl
  have tabled :=
    settles_table begun feature pendingTags valid.table takes bare rfl (number + 1)
  rw [start, readLines_append]
  cases doc : step.docString with
  | none =>
    have whole : { bare with table := step.table } = step.unlocated := by
      simp [bare, Step.unlocated, doc]
    rw [← whole]
    exact tabled
  | some found =>
    have setting := setting_concat takes { bare with table := step.table }
    have read := reads_docString begun feature pendingTags (valid.docString found doc)
      (congrArg Setting.hasStep setting)
    rw [mapSteps_changeLast_concat] at read
    have whole : { bare with table := step.table, docString := some found } = step.unlocated := by
      simp [bare, Step.unlocated, doc]
    rw [← whole]
    exact read _ _ tabled

theorem reads_steps {allowed : Char → Prop} {steps : List Step}
    (valid : ∀ step ∈ steps, step.PrintableIn allowed) (takes : current.steps?.isSome = true) :
    (resting begun feature current pendingTags).Reads (linesOfSteps steps)
      (resting begun feature (current.mapSteps (· ++ steps.map Step.unlocated)) pendingTags) := by
  induction steps generalizing current with
  | nil =>
    have same : current.mapSteps (· ++ [].map Step.unlocated) = current := by
      cases current <;> simp [Section.mapSteps]
    rw [same]
    exact .nil _
  | cons step rest ih =>
    have here := reads_step begun feature pendingTags (valid step (List.mem_cons_self ..)) takes
    have still : (current.mapSteps (· ++ [step.unlocated])).steps?.isSome = true := by
      cases current <;> simp_all [Section.mapSteps, Section.steps?]
    have later := ih (fun other member => valid other (List.mem_cons_of_mem _ member)) still
    rw [Section.mapSteps_mapSteps] at later
    have all := here.append later
    simpa [linesOfSteps, Function.comp_def] using all

end Reader

end ScenarioRunner
