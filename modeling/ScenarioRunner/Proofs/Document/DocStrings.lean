import ScenarioRunner.Proofs.Document.Documented
import ScenarioRunner.Proofs.Document.Owned

namespace ScenarioRunner

theorem Step.relocated_relocated (first second : Option SourceLocation → Option SourceLocation)
    (step : Step) : (step.relocated first).relocated second = step.relocated (second ∘ first) := rfl

theorem Step.documented_documented (first second : DocString) (step : Step) :
    (step.documented first).documented second = step.documented second := rfl

namespace Feature

theorem relocated_relocated (first second : Option SourceLocation → Option SourceLocation)
    (feature : Feature) :
    (feature.relocated first).relocated second = feature.relocated (second ∘ first) := by
  simp [relocated, Scenario.relocated, ScenarioOutline.relocated, Function.comp_def,
    Step.relocated_relocated]

theorem modifyStep_relocated {move : Option SourceLocation → Option SourceLocation}
    (change : Step → Step)
    (commute : ∀ step : Step, (change step).relocated move = change (step.relocated move))
    (feature : Feature) (place : StepPlace) :
    (feature.modifyStep change place).relocated move =
      (feature.relocated move).modifyStep change place := by
  cases place with
  | background i =>
    simp [modifyStep, relocated, Function.comp_def, map_modify commute]
  | scenario k i =>
    simp only [modifyStep, relocated]
    rw [map_modify]
    intro s
    simp [Scenario.relocated, map_modify commute]
  | outline k i =>
    simp only [modifyStep, relocated]
    rw [map_modify]
    intro o
    simp [ScenarioOutline.relocated, map_modify commute]

theorem documented_relocated (move : Option SourceLocation → Option SourceLocation)
    (docString : DocString) (feature : Feature) (place? : Option StepPlace) :
    (feature.documented docString place?).relocated move =
      (feature.relocated move).documented docString place? := by
  cases place? with
  | none => rfl
  | some place => exact modifyStep_relocated (Step.documented docString) (fun _ => rfl) feature place

theorem documented_documented (first second : DocString) (feature : Feature)
    (place? : Option StepPlace) :
    (feature.documented first place?).documented second place? =
      feature.documented second place? := by
  cases place? with
  | none => rfl
  | some place =>
    cases place <;>
      simp [documented, modifyStep, Function.comp_def, List.modify_modify_eq,
        Step.documented_documented]

theorem step?_relocated (move : Option SourceLocation → Option SourceLocation) (feature : Feature)
    (place : StepPlace) :
    (feature.relocated move).step? place = (feature.step? place).map (Step.relocated move) := by
  cases place with
  | background i =>
    cases steps : feature.background <;> simp [step?, relocated, backgroundSteps, steps]
  | scenario k i =>
    cases found : feature.scenarios[k]? <;> simp [step?, relocated, found, Scenario.relocated]
  | outline k i =>
    cases found : feature.outlines[k]? <;> simp [step?, relocated, found, ScenarioOutline.relocated]

end Feature

/-- The place as if, below the given line, so many lines had been replaced by so many others. -/
def SourceLocation.resized (last old new : Nat) (location : SourceLocation) : SourceLocation :=
  if location.line ≤ last then location else { location with line := location.line - old + new }

theorem SourceLocation.resized_resized (last old new : Nat) :
    resized last old new ∘ resized last 0 old = resized last 0 new := by
  funext ⟨path, line⟩
  by_cases above : line ≤ last
  · simp [resized, above]
  · have below : ¬ line + old ≤ last := by omega
    simp [resized, above, below]

namespace Reader

theorem relation_relocated (move : Option SourceLocation → Option SourceLocation) :
    Relation move fun f g : Feature => g = f.relocated move where
  addTo := by
    rintro f _ current rfl
    cases current <;>
      simp [Section.relocated, Section.addTo, Feature.relocated, ScenarioOutline.relocated]
  header := by
    rintro f _ title tags rfl
    rfl
  description := by
    rintro a b line same
    simp [addDescription, same, Feature.relocated]

/-- So many more lines in one place change the places of the steps below it, and nothing else. -/
theorem mirrors_resized (path : Option SourcePath) (above : List (List Char)) (more : Nat) :
    Mirrors (Option.map (SourceLocation.resized above.length 0 more))
      (fun number => if number ≤ above.length then number else number + more)
      (fun f g => g = f.relocated (Option.map (SourceLocation.resized above.length 0 more)))
      (readerBelow path above) (readerBelow path above) := by
  refine Mirrors.readLines_renumbered (relation_relocated _) ?_ fun i inside => ?_
  · refine ⟨rfl, rfl, rfl, rfl, fun number => ?_⟩
    cases path with
    | none => rfl
    | some path =>
      simp only [start, Option.map_some, SourceLocation.resized]
      split <;> rfl
  · rw [if_pos (by omega)]

theorem finish_readLines_resized (path : Option SourcePath) (above : List (List Char))
    (gathering : Gathering) (more : Nat) (lines : List (List Char)) :
    let reader := { readerBelow path above with gathering }
    (reader.readLines (above.length + 1 + more) lines).finish =
        (reader.readLines (above.length + 1) lines).finish.relocated
          (Option.map (SourceLocation.resized above.length 0 more)) := by
  intro reader
  have relation := relation_relocated (Option.map (SourceLocation.resized above.length 0 more))
  refine (Mirrors.readLines_renumbered relation ((mirrors_resized path above more).gather gathering)
    fun i _ => ?_).finish relation
  rw [if_neg (by omega)]
  omega

variable {reader : Reader} {mark : DocMark} {mediaType : Option String}

/-- Up to the mark that closes the doc string every line is text. -/
theorem read_docLines {lines body : List (List Char)}
    (gathers : reader.gathering = .docString mark mediaType lines)
    (inside : ∀ line ∈ body, mark.text.isPrefixOf (trim line) = false) (number : Nat) :
    reader.roles number body = body.map .docStringText ∧
      reader.readLines number body =
        { reader with gathering := .docString mark mediaType (lines ++ body) } := by
  induction body generalizing reader number lines with
  | nil =>
    rw [List.append_nil, ← gathers]
    exact ⟨rfl, rfl⟩
  | cons line rest ih =>
    have text : reader.role line = .docStringText line := by
      rw [role_of_inside (by rw [openMark?, gathers]), inside line (List.mem_cons_self ..)]
      rfl
    have added : reader.read number line =
        { reader with gathering := .docString mark mediaType (lines ++ [line]) } := by
      rw [read, text, act, addDocLine, gathers]
    have longer : (reader.read number line).gathering =
        .docString mark mediaType (lines ++ [line]) := by rw [added]
    obtain ⟨roles, read⟩ := ih longer
      (fun later member => inside later (List.mem_cons_of_mem _ member)) (number + 1)
    constructor
    · rw [Reader.roles, text, roles, List.map_cons]
    · rw [readLines, read, added, List.append_assoc]
      rfl

/-- The mark that closes a doc string does what the end of the document does. -/
theorem finish_readLines_of_closes {lines below : List (List Char)}
    (gathers : reader.gathering = .docString mark mediaType lines)
    (closes : ∀ line ∈ below.head?, mark.text.isPrefixOf (trim line) = true) (number : Nat) :
    (reader.readLines number below).finish =
        (reader.finishGathering.readLines (number + 1) below.tail).finish ∧
      ∀ i, reader.documentedPlace? i (reader.roles number below) =
        reader.finishGathering.documentedPlace? i
          (reader.finishGathering.roles (number + 1) below.tail) := by
  have settled (i : Nat) (later : List LineRole) : reader.documentedPlace? i later =
      reader.finishGathering.documentedPlace? i later := by
    rw [documentedPlace?, documentedPlace?, endsWith_finishGathering, place?_finishGathering]
  cases below with
  | nil =>
    have closed := reader.closeSection_finishGathering
    exact ⟨congrArg Reader.feature closed.symm, fun i => settled i []⟩
  | cons line rest =>
    have ends : reader.role line = .docStringEnd := by
      rw [role_of_inside (by rw [openMark?, gathers]), closes line rfl]
      rfl
    constructor
    · rw [readLines, read, ends]
      rfl
    · intro i
      rw [← settled, roles, read, ends, documentedPlace?, documentedPlace?]
      cases reader.current <;> rfl

/-- The last step of the section gets the doc string whatever is in it. -/
theorem finishGathering_docString (mark : DocMark) (mediaType : Option String) {i : Nat}
    (last : reader.current.endsWith i = true) (body : List (List Char)) :
    { reader with gathering := .docString mark mediaType body }.finishGathering =
      { reader with gathering := .docString mark mediaType [] }.finishGathering.hold
        (.ofLines mediaType body) i := by
  have given (lines : List (List Char)) : reader.current.mapSteps
      (changeLast fun step => { step with docString := some (.ofLines mediaType lines) }) =
        reader.current.modifyStep (Step.documented (.ofLines mediaType lines)) i :=
    Section.mapSteps_changeLast last _
  simp only [finishGathering, hold, given]
  rw [Section.modifyStep_modifyStep]
  rfl

theorem holdsStep_finishGathering (mark : DocMark) (mediaType : Option String) {i : Nat} {step : Step}
    (last : reader.current.endsWith i = true)
    (known : reader.current.held[i]? = some step) :
    { reader with gathering := .docString mark mediaType [] }.finishGathering.HoldsStep i
      (step.documented (.ofLines mediaType [])).untabled := by
  refine ⟨?_, .inl (by simp [openMark?, gathering_finishGathering])⟩
  show ((reader.current.mapSteps (changeLast (Step.documented (.ofLines mediaType [])))).held[i]?).map
    Step.untabled = _
  rw [Section.mapSteps_changeLast last, Section.held_modifyStep, List.getElem?_modify_eq, known]
  rfl

/-- Where the feature will have the doc string that is read for the last step. -/
def docStringPlace? (reader : Reader) (last : Nat) (below : List (List Char)) : Option StepPlace :=
  reader.documentedPlace? (reader.current.held.length - 1) (reader.roles (last + 1) below)

/-- A doc string that is filled differs from an empty one in nothing but its lines. -/
theorem finish_readLines_docString {i : Nat} {step : Step} {below : List (List Char)}
    (gathers : reader.gathering = .docString mark mediaType [])
    (last : reader.current.endsWith i = true) (known : reader.current.held[i]? = some step)
    (closes : ∀ line ∈ below.head?, mark.text.isPrefixOf (trim line) = true)
    (body : List (List Char)) (number : Nat) :
    let filled := { reader with gathering := .docString mark mediaType body }
    let place? := reader.documentedPlace? i (reader.roles number below)
    (filled.readLines number below).finish =
        (reader.readLines number below).finish.documented (.ofLines mediaType body) place? ∧
      ∀ place ∈ place?, ((reader.readLines number below).finish.step? place).map Step.untabled =
        some (step.documented (.ofLines mediaType [])).untabled := by
  have same : { reader with gathering := .docString mark mediaType [] } = reader := by rw [← gathers]
  have holds := holdsStep_finishGathering mark mediaType last known
  have settled := finishGathering_docString mark mediaType last body
  rw [same] at holds settled
  intro filled place?
  obtain ⟨empty, place⟩ := finish_readLines_of_closes gathers closes number
  have filledWith : filled.gathering = .docString mark mediaType body := rfl
  obtain ⟨full, _⟩ := finish_readLines_of_closes filledWith closes number
  have content := holds.finish_readLines (.ofLines mediaType body) (number + 1) below.tail
  rw [full, settled, empty, show place? = _ from place i]
  exact content

/-- A doc string begins only below a step, and then nothing but its lines is read. -/
theorem readerBelow_opening {path : Option SourcePath} {above : List (List Char)} {opening : List Char}
    (opens : (readerBelow path above).role opening = .docStringStart mark mediaType) :
    let opened := readerBelow path (above ++ [opening])
    opened.gathering = .docString mark mediaType [] ∧
      ∃ last, opened.current.held.getLast? = some last ∧
        opened.current.held[opened.current.held.length - 1]? = some last ∧
        opened.current.endsWith (opened.current.held.length - 1) = true := by
  intro opened
  have outside : (readerBelow path above).openMark? = none := by
    cases inside : (readerBelow path above).openMark? with
    | none => rfl
    | some found =>
      rw [role_of_inside inside] at opens
      split at opens <;> cases opens
  have step : (readerBelow path above).current.setting.hasStep = true := by
    have fits := Setting.role_fitsIn (readerBelow path above).current.setting (trim opening)
    rwa [← role_of_outside outside, opens] at fits
  have same : opened = { (readerBelow path above).finishGathering with
      gathering := .docString mark mediaType [] } := by
    show readerBelow path (above ++ [opening]) = _
    rw [readerBelow, readLines_append, readLines, readLines, read]
    change (readerBelow path above).act _ ((readerBelow path above).role opening) = _
    rw [opens]
    rfl
  rw [← setting_finishGathering] at step
  obtain ⟨last, ends⟩ := Section.exists_last_of_hasStep step
  rw [same]
  exact ⟨rfl, last, ends⟩

end Reader

/-- What becomes of a document when the lines of a doc string are replaced. The reader is the one that
has read the document up to the mark that opens the doc string. -/
structure DocStringReplaced (opened : Reader) (mediaType : Option String) (last : Nat)
    (old new below : List (List Char)) (before after : Feature) : Prop where
  /-- No line of the doc string is taken for anything else. -/
  text : opened.roles (last + 1) new = new.map .docStringText
  /-- The document says what it said, but for the doc string and for the lines that later steps
  stand in. -/
  rest : after =
    (before.documented ⟨String.ofList (['\n'].intercalate new), mediaType⟩
      (opened.docStringPlace? last below)).relocated
        (Option.map (SourceLocation.resized last old.length new.length))
  /-- The step keeps the new lines as they are, with line feeds between them, unless another doc
  string or another background follows. -/
  content : ∃ step ∈ opened.current.held.getLast?, ∀ place ∈ opened.docStringPlace? last below,
    ∃ table, after.step? place = some { step with
      table := table
      docString := some
        { content := String.ofList (['\n'].intercalate new), mediaType := mediaType } }

theorem Section.held_relocated (move : Option SourceLocation → Option SourceLocation)
    (current : Section) : (current.relocated move).held = current.held.map (Step.relocated move) := by
  cases current <;> simp [relocated, held, Scenario.relocated, ScenarioOutline.relocated]

/-- Steps above the lines that have moved have not moved. -/
theorem relocated_of_held {path : Option SourcePath} {above : List (List Char)} {step : Step}
    (held : (readerBelow path above).current.held.getLast? = some step) (more : Nat) :
    step.relocated (Option.map (SourceLocation.resized above.length 0 more)) = step := by
  have current := (Reader.mirrors_resized path above more).current
  have moved := held
  rw [current, Section.held_relocated, List.getLast?_map, held] at moved
  exact Option.some.inj moved

theorem Step.eq_of_untabled {a b : Step} (same : a.untabled = b.untabled) :
    a = { b with table := a.table } := by
  cases a
  cases b
  cases same
  rfl

variable {path : Option SourcePath} {above below : List (List Char)} {opening : List Char}
  {mark : DocMark} {mediaType : Option String}

/-- The lines of a doc string reach its step and the numbers of the lines below, and nothing else. -/
theorem readFeature_of_docLines {document : String} {body : List (List Char)}
    (lines : linesOf document.toList = above ++ opening :: (body ++ below))
    (opens : (readerBelow path above).role opening = .docStringStart mark mediaType)
    (inside : ∀ line ∈ body, mark.text.isPrefixOf (trim line) = false)
    (closes : ∀ line ∈ below.head?, mark.text.isPrefixOf (trim line) = true) :
    let opened := readerBelow path (above ++ [opening])
    readFeature path document =
      ((opened.readLines (above.length + 2) below).finish.documented (.ofLines mediaType body)
        (opened.docStringPlace? (above.length + 1) below)).relocated
          (Option.map (SourceLocation.resized (above.length + 1) 0 body.length)) := by
  intro opened
  obtain ⟨gathers, last, held, known, ends⟩ := Reader.readerBelow_opening opens
  have long : (above ++ [opening]).length = above.length + 1 := by simp
  have split : linesOf document.toList = (above ++ [opening]) ++ (body ++ below) := by
    simp [lines]
  have moved := Reader.finish_readLines_resized path (above ++ [opening])
    (.docString mark mediaType body) body.length below
  have filled := (Reader.finish_readLines_docString gathers ends known closes body
    (above.length + 2)).1
  rw [long] at moved
  rw [readFeature_eq split, Reader.readLines_append, (Reader.read_docLines gathers inside _).2,
    long, Nat.add_comm 1, List.nil_append]
  exact moved.trans (congrArg _ filled)

/-- Doc strings are opaque: whatever lines stand in one, the rest of the document reads the same. -/
theorem readFeature_docStringReplaced (path : Option SourcePath) {text replaced : String}
    {above old new below : List (List Char)} {opening : List Char} {mark : DocMark}
    {mediaType : Option String}
    (before : linesOf text.toList = above ++ opening :: (old ++ below))
    (after : linesOf replaced.toList = above ++ opening :: (new ++ below))
    (opens : (readerBelow path above).role opening = .docStringStart mark mediaType)
    (oldText : ∀ line ∈ old, mark.text.isPrefixOf (trim line) = false)
    (newText : ∀ line ∈ new, mark.text.isPrefixOf (trim line) = false)
    (closes : ∀ line ∈ below.head?, mark.text.isPrefixOf (trim line) = true) :
    DocStringReplaced (readerBelow path (above ++ [opening])) mediaType (above.length + 1) old new
      below (readFeature path text) (readFeature path replaced) := by
  obtain ⟨gathers, last, held, known, ends⟩ := Reader.readerBelow_opening opens
  have replacedBy := readFeature_of_docLines after opens newText closes
  refine ⟨(Reader.read_docLines gathers newText _).1, ?_, last, held, ?_⟩
  · rw [readFeature_of_docLines before opens oldText closes, replacedBy,
      ← Feature.documented_relocated, Feature.documented_documented, Feature.relocated_relocated,
      Option.map_comp_map, SourceLocation.resized_resized, DocString.ofLines]
  · intro place goes
    have kept := (Reader.finish_readLines_docString gathers ends known closes [] (above.length + 2)).2
      place goes
    obtain ⟨found, atPlace, same⟩ := Option.map_eq_some_iff.mp kept
    have unmoved : last.location.map (SourceLocation.resized (above.length + 1) 0 new.length) =
        last.location := by
      have moved := relocated_of_held held new.length
      rw [List.length_append, List.length_singleton] at moved
      exact congrArg Step.location moved
    refine ⟨found.table, ?_⟩
    rw [replacedBy, Option.mem_def.mp goes, Feature.step?_relocated, Feature.documented,
      Feature.step?_modifyStep, atPlace, Step.eq_of_untabled same, Option.map_some, Option.map_some]
    simp [Step.relocated, Step.documented, DocString.ofLines, unmoved]

/-- Lines that would be a header, a row and a comment anywhere else. -/
theorem readFeature_docStringReplaced_scenario :
    let path : Option SourcePath := some ⟨"f"⟩
    let above := ["Scenario: s", "Given x"].map String.toList
    let opening := "\"\"\"json".toList
    let old := [" a".toList]
    let new := ["  Scenario: t", "| b |", "# c"].map String.toList
    let below := ["\"\"\"", "Then y"].map String.toList
    let text := "Scenario: s\nGiven x\n\"\"\"json\n a\n\"\"\"\nThen y"
    let replaced := "Scenario: s\nGiven x\n\"\"\"json\n  Scenario: t\n| b |\n# c\n\"\"\"\nThen y"
    linesOf text.toList = above ++ opening :: (old ++ below) ∧
      linesOf replaced.toList = above ++ opening :: (new ++ below) ∧
      (readerBelow path above).role opening = .docStringStart .doubleQuotes (some "json") ∧
      (∀ line ∈ old, DocMark.doubleQuotes.text.isPrefixOf (trim line) = false) ∧
      (∀ line ∈ new, DocMark.doubleQuotes.text.isPrefixOf (trim line) = false) ∧
      (∀ line ∈ below.head?, DocMark.doubleQuotes.text.isPrefixOf (trim line) = true) ∧
      (readerBelow path (above ++ [opening])).docStringPlace? 3 below = some (.scenario 0 0) ∧
      DocStringReplaced (readerBelow path (above ++ [opening])) (some "json") 3 old new below
        (readFeature path text) (readFeature path replaced) := by
  intro path above opening old new below text replaced
  have before : linesOf text.toList = above ++ opening :: (old ++ below) := by decide
  have after : linesOf replaced.toList = above ++ opening :: (new ++ below) := by decide
  have opens : (readerBelow path above).role opening =
      .docStringStart .doubleQuotes (some "json") := by decide
  have oldText : ∀ line ∈ old, DocMark.doubleQuotes.text.isPrefixOf (trim line) = false := by decide
  have newText : ∀ line ∈ new, DocMark.doubleQuotes.text.isPrefixOf (trim line) = false := by decide
  have closes : ∀ line ∈ below.head?, DocMark.doubleQuotes.text.isPrefixOf (trim line) = true := by
    rintro _ ⟨⟩
    decide
  exact ⟨before, after, opens, oldText, newText, closes, by decide,
    readFeature_docStringReplaced path before after opens oldText newText closes⟩

end ScenarioRunner
