import Mathlib.Data.List.Forall2
import ScenarioRunner.Proofs.Pattern.Matching

namespace ScenarioRunner

namespace StepPattern

theorem kind_gather {kinds : List (String × ParamKind)} {pieces : List BracedPiece} {hole : Hole}
    (member : hole ∈ (gather kinds pieces).2) : hole.kind = kindOf kinds hole.name := by
  induction pieces with
  | nil => cases member
  | cons piece rest ih =>
    cases piece with
    | plain c => exact ih member
    | token name =>
      rcases List.mem_cons.mp member with rfl | later
      · rfl
      · exact ih later

theorem template_compile {limit : SizeLimit} {template : String} {kinds : List (String × ParamKind)}
    {pattern : StepPattern} (compiled : compile limit template kinds = .ok pattern) :
    pattern.template = template := by
  rw [eq_ofTemplate compiled]
  rfl

theorem kind_compile {limit : SizeLimit} {template : String} {kinds : List (String × ParamKind)}
    {pattern : StepPattern} (compiled : compile limit template kinds = .ok pattern) :
    ∀ hole ∈ pattern.holes, hole.kind = kindOf kinds hole.name := by
  intro hole member
  rw [eq_ofTemplate compiled] at member
  exact kind_gather member

/-- Kinds have no part in how a text is split. -/
theorem captures?_congr {limit more : SizeLimit} {template : String}
    {kinds others : List (String × ParamKind)} {pattern other : StepPattern}
    (compiled : compile limit template kinds = .ok pattern)
    (again : compile more template others = .ok other) (text : List Char) :
    pattern.captures? text = other.captures? text := by
  obtain ⟨lead, places⟩ := (templateSplit_compile compiled).unique (templateSplit_compile again)
  have literals := congrArg (List.map Prod.snd) places
  simp only [List.map_map] at literals
  have same : pattern.holes.map Hole.after = other.holes.map Hole.after := literals
  rw [captures?, captures?, lead, same]

/-- The texts that a step text gives for the placeholders of a template when all of them capture
text. -/
def CapturesTexts (template text : String) (texts : List String) : Prop :=
  ∃ untyped, compile .unlimited template [] = .ok untyped ∧
    untyped.match? text = .ok (some (texts.map Value.string))

theorem capturesTexts_iff {limit : SizeLimit} {template : String} {kinds : List (String × ParamKind)}
    {pattern : StepPattern} (compiled : compile limit template kinds = .ok pattern) {text : String}
    {texts : List String} : CapturesTexts template text texts ↔
      pattern.captures? text.toList = some (texts.map String.toList) := by
  have known : compile .unlimited template [] = .ok (ofTemplate template []) := rfl
  generalize ofTemplate template [] = untyped at known
  have strings : ∀ hole ∈ untyped.holes, hole.kind = .string := kind_compile known
  have value : Function.Injective fun text : List Char => Value.string (String.ofList text) := by
    intro a b same
    exact String.ofList_inj.mp (Value.string.inj same)
  have texted : texts.map Value.string =
      (texts.map String.toList).map fun text => Value.string (String.ofList text) := by
    simp [Function.comp_def]
  rw [captures?_congr compiled known]
  constructor
  · rintro ⟨other, again, matched⟩
    rw [known] at again
    cases again
    rw [match?_eq_captures? strings, Except.ok.injEq] at matched
    obtain ⟨captures, captured, same⟩ := Option.map_eq_some_iff.mp matched
    rw [captured, List.map_injective_iff.mpr value (same.trans texted)]
  · intro captured
    refine ⟨untyped, known, ?_⟩
    rw [match?_eq_captures? strings, captured, texted]
    rfl

/-- Each captured text is read as a value of its placeholder's kind. -/
def Reads (holes : List Hole) (texts : Captures) (values : List Value) : Prop :=
  List.Forall₂ (fun (place : Hole × List Char) value => place.1.kind.read? place.2 = some value)
    (holes.zip texts) values

/-- The first captured text that is no value of its placeholder's kind. -/
def FailsAt (holes : List Hole) (texts : Captures) (hole : Hole) (text : List Char) : Prop :=
  ∃ before after, holes.zip texts = before ++ (hole, text) :: after ∧
    (∀ place ∈ before, ∃ value, place.1.kind.read? place.2 = some value) ∧
    hole.kind.read? text = none

theorem convert_cons (hole : Hole) (holes : List Hole) (text : List Char) (texts : Captures) :
    convert (hole :: holes) (text :: texts) = (hole.kind.convert hole.name text).bind fun value =>
      (convert holes texts).map (value :: ·) := by
  rw [convert]
  cases hole.kind.convert hole.name text with
  | error e => rfl
  | ok value => cases convert holes texts <;> rfl

theorem convert_of_reads {holes : List Hole} {texts : Captures} {values : List Value}
    (reads : Reads holes texts values) : convert holes texts = .ok values := by
  induction holes generalizing texts values with
  | nil =>
    cases reads
    rfl
  | cons hole holes ih =>
    cases texts with
    | nil =>
      cases reads
      rfl
    | cons text texts =>
      cases reads with
      | cons here later => rw [convert_cons, ParamKind.convert, here, ih later]; rfl

theorem convert_of_failsAt {holes : List Hole} {texts : Captures} {hole : Hole} {text : List Char}
    (fails : FailsAt holes texts hole text) :
    convert holes texts = .error ⟨String.ofList text, hole.name, hole.kind⟩ := by
  obtain ⟨before, after, zipped, read, unread⟩ := fails
  induction before generalizing holes texts with
  | nil =>
    cases holes with
    | nil => cases zipped
    | cons first holes =>
      cases texts with
      | nil => cases zipped
      | cons capture texts =>
        cases (List.cons.inj zipped).1
        rw [convert_cons, ParamKind.convert, unread]
        rfl
  | cons place before ih =>
    cases holes with
    | nil => cases zipped
    | cons first holes =>
      cases texts with
      | nil => cases zipped
      | cons capture texts =>
        obtain ⟨rfl, behind⟩ := List.cons.inj zipped
        obtain ⟨value, here⟩ := read _ (List.mem_cons_self ..)
        have later := ih behind fun place member => read place (List.mem_cons_of_mem _ member)
        rw [convert_cons, ParamKind.convert, here, later]
        rfl

/-- All of the captured texts are values of their kinds, or a first one is not. -/
theorem exists_reads_or_failsAt (holes : List Hole) (texts : Captures) :
    (∃ values, Reads holes texts values) ∨ ∃ hole text, FailsAt holes texts hole text := by
  unfold Reads FailsAt
  induction holes.zip texts with
  | nil => exact .inl ⟨[], .nil⟩
  | cons place rest ih =>
    cases here : place.1.kind.read? place.2 with
    | none => exact .inr ⟨place.1, place.2, [], rest, rfl, by simp, here⟩
    | some value =>
      rcases ih with ⟨values, reads⟩ | ⟨hole, text, before, after, whole, read, unread⟩
      · exact .inl ⟨value :: values, .cons here reads⟩
      · refine .inr ⟨hole, text, place :: before, after, by rw [whole]; rfl, ?_, unread⟩
        exact List.forall_mem_cons.mpr ⟨⟨value, here⟩, read⟩

theorem match?_eq_some_iff {pattern : StepPattern} {line : String} {values : List Value} :
    pattern.match? line = .ok (some values) ↔
      ∃ texts, pattern.captures? line.toList = some texts ∧ Reads pattern.holes texts values := by
  unfold match?
  cases pattern.captures? line.toList with
  | none => simp
  | some texts =>
    simp only [Option.some.injEq, exists_eq_left']
    rcases exists_reads_or_failsAt pattern.holes texts with ⟨read, reads⟩ | ⟨hole, text, fails⟩
    · rw [convert_of_reads reads]
      refine ⟨fun same => ?_, fun others => ?_⟩
      · cases same
        exact reads
      · rw [← convert_of_reads reads, convert_of_reads others]
        rfl
    · rw [convert_of_failsAt fails]
      refine ⟨fun same => ?_, fun reads => ?_⟩
      · cases same
      · have read := convert_of_reads reads
        rw [convert_of_failsAt fails] at read
        cases read

end StepPattern

end ScenarioRunner
