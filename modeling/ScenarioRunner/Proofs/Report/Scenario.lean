import Mathlib.Data.List.Forall2
import ScenarioRunner.Proofs.Run.Trace
import ScenarioRunner.Report

namespace ScenarioRunner

/-- How a step ends with the event. -/
def StepEvent.end? : StepEvent → Option (Status × Option String)
  | started => none
  | passed => some (.passed, none)
  | skipped => some (.skipped, none)
  | failed message => some (.failed, some message)

/-- The step that ends with the event, and how. -/
def ScenarioEvent.stepEnd? : ScenarioEvent → Option (Step × Status × Option String)
  | step s event => event.end?.map (s, ·)
  | _ => none

def StepReport.ofEnd (ended : Step × Status × Option String) : StepReport :=
  .ofStep ended.1 ended.2.1 ended.2.2

theorem updateLast?_concat {α : Type} {test : α → Bool} (change : α → α) (list : List α) {a : α}
    (passes : test a = true) : updateLast? test change (list ++ [a]) = some (list ++ [change a]) := by
  induction list with
  | nil => simp [updateLast?, passes]
  | cons b rest ih => simp [updateLast?, ih]

theorem updateLast?_eq_none {α : Type} {test : α → Bool} (change : α → α) {list : List α}
    (none : ∀ a ∈ list, test a = false) : updateLast? test change list = .none := by
  induction list with
  | nil => rfl
  | cons a rest ih =>
    rw [updateLast?, ih fun other member => none other (List.mem_cons_of_mem _ member),
      none a (List.mem_cons_self ..)]
    rfl

namespace ScenarioReport

/-- No step has been started and not ended. -/
def Settled (report : ScenarioReport) : Prop := ∀ step ∈ report.steps, step.status ≠ .running

theorem end?_status_ne {event : StepEvent} {status : Status} {message : Option String}
    (ends : event.end? = some (status, message)) : status ≠ .running := by
  cases event <;> cases ends <;> exact nofun

theorem observeStep_of_end {event : StepEvent} {status : Status} {message : Option String}
    (ends : event.end? = some (status, message)) (report : ScenarioReport) (step : Step) :
    report.observeStep step event = report.finishStep step status message := by
  cases event <;> cases ends <;> rfl

/-- Without a running step the end of a step is that of a new one. -/
theorem finishStep_of_settled {report : ScenarioReport} (settled : report.Settled) (step : Step)
    (status : Status) (message : Option String) :
    report.finishStep step status message =
      { report with steps := report.steps ++ [.ofStep step status message] } := by
  have none : ∀ other ∈ report.steps, StepReport.isRunning step other = false := by
    intro other member
    have ended := settled other member
    simp [StepReport.isRunning, ended]
  rw [finishStep, updateLast?_eq_none _ none]
  rfl

/-- A step that was just started is the one to end, whatever the steps before it say. -/
theorem finishStep_of_started (report : ScenarioReport) (step : Step) (status : Status)
    (message : Option String) :
    (report.observeStep step .started).finishStep step status message =
      { report with steps := report.steps ++ [.ofStep step status message] } := by
  have running : StepReport.isRunning step (.ofStep step .running none) = true := by
    simp [StepReport.isRunning, StepReport.ofStep]
  rw [finishStep, observeStep, updateLast?_concat _ _ running]
  rfl

theorem Settled.concat {report : ScenarioReport} (settled : report.Settled) (step : Step)
    {status : Status} (ended : status ≠ .running) (message : Option String) :
    Settled { report with steps := report.steps ++ [.ofStep step status message] } := by
  intro other member
  rcases List.mem_append.mp member with before | last
  · exact settled other before
  · rw [List.mem_singleton.mp last]
    exact ended

end ScenarioReport

/-- Each step ends, and between its start and its end there is nothing. -/
inductive Orderly : List ScenarioEvent → Prop
  | nil : Orderly []
  | ended {step : Step} {event : StepEvent} {rest : List ScenarioEvent} :
    event.end?.isSome = true → Orderly rest → Orderly (.step step event :: rest)
  | begun {step : Step} {event : StepEvent} {rest : List ScenarioEvent} :
    event.end?.isSome = true → Orderly rest →
    Orderly (.step step .started :: .step step event :: rest)

namespace Orderly

/-- Every end of a step becomes one entry, in the order of the events. -/
theorem observe {events : List ScenarioEvent} (orderly : Orderly events) {report : ScenarioReport}
    (settled : report.Settled) :
    events.foldl ScenarioReport.observe report =
      { report with
        steps := report.steps ++ (events.filterMap (·.stepEnd?)).map StepReport.ofEnd } := by
  induction orderly generalizing report with
  | nil => simp
  | @ended step event rest isEnd _ ih =>
    obtain ⟨⟨status, message⟩, ends⟩ := Option.isSome_iff_exists.mp isEnd
    have here : report.observe (.step step event) =
        { report with steps := report.steps ++ [.ofStep step status message] } :=
      (ScenarioReport.observeStep_of_end ends report step).trans
        (ScenarioReport.finishStep_of_settled settled step status message)
    have listed : (ScenarioEvent.step step event).stepEnd? = some (step, status, message) := by
      simp [ScenarioEvent.stepEnd?, ends]
    rw [List.foldl_cons, here,
      ih (settled.concat step (ScenarioReport.end?_status_ne ends) message),
      List.filterMap_cons, listed]
    simp [StepReport.ofEnd]
  | @begun step event rest isEnd _ ih =>
    obtain ⟨⟨status, message⟩, ends⟩ := Option.isSome_iff_exists.mp isEnd
    have here : (report.observe (.step step .started)).observe (.step step event) =
        { report with steps := report.steps ++ [.ofStep step status message] } :=
      (ScenarioReport.observeStep_of_end ends _ step).trans
        (ScenarioReport.finishStep_of_started report step status message)
    have silent : (ScenarioEvent.step step .started).stepEnd? = none := rfl
    have listed : (ScenarioEvent.step step event).stepEnd? = some (step, status, message) := by
      simp [ScenarioEvent.stepEnd?, ends]
    rw [List.foldl_cons, List.foldl_cons, here,
      ih (settled.concat step (ScenarioReport.end?_status_ne ends) message),
      List.filterMap_cons, silent, List.filterMap_cons, listed]
    simp [StepReport.ofEnd]

end Orderly

/-- Steps that all end without a start end in their order. -/
theorem orderly_zipWith {steps : List Step} {ends : List StepEvent}
    (each : List.Forall₂ (fun _ event => event.end?.isSome = true) steps ends) :
    Orderly (List.zipWith .step steps ends) ∧
      ((List.zipWith ScenarioEvent.step steps ends).filterMap (·.stepEnd?)).map Prod.fst =
        steps := by
  induction each with
  | nil => exact ⟨.nil, rfl⟩
  | cons isEnd _ ih =>
    obtain ⟨orderly, listed⟩ := ih
    obtain ⟨ended, found⟩ := Option.isSome_iff_exists.mp isEnd
    refine ⟨.ended isEnd orderly, ?_⟩
    rw [List.zipWith_cons_cons, List.filterMap_cons, ScenarioEvent.stepEnd?, found]
    simp only [Option.map_some, List.map_cons, listed]

theorem orderly_skipped (steps : List Step) :
    Orderly (steps.map fun step => .step step .skipped) ∧
      ((steps.map fun step => ScenarioEvent.step step .skipped).filterMap (·.stepEnd?)).map
        Prod.fst = steps := by
  have each : List.Forall₂ (fun _ event => event.end?.isSome = true) steps
      (steps.map fun _ => StepEvent.skipped) := by
    rw [List.forall₂_map_right_iff]
    exact List.forall₂_same.mpr fun _ _ => rfl
  have told := orderly_zipWith each
  rwa [List.zipWith_map_right, List.zipWith_self] at told

/-- Every step is told to end once, in the order of the steps. -/
theorem StepsTrace.orderly {steps : List Step} {events : List ScenarioEvent}
    {failure : Option Failure} (trace : StepsTrace steps events failure) :
    Orderly events ∧ (events.filterMap (·.stepEnd?)).map Prod.fst = steps := by
  induction trace with
  | done => exact ⟨.nil, rfl⟩
  | passed _ ih =>
    obtain ⟨orderly, listed⟩ := ih
    exact ⟨.begun rfl orderly, congrArg _ listed⟩
  | @failed step rest failure =>
    obtain ⟨orderly, listed⟩ := orderly_skipped rest
    exact ⟨.begun rfl orderly, congrArg _ listed⟩

/-- How a scenario is reported, and the result of its test. -/
inductive Concludes : ScenarioEvent → Except Failure Unit → Prop
  | passed : Concludes (.finished .passed) (.ok ())
  | failed (failure : Failure) : Concludes (.finished (.failed failure.message)) (.error failure)
  | skipped : Concludes .skipped (.ok ())

namespace Executor

variable {σ ω π : Type} {executor : Executor σ ω π}

theorem isSome_end?_of_refused {missing : List MissingStep} {steps : List Step}
    {ends : List StepEvent} (refused : List.Forall₂ (executor.RefusedAs missing) steps ends) :
    List.Forall₂ (fun _ event => event.end?.isSome = true) steps ends :=
  refused.imp fun _ _ told => by cases told <;> rfl

/-- Whatever way a scenario goes, each of its steps ends once, and then the scenario ends. -/
theorem CaseTrace.shape {steps : List Step} {events : List ScenarioEvent}
    {value : Except Failure Unit} (trace : executor.CaseTrace steps events value) :
    ∃ middle last, events = .started :: (middle ++ [last]) ∧ Orderly middle ∧
      (middle.filterMap (·.stepEnd?)).map Prod.fst = steps ∧ Concludes last value := by
  cases trace with
  | passed _ ran =>
    obtain ⟨orderly, listed⟩ := ran.orderly
    exact ⟨_, _, rfl, orderly, listed, .passed⟩
  | failed _ ran =>
    obtain ⟨orderly, listed⟩ := ran.orderly
    exact ⟨_, _, rfl, orderly, listed, .failed _⟩
  | worldless =>
    obtain ⟨orderly, listed⟩ := orderly_skipped steps
    exact ⟨_, _, rfl, orderly, listed, .failed _⟩
  | refused _ _ told =>
    obtain ⟨orderly, listed⟩ := orderly_zipWith (isSome_end?_of_refused told)
    exact ⟨_, _, rfl, orderly, listed, .failed _⟩
  | skipped =>
    obtain ⟨orderly, listed⟩ := orderly_skipped steps
    exact ⟨_, _, rfl, orderly, listed, .skipped⟩

end Executor

/-- The entry tells which step it is about, and how that step has ended. -/
structure StepReport.Records (ended : Step × Status × Option String) (entry : StepReport) :
    Prop where
  keyword : entry.keyword = ended.1.keyword
  text : entry.text = ended.1.text
  location : entry.location = ended.1.location.map SourceLocation.text
  status : entry.status = ended.2.1
  message : entry.message = ended.2.2

namespace ScenarioReport

/-- Each step ends once, in the order of the steps, and the report has one entry for each, which
records how it has ended. -/
structure ListsSteps (report : ScenarioReport) (steps : List Step) (events : List ScenarioEvent) :
    Prop where
  steps : (events.filterMap (·.stepEnd?)).map Prod.fst = steps
  entries : List.Forall₂ StepReport.Records (events.filterMap (·.stepEnd?)) report.steps

/-- The scenario has failed exactly when its test did, and for the same reason. -/
structure EndsAs (report : ScenarioReport) (value : Except Failure Unit) : Prop where
  ended : report.status ≠ .running
  failed_iff : report.status = .failed ↔ ∃ failure, value = .error failure
  message : ∀ failure, value = .error failure → report.message = some failure.message

end ScenarioReport

/-- Whatever way a scenario goes, its report has what its events and its test have. -/
theorem Executor.CaseTrace.report {σ ω π : Type} {executor : Executor σ ω π} {steps : List Step}
    {events : List ScenarioEvent} {value : Except Failure Unit}
    (trace : executor.CaseTrace steps events value) :
    (events.foldl ScenarioReport.observe {}).ListsSteps steps events ∧
      (events.foldl ScenarioReport.observe {}).EndsAs value := by
  obtain ⟨middle, last, rfl, orderly, listed, concludes⟩ := trace.shape
  have begun : ScenarioReport.Settled {} := fun _ member => nomatch member
  have ends : ((ScenarioEvent.started :: (middle ++ [last])).filterMap (·.stepEnd?)) =
      middle.filterMap (·.stepEnd?) := by
    have silent : ScenarioEvent.stepEnd? .started = none := rfl
    have quiet : last.stepEnd? = none := by cases concludes <;> rfl
    simp [silent, quiet]
  have report : (ScenarioEvent.started :: (middle ++ [last])).foldl ScenarioReport.observe {} =
      ScenarioReport.observe
        { steps := (middle.filterMap (·.stepEnd?)).map StepReport.ofEnd } last := by
    have start : ScenarioReport.observe {} .started = {} := rfl
    rw [List.foldl_cons, List.foldl_append, start, orderly.observe begun]
    rfl
  have entries : (ScenarioReport.observe
      { steps := (middle.filterMap (·.stepEnd?)).map StepReport.ofEnd } last).steps =
      (middle.filterMap (·.stepEnd?)).map StepReport.ofEnd := by
    cases concludes <;> rfl
  rw [report]
  refine ⟨⟨by rw [ends, listed], ?_⟩, ?_⟩
  · rw [ends, entries, List.forall₂_map_right_iff]
    exact List.forall₂_same.mpr fun _ _ => ⟨rfl, rfl, rfl, rfl, rfl⟩
  · cases concludes with
    | passed | skipped => exact ⟨nofun, ⟨nofun, nofun⟩, nofun⟩
    | failed failure =>
      refine ⟨nofun, ⟨fun _ => ⟨failure, rfl⟩, fun _ => rfl⟩, fun other same => ?_⟩
      cases same
      rfl

end ScenarioRunner
