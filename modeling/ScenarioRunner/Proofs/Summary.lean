import Mathlib.Data.List.Induction
import ScenarioRunner.Proofs.Report.Scenario
import ScenarioRunner.Summary

namespace ScenarioRunner

/-- Does the event end a scenario as failed? -/
def ScenarioEvent.isFailure : ScenarioEvent → Bool
  | finished (.failed _) => true
  | started | skipped | step _ _ | finished .passed => false

/-- How a scenario ends with the event. -/
def ScenarioEvent.end? : ScenarioEvent → Option Status
  | skipped => some .skipped
  | finished .passed => some .passed
  | finished (.failed _) => some .failed
  | started | step _ _ => none

theorem ScenarioEvent.end?_ne_running (event : ScenarioEvent) : event.end? ≠ some .running := by
  cases event with
  | started | skipped | step => exact nofun
  | finished outcome => cases outcome <;> exact nofun

theorem ScenarioEvent.isFailure_iff (event : ScenarioEvent) :
    event.isFailure = true ↔ event.end? = some .failed := by
  cases event with
  | started | skipped | step => exact iff_of_false nofun nofun
  | finished outcome =>
    cases outcome with
    | passed => exact iff_of_false nofun nofun
    | failed => exact iff_of_true rfl rfl

theorem ScenarioEvent.status_of_stepEnd? {event : ScenarioEvent}
    {ended : Step × Status × Option String} (ends : event.stepEnd? = some ended) :
    ended.2.1 ≠ .running := by
  cases event with
  | started | skipped | finished => cases ends
  | step step event =>
    obtain ⟨ended, found, rfl⟩ := Option.map_eq_some_iff.mp ends
    exact ScenarioReport.end?_status_ne found

namespace RunEvent

/-- Does the event tell of a failed scenario? -/
def isFailure : RunEvent → Bool
  | scenario _ event => event.isFailure
  | started | finished | featureStarted _ | featureFinished _ => false

/-- Does a feature start with the event? -/
def startsFeature : RunEvent → Bool
  | featureStarted _ => true
  | started | finished | featureFinished _ | scenario _ _ => false

/-- What can be told from an event of a scenario, whatever scenario it is. -/
def ofScenario? {α : Type} (tell? : ScenarioEvent → Option α) : RunEvent → Option α
  | scenario _ event => tell? event
  | started | finished | featureStarted _ | featureFinished _ => none

theorem ofScenario?_eq_some_iff {α : Type} {tell? : ScenarioEvent → Option α} {event : RunEvent}
    {a : α} : event.ofScenario? tell? = some a ↔ ∃ id told, event = scenario id told ∧
      tell? told = some a := by
  cases event with
  | started | finished | featureStarted | featureFinished =>
    exact iff_of_false nofun (fun ⟨_, _, same, _⟩ => nomatch same)
  | scenario id told => simp [ofScenario?]

theorem filterMap_ofScenario? {α : Type} (tell? : ScenarioEvent → Option α) (id : ScenarioId)
    (told : List ScenarioEvent) :
    (told.map (scenario id)).filterMap (ofScenario? tell?) = told.filterMap tell? := by
  rw [List.filterMap_map]
  rfl

end RunEvent

namespace Tally

/-- Counts over the ways in which scenarios or steps have ended. -/
def ofEnds (ends : List Status) : Tally :=
  ⟨ends.count .passed, ends.count .skipped, ends.count .failed⟩

/-- The tally with one more scenario or step, if there is one that has ended. -/
def after (tally : Tally) : Option Status → Tally
  | some .passed => tally.countPassed
  | some .skipped => tally.countSkipped
  | some .failed => tally.countFailed
  | some .running | none => tally

theorem ofEnds_append (ends : List Status) (last : Option Status) :
    ofEnds (ends ++ last.toList) = (ofEnds ends).after last := by
  cases last with
  | none => rw [Option.toList_none, List.append_nil, after]
  | some status => cases status <;> simp [ofEnds, after, countPassed, countSkipped, countFailed]

/-- All that has ended is counted in one place. -/
theorem total_ofEnds {ends : List Status} (ended : .running ∉ ends) :
    (ofEnds ends).total = ends.length := by
  induction ends with
  | nil => rfl
  | cons status rest ih =>
    have here : status ≠ .running := fun same => ended (same ▸ List.mem_cons_self ..)
    have others : rest.count .passed + rest.count .skipped + rest.count .failed = rest.length :=
      ih fun member => ended (List.mem_cons_of_mem _ member)
    simp only [total, ofEnds, List.count_cons, List.length_cons]
    cases status with
    | running => exact absurd rfl here
    | passed | skipped | failed =>
      simp
      omega

end Tally

namespace Summary

/-- What an event adds to the counts. -/
theorem observe_eq (summary : Summary) (event : RunEvent) : summary.observe event =
    ⟨summary.features + if event.startsFeature then 1 else 0,
      summary.scenarios.after (event.ofScenario? ScenarioEvent.end?),
      summary.steps.after ((event.ofScenario? ScenarioEvent.stepEnd?).map (·.2.1))⟩ := by
  cases event with
  | started | finished | featureStarted | featureFinished => rfl
  | scenario id event =>
    cases event with
    | started | skipped => rfl
    | step step event => cases event <;> rfl
    | finished outcome => cases outcome <;> rfl

/-- Features are counted by their starts, scenarios and steps by their ends. -/
theorem ofEvents_eq (events : List RunEvent) : ofEvents events =
    ⟨events.countP (·.startsFeature),
      .ofEnds (events.filterMap (·.ofScenario? ScenarioEvent.end?)),
      .ofEnds ((events.filterMap (·.ofScenario? ScenarioEvent.stepEnd?)).map (·.2.1))⟩ := by
  induction events using List.reverseRecOn with
  | nil => rfl
  | append_singleton events event ih =>
    have last : ofEvents (events ++ [event]) = (ofEvents events).observe event := by
      rw [ofEvents, List.foldl_append]
      rfl
    have alone {α : Type} (f : RunEvent → Option α) : [event].filterMap f = (f event).toList := by
      cases told : f event <;> simp [told]
    rw [last, ih, observe_eq, List.countP_append, List.countP_singleton, List.filterMap_append,
      List.filterMap_append, alone, alone, List.map_append, ← Option.toList_map,
      Tally.ofEnds_append, Tally.ofEnds_append]

theorem total_scenarios (events : List RunEvent) : (ofEvents events).scenarios.total =
    (events.filterMap (·.ofScenario? ScenarioEvent.end?)).length := by
  rw [ofEvents_eq]
  refine Tally.total_ofEnds fun member => ?_
  obtain ⟨event, _, running⟩ := List.mem_filterMap.mp member
  obtain ⟨_, told, rfl, running⟩ := RunEvent.ofScenario?_eq_some_iff.mp running
  exact told.end?_ne_running running

theorem total_steps (events : List RunEvent) : (ofEvents events).steps.total =
    (events.filterMap (·.ofScenario? ScenarioEvent.stepEnd?)).length := by
  rw [ofEvents_eq, ← List.length_map (·.2.1)]
  refine Tally.total_ofEnds fun member => ?_
  obtain ⟨ended, known, running⟩ := List.mem_map.mp member
  obtain ⟨event, _, ends⟩ := List.mem_filterMap.mp known
  obtain ⟨_, _, rfl, ends⟩ := RunEvent.ofScenario?_eq_some_iff.mp ends
  exact ScenarioEvent.status_of_stepEnd? ends running

/-- The order in which events arrive is of no account. -/
theorem ofEvents_perm {events other : List RunEvent} (perm : events.Perm other) :
    ofEvents events = ofEvents other := by
  have scenarios := perm.filterMap (·.ofScenario? ScenarioEvent.end?)
  have steps := (perm.filterMap (·.ofScenario? ScenarioEvent.stepEnd?)).map (·.2.1)
  simp only [ofEvents_eq, Tally.ofEnds, perm.countP_eq, scenarios.count_eq, steps.count_eq]

theorem hasFailed_ofEvents (events : List RunEvent) :
    (ofEvents events).hasFailed = true ↔ ∃ event ∈ events, event.isFailure = true := by
  rw [hasFailed, ofEvents_eq, decide_eq_true_iff]
  show 0 < List.count _ _ ↔ _
  rw [List.count_pos_iff, List.mem_filterMap]
  refine exists_congr fun event => and_congr_right fun _ => ?_
  cases event with
  | started | finished | featureStarted | featureFinished => exact iff_of_false nofun nofun
  | scenario id event => exact event.isFailure_iff.symm

end Summary

end ScenarioRunner
