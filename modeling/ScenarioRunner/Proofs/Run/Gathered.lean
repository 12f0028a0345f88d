import ScenarioRunner.Proofs.Run.Interleaving
import ScenarioRunner.Run.Basic
import ScenarioRunner.Suite.Run

namespace ScenarioRunner

theorem Interleaving.append_pair {α : Type} {one other merged : List α}
    (interleaved : Interleaving [one, other] merged) (first second : List α) :
    Interleaving [first ++ one, second ++ other] (first ++ second ++ merged) := by
  have later : Interleaving [one, second ++ other] (second ++ merged) := by
    refine Interleaving.of_perm ?_ (List.Perm.swap ..)
    induction second with
    | nil => exact interleaved.of_perm (List.Perm.swap ..)
    | cons a rest ih => exact ih.first a
  rw [List.append_assoc]
  induction first with
  | nil => exact later
  | cons a rest ih => exact ih.first a

namespace Timeline

variable {ω α β : Type}

@[simp] theorem outputs_pure (value : α) : (pure value : Timeline ω α).outputs = [] := rfl

@[simp] theorem value_pure (value : α) : (pure value : Timeline ω α).value = value := rfl

theorem outputs_bind_pure (timeline : Timeline ω α) (change : α → β) :
    (timeline >>= fun value => pure (change value)).outputs = timeline.outputs := by
  rw [outputs_bind]
  exact List.append_nil _

theorem outputs_mapOutputs {ω' : Type} (change : ω → ω') (timeline : Timeline ω α) :
    (timeline.mapOutputs change).outputs = timeline.outputs.map change := by
  simp [mapOutputs, outputs, List.map_flatten]

theorem outputs_inSequence (timelines : List (Timeline ω Unit)) :
    (inSequence timelines).outputs = timelines.flatMap outputs := by
  induction timelines with
  | nil => rfl
  | cons timeline rest ih => rw [inSequence, outputs_bind, ih, List.flatMap_cons]

theorem interleaving_joinRounds (first second : List (List ω)) :
    Interleaving [first.flatten, second.flatten] (joinRounds first second).flatten := by
  induction first generalizing second with
  | nil => exact (Interleaving.single second.flatten).thenFirst []
  | cons round rest ih =>
    cases second with
    | nil =>
      have alone := Interleaving.single (round :: rest).flatten
      exact (alone.thenFirst []).of_perm (List.Perm.swap ..)
    | cons other others =>
      exact (ih others).append_pair round other

/-- Computations that run side by side take turns. -/
theorem interleaving_gather (timelines : List (Timeline ω α)) :
    Interleaving (timelines.map outputs) (gather timelines).outputs := by
  induction timelines with
  | nil => exact .nothing
  | cons timeline rest ih =>
    have joined := (interleaving_joinRounds timeline.later (gather rest).later).append_pair
      timeline.first (gather rest).first
    have swapped : Interleaving [(gather rest).outputs, timeline.outputs]
        (gather (timeline :: rest)).outputs := joined.of_perm (List.Perm.swap ..)
    exact (swapped.nest ih).of_perm List.perm_append_comm

end Timeline

/-- A skipped test puts out nothing. -/
theorem outputs_test {ω ε : Type} (path : List String) (test : Test ω ε) :
    ((SuiteItem.test test).run path).outputs = if test.skip then [] else test.body.outputs := by
  rw [SuiteItem.run, Timeline.outputs_bind_pure, Test.run, Timeline.outputs_bind_pure, Test.outcome]
  cases test.skip with
  | true => rfl
  | false =>
    rw [if_neg Bool.false_ne_true, if_neg Bool.false_ne_true, Timeline.outputs_bind_pure]

/-- So it tells of no event. -/
theorem eventsOf_test {ω ε : Type} (path : List String) (test : Test (RunOutput ω) ε) :
    eventsOf ((SuiteItem.test test).run path).outputs =
      if test.skip then [] else eventsOf test.body.outputs := by
  rw [outputs_test]
  cases test.skip <;> rfl

/-- A group puts out what its set-up hooks do, then what its members do in their turns, then what its
tear-down hooks do. -/
theorem outputs_runAround {ω ε : Type} (setUp tearDown : List (Timeline ω Unit))
    (members : List (Timeline ω (List (TestResult ε)))) : ∃ merged,
    (runAround setUp tearDown members).outputs =
        setUp.flatMap Timeline.outputs ++ merged ++ tearDown.flatMap Timeline.outputs ∧
      Interleaving (members.map Timeline.outputs) merged := by
  refine ⟨_, ?_, Timeline.interleaving_gather members⟩
  rw [runAround, Timeline.outputs_bind, Timeline.outputs_bind, Timeline.outputs_bind_pure,
    Timeline.outputs_inSequence, Timeline.outputs_inSequence, List.append_assoc]

/-- The events of a group are those of its set-up hooks, then those of its members, then those of its
tear-down hooks. -/
theorem eventsOf_runAround {ω ε : Type} (setUp tearDown : List (Timeline (RunOutput ω) Unit))
    (members : List (Timeline (RunOutput ω) (List (TestResult ε)))) : ∃ merged,
    eventsOf (runAround setUp tearDown members).outputs =
        setUp.flatMap (eventsOf ·.outputs) ++ merged ++ tearDown.flatMap (eventsOf ·.outputs) ∧
      Interleaving (members.map (eventsOf ·.outputs)) merged := by
  obtain ⟨merged, whole, turns⟩ := outputs_runAround setUp tearDown members
  refine ⟨eventsOf merged, ?_, ?_⟩
  · rw [whole, eventsOf, List.filterMap_append, List.filterMap_append, List.filterMap_flatMap,
      List.filterMap_flatMap]
    rfl
  · have events := turns.filterMap RunOutput.event?
    rwa [List.map_map] at events

end ScenarioRunner
