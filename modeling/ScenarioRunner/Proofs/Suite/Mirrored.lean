import ScenarioRunner.Proofs.Suite.Traced

namespace ScenarioRunner

variable {ω ε : Type}

namespace Registration

theorem length_items (call : Registration ω ε) : call.items.length ≤ 1 := by
  cases call <;> simp

/-- What a registration puts out, with all that is inside it, when its turn comes. -/
def turnOutputs (path : List String) (call : Registration ω ε) : List ω :=
  call.items.flatMap fun item => (item.run path).outputs

theorem turnOutputs_test (path : List String) (case : Test ω ε) :
    turnOutputs path (.test case) = (test case).puts := by
  rw [turnOutputs, items, List.flatMap_singleton, outputs_test, puts]

/-- The traces of what is inside each registration of a group, by their places. -/
def TracesMembers (path : List String) (calls : List (Registration ω ε))
    (inner : Nat → SuiteTrace ω) : Prop :=
  ∀ place call, calls[place]? = some call → TracesCalls call.body (inner place) ∧
    call.direct ++ (inner place).map Prod.snd = call.turnOutputs path

theorem TracesMembers.map_memberTrace {path : List String} {calls : List (Registration ω ε)}
    {inner : Nat → SuiteTrace ω} (members : TracesMembers path calls inner) :
    ((List.range calls.length).map (memberTrace calls inner)).map (·.map Prod.snd) =
      calls.map (turnOutputs path) := by
  refine List.ext_getElem (by simp) fun place inside _ => ?_
  have bound : place < calls.length := by simpa using inside
  have found := List.getElem?_eq_getElem bound
  simp [memberTrace, SuiteTrace.under, found, ← (members place _ found).2, Function.comp_def]

/-- A group has a trace if all that is inside its members has one. -/
theorem TracesMembers.exists_trace {path : List String} {calls : List (Registration ω ε)}
    {inner : Nat → SuiteTrace ω} (members : TracesMembers path calls inner) : ∃ trace,
    TracesCalls calls trace ∧ trace.map Prod.snd =
      (runAround (calls.filterMap setUp?) (calls.filterMap tearDown?)
        ((calls.flatMap items).map (·.run path))).outputs := by
  obtain ⟨told, whole, turns⟩ := outputs_runAround (calls.filterMap setUp?)
    (calls.filterMap tearDown?) ((calls.flatMap items).map (·.run path))
  have eachCall : Interleaving (calls.map (turnOutputs path)) told := by
    rw [List.map_map, List.map_flatMap] at turns
    have small : ∀ call ∈ calls,
        (call.items.map (Timeline.outputs ∘ (·.run path))).length ≤ 1 := by
      intro call _
      rw [List.length_map]
      exact call.length_items
    exact Interleaving.of_flatMap small [] turns
  rw [← members.map_memberTrace] at eachCall
  obtain ⟨merged, rfl, inTurn⟩ := eachCall.exists_of_map
  refine ⟨_, tracesCalls_around (fun place call found => (members place call found).1) inTurn, ?_⟩
  rw [whole, List.map_append, List.map_append, map_snd_hookTrace, map_snd_hookTrace]

mutual

theorem exists_inner (path : List String) : (call : Registration ω ε) → ∃ trace,
    TracesCalls call.body trace ∧ call.direct ++ trace.map Prod.snd = call.turnOutputs path
  | .group name body => by
    obtain ⟨inner, members⟩ := exists_members (path ++ [name]) body
    obtain ⟨trace, traced, outputs⟩ := members.exists_trace
    refine ⟨trace, traced, ?_⟩
    rw [outputs, turnOutputs, items, List.flatMap_singleton, SuiteItem.run, Suite.runItems_eq,
      itemsOf_eq]
    rfl
  | .test case => ⟨[], tracesCalls_nil, by rw [turnOutputs_test]; exact List.append_nil _⟩
  | .setUp _ | .tearDown _ => ⟨[], tracesCalls_nil, rfl⟩

theorem exists_members (path : List String) : (calls : List (Registration ω ε)) →
    ∃ inner, TracesMembers path calls inner
  | [] => ⟨fun _ => [], nofun⟩
  | call :: rest => by
    obtain ⟨trace, first⟩ := exists_inner path call
    obtain ⟨inner, members⟩ := exists_members path rest
    refine ⟨fun | 0 => trace | place + 1 => inner place, fun place other found => ?_⟩
    cases place with
    | zero => exact Option.some.inj found ▸ first
    | succ place => exact members place other found

end

end Registration

/-- A suite does what the calls say that it was registered with. Which call an output of its run
comes from is not part of the output: the trace tells it. -/
structure MirrorsCalls (calls : List (Registration ω ε)) (suite : Suite ω ε) : Prop where
  closed : suite.inner = []
  count : suite.testCount = (Registration.testCallsOf [] calls).length
  results : suite.run.value = (Registration.testCallsOf [] calls).map fun (path, test) =>
    ⟨path, test.name, test.tags, if test.skip then .skipped else .ofBody test.body.value⟩
  order : ∃ trace : SuiteTrace ω,
    trace.map Prod.snd = suite.run.outputs ∧ Registration.TracesCalls calls trace
  bodiless : ∀ body, (Suite.ofRegistrations (calls.map (·.withBodies body))).run = suite.run

/-- Whatever is registered, in whatever nesting, is what the suite holds and runs. -/
theorem Suite.ofRegistrations_mirrors (calls : List (Registration ω ε)) :
    MirrorsCalls calls (ofRegistrations calls) where
  closed := by
    rw [ofRegistrations, registerAll_eq]
    rfl
  count := by
    rw [ofRegistrations, registerAll_eq, ← Registration.testCountOf_itemsOf]
    rfl
  results := by
    rw [run_ofRegistrations, value_runAround, List.flatMap_map, ← Registration.itemsOf_eq,
      Registration.results_itemsOf]
    exact List.map_congr_left fun call _ => call.2.value_run call.1
  order := by
    obtain ⟨inner, members⟩ := Registration.exists_members [] calls
    obtain ⟨trace, traced, outputs⟩ := members.exists_trace
    exact ⟨trace, by rw [outputs, run_ofRegistrations], traced⟩
  bodiless body := run_withBodies body calls

/-- Hooks stand around all that is inside their group, wherever they were registered in it. -/
example : (Suite.ofRegistrations [
      .group "outer" [
        .test ⟨"a", [], false, do Timeline.emit ["body"]; return .ok ()⟩,
        .tearDown (.emit ["down"]), .setUp (.emit ["up"])],
      .setUp (.emit ["first"])] : Suite String Unit).run.outputs =
    ["first", "up", "body", "down"] := rfl

end ScenarioRunner
