import ScenarioRunner.Proofs.Suite.Registered

namespace ScenarioRunner

variable {ω ε : Type}

theorem value_runAround (setUp tearDown : List (Timeline ω Unit))
    (members : List (Timeline ω (List (TestResult ε)))) :
    (runAround setUp tearDown members).value = members.flatMap (·.value) := by
  rw [runAround, Timeline.value_bind, Timeline.value_bind, Timeline.value_bind, Timeline.value_gather,
    ← List.flatMap_def]
  rfl

theorem Test.value_run (path : List String) (test : Test ω ε) : (test.run path).value =
    ⟨path, test.name, test.tags, if test.skip then .skipped else .ofBody test.body.value⟩ := by
  rw [run, Timeline.value_bind, outcome]
  cases test.skip with
  | true => rfl
  | false =>
    rw [if_neg Bool.false_ne_true, if_neg Bool.false_ne_true, Timeline.value_bind]
    rfl

theorem SuiteItem.value_run_test (path : List String) (test : Test ω ε) :
    ((SuiteItem.test test).run path).value = [(test.run path).value] := by
  rw [run, Timeline.value_bind]
  rfl

theorem SuiteItem.value_run_group (path : List String) (name : String)
    (setUp tearDown : List (Timeline ω Unit)) (items : List (SuiteItem ω ε)) :
    ((SuiteItem.group name setUp tearDown items).run path).value =
      items.flatMap fun item => (item.run (path ++ [name])).value := by
  rw [run, value_runAround, Suite.runItems_eq, List.flatMap_map]

/-- A body never gives the outcome of a skipped test. -/
theorem TestOutcome.ofBody_ne_skipped (value : Except ε Unit) : ofBody value ≠ .skipped := by
  cases value <;> exact nofun

theorem TestResult.isFailed_iff (result : TestResult ε) :
    result.isFailed = true ↔ ∃ failure, result.outcome = .failed failure := by
  unfold isFailed
  cases result.outcome <;> simp

theorem TestOutcome.ofBody_eq_failed_iff {value : Except ε Unit} {failure : ε} :
    ofBody value = .failed failure ↔ value = .error failure := by
  cases value <;> simp [ofBody]

/-- The test with another body, if it is skipped. -/
def Test.withBody (body : Test ω ε → Timeline ω (Except ε Unit)) (test : Test ω ε) : Test ω ε :=
  if test.skip then { test with body := body test } else test

theorem Test.run_withBody (body : Test ω ε → Timeline ω (Except ε Unit)) (path : List String)
    (test : Test ω ε) : (test.withBody body).run path = test.run path := by
  unfold withBody
  cases skip : test.skip with
  | true => simp only [run, outcome, skip, if_true]
  | false => rfl

namespace Registration

variable (body : Test ω ε → Timeline ω (Except ε Unit))

mutual

/-- The registration with other bodies of all skipped tests in it. -/
def withBodies : Registration ω ε → Registration ω ε
  | group name members => group name (withBodiesOf members)
  | test case => test (case.withBody body)
  | setUp hook => setUp hook
  | tearDown hook => tearDown hook

def withBodiesOf : List (Registration ω ε) → List (Registration ω ε)
  | [] => []
  | registration :: rest => registration.withBodies :: withBodiesOf rest

end

theorem withBodiesOf_eq (registrations : List (Registration ω ε)) :
    withBodiesOf body registrations = registrations.map (withBodies body) := by
  induction registrations with
  | nil => rfl
  | cons registration rest ih => rw [withBodiesOf, ih, List.map_cons]

theorem setUp?_withBodies (registration : Registration ω ε) :
    (registration.withBodies body).setUp? = registration.setUp? := by
  cases registration <;> rw [withBodies] <;> rfl

theorem tearDown?_withBodies (registration : Registration ω ε) :
    (registration.withBodies body).tearDown? = registration.tearDown? := by
  cases registration <;> rw [withBodies] <;> rfl

theorem filterMap_withBodiesOf {α : Type} {hook? : Registration ω ε → Option α}
    (same : ∀ registration, hook? (registration.withBodies body) = hook? registration)
    (registrations : List (Registration ω ε)) :
    (withBodiesOf body registrations).filterMap hook? = registrations.filterMap hook? := by
  rw [withBodiesOf_eq, List.filterMap_map]
  exact congrArg (List.filterMap · registrations) (funext same)

mutual

theorem run_items_withBodies (path : List String) : (registration : Registration ω ε) →
    (registration.withBodies body).items.map (·.run path) = registration.items.map (·.run path)
  | .group name members => by
    rw [withBodies, items, items, List.map_singleton, List.map_singleton, SuiteItem.run,
      SuiteItem.run, Suite.runItems_eq, Suite.runItems_eq, run_itemsOf_withBodies _ members,
      filterMap_withBodiesOf body (setUp?_withBodies body),
      filterMap_withBodiesOf body (tearDown?_withBodies body)]
  | .test case => by
    rw [withBodies, items, items, List.map_singleton, List.map_singleton, SuiteItem.run,
      SuiteItem.run, case.run_withBody]
  | .setUp hook => by rw [withBodies]
  | .tearDown hook => by rw [withBodies]

theorem run_itemsOf_withBodies (path : List String) : (registrations : List (Registration ω ε)) →
    (itemsOf (withBodiesOf body registrations)).map (·.run path) =
      (itemsOf registrations).map (·.run path)
  | [] => by rw [withBodiesOf]
  | registration :: rest => by
    rw [withBodiesOf, itemsOf, itemsOf, List.map_append, List.map_append,
      run_items_withBodies path registration, run_itemsOf_withBodies path rest]

end

end Registration

/-- The body of a skipped test is never run: any other would do. -/
theorem Suite.run_withBodies (body : Test ω ε → Timeline ω (Except ε Unit))
    (registrations : List (Registration ω ε)) :
    (ofRegistrations (registrations.map (·.withBodies body))).run =
      (ofRegistrations registrations).run := by
  rw [← Registration.withBodiesOf_eq, run_ofRegistrations, run_ofRegistrations,
    Registration.filterMap_withBodiesOf body (Registration.setUp?_withBodies body),
    Registration.filterMap_withBodiesOf body (Registration.tearDown?_withBodies body),
    ← Registration.itemsOf_eq, ← Registration.itemsOf_eq, Registration.run_itemsOf_withBodies]

end ScenarioRunner
