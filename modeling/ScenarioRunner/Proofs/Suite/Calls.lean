import ScenarioRunner.Proofs.Suite.Results

namespace ScenarioRunner

variable {ω ε : Type}

namespace Registration

mutual

/-- The tests of a registration in their order, with the names of the groups around them. -/
def testCalls (path : List String) : Registration ω ε → List (List String × Test ω ε)
  | group name body => testCallsOf (path ++ [name]) body
  | test case => [(path, case)]
  | setUp _ | tearDown _ => []

def testCallsOf (path : List String) : List (Registration ω ε) → List (List String × Test ω ε)
  | [] => []
  | registration :: rest => registration.testCalls path ++ testCallsOf path rest

end

theorem testCountOf_append (first second : List (SuiteItem ω ε)) :
    testCountOf (first ++ second) = testCountOf first + testCountOf second := by
  induction first with
  | nil => rw [List.nil_append, testCountOf, Nat.zero_add]
  | cons item rest ih => rw [List.cons_append, testCountOf, testCountOf, ih, Nat.add_assoc]

mutual

theorem testCountOf_items (path : List String) : (registration : Registration ω ε) →
    testCountOf registration.items = (registration.testCalls path).length
  | .group name body => by
    rw [items, testCalls, testCountOf, testCountOf, SuiteItem.testCount,
      testCountOf_itemsOf _ body, Nat.add_zero]
  | .test case => by rw [items, testCalls, testCountOf, testCountOf, SuiteItem.testCount]; rfl
  | .setUp hook => by rw [items, testCalls, testCountOf]; rfl
  | .tearDown hook => by rw [items, testCalls, testCountOf]; rfl

theorem testCountOf_itemsOf (path : List String) : (registrations : List (Registration ω ε)) →
    testCountOf (itemsOf registrations) = (testCallsOf path registrations).length
  | [] => rfl
  | registration :: rest => by
    rw [itemsOf, testCallsOf, testCountOf_append, List.length_append,
      testCountOf_items path registration, testCountOf_itemsOf path rest]

end

mutual

theorem results_items (path : List String) : (registration : Registration ω ε) →
    (registration.items.flatMap fun item => (item.run path).value) =
      (registration.testCalls path).map fun call => (call.2.run call.1).value
  | .group name body => by
    rw [items, testCalls, List.flatMap_singleton, SuiteItem.value_run_group,
      results_itemsOf _ body]
  | .test case => by
    rw [items, testCalls, List.flatMap_singleton, SuiteItem.value_run_test]
    rfl
  | .setUp hook => by rw [items, testCalls]; rfl
  | .tearDown hook => by rw [items, testCalls]; rfl

theorem results_itemsOf (path : List String) : (registrations : List (Registration ω ε)) →
    ((itemsOf registrations).flatMap fun item => (item.run path).value) =
      (testCallsOf path registrations).map fun call => (call.2.run call.1).value
  | [] => rfl
  | registration :: rest => by
    rw [itemsOf, testCallsOf, List.flatMap_append, List.map_append,
      results_items path registration, results_itemsOf path rest]

end

/-- What is registered in a group. -/
def body : Registration ω ε → List (Registration ω ε)
  | group _ body => body
  | test _ | setUp _ | tearDown _ => []

/-- The registration at an address, which counts from zero: the places of the groups that lead to it,
each within the one before, and at last its own place. -/
def callAt? (calls : List (Registration ω ε)) : List Nat → Option (Registration ω ε)
  | [] => none
  | [place] => calls[place]?
  | place :: next :: more => calls[place]?.bind fun call => callAt? call.body (next :: more)

end Registration

end ScenarioRunner
