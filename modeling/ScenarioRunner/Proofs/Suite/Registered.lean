import ScenarioRunner.Suite.Run

namespace ScenarioRunner

variable {ω ε : Type}

namespace Registration

@[simp]
def setUp? : Registration ω ε → Option (Timeline ω Unit)
  | setUp hook => some hook
  | group .. | test .. | tearDown .. => none

@[simp]
def tearDown? : Registration ω ε → Option (Timeline ω Unit)
  | tearDown hook => some hook
  | group .. | test .. | setUp .. => none

mutual

/-- What a registration adds to the group around it. -/
@[simp]
def items : Registration ω ε → List (SuiteItem ω ε)
  | group name body =>
    [.group name (body.filterMap setUp?) (body.filterMap tearDown?) (itemsOf body)]
  | test case => [.test case]
  | setUp _ | tearDown _ => []

@[simp]
def itemsOf : List (Registration ω ε) → List (SuiteItem ω ε)
  | [] => []
  | registration :: rest => registration.items ++ itemsOf rest

end

theorem itemsOf_eq (registrations : List (Registration ω ε)) :
    itemsOf registrations = registrations.flatMap items := by
  induction registrations with
  | nil => rfl
  | cons registration rest ih => rw [itemsOf, ih, List.flatMap_cons]

end Registration

/-- The group with what is registered in it. -/
def OpenGroup.filledWith (group : OpenGroup ω ε) (registrations : List (Registration ω ε)) :
    OpenGroup ω ε :=
  { group with
    setUp := group.setUp ++ registrations.filterMap Registration.setUp?
    tearDown := group.tearDown ++ registrations.filterMap Registration.tearDown?
    items := group.items ++ Registration.itemsOf registrations }

theorem OpenGroup.filledWith_nil (group : OpenGroup ω ε) : group.filledWith [] = group := by
  simp [OpenGroup.filledWith]

theorem OpenGroup.filledWith_cons (group : OpenGroup ω ε) (registration : Registration ω ε)
    (rest : List (Registration ω ε)) :
    (group.filledWith [registration]).filledWith rest = group.filledWith (registration :: rest) := by
  cases registration <;> simp [filledWith, List.filterMap_cons]

namespace Suite

theorem fill_fill (suite : Suite ω ε) (first second : OpenGroup ω ε → OpenGroup ω ε) :
    (suite.fill first).fill second = suite.fill (second ∘ first) := by
  obtain ⟨outermost, inner⟩ := suite
  cases inner <;> rfl

theorem closeGroup_fill_openGroup (suite : Suite ω ε) (name : String)
    (change : OpenGroup ω ε → OpenGroup ω ε) :
    ((suite.openGroup name).fill change).closeGroup =
      suite.add (change { name := name }).close := rfl

mutual

/-- A registration is all put into the innermost open group, which stays open. -/
theorem register_eq (suite : Suite ω ε) : (registration : Registration ω ε) →
    suite.register registration = suite.fill (·.filledWith [registration])
  | .group name body => by
    rw [register, registerAll_eq _ body, closeGroup_fill_openGroup, add]
    congr 1
    funext group
    simp [OpenGroup.filledWith, OpenGroup.close]
  | .test test => by
    rw [register, add]
    congr 1
    funext group
    simp [OpenGroup.filledWith]
  | .setUp hook => by
    rw [register]
    congr 1
    funext group
    simp [OpenGroup.filledWith]
  | .tearDown hook => by
    rw [register]
    congr 1
    funext group
    simp [OpenGroup.filledWith]

theorem registerAll_eq (suite : Suite ω ε) : (registrations : List (Registration ω ε)) →
    suite.registerAll registrations = suite.fill (·.filledWith registrations)
  | [] => by
    rw [registerAll]
    obtain ⟨outermost, inner⟩ := suite
    cases inner <;> simp [fill, OpenGroup.filledWith_nil]
  | registration :: rest => by
    rw [registerAll, registerAll_eq _ rest, register_eq suite registration, fill_fill]
    congr 1
    funext group
    exact group.filledWith_cons registration rest

end

theorem runItems_eq (path : List String) (items : List (SuiteItem ω ε)) :
    runItems path items = items.map (·.run path) := by
  induction items with
  | nil => rfl
  | cons item rest ih => rw [runItems, ih, List.map_cons]

/-- What was registered is what is run. -/
theorem run_ofRegistrations (registrations : List (Registration ω ε)) :
    (ofRegistrations registrations).run =
      runAround (registrations.filterMap Registration.setUp?)
        (registrations.filterMap Registration.tearDown?)
        ((registrations.flatMap Registration.items).map (·.run [])) := by
  rw [ofRegistrations, registerAll_eq, ← Registration.itemsOf_eq, ← runItems_eq]
  rfl

end Suite

end ScenarioRunner
