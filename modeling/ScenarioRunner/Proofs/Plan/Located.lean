import ScenarioRunner.Proofs.Plan.Groups

namespace ScenarioRunner

/-- A case with the group that holds it and the names of all groups around it. -/
structure LocatedCase where
  path : List String
  group : TestGroup
  case : TestCase

mutual

/-- The cases of a group in the order of the plan, with the names around them. -/
def TestGroup.located (path : List String) : TestGroup → List LocatedCase
  | .mk name feature background groups cases =>
    cases.map (⟨path ++ [name], .mk name feature background groups cases, ·⟩) ++
      locatedInGroups (path ++ [name]) groups

def locatedInGroups (path : List String) : List TestGroup → List LocatedCase
  | [] => []
  | group :: rest => group.located path ++ locatedInGroups path rest

end

def TestPlan.located (plan : TestPlan) : List LocatedCase := locatedInGroups [] plan.groups

mutual

theorem TestGroup.map_located (path : List String) : (group : TestGroup) →
    (group.located path).map (fun located => (located.group, located.case)) = group.allCases
  | .mk name feature background groups cases => by
    rw [TestGroup.located, TestGroup.allCases, List.map_append, map_locatedInGroups _ groups,
      List.map_map]
    rfl

theorem map_locatedInGroups (path : List String) : (groups : List TestGroup) →
    (locatedInGroups path groups).map (fun located => (located.group, located.case)) =
      casesOfGroups groups
  | [] => rfl
  | group :: rest => by
    rw [locatedInGroups, casesOfGroups, List.map_append, group.map_located,
      map_locatedInGroups _ rest]

end

/-- The located cases of a plan are its cases, in the same order. -/
theorem TestPlan.map_located (plan : TestPlan) :
    plan.located.map (fun located => (located.group, located.case)) = plan.allCases :=
  map_locatedInGroups [] plan.groups

mutual

/-- The cases of a group in the order in which they are run: those of the groups in it first. -/
def TestGroup.runOrder (path : List String) : TestGroup → List LocatedCase
  | .mk name feature background groups cases =>
    runOrderOf (path ++ [name]) groups ++
      cases.map (⟨path ++ [name], .mk name feature background groups cases, ·⟩)

def runOrderOf (path : List String) : List TestGroup → List LocatedCase
  | [] => []
  | group :: rest => group.runOrder path ++ runOrderOf path rest

end

def TestPlan.runOrder (plan : TestPlan) : List LocatedCase := runOrderOf [] plan.groups

mutual

theorem TestGroup.perm_runOrder (path : List String) : (group : TestGroup) →
    (group.runOrder path).Perm (group.located path)
  | .mk name feature background groups cases => by
    rw [TestGroup.runOrder, TestGroup.located]
    exact ((perm_runOrderOf _ groups).append_right _).trans List.perm_append_comm

theorem perm_runOrderOf (path : List String) : (groups : List TestGroup) →
    (runOrderOf path groups).Perm (locatedInGroups path groups)
  | [] => .nil
  | group :: rest => by
    rw [runOrderOf, locatedInGroups]
    exact (group.perm_runOrder path).append (perm_runOrderOf path rest)

end

/-- All cases of a plan are run, each at its place. -/
theorem TestPlan.perm_runOrder (plan : TestPlan) : plan.runOrder.Perm plan.located :=
  perm_runOrderOf [] plan.groups

mutual

/-- No group has both cases and groups, so that it does not matter which of them come first. -/
def TestGroup.Unmixed : TestGroup → Prop
  | .mk _ _ _ groups cases => (groups = [] ∨ cases = []) ∧ UnmixedGroups groups

def UnmixedGroups : List TestGroup → Prop
  | [] => True
  | group :: rest => group.Unmixed ∧ UnmixedGroups rest

end

theorem unmixedGroups_iff {groups : List TestGroup} :
    UnmixedGroups groups ↔ ∀ group ∈ groups, group.Unmixed := by
  induction groups with
  | nil => exact iff_of_true trivial nofun
  | cons group rest ih => rw [UnmixedGroups, List.forall_mem_cons, ih]

mutual

theorem TestGroup.Unmixed.runOrder_eq (path : List String) : (group : TestGroup) → group.Unmixed →
    group.runOrder path = group.located path
  | .mk name feature background groups cases, ⟨unmixed, inner⟩ => by
    rw [TestGroup.runOrder, TestGroup.located, runOrderOf_eq _ groups inner]
    -- With one of the two lists empty, both orders are the same.
    rcases unmixed with rfl | rfl
    · rw [locatedInGroups, List.nil_append, List.append_nil]
    · rw [List.map_nil, List.nil_append, List.append_nil]

theorem runOrderOf_eq (path : List String) : (groups : List TestGroup) → UnmixedGroups groups →
    runOrderOf path groups = locatedInGroups path groups
  | [], _ => rfl
  | group :: rest, ⟨here, later⟩ => by
    rw [runOrderOf, locatedInGroups, here.runOrder_eq path group, runOrderOf_eq path rest later]

end

/-- Where the order does not matter, cases are run in the order of the plan. -/
theorem TestPlan.runOrder_eq {plan : TestPlan} (unmixed : ∀ group ∈ plan.groups, group.Unmixed) :
    plan.runOrder = plan.located :=
  runOrderOf_eq [] plan.groups (unmixedGroups_iff.mpr unmixed)

theorem unmixed_ofFeature (feature : Feature) : (TestGroup.ofFeature feature).Unmixed :=
  ⟨.inl rfl, trivial⟩

theorem unmixed_ofDirectory {directory : SourcePath} {groups : List TestGroup}
    (unmixed : ∀ group ∈ groups, group.Unmixed) : (TestGroup.ofDirectory directory groups).Unmixed :=
  ⟨.inr rfl, unmixedGroups_iff.mpr unmixed⟩

namespace PlanBuilder

theorem unmixed_build (builder : PlanBuilder) (features : List Feature) :
    ∀ group ∈ (builder.build features).groups, group.Unmixed := by
  unfold build
  cases builder.mode with
  | flat =>
    intro group member
    obtain ⟨feature, _, rfl⟩ := List.mem_map.mp member
    exact unmixed_ofFeature feature
  | tree =>
    intro group member
    obtain ⟨⟨directory, groups⟩, listed, inside⟩ := List.mem_flatMap.mp member
    have made : ∀ group ∈ groups, group.Unmixed := fun group member => by
      have bucketed : group ∈ (builder.buckets features).values.flatten :=
        List.mem_flatten.mpr ⟨groups, List.mem_map.mpr ⟨_, listed, rfl⟩, member⟩
      obtain ⟨feature, _, rfl⟩ :=
        List.mem_map.mp ((builder.perm_buckets features).mem_iff.mp bucketed)
      exact unmixed_ofFeature feature
    simp only at inside
    split at inside
    · exact made group inside
    · cases List.mem_singleton.mp inside
      exact unmixed_ofDirectory made

theorem exists_feature_of_mem_located (builder : PlanBuilder) {features : List Feature}
    {located : LocatedCase} (member : located ∈ (builder.build features).located) :
    ∃ feature ∈ features, located.group = .ofFeature feature := by
  have listed : (located.group, located.case) ∈ (builder.build features).allCases :=
    TestPlan.map_located _ ▸ List.mem_map_of_mem member
  exact builder.exists_feature_of_mem_allCases listed

end PlanBuilder

end ScenarioRunner
