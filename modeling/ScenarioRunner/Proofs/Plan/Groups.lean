import Mathlib.Data.List.Perm.Basic
import ScenarioRunner.Plan.Builder
import ScenarioRunner.Proofs.KeyedList

namespace ScenarioRunner

mutual

/-- The features that the groups were made from, in the order of the plan. -/
def TestGroup.featureIds : TestGroup → List FeatureId
  | .mk _ feature _ groups _ => feature.toList ++ featureIdsOf groups

def featureIdsOf : List TestGroup → List FeatureId
  | [] => []
  | group :: rest => group.featureIds ++ featureIdsOf rest

end

def TestPlan.featureIds (plan : TestPlan) : List FeatureId := featureIdsOf plan.groups

theorem casesOfGroups_eq (groups : List TestGroup) :
    casesOfGroups groups = groups.flatMap TestGroup.allCases := by
  induction groups with
  | nil => rfl
  | cons group rest ih => rw [casesOfGroups, ih, List.flatMap_cons]

theorem featureIdsOf_eq (groups : List TestGroup) :
    featureIdsOf groups = groups.flatMap TestGroup.featureIds := by
  induction groups with
  | nil => rfl
  | cons group rest ih => rw [featureIdsOf, ih, List.flatMap_cons]

theorem allCases_ofFeature (feature : Feature) :
    (TestGroup.ofFeature feature).allCases =
      (TestGroup.ofFeature feature).cases.map (TestGroup.ofFeature feature, ·) := by
  simp only [TestGroup.ofFeature, TestGroup.allCases, casesOfGroups, List.append_nil]

theorem featureIds_ofFeature (feature : Feature) :
    (TestGroup.ofFeature feature).featureIds = [.ofFeature feature] := by
  simp only [TestGroup.ofFeature, TestGroup.featureIds, featureIdsOf]
  rfl

theorem allCases_ofDirectory (directory : SourcePath) (groups : List TestGroup) :
    (TestGroup.ofDirectory directory groups).allCases = groups.flatMap TestGroup.allCases := by
  rw [TestGroup.ofDirectory, TestGroup.allCases, casesOfGroups_eq]
  rfl

theorem featureIds_ofDirectory (directory : SourcePath) (groups : List TestGroup) :
    (TestGroup.ofDirectory directory groups).featureIds = groups.flatMap TestGroup.featureIds := by
  rw [TestGroup.ofDirectory, TestGroup.featureIds, featureIdsOf_eq]
  rfl

theorem Directory.beq_iff {a b : Directory} : (a == b) = true ↔ a.path.parts = b.path.parts :=
  beq_iff_eq (a := a.path.parts) (b := b.path.parts)

instance : EquivBEq Directory where
  rfl := Directory.beq_iff.mpr rfl
  symm := fun same => Directory.beq_iff.mpr (Directory.beq_iff.mp same).symm
  trans := fun one two =>
    Directory.beq_iff.mpr ((Directory.beq_iff.mp one).trans (Directory.beq_iff.mp two))

/-- What is added under a key is added to all that there is. -/
theorem perm_values_update {κ α : Type} [BEq κ] [EquivBEq κ] {buckets : KeyedList κ (List α)}
    (distinct : buckets.Distinct) (key : κ) (a : α) :
    ((buckets.update key [] (· ++ [a])).values.flatten).Perm (buckets.values.flatten ++ [a]) := by
  rcases KeyedList.values_update distinct key [] (· ++ [a]) with
    ⟨before, value, after, split, changed⟩ | added
  · rw [changed, split]
    simp only [List.flatten_append, List.flatten_cons, List.append_assoc]
    exact List.Perm.append_left _ (List.Perm.append_left _ List.perm_append_comm)
  · rw [added]
    simp

theorem perm_values_foldl {κ α β : Type} [BEq κ] [EquivBEq κ] (key : β → κ) (made : β → α)
    (list : List β) {buckets : KeyedList κ (List α)} (distinct : buckets.Distinct) :
    ((list.foldl (fun buckets b => buckets.update (key b) [] (· ++ [made b]))
      buckets).values.flatten).Perm (buckets.values.flatten ++ list.map made) := by
  induction list generalizing buckets with
  | nil => simp
  | cons b rest ih =>
    have later := ih (distinct.update (key b) [] (· ++ [made b]))
    have here := perm_values_update distinct (key b) (made b)
    have both := later.trans (here.append_right (rest.map made))
    simpa using both

namespace PlanBuilder

/-- Each feature goes into one bucket. -/
theorem perm_buckets (builder : PlanBuilder) (features : List Feature) :
    ((builder.buckets features).values.flatten).Perm (features.map TestGroup.ofFeature) :=
  perm_values_foldl (fun feature => (⟨builder.directoryOf feature⟩ : Directory))
    TestGroup.ofFeature features KeyedList.distinct_empty

/-- Whatever the plan looks like, it is made of the groups of all features. -/
theorem perm_groups (builder : PlanBuilder) {β : Type} {collect : TestGroup → List β}
    (inside : ∀ directory groups,
      collect (.ofDirectory directory groups) = groups.flatMap collect)
    (features : List Feature) :
    ((builder.build features).groups.flatMap collect).Perm
      (features.flatMap fun feature => collect (.ofFeature feature)) := by
  unfold build
  cases builder.mode with
  | flat =>
    rw [List.flatMap_map]
  | tree =>
    have all := (builder.perm_buckets features).flatMap_right collect
    rw [List.flatMap_map, KeyedList.values, List.flatten_eq_flatMap, List.flatMap_assoc,
      List.flatMap_map] at all
    refine List.Perm.trans (List.Perm.of_eq ?_) all
    rw [List.flatMap_assoc]
    refine List.flatMap_congr fun entry _ => ?_
    by_cases top : entry.1.path.isEmpty = true
    · simp [top]
    · simp [top, inside]

theorem perm_allCases (builder : PlanBuilder) (features : List Feature) :
    (builder.build features).allCases.Perm (features.flatMap fun feature =>
      (TestGroup.ofFeature feature).cases.map (TestGroup.ofFeature feature, ·)) := by
  rw [TestPlan.allCases, casesOfGroups_eq]
  have all := builder.perm_groups allCases_ofDirectory features
  simpa only [allCases_ofFeature] using all

/-- Each case of a plan belongs to one of the features that the plan was made from. -/
theorem exists_feature_of_mem_allCases (builder : PlanBuilder) {features : List Feature}
    {pair : TestGroup × TestCase} (member : pair ∈ (builder.build features).allCases) :
    ∃ feature ∈ features, pair.1 = .ofFeature feature := by
  obtain ⟨feature, known, inside⟩ :=
    List.mem_flatMap.mp ((builder.perm_allCases features).mem_iff.mp member)
  obtain ⟨_, _, rfl⟩ := List.mem_map.mp inside
  exact ⟨feature, known, rfl⟩

theorem perm_featureIds (builder : PlanBuilder) (features : List Feature) :
    (builder.build features).featureIds.Perm (features.map FeatureId.ofFeature) := by
  rw [TestPlan.featureIds, featureIdsOf_eq]
  have all := builder.perm_groups featureIds_ofDirectory features
  rw [List.map_eq_flatMap]
  simpa only [featureIds_ofFeature] using all

end PlanBuilder

end ScenarioRunner
