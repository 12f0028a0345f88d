import ScenarioRunner.Proofs.Plan.Groups
import ScenarioRunner.Proofs.SourcePath

namespace ScenarioRunner

/-- The groups that were made from features, at the top of a plan or in the group of a directory. -/
def TestPlan.featureGroups (plan : TestPlan) : List TestGroup :=
  plan.groups.flatMap fun group => if group.feature.isSome then [group] else group.groups

/-- One group of the plan, made for a directory, has both features. -/
def TestPlan.SharesDirectory (plan : TestPlan) (f g : Feature) : Prop :=
  ∃ group ∈ plan.groups, group.feature = none ∧ TestGroup.ofFeature f ∈ group.groups ∧
    TestGroup.ofFeature g ∈ group.groups

/-- The directory that a feature comes from. -/
def Feature.directory? (feature : Feature) : Option SourcePath := feature.path.bind SourcePath.parent?

theorem feature_ofFeature (feature : Feature) :
    (TestGroup.ofFeature feature).feature = some (.ofFeature feature) := rfl

theorem path_eq_of_ofFeature_eq {f g : Feature}
    (same : TestGroup.ofFeature f = TestGroup.ofFeature g) : f.path = g.path := by
  have ids : some (FeatureId.ofFeature f) = some (FeatureId.ofFeature g) :=
    congrArg TestGroup.feature same
  exact congrArg FeatureId.path (Option.some.inj ids)

namespace PlanBuilder

/-- The two features come from one directory, as seen from the root. -/
def together (builder : PlanBuilder) (f g : Feature) : Bool :=
  (builder.directoryOf f).same (builder.directoryOf g)

/-- What becomes of the features of one directory, of which the first is given: they stand at the top
if the directory is the root, else in a group of their own. -/
def bucketGroups (builder : PlanBuilder) (first : Feature) (members : List Feature) :
    List TestGroup :=
  if (builder.directoryOf first).isEmpty then members.map .ofFeature
  else [.ofDirectory (builder.directoryOf first) (members.map .ofFeature)]

/-- How a tree of features is made from a flat plan of them. -/
structure Regroups (root : SourcePath) (features : List Feature) (tree flat : TestPlan) : Prop where
  kept : tree.featureGroups.Perm flat.groups
  ordered : tree.groups = (features.eraseDupsBy (together ⟨.tree, root⟩)).flatMap fun first =>
    bucketGroups ⟨.tree, root⟩ first (features.filter fun f => together ⟨.tree, root⟩ f first)
  shared : ∀ f ∈ features, ∀ g ∈ features, ∀ here there, f.directory? = some here →
    g.directory? = some there → here.startsWith root = true → there.startsWith root = true →
    here.parts ≠ root.parts → (tree.SharesDirectory f g ↔ here.parts = there.parts)
  top : ∀ f ∈ features, (∀ directory, f.directory? = some directory → directory.parts = root.parts) →
    TestGroup.ofFeature f ∈ tree.groups
  bare : ∀ group ∈ tree.groups, group.feature = none → group.background = [] ∧ group.cases = []
  level : (∀ f ∈ features, TestGroup.ofFeature f ∈ tree.groups) → tree = flat

variable {builder : PlanBuilder} {features : List Feature} {f g : Feature}

theorem together_iff : builder.together f g = true ↔
    (builder.directoryOf f).parts = (builder.directoryOf g).parts :=
  beq_iff_eq (a := (builder.directoryOf f).parts)

theorem directoryOf_congr (same : f.path = g.path) : builder.directoryOf f = builder.directoryOf g := by
  rw [directoryOf, directoryOf, same]

theorem directoryOf_eq (builder : PlanBuilder) (feature : Feature) : builder.directoryOf feature =
    match feature.directory? with
    | none => ⟨""⟩
    | some directory => (directory.below? builder.root).getD directory := rfl

/-- Below the root, a directory is seen by its parts behind those of the root. -/
theorem parts_directoryOf (builder : PlanBuilder) {directory : SourcePath} (known : f.directory? = some directory)
    (below : directory.startsWith builder.root = true) :
    directory.parts = builder.root.parts ++ (builder.directoryOf f).parts := by
  obtain ⟨rest, found⟩ := SourcePath.exists_below? below
  rw [directoryOf_eq, known]
  simp only [found, Option.getD_some]
  exact SourcePath.parts_below? found

theorem isEmpty_directoryOf (atRoot : ∀ directory, f.directory? = some directory →
    directory.parts = builder.root.parts) : (builder.directoryOf f).isEmpty = true := by
  rw [SourcePath.isEmpty_iff_parts]
  cases known : f.directory? with
  | none =>
    rw [directoryOf_eq, known]
    rfl
  | some directory =>
    have same := atRoot directory known
    have below : directory.startsWith builder.root = true :=
      SourcePath.startsWith_iff.mpr (same ▸ List.prefix_rfl)
    have parts := parts_directoryOf builder known below
    rw [same] at parts
    exact List.append_right_eq_self.mp parts.symm

theorem isEmpty_congr (like : builder.together f g = true) :
    (builder.directoryOf f).isEmpty = (builder.directoryOf g).isEmpty := by
  rw [Bool.eq_iff_iff, SourcePath.isEmpty_iff_parts, SourcePath.isEmpty_iff_parts,
    together_iff.mp like]

theorem entries_buckets (builder : PlanBuilder) (features : List Feature) :
    (builder.buckets features).entries = (features.eraseDupsBy builder.together).map fun first =>
      (⟨builder.directoryOf first⟩,
        (features.filter fun f => builder.together f first).map TestGroup.ofFeature) := by
  have all := KeyedList.entries_foldl_update
    (fun feature => (⟨builder.directoryOf feature⟩ : Directory)) TestGroup.ofFeature features
    KeyedList.empty
  have fresh : (features.filter fun f => !(KeyedList.empty : KeyedList Directory
      (List TestGroup)).contains ⟨builder.directoryOf f⟩) = features :=
    List.filter_eq_self.mpr fun _ _ => rfl
  rw [fresh] at all
  exact all

/-- The directories stand in the order of their first features, and the features of each one in their
own order. -/
theorem groups_build_tree (root : SourcePath) (features : List Feature) :
    (build ⟨.tree, root⟩ features).groups =
      (features.eraseDupsBy (together ⟨.tree, root⟩)).flatMap fun first =>
        bucketGroups ⟨.tree, root⟩ first
          (features.filter fun f => together ⟨.tree, root⟩ f first) := by
  rw [build]
  simp only [entries_buckets, List.flatMap_map]
  rfl

theorem mem_groups_build_tree {root : SourcePath} {group : TestGroup} :
    group ∈ (build ⟨.tree, root⟩ features).groups ↔
      (∃ f ∈ features, (directoryOf ⟨.tree, root⟩ f).isEmpty = true ∧ group = .ofFeature f) ∨
      ∃ first ∈ features.eraseDupsBy (together ⟨.tree, root⟩),
        ¬ (directoryOf ⟨.tree, root⟩ first).isEmpty = true ∧
        group = .ofDirectory (directoryOf ⟨.tree, root⟩ first)
          ((features.filter fun f => together ⟨.tree, root⟩ f first).map .ofFeature) := by
  rw [groups_build_tree, List.mem_flatMap]
  constructor
  · rintro ⟨first, leads, inside⟩
    by_cases empty : (directoryOf ⟨.tree, root⟩ first).isEmpty = true
    · rw [bucketGroups, if_pos empty] at inside
      obtain ⟨f, member, rfl⟩ := List.mem_map.mp inside
      obtain ⟨known, like⟩ := List.mem_filter.mp member
      exact .inl ⟨f, known, by rw [isEmpty_congr like, empty], rfl⟩
    · rw [bucketGroups, if_neg empty, List.mem_singleton] at inside
      exact .inr ⟨first, leads, empty, inside⟩
  · rintro (⟨f, known, empty, rfl⟩ | ⟨first, leads, solid, rfl⟩)
    · obtain ⟨first, leads, like⟩ :=
        exists_mem_eraseDupsBy (fun _ => together_iff.mpr rfl) known
      refine ⟨first, leads, ?_⟩
      rw [bucketGroups, ← isEmpty_congr like, if_pos empty]
      exact List.mem_map_of_mem (List.mem_filter.mpr ⟨known, like⟩)
    · refine ⟨first, leads, ?_⟩
      rw [bucketGroups, if_neg solid]
      exact List.mem_singleton.mpr rfl

theorem together_of_mem {first : Feature} (member : TestGroup.ofFeature f ∈
    (features.filter fun f => builder.together f first).map .ofFeature) :
    builder.together f first = true := by
  obtain ⟨other, known, same⟩ := List.mem_map.mp member
  have like := (List.mem_filter.mp known).2
  rwa [together, directoryOf_congr (path_eq_of_ofFeature_eq same)] at like

/-- Features share a group of a directory if they see the same directory, and it is not the root. -/
theorem sharesDirectory_iff {root : SourcePath} (first : f ∈ features) (second : g ∈ features) :
    (build ⟨.tree, root⟩ features).SharesDirectory f g ↔
      ¬ (directoryOf ⟨.tree, root⟩ f).isEmpty = true ∧ together ⟨.tree, root⟩ f g = true := by
  constructor
  · rintro ⟨group, member, unowned, hasFirst, hasSecond⟩
    rcases mem_groups_build_tree.mp member with ⟨_, _, _, rfl⟩ | ⟨leader, _, solid, rfl⟩
    · cases unowned
    · have here := together_of_mem hasFirst
      have there := together_of_mem hasSecond
      refine ⟨by rwa [isEmpty_congr here], ?_⟩
      rw [together_iff] at here there ⊢
      rw [here, there]
  · rintro ⟨solid, like⟩
    have refl (f : Feature) : together ⟨.tree, root⟩ f f = true := together_iff.mpr rfl
    obtain ⟨leader, leads, here⟩ := exists_mem_eraseDupsBy refl first
    have there : together ⟨.tree, root⟩ g leader = true := by
      rw [together_iff] at here like ⊢
      rw [← like, here]
    rw [isEmpty_congr here] at solid
    exact ⟨_, mem_groups_build_tree.mpr (.inr ⟨leader, leads, solid, rfl⟩), rfl,
      List.mem_map_of_mem (List.mem_filter.mpr ⟨first, here⟩),
      List.mem_map_of_mem (List.mem_filter.mpr ⟨second, there⟩)⟩

theorem featureGroups_bucketGroups (first : Feature) (members : List Feature) :
    ((builder.bucketGroups first members).flatMap fun group =>
      if group.feature.isSome then [group] else group.groups) = members.map .ofFeature := by
  unfold bucketGroups
  split
  · rw [List.flatMap_map]
    simp only [feature_ofFeature, Option.isSome_some, if_true]
    rw [List.map_eq_flatMap]
  · simp [TestGroup.ofDirectory]

/-- A tree has the same features as a flat plan. -/
theorem perm_featureGroups (root : SourcePath) (features : List Feature) :
    (build ⟨.tree, root⟩ features).featureGroups.Perm (features.map .ofFeature) := by
  have all := perm_buckets ⟨.tree, root⟩ features
  rw [KeyedList.values, entries_buckets, List.map_map, ← List.flatMap_def] at all
  rw [TestPlan.featureGroups, groups_build_tree, List.flatMap_assoc]
  simp only [featureGroups_bucketGroups]
  exact all

/-- If all features see the root, there is one bucket. -/
theorem groups_of_empty {root : SourcePath}
    (empty : ∀ f ∈ features, (directoryOf ⟨.tree, root⟩ f).isEmpty = true) :
    (build ⟨.tree, root⟩ features).groups = features.map .ofFeature := by
  cases features with
  | nil => rfl
  | cons first rest =>
    have like : ∀ f ∈ first :: rest, together ⟨.tree, root⟩ f first = true := by
      intro f member
      have here := SourcePath.isEmpty_iff_parts.mp (empty f member)
      have there := SourcePath.isEmpty_iff_parts.mp (empty first (List.mem_cons_self ..))
      rw [together_iff, here, there]
    have none : (rest.filter fun f => together ⟨.tree, root⟩ f first = false) = [] :=
      List.filter_eq_nil_iff.mpr fun f member => by simp [like f (List.mem_cons_of_mem _ member)]
    rw [groups_build_tree, List.eraseDupsBy_cons, none, List.eraseDupsBy_nil, List.flatMap_singleton,
      bucketGroups, if_pos (empty first (List.mem_cons_self ..)), List.filter_eq_self.mpr like]

/-- A tree is the flat plan with the features of each directory put together. -/
theorem regroups_build (root : SourcePath) (features : List Feature) :
    Regroups root features (build ⟨.tree, root⟩ features) (build ⟨.flat, root⟩ features) where
  kept := perm_featureGroups root features
  ordered := groups_build_tree root features
  shared := by
    intro f first g second here there atHere atThere below also apart
    have one := parts_directoryOf ⟨.tree, root⟩ atHere below
    have two := parts_directoryOf ⟨.tree, root⟩ atThere also
    have solid : ¬ (directoryOf ⟨.tree, root⟩ f).isEmpty = true := by
      rw [SourcePath.isEmpty_iff_parts]
      intro empty
      rw [empty, List.append_nil] at one
      exact apart one
    rw [sharesDirectory_iff first second, together_iff, one, two, List.append_cancel_left_eq]
    exact and_iff_right solid
  top := by
    intro f known atRoot
    exact mem_groups_build_tree.mpr (.inl ⟨f, known, isEmpty_directoryOf atRoot, rfl⟩)
  bare := by
    intro group member unowned
    rcases mem_groups_build_tree.mp member with ⟨_, _, _, rfl⟩ | ⟨_, _, _, rfl⟩
    · cases unowned
    · exact ⟨rfl, rfl⟩
  level := by
    intro top
    have empty : ∀ f ∈ features, (directoryOf ⟨.tree, root⟩ f).isEmpty = true := by
      intro f known
      rcases mem_groups_build_tree.mp (top f known) with ⟨g, _, empty, same⟩ | ⟨_, _, _, same⟩
      · rwa [directoryOf_congr (path_eq_of_ofFeature_eq same)]
      · cases congrArg TestGroup.feature same
    exact congrArg TestPlan.mk (groups_of_empty empty)

end PlanBuilder

end ScenarioRunner
