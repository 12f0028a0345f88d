import Mathlib.Data.List.Nodup
import ScenarioRunner.Proofs.Document.Unlocated
import ScenarioRunner.Proofs.Plan.Groups
import ScenarioRunner.Proofs.Plan.Names
import ScenarioRunner.Proofs.Run.Verdict
import ScenarioRunner.Proofs.Source.Ordered

namespace ScenarioRunner

/-- What the events of the cases are told apart by: the feature of a case and its name in it. -/
def TestPlan.keys (plan : TestPlan) : List (Option (String × Option (List PathPart)) × String) :=
  plan.allCases.map fun (group, case) => (group.feature.map FeatureId.key, case.name)

namespace Feature

def caseNames (feature : Feature) : List String := (TestGroup.ofFeature feature).cases.map (·.name)

/-- The features are taken for one, and a case of each has the same name. -/
def Collides (f g : Feature) : Prop :=
  (FeatureId.ofFeature f).key = (FeatureId.ofFeature g).key ∧ ∃ name ∈ f.caseNames, name ∈ g.caseNames

theorem caseNames_eq (feature : Feature) :
    feature.caseNames = uniqueNames [] (feature.allScenarios.map (·.name)) :=
  map_name_cases feature

theorem caseNames_eq_nil_iff {feature : Feature} :
    feature.caseNames = [] ↔ feature.allScenarios = [] := by
  rw [← List.length_eq_zero_iff, caseNames_eq, length_uniqueNames, List.length_map,
    List.length_eq_zero_iff]

end Feature

namespace PlanBuilder

theorem perm_keys (builder : PlanBuilder) (features : List Feature) :
    (builder.build features).keys.Perm (features.flatMap fun feature =>
      feature.caseNames.map (some (FeatureId.ofFeature feature).key, ·)) := by
  have all := (builder.perm_allCases features).map fun pair : TestGroup × TestCase =>
    (pair.1.feature.map FeatureId.key, pair.2.name)
  rw [List.map_flatMap] at all
  refine all.trans (List.Perm.of_eq (List.flatMap_congr fun feature _ => ?_))
  rw [Feature.caseNames, List.map_map, List.map_map]
  rfl

/-- Two cases have one key just when their features collide. -/
theorem nodup_keys_build (builder : PlanBuilder) (features : List Feature) :
    (builder.build features).keys.Nodup ↔ features.Pairwise fun f g => ¬ f.Collides g := by
  rw [(builder.perm_keys features).nodup_iff, List.nodup_flatMap]
  have own (feature : Feature) :
      (feature.caseNames.map (some (FeatureId.ofFeature feature).key, ·)).Nodup :=
    List.Nodup.map (fun _ _ same => (Prod.ext_iff.mp same).2) (nodup_caseNames feature)
  rw [and_iff_right fun feature _ => own feature]
  have apart (f g : Feature) : (f.caseNames.map (some (FeatureId.ofFeature f).key, ·)).Disjoint
      (g.caseNames.map (some (FeatureId.ofFeature g).key, ·)) ↔ ¬ f.Collides g := by
    rw [List.disjoint_iff_ne]
    simp only [List.mem_map, Feature.Collides]
    constructor
    · rintro apart ⟨same, name, first, second⟩
      exact apart _ ⟨name, first, rfl⟩ _ ⟨name, second, rfl⟩ (by rw [same])
    · rintro apart _ ⟨name, first, rfl⟩ _ ⟨other, second, rfl⟩ same
      obtain ⟨key, rfl⟩ := Prod.ext_iff.mp same
      exact apart ⟨Option.some.inj key, name, first, second⟩
  exact List.Pairwise.iff fun {f g} => apart f g

end PlanBuilder

namespace Reader

/-- Documents that say the same differ in their paths and in the places of their steps. -/
theorem relation_bare (path : Option SourcePath) :
    Relation (fun _ => none) fun f g : Feature =>
      f.path = path ∧ g = { f.unlocated with path := none } where
  addTo := by
    rintro f _ current ⟨same, rfl⟩
    cases current <;>
      simp [same, Section.relocated, Section.addTo, Feature.unlocated, Scenario.unlocated,
        Scenario.relocated, ScenarioOutline.unlocated, ScenarioOutline.relocated, Step.unlocated,
        Step.relocated]
  header := by
    rintro f _ title tags ⟨same, rfl⟩
    exact ⟨same, rfl⟩
  description := by
    rintro a b line ⟨same, bare⟩
    simp [addDescription, same, bare, Feature.unlocated]

end Reader

theorem readFeature_bare (path : Option SourcePath) (text : String) :
    (readFeature path text).path = path ∧
      readFeature none text = { (readFeature path text).unlocated with path := none } := by
  have mirrors : Reader.Mirrors (fun _ => none) id
      (fun f g : Feature => f.path = path ∧ g = { f.unlocated with path := none })
      (Reader.start path) (Reader.start none) := ⟨⟨rfl, rfl⟩, rfl, rfl, rfl, fun _ => rfl⟩
  exact (mirrors.readLines_renumbered (Reader.relation_bare path) fun _ _ => rfl).finish
    (Reader.relation_bare path)

theorem ScenarioOutline.names_unlocated (outline : ScenarioOutline) :
    outline.unlocated.scenarios.map (·.name) = outline.scenarios.map (·.name) := by
  simp [scenarios, unlocated, instantiate, List.map_flatMap, Function.comp_def]

theorem Feature.names_unlocated (feature : Feature) :
    feature.unlocated.allScenarios.map (·.name) = feature.allScenarios.map (·.name) := by
  simp [allScenarios, unlocated, Scenario.unlocated, List.map_flatMap, List.flatMap_map,
    ScenarioOutline.names_unlocated, Function.comp_def]

theorem name_readFeature (path : Option SourcePath) (text : String) :
    (readFeature path text).name = (readFeature none text).name := by
  rw [(readFeature_bare path text).2]
  rfl

/-- The names of the cases do not depend on where the document comes from. -/
theorem caseNames_readFeature (path : Option SourcePath) (text : String) :
    (readFeature path text).caseNames = (readFeature none text).caseNames := by
  rw [Feature.caseNames_eq, Feature.caseNames_eq, (readFeature_bare path text).2,
    ← Feature.names_unlocated]
  rfl

namespace Provider

variable (provider : Provider)

/-- The documents that the provider lists under a root. -/
def listed (root : SourcePath) : List SourcePath := (provider.list root).toOption.getD []

def document? (path : SourcePath) : Option Feature :=
  (provider.read path).toOption.map (readFeature (some path))

/-- Under each of the roots a document is listed once, and however its path is spelled it is the same
document. -/
structure Consistent (roots : List SourcePath) : Prop where
  once : ∀ root ∈ roots, (provider.listed root).Pairwise fun a b => a.parts ≠ b.parts
  same : ∀ a ∈ roots.flatMap provider.listed, ∀ b ∈ roots.flatMap provider.listed, a.parts = b.parts →
    (provider.read a).toOption = (provider.read b).toOption

/-- A document with something to run is listed under both roots. -/
def Overlap (root other : SourcePath) : Prop :=
  ∃ a ∈ provider.listed root, ∃ b ∈ provider.listed other, a.parts = b.parts ∧
    ∃ feature ∈ provider.document? a, feature.allScenarios ≠ []

variable {provider}

theorem toOption_loadRoot (root : SourcePath) :
    (provider.loadRoot root).filterMap Except.toOption =
      (provider.listed root).filterMap provider.document? := by
  unfold loadRoot listed document?
  cases provider.list root with
  | error error => cases error <;> rfl
  | ok paths =>
    show (paths.map _).filterMap _ = paths.filterMap _
    rw [List.filterMap_map]
    congr 1
    funext path
    show Except.toOption ((provider.read path).map _) = _
    cases provider.read path <;> rfl

/-- Documents of which one is listed twice have cases of the same name, if they have any. -/
theorem Consistent.collides_iff {roots : List SourcePath} (consistent : provider.Consistent roots)
    {a b : SourcePath} {f g : Feature} (listedA : a ∈ roots.flatMap provider.listed)
    (listedB : b ∈ roots.flatMap provider.listed) (readA : provider.document? a = some f)
    (readB : provider.document? b = some g) :
    f.Collides g ↔ a.parts = b.parts ∧ f.allScenarios ≠ [] := by
  obtain ⟨textA, foundA, rfl⟩ := Option.map_eq_some_iff.mp readA
  obtain ⟨textB, foundB, rfl⟩ := Option.map_eq_some_iff.mp readB
  obtain ⟨pathA, _⟩ := readFeature_bare (some a) textA
  obtain ⟨pathB, _⟩ := readFeature_bare (some b) textB
  constructor
  · rintro ⟨key, name, first, _⟩
    have parts := congrArg Prod.snd key
    simp only [FeatureId.key, FeatureId.ofFeature, pathA, pathB, Option.map_some,
      Option.some.injEq] at parts
    refine ⟨parts, fun nothing => ?_⟩
    rw [Feature.caseNames_eq_nil_iff.mpr nothing] at first
    cases first
  · rintro ⟨parts, filled⟩
    have texts := consistent.same a listedA b listedB parts
    rw [foundA, foundB] at texts
    cases texts
    have name : (readFeature (some a) textA).name = (readFeature (some b) textA).name :=
      (name_readFeature _ textA).trans (name_readFeature _ textA).symm
    refine ⟨?_, ?_⟩
    · simp [FeatureId.key, FeatureId.ofFeature, pathA, pathB, parts, name]
    · obtain ⟨given, member⟩ := List.exists_mem_of_ne_nil _ (mt Feature.caseNames_eq_nil_iff.mp filled)
      refine ⟨given, member, ?_⟩
      rwa [caseNames_readFeature, ← caseNames_readFeature (some a)]

/-- A document that is listed under two roots is read under both. -/
theorem Consistent.overlap_iff {roots : List SourcePath} (consistent : provider.Consistent roots)
    {root other : SourcePath} (first : root ∈ roots) (second : other ∈ roots) :
    provider.Overlap root other ↔ ∃ f ∈ (provider.listed root).filterMap provider.document?,
      ∃ g ∈ (provider.listed other).filterMap provider.document?, f.Collides g := by
  constructor
  · rintro ⟨a, listedA, b, listedB, parts, f, readA, filled⟩
    have inA := List.mem_flatMap_of_mem first listedA
    have inB := List.mem_flatMap_of_mem second listedB
    have texts := consistent.same a inA b inB parts
    obtain ⟨text, found, _⟩ := Option.map_eq_some_iff.mp readA
    have readB : provider.document? b = some (readFeature (some b) text) := by
      rw [document?, ← texts, found, Option.map_some]
    refine ⟨f, List.mem_filterMap.mpr ⟨a, listedA, readA⟩, _,
      List.mem_filterMap.mpr ⟨b, listedB, readB⟩, ?_⟩
    exact (consistent.collides_iff inA inB readA readB).mpr ⟨parts, filled⟩
  · rintro ⟨f, inFirst, g, inSecond, collides⟩
    obtain ⟨a, listedA, readA⟩ := List.mem_filterMap.mp inFirst
    obtain ⟨b, listedB, readB⟩ := List.mem_filterMap.mp inSecond
    obtain ⟨parts, filled⟩ := (consistent.collides_iff (List.mem_flatMap_of_mem first listedA)
      (List.mem_flatMap_of_mem second listedB) readA readB).mp collides
    exact ⟨a, listedA, b, listedB, parts, f, readA, filled⟩

/-- The documents under one root do not collide. -/
theorem Consistent.pairwise {roots : List SourcePath} (consistent : provider.Consistent roots)
    {root : SourcePath} (known : root ∈ roots) :
    ((provider.listed root).filterMap provider.document?).Pairwise fun f g => ¬ f.Collides g := by
  refine List.pairwise_filterMap.mpr ((consistent.once root known).imp_of_mem ?_)
  intro a b listedA listedB apart f readA g readB collides
  have inA := List.mem_flatMap_of_mem known listedA
  have inB := List.mem_flatMap_of_mem known listedB
  exact apart ((consistent.collides_iff inA inB readA readB).mp collides).1

end Provider

theorem eq_map_of_mapM_id {ε α : Type} {items : List (Except ε α)} {values : List α}
    (all : items.mapM id = .ok values) : items.filterMap Except.toOption = values := by
  induction items generalizing values with
  | nil =>
    cases all
    rfl
  | cons item rest ih =>
    rw [List.mapM_cons] at all
    cases item with
    | error error => cases all
    | ok value =>
      cases later : rest.mapM id with
      | error error =>
        rw [later] at all
        cases all
      | ok found =>
        rw [later] at all
        cases all
        exact congrArg (value :: ·) (ih later)

namespace Session

variable {σ ω : Type} {session : Session σ ω}

theorem prepare_eq_ok_iff {plan : TestPlan} {suite : Suite (RunOutput ω) Failure} :
    session.prepare = .ok (plan, suite) ↔ ∃ features, session.features = .ok features ∧
      session.planBuilder.build features = plan ∧
      Suite.ofRegistrations (session.registrations features) = suite := by
  unfold prepare
  cases session.features with
  | error error => exact iff_of_false nofun nofun
  | ok features =>
    constructor
    · intro same
      cases same
      exact ⟨features, rfl, rfl, rfl⟩
    · rintro ⟨_, same, rfl, rfl⟩
      cases same
      rfl

theorem features_eq {features : List Feature} (loaded : session.features = .ok features) :
    session.roots.flatMap (fun root =>
      (session.provider.listed root).filterMap session.provider.document?) = features := by
  have all := eq_map_of_mapM_id loaded
  rw [Provider.load, List.filterMap_flatMap] at all
  simpa only [Provider.toOption_loadRoot] using all

/-- The keys of the cases are different just when no two features collide. If a provider is
consistent, that is when no document with something to run is found under two of the roots. -/
theorem nodup_keys_iff {plan : TestPlan} {suite : Suite (RunOutput ω) Failure}
    (prepared : session.prepare = .ok (plan, suite)) :
    (∃ features, session.features = .ok features ∧
      (plan.keys.Nodup ↔ features.Pairwise fun f g => ¬ f.Collides g)) ∧
    (session.provider.Consistent session.roots →
      (plan.keys.Nodup ↔ session.roots.Pairwise fun a b => ¬ session.provider.Overlap a b)) := by
  obtain ⟨features, loaded, rfl, _⟩ := prepare_eq_ok_iff.mp prepared
  have keys := session.planBuilder.nodup_keys_build features
  refine ⟨⟨features, loaded, keys⟩, fun consistent => keys.trans ?_⟩
  rw [← features_eq loaded, List.pairwise_flatMap,
    and_iff_right fun root known => consistent.pairwise known]
  refine List.Pairwise.iff_of_mem fun {a b} first second => ?_
  rw [consistent.overlap_iff first second]
  simp only [not_exists, not_and]

end Session

/-- Stored documents are listed once, and found by any spelling of their paths. -/
theorem DocumentStore.consistent (documents : List (SourcePath × String)) (roots : List SourcePath) :
    (ofDocuments documents).provider.Consistent roots where
  once := by
    intro root _
    have listed : (ofDocuments documents).provider.listed root =
        ((ofDocuments documents).documents.map Prod.fst).filter
          (·.startsWith ((root.below? ⟨"."⟩).getD root)) := by
      show ((ofDocuments documents).list root).toOption.getD [] = _
      simp only [DocumentStore.list]
      generalize List.filter _ _ = found
      cases found <;> rfl
    rw [listed]
    refine List.Pairwise.filter _ (List.pairwise_map.mpr ?_)
    refine (sorted_ofDocuments documents).imp fun {a b} less same => ?_
    rw [SourcePath.compare_eq_iff.mpr same] at less
    cases less
  same := by
    intro a _ b _ parts
    show Except.toOption ((ofDocuments documents).read a) =
      Except.toOption ((ofDocuments documents).read b)
    unfold DocumentStore.read
    simp only [SourcePath.same, parts]
    cases (ofDocuments documents).documents.find? fun entry => entry.1.parts == b.parts <;> rfl

namespace Session

/-- Two directories with a document each. -/
theorem nodup_keys_of_apart :
    let documents := [(⟨"f/a"⟩, "Scenario: a\nGiven x"), (⟨"g/a"⟩, "Scenario: a")]
    ∃ plan suite, { plain documents with roots := [⟨"f"⟩, ⟨"g"⟩] }.prepare = .ok (plan, suite) ∧
      (DocumentStore.ofDocuments documents).provider.Consistent [⟨"f"⟩, ⟨"g"⟩] ∧ plan.keys.Nodup := by
  intro documents
  have consistent := DocumentStore.consistent documents [⟨"f"⟩, ⟨"g"⟩]
  obtain ⟨first, shape⟩ : ∃ feature : Feature, feature = {
      name := "Unnamed Feature", path := some ⟨"f/a"⟩
      scenarios := [{ name := "a", steps := [{
        keyword := .context, text := "x", location := some ⟨⟨"f/a"⟩, 2⟩ }] }] } := ⟨_, rfl⟩
  obtain ⟨second, other⟩ : ∃ feature : Feature, feature = {
      name := "Unnamed Feature", path := some ⟨"g/a"⟩, scenarios := [{ name := "a" }] } := ⟨_, rfl⟩
  have loaded : { plain documents with roots := [⟨"f"⟩, ⟨"g"⟩] }.features = .ok [first, second] := by
    rw [shape, other]
    decide +kernel
  have prepared := prepare_eq_ok_iff.mpr ⟨_, loaded, rfl, rfl⟩
  refine ⟨_, _, prepared, consistent, ((nodup_keys_iff prepared).2 consistent).mpr ?_⟩
  refine List.pairwise_pair.mpr ?_
  rintro ⟨a, inFirst, b, inSecond, same, _⟩
  have listedFirst : (plain documents).provider.listed ⟨"f"⟩ = [⟨"f/a"⟩] := by decide +kernel
  have listedSecond : (plain documents).provider.listed ⟨"g"⟩ = [⟨"g/a"⟩] := by decide +kernel
  obtain rfl := List.mem_singleton.mp (listedFirst ▸ inFirst)
  obtain rfl := List.mem_singleton.mp (listedSecond ▸ inSecond)
  revert same
  decide

/-- A document that is found under two roots. -/
theorem not_nodup_keys_of_nested :
    let documents := [(⟨"f/a"⟩, "Scenario: a\nGiven x")]
    ∃ plan suite, { plain documents with roots := [⟨"f"⟩, ⟨"f/a"⟩] }.prepare = .ok (plan, suite) ∧
      ¬ plan.keys.Nodup := by
  intro documents
  obtain ⟨feature, shape⟩ : ∃ feature : Feature, feature = {
      name := "Unnamed Feature", path := some ⟨"f/a"⟩
      scenarios := [{ name := "a", steps := [{
        keyword := .context, text := "x", location := some ⟨⟨"f/a"⟩, 2⟩ }] }] } := ⟨_, rfl⟩
  have loaded : { plain documents with roots := [⟨"f"⟩, ⟨"f/a"⟩] }.features =
      .ok [feature, feature] := by
    rw [shape]
    decide +kernel
  refine ⟨_, _, prepare_eq_ok_iff.mpr ⟨_, loaded, rfl, rfl⟩, ?_⟩
  rw [shape]
  decide +kernel

end Session

end ScenarioRunner
