import Mathlib.Data.List.Induction
import ScenarioRunner.Proofs.Source.Ordered
import ScenarioRunner.Proofs.SourcePath

namespace ScenarioRunner

/-- The parts of a path but for a leading dot. -/
def withoutHere : List PathPart → List PathPart
  | .here :: rest => rest
  | parts => parts

theorem withoutHere_of_head? {parts : List PathPart} (other : parts.head? ≠ some .here) :
    withoutHere parts = parts := by
  unfold withoutHere
  split
  · exact absurd rfl other
  · rfl

theorem eq_here_cons_withoutHere {parts : List PathPart} (dot : parts.head? = some .here) :
    parts = .here :: withoutHere parts := by
  cases parts with
  | nil => cases dot
  | cons part rest =>
    cases dot
    rfl

namespace SourcePath

theorem same_iff {a b : SourcePath} : a.same b = true ↔ a.parts = b.parts := beq_iff_eq

theorem parts_ne_of_lt {a b : SourcePath} (less : a.compare b = .lt) : a.parts ≠ b.parts := by
  intro same
  rw [compare_eq_iff.mpr same] at less
  cases less

theorem Segment.Spelled.ne_here {segment : Segment} (spelled : segment.Spelled false) :
    segment.part? ≠ some .here := by
  rw [spelled.part, Segment.read]
  simp only [Bool.false_eq_true, if_false]
  split
  · simp
  · split
    · simp
    · split <;> simp

/-- A dot that stands for a part of its own can only be the first part. -/
theorem here_not_mem_tail_parts (path : SourcePath) : PathPart.here ∉ path.parts.tail := by
  obtain ⟨first, rest, split, spelled, behind, _⟩ := segments_spelled path
  have noDot : PathPart.here ∉ rest.filterMap Segment.part? := by
    intro member
    obtain ⟨segment, inside, stands⟩ := List.mem_filterMap.mp member
    exact (behind segment inside).ne_here stands
  rw [parts, split, List.filterMap_cons]
  cases absolute : path.isAbsolute with
  | true =>
    rw [absolute] at spelled
    have solid := spelled.ne_here
    cases stands : first.part? with
    | none => exact noDot
    | some part =>
      rw [stands] at solid
      exact fun member => (List.mem_cons.mp member).elim (fun dot => solid (dot ▸ rfl)) noDot
  | false =>
    cases first.part? with
    | none => exact fun member => noDot (List.mem_of_mem_tail member)
    | some part => exact noDot

theorem head?_withoutHere (path : SourcePath) : (withoutHere path.parts).head? ≠ some .here := by
  intro head
  by_cases dot : path.parts.head? = some .here
  · have member := List.mem_of_head? head
    have behind : path.parts.tail = withoutHere path.parts := by
      rw [eq_here_cons_withoutHere dot]
      rfl
    exact path.here_not_mem_tail_parts (behind ▸ member)
  · rw [withoutHere_of_head? dot] at head
    exact dot head

/-- The path starts with the root, part by part, or does so once a leading dot of either is dropped. -/
def LiesUnder (path root : SourcePath) : Prop :=
  root.parts <+: path.parts ∨ withoutHere root.parts <+: path.parts ∨
    root.parts <+: withoutHere path.parts

/-- Only paths that are spelled with a leading dot can lie under a root that they do not start with. -/
theorem liesUnder_iff {path root : SourcePath} : path.LiesUnder root ↔
    withoutHere root.parts <+: path.parts ∨
      path.parts.head? = some .here ∧ withoutHere root.parts <+: withoutHere path.parts := by
  have bare := root.head?_withoutHere
  by_cases rootDot : root.parts.head? = some .here
  · have rooted := eq_here_cons_withoutHere rootDot
    constructor
    · rintro (plain | dropped | other)
      · rw [rooted] at plain
        obtain ⟨rest, whole⟩ := plain
        rw [← whole]
        exact .inr ⟨rfl, List.prefix_append ..⟩
      · exact .inl dropped
      · obtain ⟨rest, whole⟩ := other
        rw [rooted] at whole
        exact absurd (whole ▸ rfl) path.head?_withoutHere
    · rintro (dropped | ⟨pathDot, both⟩)
      · exact .inr (.inl dropped)
      · rw [LiesUnder, rooted, eq_here_cons_withoutHere pathDot]
        exact .inl (List.prefix_cons_inj _ |>.mpr both)
  · rw [LiesUnder, withoutHere_of_head? rootDot]
    constructor
    · rintro (plain | dropped | other)
      · exact .inl plain
      · exact .inl dropped
      · by_cases pathDot : path.parts.head? = some .here
        · exact .inr ⟨pathDot, other⟩
        · exact .inl (withoutHere_of_head? pathDot ▸ other)
    · rintro (dropped | ⟨_, both⟩)
      · exact .inl dropped
      · exact .inr (.inr both)

/-- What is listed under a root is compared with the root without its leading dot. -/
theorem parts_getD_below?_here (root : SourcePath) :
    ((root.below? ⟨"."⟩).getD root).parts = withoutHere root.parts := by
  have dot : (⟨"."⟩ : SourcePath).parts = [.here] := by decide +kernel
  cases found : root.below? ⟨"."⟩ with
  | some rest =>
    have whole := parts_below? found
    rw [dot] at whole
    rw [whole]
    rfl
  | none =>
    have other : root.parts.head? ≠ some .here := by
      intro head
      have begins : root.startsWith ⟨"."⟩ = true := by
        rw [startsWith_iff, dot, eq_here_cons_withoutHere head]
        exact ⟨_, rfl⟩
      obtain ⟨rest, known⟩ := exists_below? begins
      rw [found] at known
      cases known
    exact (withoutHere_of_head? other).symm

end SourcePath

namespace DocumentStore

/-- The first document with the path, however that is spelled. -/
def document? (documents : List (SourcePath × String)) (path : SourcePath) :
    Option (SourcePath × String) :=
  documents.find? (·.1.same path)

theorem document?_insert {documents : List (SourcePath × String)}
    (sorted : documents.Pairwise fun a b => a.1.compare b.1 = .lt) (path : SourcePath) (text : String)
    (query : SourcePath) :
    document? (insert path text documents) query =
      if path.same query then some (((document? documents query).map Prod.fst).getD path, text)
      else document? documents query := by
  induction documents with
  | nil => cases known : path.same query <;> simp [insert, document?, known]
  | cons first rest ih =>
    obtain ⟨other, before⟩ := first
    obtain ⟨least, later⟩ := List.pairwise_cons.mp sorted
    simp only [insert]
    split
    · rename_i less
      cases known : path.same query with
      | false => simp [document?, known]
      | true =>
        have absent : document? ((other, before) :: rest) query = none := by
          refine List.find?_eq_none.mpr fun entry member same => ?_
          have equal := (SourcePath.same_iff.mp known).trans (SourcePath.same_iff.mp same).symm
          rcases List.mem_cons.mp member with rfl | old
          · exact SourcePath.parts_ne_of_lt less equal
          · exact SourcePath.parts_ne_of_lt (Std.TransCmp.lt_trans less (least entry old)) equal
        rw [absent]
        simp [document?, known]
    · rename_i equal
      have alike : other.same query = path.same query := by
        rw [SourcePath.same, SourcePath.same, SourcePath.compare_eq_iff.mp equal]
      cases known : path.same query <;> simp [document?, alike, known]
    · rename_i greater
      cases known : other.same query with
      | false =>
        have next := ih later
        simp only [document?, List.find?_cons, known] at next ⊢
        exact next
      | true =>
        have unlike : path.same query = false := by
          refine Bool.eq_false_iff.mpr fun same => ?_
          have apart := SourcePath.parts_ne_of_lt (Std.OrientedCmp.gt_iff_lt.mp greater)
          exact apart ((SourcePath.same_iff.mp known).trans (SourcePath.same_iff.mp same).symm)
        simp [document?, known, unlike]

/-- How the path of a document was spelled when it was first put in. -/
def firstSpelling? (documents : List (SourcePath × String)) (path : SourcePath) : Option SourcePath :=
  (document? documents path).map Prod.fst

/-- What was put in last under a path. -/
def lastText? (documents : List (SourcePath × String)) (path : SourcePath) : Option String :=
  (document? documents.reverse path).map Prod.snd

/-- A store holds the last text of each path, under the first spelling. -/
theorem document?_ofDocuments (documents : List (SourcePath × String)) (path : SourcePath) :
    (document? (ofDocuments documents).documents path).map Prod.fst = firstSpelling? documents path ∧
      (document? (ofDocuments documents).documents path).map Prod.snd = lastText? documents path := by
  induction documents using List.reverseRecOn with
  | nil => exact ⟨rfl, rfl⟩
  | append_singleton before last ih =>
    have inserted : (ofDocuments (before ++ [last])).documents =
        insert last.1 last.2 (ofDocuments before).documents := by
      rw [ofDocuments, List.foldl_append]
      rfl
    rw [inserted, document?_insert (sorted_ofDocuments before)]
    simp only [firstSpelling?, lastText?, document?, List.find?_append, List.reverse_append,
      List.reverse_singleton, List.singleton_append, List.find?_cons] at ih ⊢
    obtain ⟨spelling, text⟩ := ih
    cases known : last.1.same path with
    | false =>
      rw [if_neg Bool.false_ne_true, spelling, text]
      simp
    | true =>
      rw [if_pos rfl, spelling]
      refine ⟨?_, rfl⟩
      cases before.find? (·.1.same path) <;> rfl

theorem mem_iff_document? {documents : List (SourcePath × String)}
    (sorted : documents.Pairwise fun a b => a.1.compare b.1 = .lt) {path : SourcePath} :
    path ∈ documents.map Prod.fst ↔ (document? documents path).map Prod.fst = some path := by
  constructor
  · intro member
    obtain ⟨entry, inside, rfl⟩ := List.mem_map.mp member
    cases found : document? documents entry.1 with
    | none => exact absurd (SourcePath.same_iff.mpr rfl) (List.find?_eq_none.mp found entry inside)
    | some first =>
      obtain ⟨alike, before, after, rfl, unlike⟩ := List.find?_eq_some_iff_append.mp found
      rcases List.mem_append.mp inside with early | here
      · have other := unlike entry early
        rw [SourcePath.same_iff.mpr rfl] at other
        cases other
      · rcases List.mem_cons.mp here with rfl | late
        · rfl
        · have less := (List.pairwise_cons.mp (List.pairwise_append.mp sorted).2.1).1 entry late
          exact absurd (SourcePath.same_iff.mp alike) (SourcePath.parts_ne_of_lt less)
  · intro found
    obtain ⟨entry, first, rfl⟩ := Option.map_eq_some_iff.mp found
    exact List.mem_map_of_mem (List.mem_of_find?_eq_some first)

/-- The document was put in, and this is how its path is spelled in the store. -/
def Stored (documents : List (SourcePath × String)) (path : SourcePath) : Prop :=
  firstSpelling? documents path = some path

/-- These are the documents that lie under a root, of all that were put in one after another. They
are listed in order, each has the text that was put in last, and a root without any is not found. -/
structure Listing (documents : List (SourcePath × String)) (root : SourcePath)
    (under : SourcePath → Prop) (found : List SourcePath) : Prop where
  ordered : found.Pairwise fun a b => a.compare b = .lt
  mem_iff : ∀ path, path ∈ found ↔ Stored documents path ∧ under path
  read : ∀ path ∈ found, ∃ text, lastText? documents path = some text ∧
    (ofDocuments documents).read path = .ok text
  list : (ofDocuments documents).list root =
    if found = [] then .error (.notFound root) else .ok found

/-- What is listed are the documents whose paths start with the root, without its leading dot. -/
theorem exists_listing (documents : List (SourcePath × String)) (root : SourcePath) :
    ∃ found, Listing documents root (withoutHere root.parts <+: ·.parts) found := by
  have sorted := sorted_ofDocuments documents
  refine ⟨((ofDocuments documents).documents.map Prod.fst).filter
    (·.startsWith ((root.below? ⟨"."⟩).getD root)), ?_, fun path => ?_, fun path member => ?_, ?_⟩
  · exact List.Pairwise.filter _ (List.pairwise_map.mpr sorted)
  · rw [List.mem_filter, mem_iff_document? sorted, (document?_ofDocuments documents path).1,
      SourcePath.startsWith_iff, SourcePath.parts_getD_below?_here, Stored]
  · obtain ⟨entry, found, _⟩ :=
      Option.map_eq_some_iff.mp ((mem_iff_document? sorted).mp (List.mem_filter.mp member).1)
    refine ⟨entry.2, ?_, ?_⟩
    · rw [← (document?_ofDocuments documents path).2, found]
      rfl
    · rw [document?] at found
      simp only [DocumentStore.read, found]
  · simp only [DocumentStore.list]
    generalize List.filter _ _ = found
    cases found <;> rfl

/-- The listing of a root is decided by which documents it is about. -/
theorem Listing.under_iff {documents : List (SourcePath × String)} {root : SourcePath}
    {under other : SourcePath → Prop} {found listed : List SourcePath}
    (one : Listing documents root under found) (two : Listing documents root other listed)
    {path : SourcePath} (stored : Stored documents path) : under path ↔ other path := by
  have same : found = listed := by
    have answers := one.list.symm.trans two.list
    split at answers
    · split at answers
      · rename_i none nothing
        rw [none, nothing]
      · cases answers
    · split at answers
      · cases answers
      · exact Except.ok.inj answers
  have first := one.mem_iff path
  rw [same, two.mem_iff] at first
  simpa [stored] using first.symm

theorem Listing.congr {documents : List (SourcePath × String)} {root : SourcePath}
    {under other : SourcePath → Prop} {found : List SourcePath}
    (listing : Listing documents root under found)
    (same : ∀ path, Stored documents path → (under path ↔ other path)) :
    Listing documents root other found :=
  { listing with
    mem_iff := fun path => (listing.mem_iff path).trans (and_congr_right (same path)) }

/-- The documents that start with the root are listed. Those are all that lie under it, unless the
root is more than a dot and one of them is spelled with a leading dot. -/
theorem listing_liesUnder_iff (documents : List (SourcePath × String)) (root : SourcePath) :
    (∃ found, Listing documents root (withoutHere root.parts <+: ·.parts) found) ∧
      ((∃ found, Listing documents root (·.LiesUnder root) found) ↔
        (withoutHere root.parts = [] ∨
          ∀ path, Stored documents path → path.LiesUnder root → path.parts.head? ≠ some .here)) := by
  obtain ⟨found, listing⟩ := exists_listing documents root
  have starts {path : SourcePath} (dot : path.parts.head? = some .here)
      (begins : withoutHere root.parts <+: path.parts) : withoutHere root.parts = [] := by
    cases bare : withoutHere root.parts with
    | nil => rfl
    | cons part rest =>
      rw [bare, eq_here_cons_withoutHere dot] at begins
      have head := root.head?_withoutHere
      rw [bare, (List.cons_prefix_cons.mp begins).1] at head
      exact absurd rfl head
  refine ⟨⟨found, listing⟩, ?_, ?_⟩
  · rintro ⟨listed, complete⟩
    refine or_iff_not_imp_left.mpr fun named path stored under dot => named ?_
    exact starts dot ((listing.under_iff complete stored).mpr under)
  · intro seen
    refine ⟨found, listing.congr fun path stored => ?_⟩
    rw [SourcePath.liesUnder_iff]
    refine ⟨.inl, ?_⟩
    rintro (begins | ⟨dot, both⟩)
    · exact begins
    · rcases seen with bare | undotted
      · rw [bare]
        exact List.nil_prefix
      · exact absurd dot (undotted path stored (SourcePath.liesUnder_iff.mpr (.inr ⟨dot, both⟩)))

/-- A document is not even found under the directory that it was put into, if that is spelled with a
leading dot. -/
theorem not_listing_of_leading_dot :
    let documents : List (SourcePath × String) := [(⟨"./f/a"⟩, "Feature: A")]
    let root : SourcePath := ⟨"./f"⟩
    Stored documents ⟨"./f/a"⟩ ∧ root.parts <+: (⟨"./f/a"⟩ : SourcePath).parts ∧
      (ofDocuments documents).read ⟨"./f/a"⟩ = .ok "Feature: A" ∧
      (ofDocuments documents).list root = .error (.notFound root) ∧
      ¬ ∃ found, Listing documents root (·.LiesUnder root) found := by
  intro documents root
  have stored : Stored documents ⟨"./f/a"⟩ := by
    unfold Stored
    decide +kernel
  have begins : root.parts <+: (⟨"./f/a"⟩ : SourcePath).parts := by decide +kernel
  have missing : (ofDocuments documents).list root = .error (.notFound root) := by decide +kernel
  refine ⟨stored, begins, by decide +kernel, missing, ?_⟩
  rintro ⟨found, listing⟩
  have member := (listing.mem_iff ⟨"./f/a"⟩).mpr ⟨stored, .inl begins⟩
  have answer := listing.list
  rw [missing, if_neg (List.ne_nil_of_mem member)] at answer
  cases answer

end DocumentStore

end ScenarioRunner
