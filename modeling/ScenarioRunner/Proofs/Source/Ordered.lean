import ScenarioRunner.Source.Provider

namespace ScenarioRunner

namespace PathPart

/-- The name, which alone is left to tell two parts of one kind apart. -/
def nameText : PathPart → String
  | .name text => text
  | .root | .here | .up => ""

theorem compare_eq : PathPart.compare =
    compareLex (fun a b => Ord.compare a.rank b.rank)
      fun a b => Ord.compare a.nameText b.nameText := by
  funext a b
  cases a <;> cases b <;> rfl

theorem eq_of_rank {a b : PathPart} (kind : a.rank = b.rank) (text : a.nameText = b.nameText) :
    a = b := by
  cases a <;> cases b <;> cases kind <;> cases text <;> rfl

instance : Std.TransCmp PathPart.compare := by
  rw [compare_eq]
  have ranks : Std.TransCmp fun a b : PathPart => Ord.compare a.rank b.rank :=
    inferInstanceAs (Std.TransCmp (compareOn PathPart.rank))
  have texts : Std.TransCmp fun a b : PathPart => Ord.compare a.nameText b.nameText :=
    inferInstanceAs (Std.TransCmp (compareOn PathPart.nameText))
  infer_instance

instance : Std.LawfulEqCmp PathPart.compare where
  eq_of_compare {a b} same := by
    rw [compare_eq, compareLex_eq_eq] at same
    exact eq_of_rank (Std.LawfulEqCmp.eq_of_compare same.1) (Std.LawfulEqCmp.eq_of_compare same.2)

end PathPart

theorem compareParts_eq : compareParts = List.compareLex PathPart.compare := by
  funext a b
  induction a generalizing b with
  | nil => cases b <;> rfl
  | cons first rest ih =>
    cases b with
    | nil => rfl
    | cons other others => rw [compareParts, List.compareLex_cons_cons, ih]

namespace SourcePath

theorem compare_eq (a b : SourcePath) :
    a.compare b = List.compareLex PathPart.compare a.parts b.parts := by
  rw [compare, compareParts_eq]

instance : Std.TransCmp SourcePath.compare where
  eq_swap := by
    intro a b
    rw [compare_eq, compare_eq]
    exact Std.OrientedCmp.eq_swap
  isLE_trans := by
    intro a b c first second
    rw [compare_eq] at *
    exact Std.TransCmp.isLE_trans first second

theorem compare_eq_iff {a b : SourcePath} : a.compare b = .eq ↔ a.parts = b.parts := by
  rw [compare_eq]
  exact Std.LawfulEqCmp.compare_eq_iff_eq

end SourcePath

namespace DocumentStore

/-- The documents stand in the order of their paths, and no path is there twice. -/
def Sorted (store : DocumentStore) : Prop :=
  store.documents.Pairwise fun a b => a.1.compare b.1 = .lt

theorem fst_of_mem_insert {path : SourcePath} {text : String} {documents : List (SourcePath × String)}
    {entry : SourcePath × String} (member : entry ∈ insert path text documents) :
    entry.1 = path ∨ ∃ other ∈ documents, other.1 = entry.1 := by
  induction documents with
  | nil =>
    obtain rfl := List.mem_singleton.mp member
    exact .inl rfl
  | cons first rest ih =>
    obtain ⟨other, before⟩ := first
    unfold insert at member
    split at member
    · rcases List.mem_cons.mp member with rfl | old
      · exact .inl rfl
      · exact .inr ⟨entry, old, rfl⟩
    · rcases List.mem_cons.mp member with rfl | old
      · exact .inr ⟨(other, before), List.mem_cons_self .., rfl⟩
      · exact .inr ⟨entry, List.mem_cons_of_mem _ old, rfl⟩
    · rcases List.mem_cons.mp member with rfl | later
      · exact .inr ⟨(other, before), List.mem_cons_self .., rfl⟩
      · refine (ih later).imp_right ?_
        rintro ⟨found, known, same⟩
        exact ⟨found, List.mem_cons_of_mem _ known, same⟩

theorem Sorted.withDocument {store : DocumentStore} (sorted : store.Sorted) (path : SourcePath)
    (text : String) : (store.withDocument path text).Sorted := by
  obtain ⟨documents⟩ := store
  unfold Sorted DocumentStore.withDocument at *
  induction documents with
  | nil => exact List.pairwise_singleton ..
  | cons first rest ih =>
    obtain ⟨other, before⟩ := first
    obtain ⟨least, later⟩ := List.pairwise_cons.mp sorted
    simp only [insert]
    split
    · rename_i less
      refine List.pairwise_cons.mpr ⟨fun entry member => ?_, sorted⟩
      rcases List.mem_cons.mp member with rfl | old
      · exact less
      · exact Std.TransCmp.lt_trans less (least entry old)
    · exact List.pairwise_cons.mpr ⟨least, later⟩
    · rename_i greater
      refine List.pairwise_cons.mpr ⟨fun entry member => ?_, ih later⟩
      rcases fst_of_mem_insert member with same | ⟨found, known, same⟩
      · rw [same]
        exact Std.OrientedCmp.gt_iff_lt.mp greater
      · rw [← same]
        exact least found known

theorem sorted_ofDocuments (documents : List (SourcePath × String)) :
    (ofDocuments documents).Sorted :=
  List.foldlRecOn documents _ .nil fun _ sorted entry _ => sorted.withDocument entry.1 entry.2

end DocumentStore

end ScenarioRunner
