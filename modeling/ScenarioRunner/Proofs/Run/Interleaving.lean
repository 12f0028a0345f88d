import Mathlib.Data.List.Perm.Basic

namespace ScenarioRunner

/-- Lists that run side by side. In each step one of them gives its next member. -/
inductive Interleaving {α : Type} : List (List α) → List α → Prop
  | done {lists : List (List α)} : (∀ list ∈ lists, list = []) → Interleaving lists []
  | step {before after : List (List α)} {a : α} {list merged : List α} :
    Interleaving (before ++ list :: after) merged →
    Interleaving (before ++ (a :: list) :: after) (a :: merged)

namespace Interleaving

variable {α β : Type} {lists : List (List α)} {merged : List α}

theorem perm (interleaved : Interleaving lists merged) : merged.Perm lists.flatten := by
  induction interleaved with
  | done empty => rw [List.flatten_eq_nil_iff.mpr empty]
  | @step before after a list merged _ ih =>
    have moved : (a :: (before ++ list :: after).flatten).Perm
        (before ++ (a :: list) :: after).flatten := by
      simp only [List.flatten_append, List.flatten_cons, List.cons_append]
      exact List.perm_middle.symm
    exact (ih.cons a).trans moved

theorem mem_iff (interleaved : Interleaving lists merged) (a : α) :
    a ∈ merged ↔ ∃ list ∈ lists, a ∈ list := by
  rw [interleaved.perm.mem_iff, List.mem_flatten]

theorem nothing : Interleaving ([] : List (List α)) [] := .done fun _ member => nomatch member

theorem first {list : List α} (interleaved : Interleaving (list :: lists) merged) (a : α) :
    Interleaving ((a :: list) :: lists) (a :: merged) := by
  rw [← List.nil_append (list :: lists)] at interleaved
  exact interleaved.step

/-- The order in which lists stand is of no account. -/
theorem of_perm {others : List (List α)} (interleaved : Interleaving lists merged)
    (perm : lists.Perm others) : Interleaving others merged := by
  induction interleaved generalizing others with
  | done empty => exact .done fun list member => empty list (perm.mem_iff.mpr member)
  | @step before after a list merged _ ih =>
    have member : a :: list ∈ others := by
      rw [← perm.mem_iff]
      exact List.mem_append_right _ (List.mem_cons_self ..)
    obtain ⟨front, back, rfl⟩ := List.append_of_mem member
    have rest : (before ++ after).Perm (front ++ back) :=
      (List.perm_cons (a :: list)).mp
        (List.perm_middle.symm.trans (perm.trans List.perm_middle))
    have same : (before ++ list :: after).Perm (front ++ list :: back) :=
      List.perm_middle.trans ((rest.cons list).trans List.perm_middle.symm)
    exact .step (ih same)

/-- One list may wait until all others have ended. -/
theorem thenLast (interleaved : Interleaving lists merged) (list : List α) :
    Interleaving (list :: lists) (merged ++ list) := by
  induction interleaved with
  | @done lists empty =>
    induction list with
    | nil =>
      refine .done fun list member => ?_
      rcases List.mem_cons.mp member with rfl | inside
      · rfl
      · exact empty list inside
    | cons a rest ih => exact ih.first a
  | @step before after a first merged _ ih =>
    rw [← List.cons_append] at ih ⊢
    exact .step ih

/-- Or the others wait for it. -/
theorem thenFirst (interleaved : Interleaving lists merged) (list : List α) :
    Interleaving (list :: lists) (list ++ merged) := by
  induction list with
  | nil => simpa using interleaved.thenLast []
  | cons a rest ih => exact ih.first a

theorem single (list : List α) : Interleaving [list] list := by
  simpa using nothing.thenFirst list

theorem eachFirst (interleaved : Interleaving lists merged) (list : List α) :
    Interleaving (list.map ([·]) ++ lists) (list ++ merged) := by
  induction list with
  | nil => exact interleaved
  | cons a rest ih => exact ih.thenFirst [a]

/-- Lists that are merged into one of the lists are merged into the result. -/
theorem nest {rest : List (List α)} {final : List α} (outer : Interleaving (merged :: rest) final)
    (inner : Interleaving lists merged) : Interleaving (lists ++ rest) final := by
  generalize whole : merged :: rest = all at outer
  induction outer generalizing lists merged rest with
  | done empty =>
    subst whole
    have none := empty merged (List.mem_cons_self ..)
    subst none
    cases inner with
    | done silent =>
      refine .done fun list member => ?_
      rcases List.mem_append.mp member with left | right
      · exact silent list left
      · exact empty list (List.mem_cons_of_mem _ right)
  | @step before after a list final outer ih =>
    cases before with
    | nil =>
      obtain ⟨rfl, rfl⟩ := List.cons.inj whole
      cases inner with
      | @step front back _ first _ inner =>
        have next := ih inner rfl
        rw [List.append_assoc, List.cons_append] at next ⊢
        exact .step next
    | cons other before =>
      obtain ⟨rfl, rfl⟩ := List.cons.inj whole
      have next : Interleaving (lists ++ (before ++ list :: after)) final := ih inner rfl
      show Interleaving (lists ++ (before ++ (a :: list) :: after)) (a :: final)
      rw [← List.append_assoc] at next ⊢
      exact .step next

/-- Each of the lists may itself be merged from others. -/
theorem flatMap_append {ι : Type} {parts : List ι} {sources : ι → List (List α)}
    {list : ι → List α} (inner : ∀ i ∈ parts, Interleaving (sources i) (list i))
    (rest : List (List α)) (outer : Interleaving (parts.map list ++ rest) merged) :
    Interleaving (parts.flatMap sources ++ rest) merged := by
  induction parts generalizing rest with
  | nil => exact outer
  | cons i parts ih =>
    have opened := outer.nest (inner i (List.mem_cons_self ..))
    have moved := opened.of_perm (List.perm_append_comm_assoc (sources i) (parts.map list) rest)
    have later := ih (fun j member => inner j (List.mem_cons_of_mem _ member)) _ moved
    rw [List.flatMap_cons, List.append_assoc]
    exact later.of_perm (List.perm_append_comm_assoc (parts.flatMap sources) (sources i) rest)

/-- Parts that give at most one list each may be taken for these lists. Those that give none count as
empty. -/
theorem of_flatMap {ι : Type} {parts : List ι} {sources : ι → List (List α)}
    (small : ∀ i ∈ parts, (sources i).length ≤ 1) (front : List (List α))
    (turns : Interleaving (front ++ parts.flatMap sources) merged) :
    Interleaving (front ++ parts.map fun i => (sources i).flatten) merged := by
  induction parts generalizing front with
  | nil => exact turns
  | cons i rest ih =>
    have moved : Interleaving ((front ++ [(sources i).flatten]) ++ rest.flatMap sources) merged := by
      rw [List.flatMap_cons] at turns
      match found : sources i, small i (List.mem_cons_self ..) with
      | [], _ =>
        rw [found] at turns
        rw [List.append_assoc]
        exact (turns.thenFirst []).of_perm List.perm_middle.symm
      | [list], _ =>
        rw [found] at turns
        simpa using turns
    have later := ih (fun j member => small j (List.mem_cons_of_mem _ member)) _ moved
    rwa [List.append_assoc] at later

/-- What stands before and after a member of the merged list is around it in its own list. -/
theorem around (interleaved : Interleaving lists merged) {front back : List α} {a : α}
    (whole : merged = front ++ a :: back) : ∃ list ∈ lists, ∃ before after,
      list = before ++ a :: after ∧ before ⊆ front ∧ after ⊆ back := by
  induction interleaved generalizing front with
  | done => simp at whole
  | @step left right b rest merged inner ih =>
    cases front with
    | nil =>
      obtain ⟨rfl, rfl⟩ := List.cons.inj whole
      refine ⟨b :: rest, by simp, [], rest, rfl, List.nil_subset _, fun other member => ?_⟩
      exact (inner.mem_iff other).mpr ⟨rest, by simp, member⟩
    | cons b' front =>
      obtain ⟨rfl, rfl⟩ := List.cons.inj whole
      obtain ⟨list, member, before, after, split, earlier, later⟩ := ih rfl
      rcases List.mem_append.mp member with inLeft | inRest
      · exact ⟨list, by simp [inLeft], before, after, split,
          List.subset_cons_of_subset _ earlier, later⟩
      · rcases List.mem_cons.mp inRest with rfl | inRight
        · refine ⟨b :: list, by simp, b :: before, after, by rw [split]; rfl, ?_, later⟩
          exact List.cons_subset_cons b earlier
        · exact ⟨list, by simp [inRight], before, after, split,
            List.subset_cons_of_subset _ earlier, later⟩

theorem filterMap (interleaved : Interleaving lists merged) (f : α → Option β) :
    Interleaving (lists.map (·.filterMap f)) (merged.filterMap f) := by
  induction interleaved with
  | done empty =>
    refine .done fun list member => ?_
    obtain ⟨source, known, rfl⟩ := List.mem_map.mp member
    rw [empty source known]
    rfl
  | @step before after a list merged _ ih =>
    rw [List.map_append, List.map_cons] at ih ⊢
    rw [List.filterMap_cons, List.filterMap_cons]
    cases f a with
    | none => exact ih
    | some b => exact .step ih

theorem empty_of_filled {before after : List (List α)} {list : List α} (filled : list ≠ [])
    (alone : (before ++ list :: after).Pairwise fun a b => a = [] ∨ b = []) :
    (∀ other ∈ before, other = []) ∧ ∀ other ∈ after, other = [] := by
  obtain ⟨_, right, across⟩ := List.pairwise_append.mp alone
  obtain ⟨behind, _⟩ := List.pairwise_cons.mp right
  constructor
  · intro other member
    rcases across other member list (List.mem_cons_self ..) with none | none
    · exact none
    · exact absurd none filled
  · intro other member
    rcases behind other member with none | none
    · exact absurd none filled
    · exact none

theorem flatten_eq_of_empty {before after : List (List α)} (noneBefore : ∀ other ∈ before, other = [])
    (noneAfter : ∀ other ∈ after, other = []) (list : List α) :
    (before ++ list :: after).flatten = list := by
  simp [List.flatten_eq_nil_iff.mpr noneBefore, List.flatten_eq_nil_iff.mpr noneAfter]

/-- Where all lists but one are empty, nothing but this one is left to be merged. -/
theorem eq_flatten (interleaved : Interleaving lists merged)
    (alone : lists.Pairwise fun a b => a = [] ∨ b = []) : merged = lists.flatten := by
  induction interleaved with
  | done empty => rw [List.flatten_eq_nil_iff.mpr empty]
  | @step before after a list merged _ ih =>
    obtain ⟨noneBefore, noneAfter⟩ := empty_of_filled (List.cons_ne_nil a list) alone
    have still : (before ++ list :: after).Pairwise fun a b => a = [] ∨ b = [] := by
      refine List.pairwise_append.mpr ⟨?_, List.pairwise_cons.mpr ⟨?_, ?_⟩, ?_⟩
      · exact List.pairwise_of_forall_mem_list fun a member _ _ => .inl (noneBefore a member)
      · exact fun other member => .inr (noneAfter other member)
      · exact List.pairwise_of_forall_mem_list fun a member _ _ => .inl (noneAfter a member)
      · exact fun other member _ _ => .inl (noneBefore other member)
    rw [ih still, flatten_eq_of_empty noneBefore noneAfter, flatten_eq_of_empty noneBefore noneAfter]

/-- What one of the lists alone has of a kind stands in the merged list in its order. -/
theorem filterMap_eq_of_mem (interleaved : Interleaving lists merged) {f : α → Option β}
    (alone : lists.Pairwise fun a b => a.filterMap f = [] ∨ b.filterMap f = [])
    {list : List α} (member : list ∈ lists) (filled : list.filterMap f ≠ []) :
    merged.filterMap f = list.filterMap f := by
  have pairwise : (lists.map (·.filterMap f)).Pairwise fun a b => a = [] ∨ b = [] :=
    List.pairwise_map.mpr alone
  rw [(interleaved.filterMap f).eq_flatten pairwise]
  obtain ⟨before, after, split⟩ := List.append_of_mem (List.mem_map.mpr ⟨list, member, rfl⟩)
  rw [split] at pairwise ⊢
  obtain ⟨noneBefore, noneAfter⟩ := empty_of_filled filled pairwise
  exact flatten_eq_of_empty noneBefore noneAfter _

/-- The same where the lists before and after some have nothing of the kind. -/
theorem filterMap_eq_of_part {before part after : List (List α)}
    (interleaved : Interleaving (before ++ part ++ after) merged) {f : α → Option β}
    (noneBefore : ∀ list ∈ before, list.filterMap f = [])
    (noneAfter : ∀ list ∈ after, list.filterMap f = [])
    (alone : part.Pairwise fun a b => a.filterMap f = [] ∨ b.filterMap f = []) {list : List α}
    (member : list ∈ part) (filled : list.filterMap f ≠ []) :
    merged.filterMap f = list.filterMap f := by
  refine interleaved.filterMap_eq_of_mem ?_
    (List.mem_append_left _ (List.mem_append_right _ member)) filled
  refine List.pairwise_append.mpr ⟨List.pairwise_append.mpr ⟨?_, alone, ?_⟩, ?_, ?_⟩
  · exact List.pairwise_of_forall_mem_list fun list silent _ _ => .inl (noneBefore list silent)
  · exact fun list silent _ _ => .inl (noneBefore list silent)
  · exact List.pairwise_of_forall_mem_list fun list silent _ _ => .inl (noneAfter list silent)
  · exact fun _ _ list silent => .inr (noneAfter list silent)

/-- Lists may also run one after another. -/
theorem flatten (lists : List (List α)) : Interleaving lists lists.flatten := by
  induction lists with
  | nil => exact nothing
  | cons list rest ih => exact ih.thenFirst list

/-- Taking turns does not depend on what is said: it can be told again in more detail. -/
theorem exists_of_map {f : α → β} {lists : List (List α)} {told : List β}
    (interleaved : Interleaving (lists.map (·.map f)) told) :
    ∃ merged, merged.map f = told ∧ Interleaving lists merged := by
  generalize whole : lists.map (·.map f) = all at interleaved
  induction interleaved generalizing lists with
  | done empty =>
    refine ⟨[], rfl, .done fun list member => ?_⟩
    rw [← whole] at empty
    exact List.map_eq_nil_iff.mp (empty _ (List.mem_map_of_mem member))
  | @step before after b list told _ ih =>
    obtain ⟨front, back, rfl, rfl, rest⟩ := List.map_eq_append_iff.mp whole
    obtain ⟨source, back, rfl, here, rfl⟩ := List.map_eq_cons_iff.mp rest
    obtain ⟨a, source, rfl, rfl, rfl⟩ := List.map_eq_cons_iff.mp here
    have later : (front ++ source :: back).map (·.map f) =
        front.map (·.map f) ++ source.map f :: back.map (·.map f) := by simp
    obtain ⟨merged, rfl, turns⟩ := ih later
    exact ⟨a :: merged, rfl, .step turns⟩

/-- What can be told apart as coming from one of the lists stands in the merged list as it does in
this one. -/
theorem filter_eq_own {own : Nat → List α} {count i : Nat}
    (interleaved : Interleaving ((List.range count).map own) merged) (inside : i < count)
    {p : α → Bool} (here : ∀ a ∈ own i, p a = true)
    (others : ∀ j, j ≠ i → ∀ a ∈ own j, p a = false) : merged.filter p = own i := by
  have silent : ∀ j, j ≠ i → (own j).filterMap (Option.guard p) = [] := by
    intro j apart
    rw [List.filterMap_eq_filter, List.filter_eq_nil_iff]
    exact fun a member => by simp [others j apart a member]
  have apart : ∀ {j k}, j < k → j ≠ i ∨ k ≠ i := by omega
  have alone : ((List.range count).map own).Pairwise fun a b =>
      a.filterMap (Option.guard p) = [] ∨ b.filterMap (Option.guard p) = [] := by
    refine List.pairwise_map.mpr (List.pairwise_lt_range.imp fun less => ?_)
    exact (apart less).imp (silent _) (silent _)
  have turns := interleaved.filterMap (Option.guard p)
  rw [← List.filterMap_eq_filter, turns.eq_flatten (List.pairwise_map.mpr alone)]
  obtain ⟨before, after, split⟩ := List.append_of_mem (List.mem_range.mpr inside)
  have distinct : (before ++ i :: after).Nodup := split ▸ List.nodup_range
  obtain ⟨_, later, across⟩ := List.nodup_append.mp distinct
  rw [split]
  simp only [List.map_append, List.map_cons]
  rw [flatten_eq_of_empty, List.filterMap_eq_filter, List.filter_eq_self.mpr here]
  · intro list member
    simp only [List.mem_map] at member
    obtain ⟨_, ⟨j, known, rfl⟩, rfl⟩ := member
    exact silent j (across j known i (List.mem_cons_self ..))
  · intro list member
    simp only [List.mem_map] at member
    obtain ⟨_, ⟨j, known, rfl⟩, rfl⟩ := member
    exact silent j fun same => (List.nodup_cons.mp later).1 (same ▸ known)

end Interleaving

end ScenarioRunner
