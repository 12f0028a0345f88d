import ScenarioRunner.KeyedList
import ScenarioRunner.Proofs.Deduplicated

namespace ScenarioRunner

theorem eq_of_pairwise_apart {α κ : Type} [BEq κ] [EquivBEq κ] {key : α → κ} {list : List α}
    (distinct : list.Pairwise fun a b => ¬ (key a == key b) = true) {a b : α} (first : a ∈ list)
    (second : b ∈ list) (same : (key a == key b) = true) : a = b := by
  have apart : list.Pairwise fun a b => (key a == key b) = true → a = b :=
    distinct.imp fun apart same => absurd same apart
  have flipped : list.Pairwise (flip fun a b => (key a == key b) = true → a = b) :=
    apart.imp fun equal same => (equal (BEq.symm same)).symm
  exact apart.forall_of_forall_of_flip (fun _ _ _ => rfl) flipped first second same

namespace KeyedList

variable {κ ν : Type} [BEq κ]

/-- The entry under a key, with the key as it was first given. -/
def pair? (list : KeyedList κ ν) (key : κ) : Option (κ × ν) :=
  list.entries.find? fun entry => entry.1 == key

theorem get?_eq (list : KeyedList κ ν) (key : κ) : list.get? key = (list.pair? key).map Prod.snd :=
  rfl

theorem contains_eq_isSome (list : KeyedList κ ν) (key : κ) :
    list.contains key = (list.pair? key).isSome := by
  rw [Bool.eq_iff_iff, pair?, List.find?_isSome]
  exact List.any_eq_true

/-- The entry that is there, or a new one. -/
def changed (key : κ) (initial : ν) (change : ν → ν) (entry : Option (κ × ν)) : κ × ν :=
  ((entry.map Prod.fst).getD key, change ((entry.map Prod.snd).getD initial))

/-- No two entries have the same key. -/
def Distinct (list : KeyedList κ ν) : Prop := list.keys.Pairwise fun a b => ¬ (a == b) = true

theorem distinct_empty : (empty : KeyedList κ ν).Distinct := List.Pairwise.nil

theorem not_beq_of_not_contains {list : KeyedList κ ν} {key other : κ}
    (absent : ¬ list.contains key = true) (member : other ∈ list.keys) : ¬ (other == key) = true := by
  intro same
  obtain ⟨entry, known, rfl⟩ := List.mem_map.mp member
  exact absent (List.any_eq_true.mpr ⟨entry, known, same⟩)

theorem keys_update (list : KeyedList κ ν) (key : κ) (initial : ν) (change : ν → ν) :
    (list.update key initial change).keys =
      if list.contains key then list.keys else list.keys ++ [key] := by
  unfold update
  by_cases there : list.contains key = true
  · rw [if_pos there, if_pos there, keys, List.map_map]
    apply List.map_congr_left
    intro entry _
    simp only [Function.comp_apply]
    split <;> rfl
  · rw [if_neg there, if_neg there, keys, List.map_append]
    rfl

theorem contains_iff_mem_keys {list : KeyedList κ ν} {key : κ} :
    list.contains key = true ↔ ∃ other ∈ list.keys, (other == key) = true := by
  constructor
  · intro there
    obtain ⟨entry, member, same⟩ := List.any_eq_true.mp there
    exact ⟨entry.1, List.mem_map.mpr ⟨entry, member, rfl⟩, same⟩
  · rintro ⟨_, member, same⟩
    obtain ⟨entry, known, rfl⟩ := List.mem_map.mp member
    exact List.any_eq_true.mpr ⟨entry, known, same⟩

theorem Distinct.update {list : KeyedList κ ν} (distinct : list.Distinct) (key : κ) (initial : ν)
    (change : ν → ν) : (list.update key initial change).Distinct := by
  unfold Distinct
  rw [keys_update]
  by_cases there : list.contains key = true
  · rwa [if_pos there]
  · rw [if_neg there]
    refine List.pairwise_append.mpr ⟨distinct, List.pairwise_singleton .., ?_⟩
    intro other member last single
    rw [List.mem_singleton.mp single]
    exact not_beq_of_not_contains there member

theorem mem_entries_of_get? [LawfulBEq κ] {list : KeyedList κ ν} {key : κ} {value : ν}
    (found : list.get? key = some value) : (key, value) ∈ list.entries := by
  rw [get?_eq, Option.map_eq_some_iff] at found
  obtain ⟨entry, here, rfl⟩ := found
  have own : entry.1 = key := by simpa using List.find?_some here
  rw [← own]
  exact List.mem_of_find?_eq_some here

theorem get?_insertLast [LawfulBEq κ] (list : KeyedList κ ν) (key : κ) (value : ν) (other : κ) :
    (list.insertLast key value).get? other = if other == key then some value else list.get? other := by
  unfold get? insertLast
  by_cases same : other = key
  · subst same
    have gone : (list.entries.filter fun entry => !(entry.1 == other)).find?
        (fun entry => entry.1 == other) = none :=
      List.find?_eq_none.mpr fun entry member => by simpa using (List.mem_filter.mp member).2
    rw [List.find?_append, gone]
    simp
  · have apart : (key == other) = false := by simpa using Ne.symm same
    have kept (entry : κ × ν) : (!(entry.1 == key) && entry.1 == other) = (entry.1 == other) := by
      by_cases here : entry.1 = other <;> simp [here, same]
    rw [List.find?_append, List.find?_filter]
    simp [kept, apart, same]

/-- Entries under different keys are kept as they are, in their order. -/
theorem ofEntries_eq [LawfulBEq κ] {entries : List (κ × ν)} (distinct : (entries.map Prod.fst).Nodup) :
    ofEntries entries = ⟨entries⟩ := by
  suffices written : ∀ before after : List (κ × ν), ((before ++ after).map Prod.fst).Nodup →
      after.foldl (fun list entry => list.insertLast entry.1 entry.2) (⟨before⟩ : KeyedList κ ν) =
        ⟨before ++ after⟩ from written [] entries distinct
  intro before after
  induction after generalizing before with
  | nil => simp
  | cons entry rest ih =>
    intro distinct
    have fresh : ∀ other ∈ before, (!(other.1 == entry.1)) = true := by
      intro other member
      rw [List.map_append, List.nodup_append] at distinct
      have apart := distinct.2.2 other.1 (List.mem_map_of_mem member) entry.1 (by simp)
      simpa using apart
    have here : (⟨before⟩ : KeyedList κ ν).insertLast entry.1 entry.2 = ⟨before ++ [entry]⟩ := by
      rw [insertLast, List.filter_eq_self.mpr fresh]
    rw [List.foldl_cons, here, ih _ (by simpa using distinct)]
    simp

variable [EquivBEq κ]

theorem Distinct.nodup {list : KeyedList κ ν} (distinct : list.Distinct) : list.keys.Nodup := by
  refine distinct.imp fun apart same => ?_
  rw [same] at apart
  exact apart (BEq.refl _)

theorem pair?_congr {a b : κ} (same : (a == b) = true) (list : KeyedList κ ν) :
    list.pair? a = list.pair? b := by
  unfold pair?
  congr 1
  funext entry
  exact BEq.congr_right same

/-- An update reaches the entry under its own key only. -/
theorem pair?_update (list : KeyedList κ ν) (key : κ) (initial : ν) (change : ν → ν) (other : κ) :
    (list.update key initial change).pair? other =
      if key == other then some (changed key initial change (list.pair? other))
      else list.pair? other := by
  unfold update
  by_cases there : list.contains key = true
  · rw [if_pos there]
    have kept : (fun entry : κ × ν => entry.1 == other) ∘
        (fun entry : κ × ν => if entry.1 == key then (entry.1, change entry.2) else entry) =
        fun entry : κ × ν => entry.1 == other := by
      funext entry
      simp only [Function.comp_apply]
      split <;> rfl
    rw [pair?, List.find?_map, kept]
    by_cases same : (key == other) = true
    · rw [if_pos same]
      rw [contains_eq_isSome, pair?_congr same] at there
      obtain ⟨found, here⟩ := Option.isSome_iff_exists.mp there
      have matching : (found.1 == other) = true := by simpa using List.find?_some here
      have own : (found.1 == key) = true := by rwa [BEq.congr_right same]
      rw [here]
      unfold pair? at here
      rw [here, Option.map_some, if_pos own]
      rfl
    · rw [if_neg same, pair?]
      cases here : list.entries.find? fun entry => entry.1 == other with
      | none => rfl
      | some found =>
        have matching : (found.1 == other) = true := by simpa using List.find?_some here
        have apart : ¬ (found.1 == key) = true := fun own =>
          same (PartialEquivBEq.trans (BEq.symm own) matching)
        rw [Option.map_some, if_neg apart]
  · rw [if_neg there, pair?, List.find?_append]
    rw [contains_eq_isSome] at there
    by_cases same : (key == other) = true
    · rw [if_pos same]
      rw [pair?_congr same] at there
      have none := Option.not_isSome_iff_eq_none.mp there
      have missing := none
      unfold pair? at missing
      rw [missing, none]
      simp [changed, same]
    · rw [if_neg same, pair?]
      simp [same]

theorem get?_update (list : KeyedList κ ν) (key : κ) (initial : ν) (change : ν → ν) (other : κ) :
    (list.update key initial change).get? other =
      if key == other then some (change ((list.get? other).getD initial)) else list.get? other := by
  rw [get?_eq, pair?_update]
  split <;> rfl

theorem contains_update (list : KeyedList κ ν) (key : κ) (initial : ν) (change : ν → ν)
    (other : κ) :
    (list.update key initial change).contains other = (key == other || list.contains other) := by
  rw [contains_eq_isSome, pair?_update, contains_eq_isSome]
  cases key == other <;> rfl

/-- An entry is found under its key when this is the only one. -/
theorem Distinct.pair?_eq_some {list : KeyedList κ ν} (distinct : list.Distinct) {entry : κ × ν}
    (member : entry ∈ list.entries) : list.pair? entry.1 = some entry := by
  obtain ⟨before, after, split⟩ := List.append_of_mem member
  unfold Distinct keys at distinct
  rw [split, List.map_append, List.map_cons] at distinct
  have apart := (List.pairwise_append.mp distinct).2.2
  have earlier : before.find? (fun other => other.1 == entry.1) = none := by
    refine List.find?_eq_none.mpr fun other known => ?_
    exact apart other.1 (List.mem_map.mpr ⟨other, known, rfl⟩) entry.1 (List.mem_cons_self ..)
  rw [pair?, split, List.find?_append, earlier, List.find?_cons]
  simp

theorem Distinct.get?_of_mem {list : KeyedList κ ν} (distinct : list.Distinct) {key : κ} {value : ν}
    (member : (key, value) ∈ list.entries) : list.get? key = some value := by
  rw [get?_eq, distinct.pair?_eq_some member]
  rfl

/-- An update changes one value of the list, or adds one at its end. -/
theorem values_update {list : KeyedList κ ν} (distinct : list.Distinct) (key : κ) (initial : ν)
    (change : ν → ν) :
    (∃ before value after, list.values = before ++ value :: after ∧
      (list.update key initial change).values = before ++ change value :: after) ∨
    (list.update key initial change).values = list.values ++ [change initial] := by
  unfold update
  by_cases there : list.contains key = true
  · left
    obtain ⟨entry, member, same⟩ := List.any_eq_true.mp there
    obtain ⟨before, after, split⟩ := List.append_of_mem member
    refine ⟨before.map Prod.snd, entry.2, after.map Prod.snd, by rw [values, split]; simp, ?_⟩
    unfold Distinct keys at distinct
    rw [split, List.map_append, List.map_cons] at distinct
    obtain ⟨_, right, across⟩ := List.pairwise_append.mp distinct
    have keep (part : List (κ × ν)) (others : ∀ other ∈ part, ¬ (other.1 == entry.1) = true) :
        (part.map fun other => if other.1 == key then (other.1, change other.2) else other) = part := by
      refine (List.map_congr_left fun other known => ?_).trans (List.map_id part)
      have apart : ¬ (other.1 == key) = true := fun equal =>
        others other known (PartialEquivBEq.trans equal (BEq.symm same))
      rw [if_neg apart]
      rfl
    have front := keep before fun other known =>
      across other.1 (List.mem_map.mpr ⟨other, known, rfl⟩) entry.1 (List.mem_cons_self ..)
    have back := keep after fun other known equal =>
      (List.pairwise_cons.mp right).1 other.1 (List.mem_map.mpr ⟨other, known, rfl⟩) (BEq.symm equal)
    rw [if_pos there, values, split, List.map_append, List.map_cons, front, back, if_pos same]
    simp
  · right
    rw [if_neg there, values, List.map_append]
    rfl

theorem contains_congr {a b : κ} (same : (a == b) = true) (list : KeyedList κ ν) :
    list.contains a = list.contains b := by
  rw [contains_eq_isSome, contains_eq_isSome, pair?_congr same]

/-- Lists that are gathered under keys: what is there is continued, and each new key starts a list
where it first appears. No list changes the order. -/
theorem entries_foldl_update {α β : Type} (key : β → κ) (made : β → α) (list : List β)
    (start : KeyedList κ (List α)) :
    (list.foldl (fun gathered b => gathered.update (key b) [] (· ++ [made b])) start).entries =
      start.entries.map (fun entry =>
        (entry.1, entry.2 ++ (list.filter fun b => key b == entry.1).map made)) ++
      ((list.filter fun b => !start.contains (key b)).eraseDupsBy fun a b => key a == key b).map
        fun first => (key first, (list.filter fun b => key b == key first).map made) := by
  induction list generalizing start with
  | nil => simp
  | cons b rest ih =>
    rw [List.foldl_cons, ih]
    have unaffected (first : β) (other : ¬ (key b == key first) = true) :
        (rest.filter fun c => key c == key first) =
          (b :: rest).filter fun c => key c == key first := by
      rw [List.filter_cons, if_neg other]
    by_cases there : start.contains (key b) = true
    · have fresh : (fun c => !(start.update (key b) [] (· ++ [made b])).contains (key c)) =
          fun c => !start.contains (key c) := by
        funext c
        rw [contains_update]
        cases same : key b == key c with
        | false => rfl
        | true =>
          rw [contains_congr same] at there
          rw [there]
          rfl
      have kept : ((b :: rest).filter fun c => !start.contains (key c)) =
          rest.filter fun c => !start.contains (key c) := by
        rw [List.filter_cons, there]
        rfl
      rw [fresh, kept]
      congr 1
      · rw [update, if_pos there, List.map_map]
        refine List.map_congr_left fun entry _ => ?_
        rw [Function.comp_apply, List.filter_cons, BEq.comm (a := key b)]
        split <;> simp
      · refine List.map_congr_left fun first member => ?_
        rw [unaffected first]
        intro same
        have unknown := (List.mem_filter.mp (mem_of_mem_eraseDupsBy member)).2
        rw [← contains_congr same, there] at unknown
        cases unknown
    · have absent : start.contains (key b) = false := by simpa using there
      have fresh : (rest.filter fun c => !(start.update (key b) [] (· ++ [made b])).contains (key c)) =
          (rest.filter fun c => !start.contains (key c)).filter fun c => (key c == key b) = false := by
        rw [List.filter_filter]
        congr 1
        funext c
        rw [contains_update, BEq.comm (a := key b)]
        cases key c == key b <;> simp
      have kept : ((b :: rest).filter fun c => !start.contains (key c)) =
          b :: rest.filter fun c => !start.contains (key c) := by
        rw [List.filter_cons, absent]
        rfl
      rw [fresh, kept, List.eraseDupsBy_cons, update, if_neg there, List.map_append, List.map_cons,
        List.append_assoc]
      congr 1
      · refine List.map_congr_left fun entry member => ?_
        have other : ¬ (key b == entry.1) = true := fun same =>
          not_beq_of_not_contains there (List.mem_map_of_mem member) (BEq.symm same)
        rw [List.filter_cons, if_neg other]
      · rw [List.map_cons, List.map_nil, List.singleton_append]
        congr 1
        · rw [List.filter_cons, if_pos (BEq.refl _)]
          simp
        · refine List.map_congr_left fun first member => ?_
          rw [unaffected first]
          have other := (List.mem_filter.mp (mem_of_mem_eraseDupsBy member)).2
          rw [BEq.comm]
          simpa using other

end KeyedList

end ScenarioRunner
