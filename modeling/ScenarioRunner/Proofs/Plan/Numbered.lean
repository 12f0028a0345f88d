import ScenarioRunner.Proofs.Plan.Names

namespace ScenarioRunner

/-- The search for a free name, from the candidate `n` on: taken candidates are passed over, in as many
rounds, and the first free one is given. Nothing in it says that it ends. -/
inductive NameSearch (taken : List String) (name : String) : Nat → Nat → String → Prop
  | free {n : Nat} : nameCandidate name n ∉ taken →
      NameSearch taken name n 0 (nameCandidate name n)
  | next {n rounds : Nat} {given : String} : nameCandidate name n ∈ taken →
      NameSearch taken name (n + 1) rounds given → NameSearch taken name n (rounds + 1) given

/-- How names are told apart: each in turn is given as it is if it is free, else with the least number
that makes it so, and the search for that number takes no more rounds than there are names before. -/
structure NumbersRepeats (names given : List String) : Prop where
  length : given.length = names.length
  distinct : given.Nodup
  kept : ∀ i name, names[i]? = some name → name ∉ given.take i → given[i]? = some name
  numbered : ∀ i name, names[i]? = some name → name ∈ given.take i →
    ∃ k, given[i]? = some (name ++ " #" ++ toString k) ∧ 2 ≤ k ∧
      name ++ " #" ++ toString k ∉ given.take i ∧
      ∀ j, 2 ≤ j → j < k → name ++ " #" ++ toString j ∈ given.take i
  ends : ∀ i name, names[i]? = some name → ∃ rounds ≤ i, ∃ result, given[i]? = some result ∧
    NameSearch (given.take i) name 0 rounds result

theorem nameSearch_of_taken {taken : List String} {name : String} (n rounds : Nat)
    (before : ∀ k < rounds, nameCandidate name (n + k) ∈ taken)
    (free : nameCandidate name (n + rounds) ∉ taken) :
    NameSearch taken name n rounds (nameCandidate name (n + rounds)) := by
  induction rounds generalizing n with
  | zero => exact .free free
  | succ rounds ih =>
    have here : nameCandidate name n ∈ taken := before 0 (Nat.succ_pos _)
    have shift (k : Nat) : n + 1 + k = n + (k + 1) := by omega
    have later := ih (n := n + 1)
      (fun k known => shift k ▸ before (k + 1) (Nat.succ_lt_succ known)) (shift rounds ▸ free)
    rw [shift] at later
    exact .next here later

/-- What a name gets depends on the names that were given before it, and on no others. -/
theorem uniqueNames_getElem? (taken names : List String) (i : Nat) :
    (uniqueNames taken names)[i]? =
      names[i]?.map (uniqueName (((uniqueNames taken names).take i).reverse ++ taken)) := by
  induction names generalizing taken i with
  | nil => rfl
  | cons name rest ih =>
    cases i with
    | zero => rfl
    | succ i =>
      simp only [uniqueNames, List.getElem?_cons_succ, List.take_succ_cons, List.reverse_cons,
        List.append_assoc, List.singleton_append]
      exact ih (uniqueName taken name :: taken) i

/-- The number of the name that is given at a place. -/
theorem exists_given_eq {names : List String} {i : Nat} {name : String}
    (here : names[i]? = some name) : ∃ n, (uniqueNames [] names)[i]? = some (nameCandidate name n) ∧
      nameCandidate name n ∉ (uniqueNames [] names).take i ∧
      ∀ m < n, nameCandidate name m ∈ (uniqueNames [] names).take i := by
  obtain ⟨n, given, free, before⟩ :=
    exists_uniqueName_eq (((uniqueNames [] names).take i).reverse ++ []) name
  simp only [List.append_nil, List.mem_reverse] at free before
  refine ⟨n, ?_, free, before⟩
  rw [uniqueNames_getElem?, here, Option.map_some, given]

theorem numbersRepeats_uniqueNames (names : List String) :
    NumbersRepeats names (uniqueNames [] names) where
  length := length_uniqueNames [] names
  distinct := (nodup_uniqueNames [] names).1
  kept := by
    intro i name here fresh
    obtain ⟨n, given, _, before⟩ := exists_given_eq here
    cases n with
    | zero => exact given
    | succ n => exact absurd (before 0 (Nat.succ_pos _)) fresh
  numbered := by
    intro i name here repeated
    obtain ⟨n, given, free, before⟩ := exists_given_eq here
    cases n with
    | zero => exact absurd repeated free
    | succ n =>
      refine ⟨n + 2, given, Nat.le_add_left .., free, fun j least less => ?_⟩
      obtain ⟨m, rfl⟩ := Nat.exists_eq_add_of_le' least
      exact before (m + 1) (by omega)
  ends := by
    intro i name here
    obtain ⟨n, given, free, before⟩ := exists_given_eq here
    have bound : n ≤ ((uniqueNames [] names).take i).length := le_length_of_taken before
    have search := nameSearch_of_taken 0 n
      (fun k known => (Nat.zero_add k).symm ▸ before k known) ((Nat.zero_add n).symm ▸ free)
    rw [Nat.zero_add] at search
    exact ⟨n, Nat.le_trans bound (List.length_take_le ..), _, given, search⟩

/-- The cases of a feature are told apart by numbers, whatever its scenarios are called. -/
theorem TestGroup.ofFeature_numbersRepeats (feature : Feature) :
    NumbersRepeats (feature.allScenarios.map (·.name))
      ((TestGroup.ofFeature feature).cases.map (·.name)) := by
  rw [map_name_cases]
  exact numbersRepeats_uniqueNames _

end ScenarioRunner
