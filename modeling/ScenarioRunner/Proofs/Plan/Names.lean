import Mathlib.Data.List.Nodup
import Mathlib.Data.List.Perm.Subperm
import ScenarioRunner.Plan.Builder

namespace ScenarioRunner

/-- The number of a candidate can be read from its end. -/
theorem nameCandidate_injective (name : String) : Function.Injective (nameCandidate name) := by
  intro m n same
  have letters := congrArg String.toList same
  cases m with
  | zero =>
    cases n with
    | zero => rfl
    | succ n => simp [nameCandidate] at letters
  | succ m =>
    cases n with
    | zero => simp [nameCandidate] at letters
    | succ n =>
      have digits : Nat.toDigits 10 (m + 2) = Nat.toDigits 10 (n + 2) := by
        simpa [nameCandidate] using letters
      have numbers := congrArg (Nat.ofDigitChars 10 · 0) digits
      simp only [Nat.ofDigitChars_ten_toDigits] at numbers
      omega

/-- Candidates in a row differ, so no more of them are taken than there are taken names. -/
theorem le_length_of_taken {taken : List String} {name : String} {count : Nat}
    (all : ∀ n < count, nameCandidate name n ∈ taken) : count ≤ taken.length := by
  have inside : (List.range count).map (nameCandidate name) ⊆ taken := by
    intro candidate member
    obtain ⟨n, known, rfl⟩ := List.mem_map.mp member
    exact all n (List.mem_range.mp known)
  have distinct : ((List.range count).map (nameCandidate name)).Nodup :=
    List.nodup_range.map (nameCandidate_injective name)
  have short := (List.subperm_of_subset distinct inside).length_le
  rwa [List.length_map, List.length_range] at short

/-- The candidate that is given is free, and all before it are taken. There are more candidates than
taken names, so one is free. -/
theorem exists_uniqueName_eq (taken : List String) (name : String) :
    ∃ n, uniqueName taken name = nameCandidate name n ∧ nameCandidate name n ∉ taken ∧
      ∀ m < n, nameCandidate name m ∈ taken := by
  unfold uniqueName
  cases found : (List.range (taken.length + 1)).find? fun n =>
      !taken.contains (nameCandidate name n) with
  | some n =>
    obtain ⟨free, _, before⟩ := List.find?_range_eq_some.mp found
    refine ⟨n, rfl, by simpa using free, fun m earlier => ?_⟩
    simpa using before m earlier
  | none =>
    have all : ∀ n < taken.length + 1, nameCandidate name n ∈ taken := by
      intro n known
      simpa using List.find?_eq_none.mp found n (List.mem_range.mpr known)
    exact absurd (le_length_of_taken all) (Nat.not_succ_le_self _)

theorem uniqueName_not_mem (taken : List String) (name : String) :
    uniqueName taken name ∉ taken := by
  obtain ⟨n, given, free, _⟩ := exists_uniqueName_eq taken name
  rwa [given]

theorem length_uniqueNames (taken names : List String) :
    (uniqueNames taken names).length = names.length := by
  induction names generalizing taken with
  | nil => rfl
  | cons name rest ih => simp [uniqueNames, ih]

/-- Names that were given once are not given again. -/
theorem nodup_uniqueNames (taken names : List String) :
    (uniqueNames taken names).Nodup ∧ ∀ name ∈ uniqueNames taken names, name ∉ taken := by
  induction names generalizing taken with
  | nil => exact ⟨List.nodup_nil, by simp [uniqueNames]⟩
  | cons name rest ih =>
    obtain ⟨distinct, fresh⟩ := ih (uniqueName taken name :: taken)
    constructor
    · refine List.nodup_cons.mpr ⟨fun again => ?_, distinct⟩
      exact fresh _ again (List.mem_cons_self ..)
    · intro given member
      rcases List.mem_cons.mp member with rfl | later
      · exact uniqueName_not_mem taken name
      · exact fun old => fresh given later (List.mem_cons_of_mem _ old)

theorem map_name_zipWith (tags : List String) {names : List String} {scenarios : List Scenario}
    (length : names.length = scenarios.length) :
    (names.zipWith (TestCase.ofScenario tags) scenarios).map (·.name) = names := by
  have pairs : names.zipWith (fun name (_ : Scenario) => name) scenarios = names := by
    rw [← List.map_uncurry_zip_eq_zipWith]
    exact List.map_fst_zip (Nat.le_of_eq length)
  rw [List.map_zipWith]
  exact pairs

theorem map_name_cases (feature : Feature) :
    (TestGroup.ofFeature feature).cases.map (·.name) =
      uniqueNames [] (feature.allScenarios.map (·.name)) := by
  refine map_name_zipWith feature.tags ?_
  rw [length_uniqueNames, List.length_map]

/-- The cases of a feature have different names. -/
theorem nodup_caseNames (feature : Feature) :
    ((TestGroup.ofFeature feature).cases.map (·.name)).Nodup := by
  rw [map_name_cases]
  exact (nodup_uniqueNames [] _).1

end ScenarioRunner
