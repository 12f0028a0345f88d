import ScenarioRunner.Proofs.Text.Separated

namespace ScenarioRunner

/-- The words of a text: the runs of characters that are not blank, each as long as can be, in the
order of the text. -/
inductive HasWords : List Char → List (List Char) → Prop
  | nil : HasWords [] []
  | blank {c : Char} {rest : List Char} {words : List (List Char)} :
    isBlank c = true → HasWords rest words → HasWords (c :: rest) words
  | word {word rest : List Char} {words : List (List Char)} :
    word ≠ [] → (∀ c ∈ word, isBlank c = false) → (∀ c ∈ rest.head?, isBlank c = true) →
    HasWords rest words → HasWords (word ++ rest) (word :: words)

namespace HasWords

variable {text : List Char} {words : List (List Char)}

theorem append_left {lead : List Char} (blank : ∀ c ∈ lead, isBlank c = true)
    (has : HasWords text words) : HasWords (lead ++ text) words := by
  induction lead with
  | nil => exact has
  | cons c rest ih =>
    obtain ⟨here, later⟩ := List.forall_mem_cons.mp blank
    exact .blank here (ih later)

theorem append_right {tail : List Char} (blank : ∀ c ∈ tail, isBlank c = true)
    (has : HasWords text words) : HasWords (text ++ tail) words := by
  induction has with
  | nil =>
    have nothing := append_left blank .nil
    rwa [List.append_nil] at nothing
  | blank here _ ih => exact .blank here ih
  | @word word rest _ nonempty solid behind _ ih =>
    rw [List.append_assoc]
    refine .word nonempty solid (fun c first => ?_) ih
    rw [List.head?_append] at first
    cases rest with
    | nil => exact blank c (List.mem_of_head? first)
    | cons d others => exact behind c first

/-- Trimming drops no part of a word. -/
theorem of_trim (has : HasWords (trim text) words) : HasWords text words := by
  obtain ⟨lead, tail, whole, leadBlank, tailBlank, _⟩ := trim_decomposition text
  rw [whole]
  exact append_right tailBlank (append_left leadBlank has)

end HasWords

theorem blankSeparated_append {run rest : List Char} (nonempty : run ≠ []) {blank : Bool}
    (alike : ∀ c ∈ run, isBlank c = blank) (change : ∀ c ∈ rest.head?, isBlank c = !blank) :
    blankSeparated (run ++ rest) =
      if blank then blankSeparated rest else run :: blankSeparated rest := by
  have split := splitBy_append_of_change run rest blank
    (fun c last => alike c (List.mem_of_getLast? last)) change
  have blankRun : run.any isBlank = blank := by
    cases blank with
    | true =>
      obtain ⟨c, others, rfl⟩ := List.exists_cons_of_ne_nil nonempty
      simp [alike c (List.mem_cons_self ..)]
    | false => simpa using alike
  rw [blankSeparated, split, splitBy_run nonempty alike, List.singleton_append, List.filter_cons,
    blankRun]
  cases blank <;> rfl

/-- A text starts with blanks or with a word, as long as can be. -/
theorem exists_first_run {text : List Char} (nonempty : text ≠ []) :
    ∃ run rest blank, text = run ++ rest ∧ run ≠ [] ∧ (∀ c ∈ run, isBlank c = blank) ∧
      ∀ c ∈ rest.head?, isBlank c = !blank := by
  obtain ⟨first, others, rfl⟩ := List.exists_cons_of_ne_nil nonempty
  refine ⟨_, _, isBlank first, (List.takeWhile_append_dropWhile (p := (isBlank · == isBlank first))).symm,
    by simp, fun c member => ?_, fun c member => ?_⟩
  · simpa using List.mem_takeWhile_imp member
  · have change := List.head?_dropWhile_not (isBlank · == isBlank first) (first :: others)
    rw [Option.mem_def.mp member] at change
    exact Bool.eq_not.mpr (by simpa using change)

/-- What stands between blanks are the words of a text. -/
theorem hasWords_blankSeparated (text : List Char) : HasWords text (blankSeparated text) := by
  by_cases filled : text = []
  · rw [filled]
    exact .nil
  · obtain ⟨run, rest, blank, whole, nonempty, alike, change⟩ := exists_first_run filled
    have shorter : rest.length < text.length := by
      rw [whole, List.length_append]
      have := List.length_pos_iff.mpr nonempty
      omega
    have later := hasWords_blankSeparated rest
    rw [whole, blankSeparated_append nonempty alike change]
    cases blank with
    | true => exact later.append_left alike
    | false => exact .word nonempty alike change later
termination_by text.length

end ScenarioRunner
