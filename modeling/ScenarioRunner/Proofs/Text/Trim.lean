import Mathlib.Data.List.TakeWhile
import ScenarioRunner.Text.Blank

namespace ScenarioRunner

/-- Only the members of the text are asked. An instance for the quantifier alone may run through all
characters there are. -/
theorem forall_mem_of_all {text : List Char} {p : Char → Prop} [DecidablePred p]
    (all : text.all (fun c => decide (p c)) = true) : ∀ c ∈ text, p c := by
  intro c member
  exact of_decide_eq_true (List.all_eq_true.mp all c member)

theorem forall_mem_of_optionAll {found : Option Char} {p : Char → Prop} [DecidablePred p]
    (all : found.all (fun c => decide (p c)) = true) : ∀ c ∈ found, p c := by
  intro c member
  rw [Option.mem_def.mp member] at all
  exact of_decide_eq_true all

/-- A text that neither starts nor ends with a blank. -/
def Trimmed (text : List Char) : Prop :=
  (∀ c ∈ text.head?, isBlank c = false) ∧ (∀ c ∈ text.getLast?, isBlank c = false)

theorem trimmed_of_all {text : List Char}
    (first : text.head?.all (fun c => decide (isBlank c = false)) = true)
    (last : text.getLast?.all (fun c => decide (isBlank c = false)) = true) : Trimmed text :=
  ⟨forall_mem_of_optionAll first, forall_mem_of_optionAll last⟩

theorem Trimmed.nil : Trimmed [] := ⟨by simp, by simp⟩

theorem Trimmed.reverse {text : List Char} (trimmed : Trimmed text) : Trimmed text.reverse := by
  obtain ⟨first, last⟩ := trimmed
  exact ⟨by simpa using last, by simpa using first⟩

theorem trimStart_of_head {text : List Char} (first : ∀ c ∈ text.head?, isBlank c = false) :
    trimStart text = text := by
  cases text with
  | nil => rfl
  | cons c rest =>
    have solid : isBlank c = false := first c rfl
    simp [trimStart, solid]

theorem trimEnd_of_getLast {text : List Char} (last : ∀ c ∈ text.getLast?, isBlank c = false) :
    trimEnd text = text := by
  have reversed : trimStart text.reverse = text.reverse := trimStart_of_head (by simpa using last)
  simp only [trimEnd]
  rw [← trimStart, reversed, List.reverse_reverse]

theorem trimStart_append_blank {lead : List Char} (blank : ∀ c ∈ lead, isBlank c = true)
    (text : List Char) : trimStart (lead ++ text) = trimStart text :=
  List.dropWhile_append_of_pos blank

theorem trimEnd_append_blank {tail : List Char} (blank : ∀ c ∈ tail, isBlank c = true)
    (text : List Char) : trimEnd (text ++ tail) = trimEnd text := by
  simp only [trimEnd, List.reverse_append]
  rw [List.dropWhile_append_of_pos (by simpa using blank)]

/-- Blanks around a trimmed text are exactly what trimming drops. -/
theorem Trimmed.trim_padded {lead core tail : List Char} (trimmed : Trimmed core)
    (leadBlank : ∀ c ∈ lead, isBlank c = true) (tailBlank : ∀ c ∈ tail, isBlank c = true) :
    trim (lead ++ core ++ tail) = core := by
  rw [trim, List.append_assoc, trimStart_append_blank leadBlank]
  cases core with
  | nil =>
    have nothing : trimStart tail = [] := by
      have dropped := trimStart_append_blank tailBlank []
      simpa [trimStart] using dropped
    simp [nothing, trimEnd]
  | cons c rest =>
    rw [trimStart_of_head (by simpa using trimmed.1), trimEnd_append_blank tailBlank,
      trimEnd_of_getLast trimmed.2]

theorem Trimmed.trim_eq {text : List Char} (trimmed : Trimmed text) : trim text = text := by
  have padded : trim ([] ++ text ++ []) = text := trimmed.trim_padded (by simp) (by simp)
  simpa using padded

/-- What trimming drops on both sides is blank, and what it leaves starts and ends with no blank. -/
theorem trim_decomposition (text : List Char) :
    ∃ lead tail, text = lead ++ trim text ++ tail ∧ (∀ c ∈ lead, isBlank c = true) ∧
      (∀ c ∈ tail, isBlank c = true) ∧ Trimmed (trim text) := by
  have front := List.takeWhile_append_dropWhile (p := isBlank) (l := text)
  have back := List.takeWhile_append_dropWhile (p := isBlank) (l := (trimStart text).reverse)
  have whole : trimStart text =
      trim text ++ ((trimStart text).reverse.takeWhile isBlank).reverse := by
    rw [trim, trimEnd, ← List.reverse_append, back, List.reverse_reverse]
  refine ⟨text.takeWhile isBlank, ((trimStart text).reverse.takeWhile isBlank).reverse, ?_, ?_, ?_,
    ?_, ?_⟩
  · rw [List.append_assoc, ← whole]
    exact front.symm
  · exact fun c member => List.mem_takeWhile_imp member
  · exact fun c member => List.mem_takeWhile_imp (List.mem_reverse.mp member)
  · intro c first
    have solid := List.head?_dropWhile_not isBlank text
    cases kept : trim text with
    | nil => simp [kept] at first
    | cons d rest =>
      rw [kept] at first
      rw [← trimStart, whole, kept] at solid
      cases first
      simpa using solid
  · intro c last
    have solid := List.head?_dropWhile_not isBlank (trimStart text).reverse
    rw [trim, trimEnd, List.getLast?_reverse] at last
    rw [last] at solid
    simpa using solid

theorem trimmed_trim (text : List Char) : Trimmed (trim text) := by
  obtain ⟨_, _, _, _, _, trimmed⟩ := trim_decomposition text
  exact trimmed

theorem mem_of_mem_trim {c : Char} {text : List Char} (member : c ∈ trim text) : c ∈ text := by
  obtain ⟨lead, tail, whole, _⟩ := trim_decomposition text
  rw [whole]
  simp [member]

/-- Blanks around a text make no difference once it is trimmed. -/
theorem trim_append_blank {lead tail : List Char} (leadBlank : ∀ c ∈ lead, isBlank c = true)
    (tailBlank : ∀ c ∈ tail, isBlank c = true) (text : List Char) :
    trim (lead ++ text ++ tail) = trim text := by
  obtain ⟨first, last, whole, firstBlank, lastBlank, trimmed⟩ := trim_decomposition text
  have padded := calc
    lead ++ text ++ tail = lead ++ (first ++ trim text ++ last) ++ tail := by rw [← whole]
    _ = (lead ++ first) ++ trim text ++ (last ++ tail) := by simp only [List.append_assoc]
  rw [padded]
  exact trimmed.trim_padded (List.forall_mem_append.mpr ⟨leadBlank, firstBlank⟩)
    (List.forall_mem_append.mpr ⟨lastBlank, tailBlank⟩)

theorem trimEnd_decomposition (text : List Char) :
    ∃ tail, text = trimEnd text ++ tail ∧ ∀ c ∈ tail, isBlank c = true := by
  refine ⟨(text.reverse.takeWhile isBlank).reverse, ?_, ?_⟩
  · rw [trimEnd, ← List.reverse_append, List.takeWhile_append_dropWhile, List.reverse_reverse]
  · exact fun c member => List.mem_takeWhile_imp (List.mem_reverse.mp member)

theorem trim_trimEnd (text : List Char) : trim (trimEnd text) = trim text := by
  obtain ⟨tail, whole, tailBlank⟩ := trimEnd_decomposition text
  have same := trim_append_blank (List.forall_mem_nil _) tailBlank (trimEnd text)
  rw [List.nil_append, ← whole] at same
  exact same.symm

theorem Trimmed.trim_cons {c : Char} {text : List Char} (trimmed : Trimmed text)
    (blank : isBlank c = true) : trim (c :: text) = text := by
  have padded : trim ([c] ++ text ++ []) = text := trimmed.trim_padded (by simpa) (by simp)
  simpa using padded

/-- Nothing but the end of a text is trimmed when its start is solid on both sides. -/
theorem trim_append_of_solid {start rest : List Char} (nonempty : start ≠ [])
    (solid : Trimmed start) : trim (start ++ rest) = start ++ trimEnd rest := by
  have kept : trimStart (start ++ rest) = start ++ rest := by
    apply trimStart_of_head
    intro c first
    cases start with
    | nil => exact absurd rfl nonempty
    | cons d others => exact solid.1 c (by simpa using first)
  have reversed : trimStart start.reverse = start.reverse := trimStart_of_head solid.reverse.1
  have nonemptyReverse : start.reverse ≠ [] := by simpa using nonempty
  rw [trim, kept, trimEnd, trimEnd, List.reverse_append, List.dropWhile_append]
  by_cases blank : (rest.reverse.dropWhile isBlank).isEmpty
  · rw [if_pos blank, ← trimStart, reversed]
    rw [List.isEmpty_iff] at blank
    simp [blank]
  · rw [if_neg blank, List.reverse_append, List.reverse_reverse]

end ScenarioRunner
