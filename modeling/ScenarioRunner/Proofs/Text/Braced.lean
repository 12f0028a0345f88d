import Mathlib.Data.List.TakeWhile
import ScenarioRunner.Text.Braced

namespace ScenarioRunner

/-- A name that may stand between braces. -/
structure IsWord (name : List Char) : Prop where
  nonempty : name ≠ []
  made : ∀ c ∈ name, isWordChar c = true

/-- The text starts with a whole token. -/
def BeginsToken (text : List Char) : Prop :=
  ∃ name, IsWord name ∧ (BracedPiece.token name).source <+: text

theorem closingBrace_not_word : isWordChar '\x7d' = false := by decide

/-- A word goes on up to its brace, so there is only one way to read it. -/
theorem bracedWord?_eq_some_iff {text name rest : List Char} :
    bracedWord? text = some (name, rest) ↔ IsWord name ∧ text = name ++ '\x7d' :: rest := by
  constructor
  · intro found
    have whole := List.takeWhile_append_dropWhile (p := isWordChar) (l := text)
    unfold bracedWord? at found
    split at found
    · rename_i first others tail taken dropped
      cases found
      rw [taken, dropped] at whole
      refine ⟨⟨by simp, fun c inside => ?_⟩, whole.symm⟩
      rw [← taken] at inside
      exact List.mem_takeWhile_imp inside
    · cases found
  · rintro ⟨word, rfl⟩
    have taken : (name ++ '\x7d' :: rest).takeWhile isWordChar = name := by
      rw [List.takeWhile_append_of_pos word.made, List.takeWhile_cons, closingBrace_not_word]
      simp
    have dropped : (name ++ '\x7d' :: rest).dropWhile isWordChar = '\x7d' :: rest := by
      rw [List.dropWhile_append_of_pos word.made, List.dropWhile_cons, closingBrace_not_word]
      simp
    obtain ⟨first, others, rfl⟩ := List.exists_cons_of_ne_nil word.nonempty
    rw [bracedWord?, taken, dropped]
    rfl

theorem beginsToken_cons_iff {c : Char} {text : List Char} :
    BeginsToken (c :: text) ↔ c = '\x7b' ∧ ∃ name rest, bracedWord? text = some (name, rest) := by
  constructor
  · rintro ⟨name, word, rest, whole⟩
    obtain ⟨first, later⟩ := List.cons.inj whole
    refine ⟨first.symm, name, rest, bracedWord?_eq_some_iff.mpr ⟨word, ?_⟩⟩
    rw [← later]
    simp
  · rintro ⟨rfl, name, rest, found⟩
    obtain ⟨word, rfl⟩ := bracedWord?_eq_some_iff.mp found
    exact ⟨name, word, rest, by simp [BracedPiece.source]⟩

theorem bracedPieces_token {rest name after : List Char}
    (read : bracedWord? rest = some (name, after)) :
    bracedPieces ('\x7b' :: rest) = .token name :: bracedPieces after := by
  rw [bracedPieces]
  split
  · rename_i found
    rw [if_pos rfl, read] at found
    cases found
    rfl
  · rename_i missing
    rw [if_pos rfl, read] at missing
    cases missing

theorem bracedPieces_plain {c : Char} {rest : List Char} (none : ¬ BeginsToken (c :: rest)) :
    bracedPieces (c :: rest) = .plain c :: bracedPieces rest := by
  rw [bracedPieces]
  split
  · rename_i name after found
    split at found
    · rename_i opening
      exact absurd (beginsToken_cons_iff.mpr ⟨opening, name, after, found⟩) none
    · cases found
  · rfl

/-- A text is empty, or starts with a token, or with a character that stands for itself. -/
theorem bracedPieces_induction {holds : List Char → Prop} (nil : holds [])
    (token : ∀ name rest, IsWord name → holds rest → holds ((BracedPiece.token name).source ++ rest))
    (plain : ∀ c rest, ¬ BeginsToken (c :: rest) → holds rest → holds (c :: rest))
    (text : List Char) : holds text := by
  induction size : text.length using Nat.strongRecOn generalizing text with
  | ind n ih =>
    cases text with
    | nil => exact nil
    | cons c rest =>
      by_cases begins : BeginsToken (c :: rest)
      · obtain ⟨name, word, after, whole⟩ := begins
        rw [← whole] at size ⊢
        have shorter : after.length < n := by
          rw [← size, List.length_append]
          simp [BracedPiece.source]
        exact token name after word (ih _ shorter after rfl)
      · have shorter : rest.length < n := by
          rw [← size]
          simp
        exact plain c rest begins (ih _ shorter rest rfl)

def isBrace (c : Char) : Bool := c == '\x7b' || c == '\x7d'

theorem isBrace_eq_false_iff {c : Char} : isBrace c = false ↔ c ≠ '\x7b' ∧ c ≠ '\x7d' := by
  simp [isBrace]

theorem isBrace_of_isWordChar {c : Char} (word : isWordChar c = true) : isBrace c = false := by
  refine isBrace_eq_false_iff.mpr ⟨?_, ?_⟩ <;> rintro rfl <;> exact absurd word (by decide)

def sourceOf (pieces : List BracedPiece) : List Char := pieces.flatMap BracedPiece.source

/-- The piece is read back from its own spelling, whatever follows. -/
def BracedPiece.Clean : BracedPiece → Prop
  | .plain c => isBrace c = false
  | .token name => IsWord name

theorem bracedPieces_sourceOf {pieces : List BracedPiece} (clean : ∀ piece ∈ pieces, piece.Clean) :
    bracedPieces (sourceOf pieces) = pieces := by
  induction pieces with
  | nil => exact bracedPieces.eq_1
  | cons piece rest ih =>
    obtain ⟨here, later⟩ := List.forall_mem_cons.mp clean
    rw [sourceOf, List.flatMap_cons, ← sourceOf]
    cases piece with
    | plain c =>
      have other : ¬ BeginsToken (c :: sourceOf rest) := fun begins =>
        absurd (beginsToken_cons_iff.mp begins).1 (isBrace_eq_false_iff.mp here).1
      rw [BracedPiece.source, List.singleton_append, bracedPieces_plain other, ih later]
    | token name =>
      have spelled : (BracedPiece.token name).source ++ sourceOf rest =
          '\x7b' :: (name ++ '\x7d' :: sourceOf rest) := by simp [BracedPiece.source]
      rw [spelled, bracedPieces_token (bracedWord?_eq_some_iff.mpr ⟨here, rfl⟩), ih later]

/-- The pieces of a text spell it. -/
theorem sourceOf_bracedPieces (text : List Char) : sourceOf (bracedPieces text) = text := by
  induction text using bracedPieces_induction with
  | nil => rw [bracedPieces, sourceOf, List.flatMap_nil]
  | token name rest word ih =>
    have spelled : (BracedPiece.token name).source ++ rest = '\x7b' :: (name ++ '\x7d' :: rest) := by
      simp [BracedPiece.source]
    rw [spelled, bracedPieces_token (bracedWord?_eq_some_iff.mpr ⟨word, rfl⟩), sourceOf,
      List.flatMap_cons, ← sourceOf, ih, spelled]
  | plain c rest none ih =>
    rw [bracedPieces_plain none, sourceOf, List.flatMap_cons, ← sourceOf, ih]
    rfl

theorem sourceOf_append (first second : List BracedPiece) :
    sourceOf (first ++ second) = sourceOf first ++ sourceOf second :=
  List.flatMap_append

theorem sourceOf_plain (text : List Char) : sourceOf (text.map .plain) = text := by
  rw [sourceOf, List.flatMap_map]
  exact List.flatMap_singleton' text

end ScenarioRunner
