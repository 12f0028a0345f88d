import ScenarioRunner.Proofs.Pattern.Matching
import ScenarioRunner.Proofs.Regex.Search
import ScenarioRunner.Regex.Reader

namespace ScenarioRunner

namespace RegexReader

theorem skip_of_unspaced {flags : RegexFlags} (unspaced : flags.spaced = false)
    (text : List Char) : skip flags text = text := by
  cases text with
  | nil => rfl
  | cons c rest => simp [skip, skipSpaced, unspaced]

/-- Characters that a repetition of what stands before them starts with. -/
def repeats : List Char := ['*', '+', '?', '\x7b']

/-- What nothing repeats is a part by itself. -/
theorem readTail?_of_unrepeated {c : Char} (unrepeated : c ∉ repeats) (fuel : Nat)
    (flags : RegexFlags) (atom : Regex) (rest : List Char) :
    readTail? (fuel + 1) flags atom (c :: rest) =
      (readParts? fuel flags (c :: rest)).map fun (others, flags, rest) =>
        (atom :: others, flags, rest) := by
  have here : readRepetitions? atom (rest.length + 1 + 1) (c :: rest) = some (atom, c :: rest) := by
    simp only [repeats, List.mem_cons, List.not_mem_nil, or_false, not_or] at unrepeated
    obtain ⟨star, plus, question, brace⟩ := unrepeated
    simp [readRepetitions?, star, plus, question, brace]
  simp only [readTail?, List.length_cons, here, Option.bind_eq_bind, Option.bind_some]
  cases readParts? fuel flags (c :: rest) with
  | none => rfl
  | some found => rfl

end RegexReader

namespace StepPattern

open RegexReader

/-- What a pattern consists of in turn: characters that stand for themselves, and places for
values. -/
def parts (pattern : StepPattern) : List (Option Char) :=
  pattern.lead.map some ++ pattern.holes.flatMap fun hole => none :: hole.after.map some

/-- How a part is written in a regular expression. -/
def sourceOf : Option Char → List Char
  | some c => escape [c]
  | none => "(.+?)".toList

/-- What a part is as a regular expression. -/
def regexOf : Option Char → Regex
  | some c => .set (.among [(c, c)])
  | none => .nested (.repeated (.set (.complement (.among [('\n', '\n')]))) 1 none)

theorem escape_eq_flatMap (text : List Char) : escape text = (text.map some).flatMap sourceOf := by
  simp [escape, sourceOf, List.flatMap_map]

theorem regexSource_toList (pattern : StepPattern) :
    pattern.regexSource.toList = '^' :: (pattern.parts.flatMap sourceOf ++ ['$']) := by
  have holes : pattern.holes.flatMap (fun hole => "(.+?)".toList ++ escape hole.after) =
      (pattern.holes.flatMap fun hole => none :: hole.after.map some).flatMap sourceOf := by
    simp only [List.flatMap_assoc, List.flatMap_cons, escape_eq_flatMap, sourceOf]
  simp only [regexSource, parts, String.toList_ofList, holes]
  simp only [escape_eq_flatMap, List.flatMap_append, List.cons_append, List.append_assoc]

/-- An escaped character is read as itself. -/
theorem readEscapedChar?_of_escaped {c : Char} (special : c ∈ escaped) (rest : List Char) :
    classOf? c = none ∧ readAnchor? (c :: rest) = none ∧
      readEscapedChar? (c :: rest) = some (c, rest) := by
  have each : escaped.all (fun c => classOf? c = none ∧ c ∉ ['b', 'B', '<', '>', 'A', 'z'] ∧
      c ∉ ['n', 't', 'r', 'f', 'v', 'a', 'x', 'u', 'U'] ∧ c.toNat < 0x80 ∧
      c.isAlphanum = false) = true := by decide +kernel
  obtain ⟨noClass, noAnchor, noCode, ascii, other⟩ :=
    of_decide_eq_true (List.all_eq_true.mp each c special)
  simp only [List.mem_cons, List.not_mem_nil, or_false, not_or] at noAnchor noCode
  refine ⟨noClass, ?_, ?_⟩
  · simp [readAnchor?, noAnchor]
  · simp [readEscapedChar?, noCode, noAnchor, ascii, other]

theorem readParts?_sourceOf (part : Option Char) {c : Char} (unrepeated : c ∉ repeats)
    (fuel : Nat) (rest : List Char) :
    readParts? (fuel + 5) {} (sourceOf part ++ c :: rest) =
      (readParts? (fuel + 3) {} (c :: rest)).map fun (others, flags, rest) =>
        (regexOf part :: others, flags, rest) := by
  cases part with
  | none =>
    have group : readChoice? (fuel + 4) {} ('.' :: '+' :: '?' :: ')' :: c :: rest) =
        some (.repeated (.set (.complement (.among [('\n', '\n')]))) 1 none, ')' :: c :: rest) :=
      rfl
    show readParts? (fuel + 4 + 1) {} ('(' :: '.' :: '+' :: '?' :: ')' :: c :: rest) = _
    rw [readParts?]
    simp [skip_of_unspaced, readGroupStart?, group, readTail?_of_unrepeated unrepeated, regexOf]
  | some d =>
    by_cases special : d ∈ escaped
    · obtain ⟨noClass, noAnchor, char⟩ := readEscapedChar?_of_escaped special (c :: rest)
      have source : sourceOf (some d) = ['\\', d] := by simp [sourceOf, escape, special]
      rw [source]
      show readParts? (fuel + 4 + 1) {} ('\\' :: d :: c :: rest) = _
      rw [readParts?]
      simp [skip_of_unspaced, noClass, noAnchor, char, amongRanges,
        readTail?_of_unrepeated unrepeated, regexOf]
    · have source : sourceOf (some d) = [d] := by simp [sourceOf, escape, special]
      rw [source]
      show readParts? (fuel + 4 + 1) {} (d :: c :: rest) = _
      have among : ['|', ')', '*', '+', '?', '\x7b', '(', '[', '\\', '^', '$', '.'] ⊆ escaped := by
        decide +kernel
      have plain := mt (@among d) special
      simp only [List.mem_cons, List.not_mem_nil, or_false, not_or] at plain
      rw [readParts?]
      simp [skip_of_unspaced, plain, amongRanges, readTail?_of_unrepeated unrepeated, regexOf]

/-- No part is written with a sign that would repeat the part before it. -/
theorem flatMap_sourceOf_unrepeated (parts : List (Option Char)) :
    ∃ c rest, parts.flatMap sourceOf ++ ['$'] = c :: rest ∧ c ∉ repeats := by
  cases parts with
  | nil => exact ⟨'$', [], rfl, by decide⟩
  | cons part others =>
    cases part with
    | none => exact ⟨'(', _, rfl, by decide⟩
    | some c =>
      by_cases special : c ∈ escaped
      · exact ⟨'\\', c :: (others.flatMap sourceOf ++ ['$']),
          by simp [sourceOf, escape, special], by decide⟩
      · have among : repeats ⊆ escaped := by decide +kernel
        exact ⟨c, others.flatMap sourceOf ++ ['$'], by simp [sourceOf, escape, special],
          mt (@among c) special⟩

theorem readParts?_flatMap_sourceOf (parts : List (Option Char)) (more : Nat) :
    readParts? (more + 2 * parts.length + 3) {} (parts.flatMap sourceOf ++ ['$']) =
      some (parts.map regexOf ++ [.anchor .textEnd], {}, []) := by
  induction parts with
  | nil => rfl
  | cons part others ih =>
    obtain ⟨c, rest, same, unrepeated⟩ := flatMap_sourceOf_unrepeated others
    rw [List.flatMap_cons, List.append_assoc, same]
    rw [same] at ih
    refine (readParts?_sourceOf part unrepeated (more + 2 * others.length) rest).trans ?_
    rw [ih]
    rfl

theorem length_le_flatMap_sourceOf (parts : List (Option Char)) :
    parts.length ≤ (parts.flatMap sourceOf).length := by
  induction parts with
  | nil => exact Nat.le_refl 0
  | cons part others ih =>
    have written : 0 < (sourceOf part).length := by
      cases part with
      | none => decide
      | some c => by_cases special : c ∈ escaped <;> simp [sourceOf, escape, special]
    rw [List.flatMap_cons, List.length_append, List.length_cons]
    omega

/-- What a pattern is as a regular expression. -/
def regex (pattern : StepPattern) : Regex :=
  .nested (.sequence (.anchor .textStart)
    (List.foldr .sequence (.sequence (.anchor .textEnd) .empty) (pattern.parts.map regexOf)))

theorem ofParts_regexOf (pattern : StepPattern) :
    Regex.ofParts (.anchor .textStart :: (pattern.parts.map regexOf ++ [.anchor .textEnd])) =
      pattern.regex := by
  have folded : List.foldr Regex.sequence .empty
      (.anchor .textStart :: (pattern.parts.map regexOf ++ [.anchor .textEnd])) =
      .sequence (.anchor .textStart) (List.foldr .sequence (.sequence (.anchor .textEnd) .empty)
        (pattern.parts.map regexOf)) := by
    rw [List.foldr_cons, List.foldr_append]
    rfl
  rw [regex, ← folded]
  cases pattern.parts with
  | nil => rfl
  | cons part others => rfl

/-- Only the group of a place makes a level below that of the parts. -/
theorem depth_regex_le (pattern : StepPattern) : pattern.regex.depth ≤ 3 := by
  have parts (parts : List (Option Char)) : Regex.depth (List.foldr .sequence
      (.sequence (.anchor .textEnd) .empty) (parts.map regexOf)) ≤ 2 := by
    induction parts with
    | nil => exact Nat.zero_le 2
    | cons part others ih =>
      refine Nat.max_le.mpr ⟨?_, ih⟩
      cases part with
      | none => exact Nat.le_refl 2
      | some c => exact Nat.zero_le 2
  exact Nat.succ_le_succ (Nat.max_le.mpr ⟨Nat.zero_le 2, parts pattern.parts⟩)

/-- The regular expression that a pattern is written as is read as that of its parts. -/
theorem read?_regexSource (pattern : StepPattern) :
    Regex.read? pattern.regexSource = some pattern.regex := by
  obtain ⟨c, rest, same, unrepeated⟩ := flatMap_sourceOf_unrepeated pattern.parts
  have parts := readParts?_flatMap_sourceOf pattern.parts
  have long := length_le_flatMap_sourceOf pattern.parts
  have size := congrArg List.length same
  rw [List.length_append, List.length_cons] at size
  obtain ⟨more, fuel⟩ : ∃ more, 3 * ('^' :: c :: rest).length + 4 =
      more + 2 * pattern.parts.length + 3 + 1 + 1 + 1 := by
    refine ⟨3 * ('^' :: c :: rest).length - 2 * pattern.parts.length - 2, ?_⟩
    simp only [List.length_cons, List.length_nil] at size ⊢
    omega
  have tail : readTail? (more + 2 * pattern.parts.length + 3 + 1) {} (.anchor .textStart)
      (c :: rest) = some (.anchor .textStart :: (pattern.parts.map regexOf ++ [.anchor .textEnd]),
        {}, []) := by
    rw [readTail?_of_unrepeated unrepeated, ← same, parts]
    rfl
  have first : readParts? (more + 2 * pattern.parts.length + 3 + 1 + 1) {} ('^' :: c :: rest) =
      some (.anchor .textStart :: (pattern.parts.map regexOf ++ [.anchor .textEnd]), {}, []) := by
    rw [readParts?]
    simp [skip_of_unspaced, tail]
  have whole : readChoice? (3 * ('^' :: c :: rest).length + 4) {} ('^' :: c :: rest) =
      some (pattern.regex, []) := by
    rw [fuel, readChoice?, first, ← ofParts_regexOf]
    rfl
  simp only [Regex.read?, regexSource_toList, same]
  rw [whole]
  exact if_pos (Nat.le_trans pattern.depth_regex_le (by decide))

/-- The text is made of the parts in turn, with a value in each place. -/
def MadeOf : List (Option Char) → List Char → Prop
  | [], text => text = []
  | some c :: others, text => ∃ rest, text = c :: rest ∧ MadeOf others rest
  | none :: others, text =>
    ∃ value rest, text = value ++ rest ∧ value ≠ [] ∧ '\n' ∉ value ∧ MadeOf others rest

theorem contains_same_iff {c d : Char} : (CharSet.among [(c, c)]).contains d = true ↔ d = c := by
  simp only [CharSet.contains, List.any_cons, List.any_nil, Bool.or_false, Bool.and_eq_true,
    decide_eq_true_eq]
  constructor
  · rintro ⟨low, high⟩
    exact Char.le_antisymm high low
  · rintro rfl
    exact ⟨Char.le_refl d, Char.le_refl d⟩

theorem contains_other_iff {c d : Char} :
    (CharSet.complement (.among [(c, c)])).contains d = true ↔ d ≠ c := by
  rw [CharSet.contains, Bool.not_eq_true', ← Bool.not_eq_true, contains_same_iff]

/-- The parts can be followed from one of the places to the end of the line if the line is made of
them from there on. -/
theorem exists_mem_ends_iff (line : List Char) (parts : List (Option Char)) (places : List Nat) :
    (∃ place, place ∈ Regex.ends line.toArray (List.foldr .sequence
      (.sequence (.anchor .textEnd) .empty) (parts.map regexOf)) places) ↔
      ∃ start ∈ places, MadeOf parts (line.drop start) := by
  induction parts generalizing places with
  | nil => simp [Regex.ends, Anchor.holds, MadeOf]
  | cons part others ih =>
    refine (ih _).trans ?_
    cases part with
    | some c =>
      refine Regex.exists_mem_ends_set_iff.trans
        (exists_congr fun start => and_congr_right fun _ => ?_)
      simp only [contains_same_iff, MadeOf]
      constructor
      · rintro ⟨_, rest, whole, rfl, goes⟩
        exact ⟨rest, whole, goes⟩
      · rintro ⟨rest, whole, goes⟩
        exact ⟨c, rest, whole, rfl, goes⟩
    | none =>
      refine Regex.exists_mem_ends_repeated_iff.trans
        (exists_congr fun start => and_congr_right fun _ => ?_)
      have flat (value : List Char) : (∀ c ∈ value, c ≠ '\n') ↔ '\n' ∉ value :=
        List.forall_mem_ne'
      simp only [contains_other_iff, MadeOf, flat]

/-- The anchors leave only the start of the line and its end. -/
theorem matchesIn_regex_iff (pattern : StepPattern) (line : String) :
    pattern.regex.matchesIn line = true ↔ MadeOf pattern.parts line.toList := by
  have start (place : Nat) : place ∈ Regex.ends line.toList.toArray (.anchor .textStart)
      (List.range (line.toList.toArray.size + 1)) ↔ place = 0 := by
    cases place with
    | zero => simp [Regex.ends, Anchor.holds]
    | succ place => simp [Regex.ends, Anchor.holds]
  have ended := exists_mem_ends_iff line.toList pattern.parts (Regex.ends line.toList.toArray
    (.anchor .textStart) (List.range (line.toList.toArray.size + 1)))
  simp only [start, exists_eq_left, List.drop_zero] at ended
  rw [← ended, Regex.matchesIn, Bool.not_eq_true', List.isEmpty_eq_false_iff_exists_mem]
  rfl

theorem madeOf_literal_iff (literal : List Char) (others : List (Option Char)) (text : List Char) :
    MadeOf (literal.map some ++ others) text ↔
      ∃ rest, text = literal ++ rest ∧ MadeOf others rest := by
  induction literal generalizing text with
  | nil => simp
  | cons c literal ih =>
    simp only [List.map_cons, List.cons_append, MadeOf, ih]
    constructor
    · rintro ⟨_, rfl, rest, rfl, goes⟩
      exact ⟨rest, rfl, goes⟩
    · rintro ⟨rest, rfl, goes⟩
      exact ⟨_, rfl, rest, rfl, goes⟩

theorem madeOf_holes_iff (holes : List Hole) (text : List Char) :
    MadeOf (holes.flatMap fun hole => none :: hole.after.map some) text ↔
      ∃ values, Solves (holes.map Hole.after) text values := by
  induction holes generalizing text with
  | nil => simp [MadeOf, Solves]
  | cons hole holes ih =>
    simp only [List.flatMap_cons, List.cons_append, MadeOf, madeOf_literal_iff, ih, List.map_cons,
      Solves, CaptureThen, LiteralThen]
    constructor
    · rintro ⟨value, _, rfl, nonempty, flat, rest, rfl, values, solved⟩
      exact ⟨value :: values, value, _, values, rfl, rfl, nonempty, flat, rest, rfl, solved⟩
    · rintro ⟨_, value, _, values, rfl, rfl, nonempty, flat, rest, rfl, solved⟩
      exact ⟨value, _, rfl, nonempty, flat, rest, rfl, values, solved⟩

/-- A pattern captures values from just the lines that its regular expression matches. -/
theorem matchesIn_regex (pattern : StepPattern) (line : String) :
    pattern.regex.matchesIn line = (pattern.captures? line.toList).isSome := by
  have least := (isLeast_captures? pattern line.toList).eq_none_iff
  simp only [fills_iff, List.map_map] at least
  rw [Bool.eq_iff_iff, matchesIn_regex_iff, Option.isSome_iff_ne_none, ne_eq, least, not_not, parts,
    madeOf_literal_iff]
  simp only [madeOf_holes_iff, LiteralThen]
  constructor
  · rintro ⟨rest, whole, values, solved⟩
    exact ⟨values, rest, whole, solved⟩
  · rintro ⟨values, rest, whole, solved⟩
    exact ⟨rest, whole, values, solved⟩

/-- The regular expression that is written for a pattern can be read, and it matches just the lines
that values are captured from. -/
theorem regexSource_matches (pattern : StepPattern) :
    ∃ regex, Regex.read? pattern.regexSource = some regex ∧
      ∀ line : String, regex.matchesIn line = (pattern.captures? line.toList).isSome :=
  ⟨pattern.regex, pattern.read?_regexSource, pattern.matchesIn_regex⟩

end StepPattern

end ScenarioRunner
