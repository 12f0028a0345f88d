import ScenarioRunner.Proofs.Message.Tree
import ScenarioRunner.Proofs.Text.Cut
import ScenarioRunner.Proofs.Text.Trim

namespace ScenarioRunner

/-- All code points of the ranges. -/
def Ranges.points (ranges : Ranges) : List Nat :=
  ranges.flatMap fun range => List.range' range.1 (range.2 + 1 - range.1)

theorem Ranges.mem_points {ranges : Ranges} {c : Char} (inside : ranges.contains c = true) :
    c.toNat ∈ ranges.points := by
  obtain ⟨range, member, bounds⟩ := List.any_eq_true.mp inside
  simp only [Bool.and_eq_true, decide_eq_true_eq] at bounds
  refine List.mem_flatMap.mpr ⟨range, member, List.mem_range'_1.mpr ?_⟩
  omega

theorem blankPoints_not_word :
    blankRanges.points.all (fun n => !isWordChar (Char.ofNat n)) = true := by
  decide +kernel

theorem isBlank_of_isWordChar {c : Char} (word : isWordChar c = true) : isBlank c = false := by
  by_contra blank
  rw [Bool.not_eq_false] at blank
  have point := Ranges.mem_points blank
  have other := List.all_eq_true.mp blankPoints_not_word _ point
  rw [Char.ofNat_toNat, word] at other
  cases other

theorem isBrace_of_isBlank {c : Char} (blank : isBlank c = true) : isBrace c = false := by
  refine isBrace_eq_false_iff.mpr ⟨?_, ?_⟩ <;> rintro rfl <;> exact absurd blank (by decide)

theorem PluralHeader.isBrace_eq_false {name header : List Char} (spelled : PluralHeader name header)
    {c : Char} (member : c ∈ header) : isBrace c = false := by
  obtain ⟨lead, afterName, beforeWord, afterWord, word, blanks⟩ := spelled
  have plain : ∀ c ∈ "plural".toList, isBrace c = false := forall_mem_of_all (by decide)
  simp only [List.mem_append, List.mem_singleton] at member blanks
  rcases member with ((((((inLead | inName) | inAfter) | rfl) | inBefore) | inPlural) | inAfter) | rfl
  · exact isBrace_of_isBlank (blanks c (by simp [inLead]))
  · exact isBrace_of_isWordChar (word.made c inName)
  · exact isBrace_of_isBlank (blanks c (by simp [inAfter]))
  · decide
  · exact isBrace_of_isBlank (blanks c (by simp [inBefore]))
  · exact plain c inPlural
  · exact isBrace_of_isBlank (blanks c (by simp [inAfter]))
  · decide

/-- A header has a comma and no brace. -/
theorem PluralHeader.not_prefix {name header text : List Char} (spelled : PluralHeader name header)
    (free : ',' ∉ text.takeWhile fun c => !isBrace c) : ¬ header <+: text := by
  rintro ⟨rest, rfl⟩
  have braceless : ∀ c ∈ header, (!isBrace c) = true := fun c member => by
    rw [spelled.isBrace_eq_false member]
    rfl
  have comma : ',' ∈ header := by
    obtain ⟨lead, afterName, beforeWord, afterWord, _, _⟩ := spelled
    simp
  rw [List.takeWhile_append_of_pos braceless] at free
  exact free (List.mem_append_left _ comma)

theorem PluralHeader.not_prefix_of_word {name header word : List Char}
    (spelled : PluralHeader name header) (isWord : IsWord word) : ¬ header <+: word :=
  spelled.not_prefix fun comma =>
    absurd (isWord.made _ (List.takeWhile_subset _ comma)) (by decide)

theorem blank_prefix (text : List Char) : ∃ lead, text = lead ++ trimStart text ∧
    ∀ c ∈ lead, isBlank c = true :=
  ⟨text.takeWhile isBlank, List.takeWhile_append_dropWhile.symm,
    fun _ member => List.mem_takeWhile_imp member⟩

/-- A block that is read starts with the spelling of its header. -/
theorem pluralHeader_of_opening {text name rest : List Char}
    (read : pluralOpening? text = some (name, rest)) :
    ∃ header, PluralHeader name header ∧ text = header ++ rest := by
  obtain ⟨lead, whole, leadBlank⟩ := blank_prefix text
  have named := List.takeWhile_append_dropWhile (p := isWordChar) (l := trimStart text)
  obtain ⟨afterName, spaced, afterBlank⟩ := blank_prefix ((trimStart text).dropWhile isWordChar)
  unfold pluralOpening? at read
  simp only at read
  split at read
  · rename_i first others tail taken comma
    obtain ⟨beforeWord, spacedTail, beforeBlank⟩ := blank_prefix tail
    split at read
    · rename_i afterPlural found
      obtain ⟨afterWord, spacedRest, afterWordBlank⟩ := blank_prefix afterPlural
      split at read
      · rename_i last second
        cases read
        have word : IsWord (first :: others) :=
          ⟨by simp, fun c inside => List.mem_takeWhile_imp (taken ▸ inside)⟩
        refine ⟨_, .spelled lead afterName beforeWord afterWord word ?_, ?_⟩
        · intro c inside
          simp only [List.mem_append] at inside
          rcases inside with ((inside | inside) | inside) | inside
          · exact leadBlank c inside
          · exact afterBlank c inside
          · exact beforeBlank c inside
          · exact afterWordBlank c inside
        · rw [whole, ← named, taken, spaced, comma, spacedTail, afterStart?_eq_some found, spacedRest,
            second]
          simp
      · cases read
    · cases read
  · cases read

/-- Nothing is read as a block where the brace closes before the header of a block could end. -/
theorem pluralOpening?_closed {content rest : List Char}
    (other : ∀ name header, PluralHeader name header → ¬ header <+: content) :
    pluralOpening? (content ++ '\x7d' :: rest) = none := by
  by_contra read
  obtain ⟨⟨name, after⟩, found⟩ := Option.ne_none_iff_exists'.mp read
  obtain ⟨header, spelled, whole⟩ := pluralHeader_of_opening found
  rcases List.append_eq_append_iff.mp whole with ⟨more, longer, tail⟩ | ⟨more, shorter, _⟩
  · cases more with
    | nil => exact other name header spelled ⟨[], by simpa using longer⟩
    | cons c more =>
      obtain ⟨rfl, _⟩ := List.cons.inj tail
      have brace := spelled.isBrace_eq_false
        (longer ▸ List.mem_append_right content (List.mem_cons_self ..))
      cases brace
  · exact other name header spelled ⟨more, shorter.symm⟩

theorem trimStart_solid {c : Char} (solid : isBlank c = false) (rest : List Char) :
    trimStart (c :: rest) = c :: rest :=
  trimStart_of_head fun _ first => Option.some.inj first ▸ solid

/-- A header is read back, however it is spaced. -/
theorem PluralHeader.opening {name header : List Char} (spelled : PluralHeader name header)
    (rest : List Char) : pluralOpening? (header ++ rest) = some (name, rest) := by
  obtain ⟨lead, afterName, beforeWord, afterWord, word, blanks⟩ := spelled
  simp only [List.forall_mem_append] at blanks
  obtain ⟨⟨⟨leadBlank, nameBlank⟩, beforeBlank⟩, wordBlank⟩ := blanks
  have notWord : ∀ c ∈ afterName ++ [','], isWordChar c = false := by
    intro c member
    rw [List.mem_append, List.mem_singleton] at member
    rcases member with spaced | rfl
    · by_contra made
      rw [Bool.not_eq_false] at made
      exact absurd (nameBlank c spaced) (by simp [isBlank_of_isWordChar made])
    · decide
  have whole : lead ++ name ++ afterName ++ [','] ++ beforeWord ++ "plural".toList ++ afterWord ++
      [','] ++ rest = lead ++ (name ++ ((afterName ++ [',']) ++
        (beforeWord ++ ("plural".toList ++ (afterWord ++ (',' :: rest)))))) := by simp
  obtain ⟨first, others, rfl⟩ := List.exists_cons_of_ne_nil word.nonempty
  have started (text : List Char) : trimStart (first :: others ++ text) = first :: others ++ text :=
    trimStart_solid (isBlank_of_isWordChar (word.made _ (List.mem_cons_self ..))) _
  have ends (text : List Char) : (afterName ++ [','] ++ text).takeWhile isWordChar = [] ∧
      (afterName ++ [','] ++ text).dropWhile isWordChar = afterName ++ [','] ++ text := by
    obtain ⟨second, more, same⟩ := List.exists_cons_of_ne_nil (l := afterName ++ [',']) (by simp)
    have other := notWord second (by simp [same])
    simp [same, other]
  have comma (text : List Char) : trimStart (',' :: text) = ',' :: text :=
    trimStart_solid (by decide) text
  have plural (text : List Char) : trimStart ("plural".toList ++ text) = "plural".toList ++ text :=
    trimStart_solid (by decide) _
  rw [whole]
  unfold pluralOpening?
  simp only [trimStart_append_blank leadBlank, started, List.takeWhile_append_of_pos word.made,
    List.dropWhile_append_of_pos word.made, (ends _).1, (ends _).2, List.append_nil]
  simp only [List.append_assoc, List.singleton_append, trimStart_append_blank nameBlank, comma,
    trimStart_append_blank beforeBlank, plural, afterStart?_append, trimStart_append_blank wordBlank]

theorem IsWord.header {name : List Char} (word : IsWord name) :
    PluralHeader name (name ++ ", plural,".toList) := by
  have blank : ∀ c ∈ [' '], isBlank c = true := List.forall_mem_singleton.mpr (by decide)
  have spelled : PluralHeader name _ := .spelled [] [] [' '] [] word blank
  have same : [] ++ name ++ [] ++ [','] ++ [' '] ++ "plural".toList ++ [] ++ [','] =
    name ++ ", plural,".toList := by simp
  rwa [same] at spelled

end ScenarioRunner
