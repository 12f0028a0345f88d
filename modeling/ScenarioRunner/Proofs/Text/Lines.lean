import ScenarioRunner.Text.Lines

namespace ScenarioRunner

/-- Lines as one text, each with its end. -/
def joinLines (lines : List (List Char)) : List Char := lines.flatMap (· ++ ['\n'])

/-- Every carriage return stands right before a line feed, so it belongs to the end of a line. -/
def ReturnsEndLines (text : List Char) : Prop :=
  ∀ before after, text = before ++ '\r' :: after → after.head? = some '\n'

theorem returnsEndLines_cons_iff {c : Char} {text : List Char} :
    ReturnsEndLines (c :: text) ↔ (c = '\r' → text.head? = some '\n') ∧ ReturnsEndLines text := by
  constructor
  · intro returns
    refine ⟨fun first => returns [] text (by rw [first]; rfl), fun before after whole => ?_⟩
    exact returns (c :: before) after (by rw [whole]; rfl)
  · rintro ⟨first, returns⟩ before after whole
    cases before with
    | nil =>
      obtain ⟨rfl, rfl⟩ := List.cons.inj whole
      exact first rfl
    | cons d others =>
      obtain ⟨rfl, later⟩ := List.cons.inj whole
      exact returns others after later

instance ReturnsEndLines.decidable : DecidablePred ReturnsEndLines
  | [] => isTrue fun before after whole => by simp at whole
  | _ :: rest =>
    have := ReturnsEndLines.decidable rest
    decidable_of_iff _ returnsEndLines_cons_iff.symm

theorem splitOn_joinLines {lines : List (List Char)} (flat : ∀ line ∈ lines, '\n' ∉ line) :
    (joinLines lines).splitOn '\n' = lines ++ [[]] := by
  induction lines with
  | nil => rfl
  | cons line rest ih =>
    have later := ih fun other member => flat other (List.mem_cons_of_mem _ member)
    have here := List.splitOn_append_cons_self_of_not_mem (flat line (List.mem_cons_self ..))
      (joinLines rest)
    rw [later] at here
    simpa [joinLines] using here

theorem dropLast_of_getLast?_ne {c : Char} {text : List Char} (last : text.getLast? ≠ some c) :
    dropLast c text = text := by
  simp only [dropLast, if_neg last]

/-- A text that is made of lines has just these lines. -/
theorem linesOf_joinLines {lines : List (List Char)} (flat : ∀ line ∈ lines, '\n' ∉ line)
    (ends : ∀ line ∈ lines, line.getLast? ≠ some '\r') : linesOf (joinLines lines) = lines := by
  rw [linesOf, splitOn_joinLines flat]
  clear flat
  induction lines with
  | nil => rfl
  | cons line rest ih =>
    have later := ih fun other member => ends other (List.mem_cons_of_mem _ member)
    have here := dropLast_of_getLast?_ne (ends line (List.mem_cons_self ..))
    cases rest with
    | nil => simp [linesOfPieces, here]
    | cons next others =>
      simp only [List.cons_append] at later
      simp only [List.cons_append, linesOfPieces, here, later]

/-- Before a further piece, all that pieces lose is a carriage return at the end. -/
theorem linesOfPieces_append (pieces : List (List Char)) {rest : List (List Char)}
    (more : rest ≠ []) :
    linesOfPieces (pieces ++ rest) = pieces.map (dropLast '\r') ++ linesOfPieces rest := by
  induction pieces with
  | nil => rfl
  | cons piece others ih =>
    have behind : others ++ rest ≠ [] := by simp [more]
    obtain ⟨next, last, shape⟩ := List.exists_cons_of_ne_nil behind
    rw [List.cons_append, shape, linesOfPieces, ← shape, ih]
    · rfl
    · simp

/-- Behind a line feed the lines of a text begin anew. -/
theorem linesOf_append {text : List Char} (ends : ∀ c ∈ text.getLast?, c = '\n')
    (more : List Char) : linesOf (text ++ more) = linesOf text ++ linesOf more := by
  rcases List.eq_nil_or_concat text with rfl | ⟨front, c, rfl⟩
  · rfl
  · obtain rfl : c = '\n' := ends c (by simp)
    have split := fun later => List.splitOn_append_cons_self (a := '\n') front later
    rw [linesOf, linesOf, linesOf, List.concat_append, split more, List.concat_eq_append, split [],
      linesOfPieces_append _ (List.splitOn_ne_nil '\n' more), linesOfPieces_append _ (by simp)]
    simp [linesOfPieces]

theorem mem_of_mem_dropLast {c d : Char} {text : List Char} (member : d ∈ dropLast c text) :
    d ∈ text := by
  unfold dropLast at member
  split at member
  · exact List.dropLast_subset _ member
  · exact member

/-- A line is a piece between line feeds, but for a carriage return at its end. -/
theorem mem_linesOfPieces {pieces : List (List Char)} {line : List Char}
    (member : line ∈ linesOfPieces pieces) :
    ∃ before piece after, pieces = before ++ piece :: after ∧
      (line = piece ∧ after = [] ∨ line = dropLast '\r' piece ∧ after ≠ []) := by
  induction pieces with
  | nil => simp [linesOfPieces] at member
  | cons piece rest ih =>
    cases rest with
    | nil =>
      have same : line = piece := by
        simp only [linesOfPieces] at member
        split at member
        · simp at member
        · simpa using member
      exact ⟨[], piece, [], rfl, Or.inl ⟨same, rfl⟩⟩
    | cons next others =>
      simp only [linesOfPieces, List.mem_cons] at member
      rcases member with here | later
      · exact ⟨[], piece, next :: others, rfl, Or.inr ⟨here, by simp⟩⟩
      · obtain ⟨before, found, after, whole, form⟩ := ih later
        exact ⟨piece :: before, found, after, by rw [whole]; rfl, form⟩

/-- The pieces of a split text are made of its other characters. -/
theorem mem_piece {c d : Char} {text piece : List Char} (member : piece ∈ text.splitOn c)
    (inside : d ∈ piece) : d ∈ text ∧ d ≠ c := by
  induction text generalizing piece with
  | nil =>
    simp only [List.splitOn_nil, List.mem_singleton] at member
    simp [member] at inside
  | cons e rest ih =>
    rw [List.splitOn_cons_eq_if_modifyHead] at member
    split at member
    · rcases List.mem_cons.mp member with here | later
      · simp [here] at inside
      · exact (ih later inside).imp_left (List.mem_cons_of_mem _)
    · rename_i other
      cases pieces : rest.splitOn c with
      | nil => simp [pieces] at member
      | cons first others =>
        simp only [pieces, List.modifyHead_cons, List.mem_cons] at member ih
        rcases member with rfl | later
        · rcases List.mem_cons.mp inside with rfl | deeper
          · exact ⟨List.mem_cons_self .., by simpa using other⟩
          · exact (ih (Or.inl rfl) deeper).imp_left (List.mem_cons_of_mem _)
        · exact (ih (Or.inr later) inside).imp_left (List.mem_cons_of_mem _)

theorem separator_not_mem_piece {c : Char} {text piece : List Char}
    (member : piece ∈ text.splitOn c) : c ∉ piece := fun inside => (mem_piece member inside).2 rfl

theorem newline_not_mem_line {text line : List Char} (member : line ∈ linesOf text) :
    '\n' ∉ line := by
  obtain ⟨before, piece, after, whole, form⟩ := mem_linesOfPieces member
  have clean : '\n' ∉ piece := separator_not_mem_piece (by rw [whole]; simp)
  rcases form with ⟨rfl, _⟩ | ⟨rfl, _⟩
  · exact clean
  · exact fun inside => clean (mem_of_mem_dropLast inside)

theorem intercalate_eq (c : Char) (first : List Char) (rest : List (List Char)) :
    [c].intercalate (first :: rest) = first ++ rest.flatMap (c :: ·) := by
  induction rest generalizing first with
  | nil => simp
  | cons next others ih => simp [List.intercalate_cons_cons, ih]

/-- Where a piece stands in the text it was cut from. -/
theorem piece_position {text piece : List Char} {before after : List (List Char)}
    (whole : text.splitOn '\n' = before ++ piece :: after) :
    ∃ front, text = front ++ piece ++ after.flatMap ('\n' :: ·) := by
  have joined : ['\n'].intercalate (text.splitOn '\n') = text := List.intercalate_splitOn '\n'
  rw [whole] at joined
  clear whole
  cases before with
  | nil => exact ⟨[], by rw [← joined, List.nil_append, intercalate_eq]; simp⟩
  | cons first others =>
    refine ⟨first ++ others.flatMap ('\n' :: ·) ++ ['\n'], ?_⟩
    rw [← joined, List.cons_append, intercalate_eq]
    simp

theorem return_not_mem_line {text line : List Char} (returns : ReturnsEndLines text)
    (member : line ∈ linesOf text) : '\r' ∉ line := by
  obtain ⟨before, piece, after, whole, form⟩ := mem_linesOfPieces member
  obtain ⟨front, position⟩ := piece_position whole
  have clean : '\n' ∉ piece := separator_not_mem_piece (by rw [whole]; simp)
  -- A return inside a piece can only be its last character, with a further piece behind it.
  have placed : ∀ left right, piece = left ++ '\r' :: right → right = [] ∧ after ≠ [] := by
    intro left right split
    have next := returns (front ++ left) (right ++ after.flatMap ('\n' :: ·))
      (by rw [position, split]; simp)
    cases right with
    | nil =>
      refine ⟨rfl, fun none => ?_⟩
      simp [none] at next
    | cons c others =>
      have same : c = '\n' := by simpa using next
      exact absurd (by rw [split, same]; simp) clean
  intro inside
  rcases form with ⟨rfl, last⟩ | ⟨rfl, _⟩
  · obtain ⟨left, right, split⟩ := List.append_of_mem inside
    exact (placed left right split).2 last
  · obtain ⟨left, right, split⟩ := List.append_of_mem (mem_of_mem_dropLast inside)
    obtain ⟨rfl, _⟩ := placed left right split
    have front : '\r' ∉ left := by
      intro again
      obtain ⟨first, second, inner⟩ := List.append_of_mem again
      have early := (placed first (second ++ '\r' :: []) (by rw [split, inner]; simp)).1
      simp at early
    simp [split, dropLast, front] at inside

end ScenarioRunner
