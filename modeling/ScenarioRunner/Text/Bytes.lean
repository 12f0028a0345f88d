namespace ScenarioRunner

/-- How many bytes a text takes in UTF-8. -/
def byteLength : List Char → Nat
  | [] => 0
  | c :: rest => c.utf8Size + byteLength rest

@[simp] theorem byteLength_append (first second : List Char) :
    byteLength (first ++ second) = byteLength first + byteLength second := by
  induction first with
  | nil => simp [byteLength]
  | cons c rest ih => simp [byteLength, ih, Nat.add_assoc]

/-- Why a text cannot be cut at byte positions. -/
inductive CutError where
  | outside
  | insideCharacter
  | reversed
  deriving DecidableEq, Repr

/-- The text before a byte position and the text after it. The position has to be in the text, and not
inside of a character. -/
def cutAtByte (position : Nat) : List Char → Except CutError (List Char × List Char)
  | [] => if position = 0 then .ok ([], []) else .error .outside
  | c :: rest =>
    if position = 0 then .ok ([], c :: rest)
    else if c.utf8Size ≤ position then
      (cutAtByte (position - c.utf8Size) rest).map fun (before, after) => (c :: before, after)
    else .error .insideCharacter

@[simp] theorem cutAtByte_zero (text : List Char) : cutAtByte 0 text = .ok ([], text) := by
  cases text <;> rfl

@[simp] theorem cutAtByte_append (before after : List Char) :
    cutAtByte (byteLength before) (before ++ after) = .ok (before, after) := by
  induction before with
  | nil => exact cutAtByte_zero after
  | cons c rest ih =>
    have some := c.utf8Size_pos
    have first : c.utf8Size + byteLength rest ≠ 0 := by omega
    rw [List.cons_append, byteLength, cutAtByte, if_neg first, if_pos (Nat.le_add_right ..),
      Nat.add_sub_cancel_left, ih]
    rfl

/-- Behind any position but the first there is less of the text. -/
theorem length_cutAtByte {position : Nat} {text before after : List Char} (later : position ≠ 0)
    (cut : cutAtByte position text = .ok (before, after)) : after.length < text.length := by
  induction text generalizing position before with
  | nil =>
    rw [cutAtByte, if_neg later] at cut
    cases cut
  | cons c rest ih =>
    rw [cutAtByte, if_neg later] at cut
    split at cut
    · by_cases last : position - c.utf8Size = 0
      · rw [last, cutAtByte_zero] at cut
        cases cut
        exact Nat.lt_succ_self _
      · cases found : cutAtByte (position - c.utf8Size) rest with
        | error failure =>
          rw [found] at cut
          cases cut
        | ok parts =>
          rw [found] at cut
          cases cut
          exact Nat.lt_succ_of_lt (ih last found)
    · cases cut

/-- The stretch of a text from one byte position up to another. -/
def byteSlice (start stop : Nat) (text : List Char) : Except CutError (List Char) :=
  if start ≤ stop then do
    let (front, _) ← cutAtByte stop text
    let (_, found) ← cutAtByte start front
    return found
  else .error .reversed

theorem byteSlice_append (before found after : List Char) :
    byteSlice (byteLength before) (byteLength before + byteLength found) (before ++ found ++ after) =
      .ok found := by
  rw [byteSlice, if_pos (Nat.le_add_right ..), ← byteLength_append, cutAtByte_append]
  simp only [bind, Except.bind, cutAtByte_append]
  rfl

theorem byteSlice_zero (found after : List Char) :
    byteSlice 0 (byteLength found) (found ++ after) = .ok found := by
  have first := byteSlice_append [] found after
  rwa [byteLength, Nat.zero_add] at first

/-- Puts something else between two byte positions. -/
def replaceBytes (start stop : Nat) (new text : List Char) : Except CutError (List Char) :=
  if start ≤ stop then do
    let (front, after) ← cutAtByte stop text
    let (before, _) ← cutAtByte start front
    return before ++ new ++ after
  else .error .reversed

theorem replaceBytes_append (before old new after : List Char) :
    replaceBytes (byteLength before) (byteLength before + byteLength old) new (before ++ old ++ after) =
      .ok (before ++ new ++ after) := by
  rw [replaceBytes, if_pos (Nat.le_add_right ..), ← byteLength_append, cutAtByte_append]
  simp only [bind, Except.bind, cutAtByte_append]
  rfl

/-- The byte position of the first `c`. -/
def bytePosition? (c : Char) : List Char → Option Nat
  | [] => none
  | d :: rest => if d = c then some 0 else (bytePosition? c rest).map (d.utf8Size + ·)

end ScenarioRunner
