import ScenarioRunner.Message.Format
import ScenarioRunner.Text.Bytes

namespace ScenarioRunner

/-- The opening of a plural block: the bytes that it takes in the template, and its parameter. -/
structure BlockOpening where
  start : Nat
  length : Nat
  name : List Char
  deriving DecidableEq, Repr

def BlockOpening.stop (opening : BlockOpening) : Nat := opening.start + opening.length

/-- The openings of a template, of which the pieces start at the position. -/
def blockOpenings (position : Nat) : List PluralPiece → List BlockOpening
  | [] => []
  | .plain c :: rest => blockOpenings (position + c.utf8Size) rest
  | .opening name source :: rest =>
    ⟨position, byteLength source, name⟩ :: blockOpenings (position + byteLength source) rest

/-- The position of the brace that closes the last of `depth` braces. The text starts at `position`. -/
def closingPosition? (depth position : Nat) : List Char → Option Nat
  | [] => none
  | c :: rest =>
    if c = '\x7b' then closingPosition? (depth + 1) (position + c.utf8Size) rest
    else if c = '\x7d' then
      match depth with
      | 0 => none
      | 1 => some position
      | depth + 2 => closingPosition? (depth + 1) (position + c.utf8Size) rest
    else closingPosition? depth (position + c.utf8Size) rest

/-- The position of the brace that closes the one at `start`. -/
def closingBrace (text : List Char) (start : Nat) : Except CutError (Option Nat) := do
  let (_, rest) ← cutAtByte start text
  return closingPosition? 0 start rest

theorem exists_of_bind_eq_ok {ε α β : Type} {first : Except ε α} {next : α → Except ε β} {b : β}
    (done : first >>= next = .ok b) : ∃ a, first = .ok a ∧ next a = .ok b := by
  cases first with
  | error failure => cases done
  | ok a => exact ⟨a, rfl, done⟩

/-- The form between two positions. It is passed over if it has no keyword. -/
def keyedForm? (keyword : List Char) (start stop : Nat) (text : List Char) :
    Except CutError (Option (List Char × List Char)) :=
  if keyword = [] then .ok none
  else (byteSlice start stop text).map fun form => some (keyword, form)

/-- Reads a form and its keyword, and tells where to go on. There is nothing more to read where no form
opens, and where one is not closed. -/
def readForm (text : List Char) :
    Except CutError (Option (Option (List Char × List Char) × List Char)) := do
  let text := trimStart text
  match bytePosition? '\x7b' text with
  | none => return none
  | some start =>
    let keyword := trim (← byteSlice 0 start text)
    match ← closingBrace text start with
    | none => return none
    | some stop =>
      let form? ← keyedForm? keyword (start + 1) stop text
      let (_, rest) ← cutAtByte (stop + 1) text
      return some (form?, rest)

theorem length_readForm {text rest : List Char} {form? : Option (List Char × List Char)}
    (read : readForm text = .ok (some (form?, rest))) : rest.length < text.length := by
  unfold readForm at read
  simp only at read
  split at read
  · cases read
  · obtain ⟨keyword, _, read⟩ := exists_of_bind_eq_ok read
    obtain ⟨stop?, _, read⟩ := exists_of_bind_eq_ok read
    split at read
    · cases read
    · obtain ⟨found, _, read⟩ := exists_of_bind_eq_ok read
      obtain ⟨⟨before, behind⟩, cut, read⟩ := exists_of_bind_eq_ok read
      cases read
      exact Nat.lt_of_lt_of_le (length_cutAtByte (Nat.succ_ne_zero _) cut) (trimStart_length_le text)

/-- The forms under their keywords. -/
def readForms (text : List Char) : Except CutError (List (List Char × List Char)) :=
  match _h : readForm text with
  | .error failure => .error failure
  | .ok none => .ok []
  | .ok (some (form?, rest)) => (readForms rest).map (form?.toList ++ ·)
termination_by text.length
decreasing_by exact length_readForm _h

theorem readForms_of_none {text : List Char} (read : readForm text = .ok none) :
    readForms text = .ok [] := by
  rw [readForms]
  split <;> simp_all

theorem readForms_of_some {text rest : List Char} {form? : Option (List Char × List Char)}
    (read : readForm text = .ok (some (form?, rest))) :
    readForms text = (readForms rest).map (form?.toList ++ ·) := by
  rw [readForms]
  split <;> simp_all

/-- Puts the chosen form in the place of a block. A block of an unknown parameter, or one that is not
closed, stays. -/
def replaceBlock (params : Params) (opening : BlockOpening) (text : List Char) :
    Except CutError (List Char) :=
  match params.get? (String.ofList opening.name) with
  | none => .ok text
  | some value => do
    match ← closingBrace text opening.start with
    | none => return text
    | some stop =>
      let rules ← readForms (← byteSlice opening.stop stop text)
      let form := (selectForm rules value.toList).flatMap fun c => if c = '#' then value.toList else [c]
      replaceBytes opening.start (stop + 1) form text

/-- Replaces the blocks of a text from the last to the first, so that the positions of those before
still hold. -/
def replaceBlocks (params : Params) (openings : List BlockOpening) (text : List Char) :
    Except CutError (List Char) :=
  openings.foldrM (replaceBlock params) text

/-- Fills a message by changing a copy of the template at the positions that were found in it. -/
def formatInPlace (template : String) (params : Params) : Except CutError String := do
  let openings := blockOpenings 0 (pluralPieces template.toList)
  let text ← replaceBlocks params openings template.toList
  return String.ofList ((bracedPieces text).flatMap (·.fill params))

end ScenarioRunner
