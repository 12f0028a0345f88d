import ScenarioRunner.Text.Words

namespace ScenarioRunner

/-- A stretch of a text with `{word}` tokens: one character that stands for itself, or a token. -/
inductive BracedPiece where
  | plain (c : Char)
  | token (name : List Char)
  deriving DecidableEq, Repr

/-- Reads a word up to a closing brace, right after the opening one. -/
def bracedWord? (text : List Char) : Option (List Char × List Char) :=
  match text.takeWhile isWordChar, text.dropWhile isWordChar with
  | name@(_ :: _), '\x7d' :: rest => some (name, rest)
  | _, _ => none

theorem bracedWord?_length {text name rest : List Char}
    (h : bracedWord? text = some (name, rest)) : rest.length < text.length := by
  have whole := List.takeWhile_append_dropWhile (p := isWordChar) (l := text)
  unfold bracedWord? at h
  split at h
  · rename_i first names tail taken dropped
    cases h
    rw [← whole, taken, dropped]
    simp
    omega
  · cases h

/-- Splits a text from left to right; a brace that opens no token stands for itself. -/
def bracedPieces : List Char → List BracedPiece
  | [] => []
  | c :: rest =>
    match _h : if c = '\x7b' then bracedWord? rest else none with
    | some (name, after) => .token name :: bracedPieces after
    | none => .plain c :: bracedPieces rest
termination_by text => text.length
decreasing_by
  · split at _h
    · have := bracedWord?_length _h
      simp only [List.length_cons]
      omega
    · cases _h
  · simp

/-- The spelling that a piece was read from. -/
def BracedPiece.source : BracedPiece → List Char
  | .plain c => [c]
  | .token name => '\x7b' :: name ++ ['\x7d']

end ScenarioRunner
