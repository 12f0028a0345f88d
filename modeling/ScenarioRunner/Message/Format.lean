import ScenarioRunner.Number.Read
import ScenarioRunner.Message.Params
import ScenarioRunner.Text.Blank
import ScenarioRunner.Text.Braced
import ScenarioRunner.Text.Cut

namespace ScenarioRunner

/-- A stretch of a message: one character, or the opening of a plural block with the name of its
parameter and its spelling. -/
inductive PluralPiece where
  | plain (c : Char)
  | opening (name source : List Char)
  deriving DecidableEq, Repr

/-- Reads `name , plural ,` right after an opening brace. Blanks may stand around each part. -/
def pluralOpening? (text : List Char) : Option (List Char × List Char) :=
  let named := trimStart text
  match named.takeWhile isWordChar, trimStart (named.dropWhile isWordChar) with
  | name@(_ :: _), ',' :: rest =>
    match afterStart? "plural".toList (trimStart rest) with
    | some rest =>
      match trimStart rest with
      | ',' :: rest => some (name, rest)
      | _ => none
    | none => none
  | _, _ => none

theorem pluralOpening?_length {text name rest : List Char}
    (h : pluralOpening? text = some (name, rest)) : rest.length < text.length := by
  unfold pluralOpening? at h
  simp only at h
  split at h
  · rename_i first names tail taken comma
    split at h
    · rename_i afterWord found
      split at h
      · rename_i last second
        cases h
        have a := trimStart_length_le text
        have b := (List.dropWhile_suffix (l := trimStart text) isWordChar).length_le
        have c := trimStart_length_le ((trimStart text).dropWhile isWordChar)
        have d := trimStart_length_le tail
        have e := congrArg List.length (afterStart?_eq_some found)
        have f := trimStart_length_le afterWord
        rw [comma] at c
        rw [second] at f
        simp only [List.length_cons, List.length_append] at c e f
        omega
      · cases h
    · cases h
  · cases h

/-- Splits a message from left to right; a brace that opens no block stands for itself. -/
def pluralPieces : List Char → List PluralPiece
  | [] => []
  | c :: rest =>
    match _h : if c = '\x7b' then pluralOpening? rest else none with
    | some (name, after) =>
      .opening name (c :: rest.take (rest.length - after.length)) :: pluralPieces after
    | none => .plain c :: pluralPieces rest
termination_by text => text.length
decreasing_by
  · split at _h
    · have := pluralOpening?_length _h
      simp only [List.length_cons]
      omega
    · cases _h
  · simp

/-- Splits a text at the brace that closes the innermost of the braces that are open before it.
`depth` counts the others. -/
def closing? (depth : Nat) : List Char → Option (List Char × List Char)
  | [] => none
  | c :: rest =>
    if c = '\x7d' then
      match depth with
      | 0 => some ([], rest)
      | depth + 1 => (closing? depth rest).map fun (body, after) => (c :: body, after)
    else
      (closing? (if c = '\x7b' then depth + 1 else depth) rest).map fun (body, after) =>
        (c :: body, after)

theorem closing?_eq_some {depth : Nat} {text body after : List Char}
    (h : closing? depth text = some (body, after)) : text = body ++ '\x7d' :: after := by
  induction text generalizing depth body with
  | nil => simp [closing?] at h
  | cons c rest ih =>
    unfold closing? at h
    split at h
    · rename_i close
      split at h
      · cases h
        simp [close]
      · obtain ⟨⟨inner, tail⟩, found, equal⟩ := Option.map_eq_some_iff.1 h
        cases equal
        simp [ih found]
    · obtain ⟨⟨inner, tail⟩, found, equal⟩ := Option.map_eq_some_iff.1 h
      cases equal
      simp [ih found]

/-- The forms of a plural block under their keywords. Reading stops at the first form that is not
closed; a form without a keyword is passed over. -/
def pluralRules (body : List Char) : List (List Char × List Char) :=
  match _h : cutAt? '\x7b' body with
  | none => []
  | some (keyword, rest) =>
    match _g : closing? 0 rest with
    | none => []
    | some (form, after) =>
      if trim keyword = [] then pluralRules after
      else (trim keyword, form) :: pluralRules after
termination_by body.length
decreasing_by
  all_goals
    obtain ⟨rfl, _⟩ := cutAt?_eq_some _h
    rw [closing?_eq_some _g]
    simp
    omega

/-- The form for a value: the one for exactly this number, or the one for all others, or nothing.
Of forms with one keyword the last counts. -/
def selectForm (rules : List (List Char × List Char)) (value : List Char) : List Char :=
  let exact := (readInt64? (trim value)).bind fun n =>
    rules.reverse.lookup ('=' :: (toString n.toInt).toList)
  (exact.or (rules.reverse.lookup "other".toList)).getD []

/-- Resolves the blocks of a message from the last to the first, so that a block is chosen from when
everything inside of it has been resolved. Blocks of unknown parameters, and blocks that are not
closed, stay as they are. -/
def resolveBlocks (params : Params) : List PluralPiece → List Char
  | [] => []
  | .plain c :: rest => c :: resolveBlocks params rest
  | .opening name source :: rest =>
    let tail := resolveBlocks params rest
    match params.get? (String.ofList name), closing? 0 tail with
    | some value, some (body, after) =>
      (selectForm (pluralRules body) value.toList).flatMap
        (fun c => if c = '#' then value.toList else [c]) ++ after
    | _, _ => source ++ tail

/-- A token of a known parameter becomes its value. -/
def BracedPiece.fill (params : Params) (piece : BracedPiece) : List Char :=
  match piece with
  | .plain c => [c]
  | .token name =>
    match params.get? (String.ofList name) with
    | some value => value.toList
    | none => piece.source

/-- Fills a message: plural blocks first, then the remaining tokens in one pass. -/
def formatMessage (template : String) (params : Params) : String :=
  String.ofList ((bracedPieces (resolveBlocks params (pluralPieces template.toList))).flatMap
    (·.fill params))

end ScenarioRunner
