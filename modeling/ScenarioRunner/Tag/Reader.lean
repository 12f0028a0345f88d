import ScenarioRunner.Tag.Expression
import ScenarioRunner.Text.Cut

namespace ScenarioRunner

namespace TagReader

/-- Only spaces and tabs may stand between words. -/
def skipSpaces (text : List Char) : List Char := text.dropWhile fun c => c = ' ' || c = '\t'

/-- Reads the characters of a tag. Parentheses, spaces and backslashes need a backslash before
them. A backslash before anything else ends the tag and is passed over, but the text may not end
with one. -/
def readName? : List Char → Option (List Char × List Char)
  | [] => some ([], [])
  | '\\' :: c :: rest =>
    if c = '\\' || c = '(' || c = ')' || c = ' ' then
      (readName? rest).map fun (name, rest) => (c :: name, rest)
    else some ([], c :: rest)
  | ['\\'] => none
  | c :: rest =>
    if isBlank c || c = '@' || c = '(' || c = ')' then some ([], c :: rest)
    else (readName? rest).map fun (name, rest) => (c :: name, rest)

mutual

/-- Reads an expression. `and` and `or` bind equally strong and to the right, and `not` takes
everything to its right. -/
def readExpression? : Nat → List Char → Option (TagExpression × List Char)
  | 0, _ => none
  | fuel + 1, text =>
    match readOperand? fuel text with
    | some (a, rest) =>
      let next := skipSpaces rest
      let conjunction := (afterStart? "and".toList next).bind fun after =>
        (readExpression? fuel (skipSpaces after)).map fun (b, rest) => (.conjunction a b, rest)
      let disjunction := (afterStart? "or".toList next).bind fun after =>
        (readExpression? fuel (skipSpaces after)).map fun (b, rest) => (.disjunction a b, rest)
      (conjunction.or disjunction).or (some (a, rest))
    | none =>
      (afterStart? "not".toList text).bind fun after =>
        (readExpression? fuel (skipSpaces after)).map fun (a, rest) => (.negation a, rest)

/-- Reads a tag, or an expression in parentheses with the spaces behind it. Something must stand
after the `@` of a tag, if only a backslash that is passed over: that tag has no name. -/
def readOperand? : Nat → List Char → Option (TagExpression × List Char)
  | 0, _ => none
  | fuel + 1, text =>
    match text with
    | '@' :: rest =>
      match readName? rest with
      | some (name, after) =>
        if after.length < rest.length then some (.tag (String.ofList name), after) else none
      | none => none
    | '(' :: rest =>
      match readExpression? fuel rest with
      | some (a, ')' :: rest) => some (a, skipSpaces rest)
      | _ => none
    | _ => none

end

end TagReader

/-- Reads a condition on tags. The whole text must belong to it. -/
def TagExpression.read? (source : String) : Option TagExpression :=
  let text := source.toList
  match TagReader.readExpression? (2 * text.length + 2) text with
  | some (expression, []) => some expression
  | _ => none

end ScenarioRunner
