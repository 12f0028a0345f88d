import ScenarioRunner.Message.Params
import ScenarioRunner.Text.Blank
import ScenarioRunner.Text.Cut
import ScenarioRunner.Text.Words

namespace ScenarioRunner

/-- A value to be looked up: which scheme knows it, under which key, and with which parameters. -/
structure SchemeReference where
  scheme : String
  key : String
  params : Params := .empty
  deriving DecidableEq, Repr

/-- Why a text in the form of a reference is none. -/
inductive ReferenceFault where
  | unclosedList
  | noNameValueForm
  | emptyName
  deriving DecidableEq, Repr

def ReferenceFault.message : ReferenceFault → String
  | unclosedList => "unclosed parameter list"
  | noNameValueForm => "parameter has no `name: value` form"
  | emptyName => "parameter has empty name"

/-- The pieces between commas that stand outside of single quotes. -/
def splitOutsideQuotes (quoted : Bool) : List Char → List (List Char)
  | [] => [[]]
  | c :: rest =>
    if c = ',' && !quoted then [] :: splitOutsideQuotes quoted rest
    else match splitOutsideQuotes (if c = '\x27' then !quoted else quoted) rest with
      | [] => [[c]]
      | piece :: pieces => (c :: piece) :: pieces

/-- Drops a pair of single quotes around a text. -/
def unquote (text : List Char) : List Char :=
  match text with
  | '\x27' :: rest => if rest.getLast? = some '\x27' then rest.dropLast else text
  | _ => text

/-- Reads `name: value`. -/
def readParam (item : List Char) : Except ReferenceFault (String × String) :=
  match cutAt? ':' item with
  | none => .error .noNameValueForm
  | some (name, value) =>
    if trim name = [] then .error .emptyName
    else .ok (String.ofList (trim name), String.ofList (unquote (trim value)))

/-- Reads the items of a list; empty ones are passed over. -/
def readParams (list : List Char) : Except ReferenceFault Params :=
  (((splitOutsideQuotes false list).filter fun item => trim item != []).mapM readParam).map
    KeyedList.ofEntries

/-- The scheme of a text in braces and what follows its colon. Any other text is no reference. -/
def schemeOf? (raw : List Char) : Option (List Char × List Char) :=
  match raw with
  | '\x7b' :: inside =>
    match inside.takeWhile isWordChar, inside.dropWhile isWordChar with
    | scheme@(_ :: _), ':' :: rest =>
      if rest.getLast? = some '\x7d' then some (scheme, rest.dropLast) else none
    | _, _ => none
  | _ => none

/-- Reads the key and the parameters in parentheses behind it. -/
def readReference (scheme rest : List Char) : Except ReferenceFault SchemeReference :=
  match cutAt? '(' rest with
  | none => .ok { scheme := String.ofList scheme, key := String.ofList (trim rest) }
  | some (key, list) =>
    if (trimEnd list).getLast? = some ')' then
      (readParams (trimEnd list).dropLast).map fun params =>
        { scheme := String.ofList scheme, key := String.ofList (trim key), params }
    else .error .unclosedList

/-- Reads a text as a reference, if it has the form of one. -/
def SchemeReference.read (raw : String) : Except ReferenceFault (Option SchemeReference) :=
  match schemeOf? raw.toList with
  | none => .ok none
  | some (scheme, rest) => (readReference scheme rest).map some

end ScenarioRunner
