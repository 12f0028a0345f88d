import ScenarioRunner.Message.Format
import ScenarioRunner.Proofs.Text.Braced

namespace ScenarioRunner

mutual

/-- A message as its author means it, read from the start. -/
inductive MessageTree where
  | done
  | text (text : List Char) (rest : MessageTree)
  | token (name : List Char) (rest : MessageTree)
  | plural (name : List Char) (forms : PluralForms) (rest : MessageTree)

/-- The forms of a plural block under their keywords. -/
inductive PluralForms where
  | done
  | form (keyword : List Char) (content : MessageTree) (rest : PluralForms)

end

mutual

def MessageTree.print : MessageTree → List Char
  | .done => []
  | .text text rest => text ++ rest.print
  | .token name rest => '\x7b' :: name ++ '\x7d' :: rest.print
  | .plural name forms rest =>
    '\x7b' :: name ++ ", plural,".toList ++ forms.print ++ '\x7d' :: rest.print

def PluralForms.print : PluralForms → List Char
  | .done => []
  | .form keyword content rest =>
    ' ' :: keyword ++ '\x7b' :: content.print ++ '\x7d' :: rest.print

end

/-- The form for a value: the one for exactly this number, or the one for all others, or nothing. -/
def chosenForm {α : Type} (value : List Char) (forms : List (List Char × List α)) : List α :=
  let exact := (readInt64? (trim value)).bind fun n =>
    forms.lookup ('=' :: (toString n.toInt).toList)
  (exact.or (forms.lookup "other".toList)).getD []

/-- `#` stands for the given text. -/
def replaceHash (hash text : List Char) : List Char :=
  text.flatMap fun c => if c = '#' then hash else [c]

mutual

/-- What the message says. `hash` is what `#` stands for: itself, or the value of the innermost
block around it. -/
def MessageTree.evaluate (params : Params) (hash : List Char) : MessageTree → List Char
  | .done => []
  | .text text rest => replaceHash hash text ++ rest.evaluate params hash
  | .token name rest =>
    (match params.get? (String.ofList name) with
      | some value => value.toList
      | none => '\x7b' :: name ++ ['\x7d']) ++ rest.evaluate params hash
  | .plural name forms rest =>
    (match params.get? (String.ofList name) with
      | some value => chosenForm value.toList (forms.evaluate params value.toList)
      | none => '\x7b' :: name ++ ", plural,".toList ++ forms.print ++ ['\x7d']) ++
      rest.evaluate params hash

def PluralForms.evaluate (params : Params) (hash : List Char) :
    PluralForms → List (List Char × List Char)
  | .done => []
  | .form keyword content rest =>
    (keyword, content.evaluate params hash) :: rest.evaluate params hash

end

def PluralForms.keywords : PluralForms → List (List Char)
  | .done => []
  | .form keyword _ rest => keyword :: rest.keywords

mutual

/-- The parameters that the blocks of the message depend on, at any depth. -/
def MessageTree.blockNames : MessageTree → List (List Char)
  | .done => []
  | .text _ rest => rest.blockNames
  | .token _ rest => rest.blockNames
  | .plural name forms rest => name :: forms.blockNames ++ rest.blockNames

def PluralForms.blockNames : PluralForms → List (List Char)
  | .done => []
  | .form _ content rest => content.blockNames ++ rest.blockNames

end

/-- The spelling `word , plural ,`, with any blanks around each part. -/
inductive PluralHeader (name : List Char) : List Char → Prop
  | spelled (lead afterName beforeWord afterWord : List Char) : IsWord name →
    (∀ c ∈ lead ++ afterName ++ beforeWord ++ afterWord, isBlank c = true) →
    PluralHeader name
      (lead ++ name ++ afterName ++ [','] ++ beforeWord ++ "plural".toList ++ afterWord ++ [','])

mutual

/-- Braces stand only where the structure of the message puts them, and no form would be read as a
block because of the way its content starts. -/
def MessageTree.WellFormed : MessageTree → Prop
  | .done => True
  | .text text rest => (∀ c ∈ text, isBrace c = false) ∧ rest.WellFormed
  | .token name rest => IsWord name ∧ rest.WellFormed
  | .plural name forms rest =>
    IsWord name ∧ forms.keywords.Nodup ∧ forms.WellFormed ∧ rest.WellFormed

def PluralForms.WellFormed : PluralForms → Prop
  | .done => True
  | .form keyword content rest =>
    (∀ c ∈ keyword, isBrace c = false ∧ isBlank c = false) ∧
      (∀ name header, PluralHeader name header → ¬ header <+: content.print) ∧
      content.WellFormed ∧ rest.WellFormed

end

end ScenarioRunner
