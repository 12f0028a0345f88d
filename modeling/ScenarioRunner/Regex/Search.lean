import ScenarioRunner.Regex.Syntax

namespace ScenarioRunner

namespace Regex

/-- The places of the second list that the first does not have yet, behind those of the first. -/
def mergePlaces (known found : List Nat) : List Nat :=
  known ++ found.filter fun place => !known.contains place

/-- All places that any number of steps lead to, the places themselves included. A text with as many
places as there is fuel has no more than that many to find. -/
def closure (step : List Nat → List Nat) : Nat → List Nat → List Nat → List Nat
  | 0, known, _ => known
  | fuel + 1, known, fresh =>
    if fresh.isEmpty then known
    else
      let next := (step fresh).filter fun place => !known.contains place
      closure step fuel (known ++ next) next

/-- The places that a fixed number of steps leads to. -/
def steps (step : List Nat → List Nat) : Nat → List Nat → List Nat
  | 0, places => places
  | count + 1, places => steps step count (step places)

/-- The places that at most the given number of steps leads to. -/
def stepsUpTo (step : List Nat → List Nat) : Nat → List Nat → List Nat
  | 0, places => places
  | count + 1, places => mergePlaces places (stepsUpTo step count (step places))

/-- Where matches that start at the given places may end. All places are followed at once, so that
repetitions inside repetitions stay cheap. -/
def ends (text : Array Char) : Regex → List Nat → List Nat
  | empty, places => places
  | set chars, places =>
    (places.filter fun place => text[place]?.any chars.contains).map (· + 1)
  | anchor condition, places =>
    places.filter fun place =>
      condition.holds (if place = 0 then none else text[place - 1]?) text[place]?
  | sequence a b, places => ends text b (ends text a places)
  | either a b, places => mergePlaces (ends text a places) (ends text b places)
  | repeated a least most, places =>
    let reached := steps (ends text a) least places
    match most with
    | some most => stepsUpTo (ends text a) (most - least) reached
    | none => closure (ends text a) (text.size + 1) reached reached
  | nested a, places => ends text a places

/-- Does the expression match anywhere in the text? -/
def matchesIn (regex : Regex) (text : String) : Bool :=
  let chars := text.toList.toArray
  !(ends chars regex (List.range (chars.size + 1))).isEmpty

end Regex

end ScenarioRunner
