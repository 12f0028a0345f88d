import ScenarioRunner.Number.Notation

namespace ScenarioRunner

/-- A number of a JSON text: one that fits 64 bits, signed or not, is kept exactly. -/
inductive JsonNumber where
  | whole (n : Int)
  | real (x : Float)
  deriving Repr

def JsonNumber.text : JsonNumber → String
  | whole n => toString n
  | real x => jsonText x

/-- The content of a JSON text. The members of an object are in the order of their names, and each
name stands once. -/
inductive JsonValue where
  | null
  | bool (b : Bool)
  | number (n : JsonNumber)
  | string (text : String)
  | array (items : List JsonValue)
  | object (members : List (String × JsonValue))

namespace JsonValue

/-- Puts a member in its place; one with the same name is replaced. -/
def insertMember (name : String) (value : JsonValue) :
    List (String × JsonValue) → List (String × JsonValue)
  | [] => [(name, value)]
  | (other, before) :: rest =>
    if name < other then (name, value) :: (other, before) :: rest
    else if name = other then (name, value) :: rest
    else (other, before) :: insertMember name value rest

def ofMembers (members : List (String × JsonValue)) : JsonValue :=
  .object (members.foldl (fun sorted (name, value) => insertMember name value sorted) [])

end JsonValue

end ScenarioRunner
