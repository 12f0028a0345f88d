import ScenarioRunner.Scheme.Reference
import ScenarioRunner.Message.Table
import ScenarioRunner.Value

namespace ScenarioRunner

/-- The value of a call that cannot panic. -/
def returned {α : Type} : Except Empty α → α
  | .ok value => value

/-- What answers the references of a scheme. A function that fails tells the causes, the outermost
first. It may also panic, and what comes of that is a `π`. -/
inductive SchemeHandler (π : Type := Empty) where
  | function (answer : String → Params → Except π (Except (List String) Value))
  | messages (entries : Messages)
  | messageFile (file : MessageFile)

/-- Answers a reference. The handler that comes back is to be asked next. -/
def SchemeHandler.resolve {π : Type} (handler : SchemeHandler π) (disk : FileTree) (key : String)
    (params : Params) : Except π (Except (List String) Value) × SchemeHandler π :=
  match handler with
  | function answer => (answer key params, handler)
  | messages entries =>
    (.ok (((entries.lookUp key params).mapError MessageError.causes).map .string), handler)
  | messageFile file =>
    let (answer, file) := file.lookUp disk key params
    (.ok ((answer.mapError MessageError.causes).map .string), messageFile file)

/-- Why a value cannot be resolved. -/
inductive SchemeError where
  | unknownScheme (param : String) (schemes : List String)
  | handler (scheme key : String) (causes : List String)
  | malformed (param : String) (fault : ReferenceFault)
  deriving DecidableEq, Repr

def SchemeError.message : SchemeError → String
  | unknownScheme param schemes =>
    "unknown scheme in parameter `" ++ param ++ "`, registered schemes: [" ++
      ", ".intercalate schemes ++ "]"
  | handler scheme key causes =>
    "scheme `" ++ scheme ++ "` failed to resolve `" ++ key ++ "`: " ++ ": ".intercalate causes
  | malformed param fault => "malformed parameter `" ++ param ++ "`: " ++ fault.message

/-- An argument before and after it was looked up, and the scheme that answered. -/
structure ResolvedValue where
  given : Value
  value : Value
  scheme : Option String
  deriving Repr

def ResolvedValue.literal (value : Value) : ResolvedValue := ⟨value, value, none⟩

/-- Handlers under their schemes, in the order of the schemes' names. -/
structure Resolver (π : Type := Empty) where
  handlers : List (String × SchemeHandler π) := []

namespace Resolver

variable {π : Type}

def schemes (resolver : Resolver π) : List String := resolver.handlers.map Prod.fst

/-- Puts a handler in its place. -/
def insert (scheme : String) (handler : SchemeHandler π) :
    List (String × SchemeHandler π) → List (String × SchemeHandler π)
  | [] => [(scheme, handler)]
  | (other, before) :: rest =>
    if scheme < other then (scheme, handler) :: (other, before) :: rest
    else if scheme = other then (scheme, handler) :: rest
    else (other, before) :: insert scheme handler rest

/-- Registers a handler; one of the same scheme is replaced. -/
def withHandler (resolver : Resolver π) (scheme : String) (handler : SchemeHandler π) :
    Resolver π :=
  ⟨insert scheme handler resolver.handlers⟩

/-- Looks a text up if it is a reference. Its form is checked before its scheme. -/
def resolve (resolver : Resolver π) (disk : FileTree) (raw : String) :
    Except π (Except SchemeError ResolvedValue) × Resolver π :=
  match SchemeReference.read raw with
  | .error fault => (.ok (.error (.malformed raw fault)), resolver)
  | .ok none => (.ok (.ok (.literal (.string raw))), resolver)
  | .ok (some reference) =>
    match resolver.handlers.lookup reference.scheme with
    | none => (.ok (.error (.unknownScheme raw resolver.schemes)), resolver)
    | some handler =>
      let (answer, handler) := handler.resolve disk reference.key reference.params
      let resolver := resolver.withHandler reference.scheme handler
      match answer with
      | .error payload => (.error payload, resolver)
      | .ok (.error causes) =>
        (.ok (.error (.handler reference.scheme reference.key causes)), resolver)
      | .ok (.ok value) => (.ok (.ok ⟨.string raw, value, some reference.scheme⟩), resolver)

/-- Looks a value up. Only texts can be references; values of other kinds stand for themselves. -/
def resolveValue (resolver : Resolver π) (disk : FileTree) :
    Value → Except π (Except SchemeError ResolvedValue) × Resolver π
  | .string raw => resolver.resolve disk raw
  | other => (.ok (.ok (.literal other)), resolver)

/-- Looks values up one after another. The first failure ends it. -/
def resolveAll (resolver : Resolver π) (disk : FileTree) :
    List Value → Except π (Except SchemeError (List ResolvedValue)) × Resolver π
  | [] => (.ok (.ok []), resolver)
  | value :: rest =>
    let (first, resolver) := resolver.resolveValue disk value
    match first with
    | .error payload => (.error payload, resolver)
    | .ok (.error error) => (.ok (.error error), resolver)
    | .ok (.ok resolved) =>
      let (others, resolver) := resolver.resolveAll disk rest
      (others.map (·.map (resolved :: ·)), resolver)

end Resolver

end ScenarioRunner
