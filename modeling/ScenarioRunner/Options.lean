import ScenarioRunner.Config
import ScenarioRunner.Plan.Builder

namespace ScenarioRunner

/-- What the command line may change about a run. -/
structure Options where
  name : Option NameFilter := none
  tags : Option TagExpression := none
  wip : Bool := false
  planMode : PlanMode := .flat
  root : Option SourcePath := none
  deriving DecidableEq, Repr

namespace Options

/-- Only options that were given override the configuration. -/
def apply (options : Options) (config : Config) : Config :=
  { config with
    nameFilter := options.name.or config.nameFilter
    tagsFilter := options.tags.or config.tagsFilter
    runWip := options.wip || config.runWip }

def planBuilder (options : Options) : PlanBuilder where
  mode := options.planMode
  root := options.root.getD ⟨""⟩

end Options

/-- Why a command line is not followed. -/
inductive UsageError where
  | unknownArgument
  | invalidValue
  | valueValidation
  | argumentConflict
  | tooManyValues
  | displayHelp
  deriving DecidableEq, Repr

def UsageError.name : UsageError → String
  | unknownArgument => "UnknownArgument"
  | invalidValue => "InvalidValue"
  | valueValidation => "ValueValidation"
  | argumentConflict => "ArgumentConflict"
  | tooManyValues => "TooManyValues"
  | displayHelp => "DisplayHelp"

/-- The options by what they are for. -/
inductive OptionKind where
  | name
  | tags
  | wip
  | planMode
  | root
  | help
  deriving DecidableEq, Repr

namespace OptionKind

def takesValue : OptionKind → Bool
  | wip | help => false
  | _ => true

def ofLong? : String → Option OptionKind
  | "name" | "scenario-name" => some name
  | "tags" => some tags
  | "wip" => some wip
  | "plan-mode" => some planMode
  | "root" => some root
  | "help" => some help
  | _ => none

def ofShort? : Char → Option OptionKind
  | 'n' => some name
  | 't' => some tags
  | 'h' => some help
  | _ => none

end OptionKind

/-- A command line that has been read up to some point. The value of an option is looked at only
when the next option begins, so that an argument that is none is reported first. -/
structure OptionReader where
  options : Options := {}
  given : List OptionKind := []
  pending : Option (OptionKind × Option String) := none
  deriving DecidableEq, Repr

namespace OptionReader

/-- Stores the value of an option. -/
def store (options : Options) (kind : OptionKind) (value : String) : Except UsageError Options :=
  match kind with
  | .name =>
    match NameFilter.read? value with
    | some filter => .ok { options with name := some filter }
    | none => .error .valueValidation
  | .tags =>
    match TagExpression.read? value with
    | some expression => .ok { options with tags := some expression }
    | none => .error .valueValidation
  | .planMode =>
    match PlanMode.ofName? value with
    | some mode => .ok { options with planMode := mode }
    | none => .error .invalidValue
  | .root =>
    if value.isEmpty then .error .invalidValue else .ok { options with root := some ⟨value⟩ }
  | .wip => .ok { options with wip := true }
  | .help => .error .displayHelp

/-- Takes in an option with its value. No option may be given twice. -/
def take (reader : OptionReader) (kind : OptionKind) (value : String) :
    Except UsageError OptionReader := do
  if reader.given.contains kind then throw .argumentConflict
  let options ← store reader.options kind value
  return { reader with options, given := kind :: reader.given }

/-- Takes in the option whose value is still to be looked at. -/
def settle (reader : OptionReader) : Except UsageError OptionReader :=
  match reader.pending with
  | none => .ok reader
  | some (_, none) => .error .invalidValue
  | some (kind, some value) => { reader with pending := none }.take kind value

/-- Begins an option. One that takes a value waits for it, unless the value is attached. -/
def begin (reader : OptionReader) (kind : OptionKind) (attached : Option String) :
    Except UsageError OptionReader := do
  let reader ← reader.settle
  if kind.takesValue then
    match attached with
    | some value => reader.take kind value
    | none => return { reader with pending := some (kind, none) }
  else reader.take kind ""

/-- Reads an option that is spelled out. What follows an equals sign is its value. -/
def readLong (reader : OptionReader) (text : List Char) : Except UsageError OptionReader :=
  let (name, attached) := match cutAt? '=' text with
    | some (name, value) => (name, some (String.ofList value))
    | none => (text, none)
  match OptionKind.ofLong? (String.ofList name) with
  | none => .error .unknownArgument
  | some kind =>
    if attached.isSome && !kind.takesValue then .error .tooManyValues
    else reader.begin kind attached

/-- Reads a bundle of letters. The first that takes a value takes the rest as its value. -/
def readShort (reader : OptionReader) : List Char → Except UsageError OptionReader
  | [] => .ok reader
  | c :: rest =>
    match OptionKind.ofShort? c with
    | none => .error .unknownArgument
    | some kind =>
      if kind.takesValue then
        match rest with
        | [] => reader.begin kind none
        | '=' :: value => reader.begin kind (some (String.ofList value))
        | value => reader.begin kind (some (String.ofList value))
      else do
        let reader ← reader.begin kind none
        reader.readShort rest

/-- Reads one argument. What is no option is a value, if one is waited for. -/
def readArgument (reader : OptionReader) (argument : String) : Except UsageError OptionReader :=
  match argument.toList with
  | '-' :: '-' :: text => reader.readLong text
  | '-' :: text@(_ :: _) => reader.readShort text
  | _ =>
    match reader.pending with
    | some (kind, none) => .ok { reader with pending := some (kind, some argument) }
    | _ => .error .unknownArgument

/-- Reads all arguments. Behind a lone double dash there may be none, since there is no argument
that is not an option. -/
def readArguments (reader : OptionReader) : List String → Except UsageError OptionReader
  | [] => reader.settle
  | argument :: rest =>
    if argument = "--" then if rest.isEmpty then reader.settle else .error .unknownArgument
    else do
      let reader ← reader.readArgument argument
      reader.readArguments rest

end OptionReader

/-- Reads a command line. Cases are filtered by name or by tags, not by both. -/
def Options.read (arguments : List String) : Except UsageError Options := do
  let reader ← OptionReader.readArguments {} arguments
  if reader.options.name.isSome && reader.options.tags.isSome then throw .argumentConflict
  return reader.options

end ScenarioRunner
