import ScenarioRunner.Json.Reader
import ScenarioRunner.Message.Format
import ScenarioRunner.Source.FileTree

namespace ScenarioRunner

/-- Messages under their keys. Of entries with one key the last counts. -/
abbrev Messages := List (String × String)

def Messages.get? (entries : Messages) (key : String) : Option String :=
  entries.reverse.lookup key

/-- The key of a member: its name behind the names of the objects around it. -/
def joinKey (outer : Option String) (name : String) : String :=
  match outer with
  | none => name
  | some outer => outer ++ "." ++ name

mutual

/-- The strings, numbers and truth values of nested objects, in the order of the objects. A value
outside of any object has no key. -/
def flatten (outer : Option String) : JsonValue → Messages
  | .object members => flattenMembers outer members
  | .string text => (outer.map (·, text)).toList
  | .number n => (outer.map (·, n.text)).toList
  | .bool b => (outer.map (·, if b then "true" else "false")).toList
  | .null | .array _ => []

def flattenMembers (outer : Option String) : List (String × JsonValue) → Messages
  | [] => []
  | (name, value) :: rest =>
    flatten (some (joinKey outer name)) value ++ flattenMembers outer rest

end

/-- Why a lookup of a message fails. -/
inductive MessageError where
  | unknownKey (key : String)
  | unknownKeyIn (key : String) (path : SourcePath)
  | unreadable (path : SourcePath) (failure : ReadFailure)
  | invalidFile (path : SourcePath)
  deriving DecidableEq, Repr

/-- What went wrong, from the outermost cause to the innermost. -/
def MessageError.causes : MessageError → List String
  | unknownKey key => ["no translation for `" ++ key ++ "`"]
  | unknownKeyIn key path => ["no translation for `" ++ key ++ "` in `" ++ path.text ++ "`"]
  | unreadable path failure => ["failed to read `" ++ path.text ++ "`", failure.message]
  | invalidFile path => ["`" ++ path.text ++ "` is not valid JSON"]

def Messages.lookUp (entries : Messages) (key : String) (params : Params) :
    Except MessageError String :=
  match entries.get? key with
  | some template => .ok (formatMessage template params)
  | none => .error (.unknownKey key)

/-- Messages from a JSON file, which is read when the first of them is needed. -/
structure MessageFile where
  path : SourcePath
  loaded : Option Messages := none
  deriving DecidableEq, Repr

namespace MessageFile

/-- Reads the file as it is now. -/
def load (file : MessageFile) (disk : FileTree) : Except MessageError Messages :=
  match disk.readText file.path with
  | .error failure => .error (.unreadable file.path failure)
  | .ok text =>
    match JsonValue.read? text with
    | none => .error (.invalidFile file.path)
    | some json => .ok (flatten none json)

/-- Looks up a message. Once the file has been read it is not read again; a failure to read it is
not remembered. -/
def lookUp (file : MessageFile) (disk : FileTree) (key : String) (params : Params) :
    Except MessageError String × MessageFile :=
  let answer := fun (entries : Messages) =>
    match entries.get? key with
    | some template => .ok (formatMessage template params)
    | none => .error (.unknownKeyIn key file.path)
  match file.loaded with
  | some entries => (answer entries, file)
  | none =>
    match file.load disk with
    | .error error => (.error error, file)
    | .ok entries => (answer entries, { file with loaded := some entries })

end MessageFile

end ScenarioRunner
