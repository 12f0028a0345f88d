import ScenarioRunner.Source.FileTree

namespace ScenarioRunner

/-- Why documents cannot be had. -/
inductive SourceError where
  | notFound (path : SourcePath)
  | unreadable (path : SourcePath) (failure : ReadFailure)
  deriving DecidableEq, Repr

def SourceError.message : SourceError → String
  | notFound path => "`" ++ path.text ++ "` is not found"
  | unreadable path failure => "failed to read `" ++ path.text ++ "`: " ++ failure.message

/-- Where documents come from: which there are under a root, and what they say. -/
structure Provider where
  list : SourcePath → Except SourceError (List SourcePath)
  read : SourcePath → Except SourceError String

/-- Documents that are held in memory, in the order of their paths. -/
structure DocumentStore where
  documents : List (SourcePath × String) := []
  deriving DecidableEq, Repr

namespace DocumentStore

/-- Puts a document in its place. One with the same path is replaced, but the first spelling of the
path stays. -/
def insert (path : SourcePath) (text : String) :
    List (SourcePath × String) → List (SourcePath × String)
  | [] => [(path, text)]
  | (other, before) :: rest =>
    match path.compare other with
    | .lt => (path, text) :: (other, before) :: rest
    | .eq => (other, text) :: rest
    | .gt => (other, before) :: insert path text rest

def withDocument (store : DocumentStore) (path : SourcePath) (text : String) : DocumentStore :=
  ⟨insert path text store.documents⟩

def ofDocuments (documents : List (SourcePath × String)) : DocumentStore :=
  documents.foldl (fun store (path, text) => store.withDocument path text) {}

/-- The documents whose paths start with the root. A leading dot of the root does not count. -/
def list (store : DocumentStore) (root : SourcePath) : Except SourceError (List SourcePath) :=
  let start := (root.below? ⟨"."⟩).getD root
  match (store.documents.map Prod.fst).filter (·.startsWith start) with
  | [] => .error (.notFound root)
  | found => .ok found

def read (store : DocumentStore) (path : SourcePath) : Except SourceError String :=
  match store.documents.find? fun (other, _) => other.same path with
  | some (_, text) => .ok text
  | none => .error (.notFound path)

def provider (store : DocumentStore) : Provider := ⟨store.list, store.read⟩

end DocumentStore

namespace FileTree

/-- Does a name end in `.feature`, in letters of either case? -/
def isDocumentName (name : String) : Bool :=
  ".feature".toList.reverse.isPrefixOf (name.toList.map Char.toLower).reverse

/-- The path from a directory along some names. -/
def pathBelow (root : SourcePath) (names : List String) : SourcePath :=
  if names.isEmpty then root else root.join ⟨"/".intercalate names⟩

/-- Everything below a directory that is named like a document, directories included, in the order
of the paths. A directory whose path has grown too long is not looked into. A file is listed by
itself, whatever its name. -/
def list (tree : FileTree) (root : SourcePath) : Except SourceError (List SourcePath) :=
  match tree.find root with
  | .error _ => .error (.notFound root)
  | .ok (_, .file _) => .ok [root]
  | .ok (place, .directory) =>
    let found := (tree.namesBelow place).filter fun names =>
      names.getLast?.any isDocumentName &&
        (pathBelow root names.dropLast).text.utf8ByteSize ≤ pathLimit
    .ok ((found.map (pathBelow root)).mergeSort fun a b => a.compare b != .gt)

def read (tree : FileTree) (path : SourcePath) : Except SourceError String :=
  match tree.readText path with
  | .ok text => .ok text
  | .error .missing => .error (.notFound path)
  | .error failure => .error (.unreadable path failure)

def provider (tree : FileTree) : Provider := ⟨tree.list, tree.read⟩

end FileTree

end ScenarioRunner
