import ScenarioRunner.SourcePath

namespace ScenarioRunner

/-- A file with its bytes, or a directory. -/
inductive FileEntry where
  | file (bytes : ByteArray)
  | directory

/-- Files and directories below one directory, each under the names that lead to it. -/
structure FileTree where
  entries : List (List String × FileEntry) := []

/-- Where a path leads: to the names of the tree, or out of it, where nothing is known but that the
directories above the tree are there. -/
inductive Place where
  | outside
  | inside (names : List String)
  deriving DecidableEq, Repr

/-- The directory above. Above the tree all is outside. -/
def Place.above : Place → Place
  | .outside | .inside [] => .outside
  | .inside names => .inside names.dropLast

/-- Why a file cannot be read. -/
inductive ReadFailure where
  | missing
  | notDirectory
  | isDirectory
  | nameTooLong
  | nulCharacter
  | notText
  deriving DecidableEq, Repr

def ReadFailure.message : ReadFailure → String
  | missing => "No such file or directory (os error 2)"
  | notDirectory => "Not a directory (os error 20)"
  | isDirectory => "Is a directory (os error 21)"
  | nameTooLong => "File name too long (os error 36)"
  | nulCharacter => "file name contained an unexpected NUL byte"
  | notText => "stream did not contain valid UTF-8"

namespace FileTree

/-- The most bytes that one name may have. -/
def nameLimit : Nat := 255

/-- The most bytes that a path may have. -/
def pathLimit : Nat := 4095

/-- Why a path leads nowhere whatever the tree holds. -/
def spellingFailure? (path : SourcePath) : Option ReadFailure :=
  if path.text.toList.contains '\x00' then some .nulCharacter
  else if path.isEmpty then some .missing
  else if path.text.utf8ByteSize > pathLimit then some .nameTooLong
  else none

/-- What stands at a place. -/
def entryAt? (tree : FileTree) : Place → Option FileEntry
  | .outside | .inside [] => some .directory
  | .inside names => tree.entries.lookup names

/-- Follows the stretches of a path from a place. Only a directory leads anywhere, and only from a
directory can one go back. -/
def follow (tree : FileTree) (place : Place) :
    List SourcePath.Segment → Except ReadFailure Place
  | [] => .ok place
  | segment :: rest =>
    match tree.entryAt? place with
    | none => .error .missing
    | some (.file _) => .error .notDirectory
    | some .directory =>
      match segment.part? with
      | some (.name name) =>
        if name.utf8ByteSize > nameLimit then .error .nameTooLong
        else
          match place with
          | .outside => .error .missing
          | .inside names => tree.follow (.inside (names ++ [name])) rest
      | some .up => tree.follow place.above rest
      | _ => tree.follow place rest

/-- Where a path starts. -/
def start (path : SourcePath) : Place := if path.isAbsolute then .outside else .inside []

/-- The place that a path leads to, and what stands there. -/
def find (tree : FileTree) (path : SourcePath) : Except ReadFailure (Place × FileEntry) := do
  if let some failure := spellingFailure? path then throw failure
  let place ← tree.follow (start path) path.segments
  match tree.entryAt? place with
  | none => throw .missing
  | some entry => return (place, entry)

/-- The text of a file. -/
def readText (tree : FileTree) (path : SourcePath) : Except ReadFailure String := do
  match ← tree.find path with
  | (_, .directory) => throw .isDirectory
  | (_, .file bytes) =>
    match String.fromUTF8? bytes with
    | some text => return text
    | none => throw .notText

/-- Follows the stretches of a path and makes the directories that are missing on the way. A file
bars it, and so does a name that is too long; nothing is made outside the tree. -/
def makeDirectories (tree : FileTree) (place : Place) :
    List SourcePath.Segment → Option (FileTree × Place)
  | [] => some (tree, place)
  | segment :: rest =>
    match segment.part?, place with
    | some (.name _), .outside => none
    | some (.name name), .inside names =>
      let below := .inside (names ++ [name])
      match tree.entryAt? below with
      | some .directory => tree.makeDirectories below rest
      | some (.file _) => none
      | none =>
        if name.utf8ByteSize > nameLimit then none
        else makeDirectories ⟨tree.entries ++ [(names ++ [name], .directory)]⟩ below rest
    | some .up, place => tree.makeDirectories place.above rest
    | _, place => tree.makeDirectories place rest

/-- Takes away the file at a place. -/
def erase (tree : FileTree) (names : List String) : FileTree :=
  ⟨tree.entries.filter fun (other, _) => other != names⟩

/-- Removes a file. The directories above it stay, and so does everything if the path leads to no
file. -/
def remove (tree : FileTree) (path : SourcePath) : FileTree :=
  match tree.find path with
  | .ok (.inside names, .file _) => tree.erase names
  | _ => tree

/-- The tree with a file or a directory where a path leads, and the directories above it. The
content of a file that was there before is gone. There is none where a directory stands in the way
of a file, a file in the way of a directory, or where nothing can stand. -/
def written? (tree : FileTree) (path : SourcePath) : FileEntry → Option FileTree
  | .directory => do
    guard (spellingFailure? path).isNone
    let (grown, _) ← tree.makeDirectories (start path) path.segments
    return grown
  | .file bytes => do
    guard (spellingFailure? path).isNone
    let (grown, above) ← tree.makeDirectories (start path) path.segments.dropLast
    match path.segments.getLast?.bind SourcePath.Segment.part?, above with
    | some (.name name), .inside names =>
      guard (name.utf8ByteSize ≤ nameLimit)
      match grown.entryAt? (.inside (names ++ [name])) with
      | some .directory => none
      | _ => return ⟨(grown.erase (names ++ [name])).entries ++ [(names ++ [name], .file bytes)]⟩
    | _, _ => none

/-- Puts a file or a directory where a path leads. Where that cannot be, the tree stays as it
is. -/
def write (tree : FileTree) (path : SourcePath) (entry : FileEntry) : FileTree :=
  (tree.written? path entry).getD tree

/-- The names that lead from a directory to everything below it. -/
def namesBelow (tree : FileTree) : Place → List (List String)
  | .outside => []
  | .inside place =>
    ((tree.entries.map Prod.fst).filter fun names =>
      place.isPrefixOf names && names.length > place.length).map (·.drop place.length)

end FileTree

end ScenarioRunner
