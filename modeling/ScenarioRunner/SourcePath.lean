namespace ScenarioRunner

/-- What a path goes through, read from its start. A single dot counts only as the very first part,
since `./a` may be told apart from `a` while `a/./b` is the same as `a/b`. -/
inductive PathPart where
  | root
  | here
  | up
  | name (text : String)
  deriving DecidableEq, Repr

def PathPart.rank : PathPart → Nat
  | .root => 0
  | .here => 1
  | .up => 2
  | .name _ => 3

/-- Parts are ordered by kind first, names by their code points. -/
def PathPart.compare : PathPart → PathPart → Ordering
  | .name a, .name b => Ord.compare a b
  | a, b => Ord.compare a.rank b.rank

def compareParts : List PathPart → List PathPart → Ordering
  | [], [] => .eq
  | [], _ :: _ => .lt
  | _ :: _, [] => .gt
  | a :: as, b :: bs => (a.compare b).then (compareParts as bs)

/-- Where a document comes from, spelled as it was given. -/
structure SourcePath where
  text : String
  deriving DecidableEq, Repr

namespace SourcePath

def isAbsolute (path : SourcePath) : Bool := path.text.toList.head? = some '/'

/-- One stretch of a path between slashes, with the part that it stands for. Empty stretches and
single dots stand for none, but they are kept so that a cut path is spelled as it was. -/
structure Segment where
  text : List Char
  part? : Option PathPart

def Segment.read (mayBeHere : Bool) (text : List Char) : Segment :=
  ⟨text,
    if text = [] then none
    else if text = ['.'] then if mayBeHere then some .here else none
    else if text = ['.', '.'] then some .up
    else some (.name (String.ofList text))⟩

/-- The stretches after the leading slash, if there is one. -/
def segments (path : SourcePath) : List Segment :=
  let body := if path.isAbsolute then path.text.toList.drop 1 else path.text.toList
  match body.splitOn '/' with
  | [] => []
  | first :: rest => .read (!path.isAbsolute) first :: rest.map (.read false)

/-- Two spellings with the same parts name the same place. -/
def parts (path : SourcePath) : List PathPart :=
  (if path.isAbsolute then [.root] else []) ++ path.segments.filterMap Segment.part?

def same (a b : SourcePath) : Bool := a.parts == b.parts

def compare (a b : SourcePath) : Ordering := compareParts a.parts b.parts

def startsWith (path start : SourcePath) : Bool := start.parts.isPrefixOf path.parts

/-- Drops what stands for no part from the end. -/
def dropIdleEnd (segments : List Segment) : List Segment :=
  (segments.reverse.dropWhile (·.part?.isNone)).reverse

def ofSegments (absolute : Bool) (segments : List Segment) : SourcePath :=
  ⟨String.ofList ((if absolute then ['/'] else []) ++
    ['/'].intercalate (segments.map Segment.text))⟩

/-- The path without its last part. The root and the empty path have none. -/
def parent? (path : SourcePath) : Option SourcePath :=
  match (dropIdleEnd path.segments).reverse with
  | [] => none
  | _ :: before => some (ofSegments path.isAbsolute (dropIdleEnd before.reverse))

/-- Drops the first `count` parts and whatever stands for none right after them. -/
def dropParts : Nat → List Segment → List Segment
  | _, [] => []
  | count, segment :: rest =>
    match count, segment.part? with
    | count, none => dropParts count rest
    | 0, some _ => segment :: rest
    | count + 1, some _ => dropParts count rest

/-- What is left of the path below `start`. -/
def below? (path start : SourcePath) : Option SourcePath :=
  if path.startsWith start then
    match start.parts with
    | [] => some (ofSegments path.isAbsolute (dropIdleEnd path.segments))
    | .root :: named => some (ofSegments false (dropIdleEnd (dropParts named.length path.segments)))
    | named => some (ofSegments false (dropIdleEnd (dropParts named.length path.segments)))
  else none

/-- A path below a directory; an absolute one stays as it is. -/
def join (directory path : SourcePath) : SourcePath :=
  if path.isAbsolute then path
  else if directory.text.toList.getLast?.all (· == '/') then ⟨directory.text ++ path.text⟩
  else ⟨directory.text ++ "/" ++ path.text⟩

def isEmpty (path : SourcePath) : Bool := path.text.isEmpty

end SourcePath

end ScenarioRunner
