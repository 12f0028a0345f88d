import ScenarioRunner.Document.Line
import ScenarioRunner.Text.Lines

namespace ScenarioRunner

/-- The part of a document that is being read, with what it holds so far. -/
inductive Section where
  | start
  | feature (describing : Bool)
  | background (steps : List Step)
  | scenario (scenario : Scenario)
  | outline (outline : ScenarioOutline)
  | examples (outline : ScenarioOutline) (table : ExampleTable)
  deriving DecidableEq, Repr

namespace Section

/-- The steps that a step line would extend. -/
def steps? : Section → Option (List Step)
  | background steps => some steps
  | scenario s => some s.steps
  | outline o => some o.steps
  | start | feature _ | examples _ _ => none

def mapSteps (change : List Step → List Step) : Section → Section
  | background steps => background (change steps)
  | scenario s => scenario { s with steps := change s.steps }
  | outline o => outline { o with steps := change o.steps }
  | other => other

/-- Tables and doc strings belong to a step, so they are read only after one. -/
def hasStep (current : Section) : Bool := current.steps?.any fun steps => !steps.isEmpty

/-- The outline that an `Examples:` line continues. A plain scenario becomes one. -/
def outline? : Section → Option ScenarioOutline
  | outline o => some o
  | examples o table => some { o with examples := o.examples ++ [table] }
  | scenario s => some { name := s.name, tags := s.tags, steps := s.steps }
  | start | feature _ | background _ => none

end Section

/-- What is being gathered for the last step. -/
inductive Gathering where
  | nothing
  | table (table : DataTable)
  | docString (mark : DocMark) (mediaType : Option String) (lines : List (List Char))
  deriving DecidableEq, Repr

/-- Everything that earlier lines can tell later ones. -/
structure Reader where
  path : Option SourcePath
  feature : Feature
  hasFeatureLine : Bool := false
  current : Section := .start
  gathering : Gathering := .nothing
  pendingTags : List String := []
  deriving DecidableEq, Repr

/-- What a line is, given the lines before it. -/
inductive LineRole where
  | docStringStart (mark : DocMark) (mediaType : Option String)
  | docStringText (line : List Char)
  | docStringEnd
  | exampleRow (cells : List String)
  | tableRow (cells : List String)
  | blank
  | comment
  | tags (names : List String)
  | header (header : Header) (title : String)
  | step (keyword : StepKeyword) (text : String)
  | description (line : List Char)
  | unrecognized (line : List Char)
  deriving DecidableEq, Repr

/-- Changes the last member of a list. -/
def changeLast {α : Type} (change : α → α) : List α → List α
  | [] => []
  | [a] => [change a]
  | a :: b :: rest => a :: changeLast change (b :: rest)

/-- Brings a row to the given width by cutting it or by adding empty cells. -/
def fitRow (width : Nat) (cells : List String) : List String :=
  cells.take width ++ List.replicate (width - cells.length) ""

def DocString.ofLines (mediaType : Option String) (lines : List (List Char)) : DocString where
  content := String.ofList (['\n'].intercalate lines)
  mediaType := mediaType

namespace Reader

def start (path : Option SourcePath) : Reader where
  path := path
  feature := { name := Feature.unnamed, path := path }

/-- Lines that need no gathering and no section to be told apart. -/
def plainRole (describing : Bool) (line : List Char) : LineRole :=
  if line = [] then .blank
  else if line.head? = some '#' || (afterStart? "import ".toList line).isSome then .comment
  else if line.head? = some '@' then .tags (tagsOf line)
  else match Header.read? line with
    | some (header, title) => .header header title
    | none =>
      match readStep? line with
      | some (keyword, text) => .step keyword text
      | none => if describing then .description line else .unrecognized line

/-- Reads a line outside of doc strings. -/
def roleOutside (reader : Reader) (line : List Char) : LineRole :=
  let mark? := if reader.current.hasStep then DocMark.read? line else none
  match mark? with
  | some (mark, mediaType) => .docStringStart mark mediaType
  | none =>
    let plain := plainRole (reader.current == .feature true) line
    if line.head? = some '|' then
      match reader.current with
      | .examples _ _ => .exampleRow (cellsOf line)
      | current => if current.hasStep then .tableRow (cellsOf line) else plain
    else plain

/-- Tells what a line is. Inside a doc string nothing counts but the mark that closes it. -/
def role (reader : Reader) (raw : List Char) : LineRole :=
  let line := trim raw
  match reader.gathering with
  | .docString mark _ _ => if mark.text.isPrefixOf line then .docStringEnd else .docStringText raw
  | _ => reader.roleOutside line

/-- Gives what was gathered to the last step. -/
def finishGathering (reader : Reader) : Reader :=
  match reader.gathering with
  | .nothing => reader
  | .table table =>
    { reader with
      current := reader.current.mapSteps (changeLast fun step => { step with table := some table })
      gathering := .nothing }
  | .docString _ mediaType lines =>
    { reader with
      current := reader.current.mapSteps
        (changeLast fun step => { step with docString := some (.ofLines mediaType lines) })
      gathering := .nothing }

/-- Moves what the current section holds into the feature. -/
def closeSection (reader : Reader) : Reader :=
  let reader := reader.finishGathering
  let feature := match reader.current with
    | .start | .feature _ => reader.feature
    | .background steps => { reader.feature with background := some steps }
    | .scenario s => { reader.feature with scenarios := reader.feature.scenarios ++ [s] }
    | .outline o => { reader.feature with outlines := reader.feature.outlines ++ [o] }
    | .examples o table =>
      { reader.feature with
        outlines := reader.feature.outlines ++ [{ o with examples := o.examples ++ [table] }] }
  { reader with feature := feature, current := .start }

/-- Opens a table of examples. Where there is nothing to be an outline, the section ends, and the
tags that were meant for the table are dropped. -/
def openExamples (reader : Reader) (title : String) : Reader :=
  let reader := reader.finishGathering
  match reader.current.outline? with
  | some outline =>
    { reader with
      current := .examples outline
        { name := if title.isEmpty then none else some title, tags := reader.pendingTags }
      pendingTags := [] }
  | none => { reader.closeSection with current := .feature false, pendingTags := [] }

/-- Opens the section of a header. A background has no tags, so pending ones wait for what follows
it. -/
def openSection (reader : Reader) (header : Header) (title : String) : Reader :=
  match header with
  | .examples => reader.openExamples title
  | .feature =>
    let closed := reader.closeSection
    { closed with
      feature := { closed.feature with
        name := title, tags := closed.feature.tags ++ closed.pendingTags }
      hasFeatureLine := true
      current := .feature true
      pendingTags := [] }
  | .background => { reader.closeSection with current := .background [] }
  | .scenario =>
    { reader.closeSection with
      current := .scenario { name := title, tags := reader.pendingTags }, pendingTags := [] }
  | .outline =>
    { reader.closeSection with
      current := .outline { name := title, tags := reader.pendingTags }, pendingTags := [] }

def addStep (reader : Reader) (number : Nat) (keyword : StepKeyword) (text : String) : Reader :=
  let step : Step := { keyword, text, location := reader.path.map fun path => ⟨path, number⟩ }
  { reader with current := reader.current.mapSteps (· ++ [step]) }

/-- The first row names the columns; later ones are made as wide. -/
def addExampleRow (reader : Reader) (cells : List String) : Reader :=
  match reader.current with
  | .examples outline table =>
    let table := if table.headers.isEmpty then { table with headers := cells }
      else { table with rows := table.rows ++ [fitRow table.headers.length cells] }
    { reader with current := .examples outline table }
  | _ => reader

def addTableRow (reader : Reader) (cells : List String) : Reader :=
  match reader.gathering with
  | .table table =>
    { reader with gathering := .table { table with rows := table.rows ++ [cells] } }
  | _ => { reader with gathering := .table { headers := cells, rows := [] } }

def addDocLine (reader : Reader) (line : List Char) : Reader :=
  match reader.gathering with
  | .docString mark mediaType lines =>
    { reader with gathering := .docString mark mediaType (lines ++ [line]) }
  | _ => reader

def addDescription (reader : Reader) (line : List Char) : Reader :=
  let text := match reader.feature.description with
    | none => String.ofList line
    | some before => before ++ "\n" ++ String.ofList line
  { reader with feature := { reader.feature with description := some text } }

/-- Takes in a line whose role is known. -/
def act (reader : Reader) (number : Nat) : LineRole → Reader
  | .docStringStart mark mediaType =>
    { reader.finishGathering with gathering := .docString mark mediaType [] }
  | .docStringText line => reader.addDocLine line
  | .docStringEnd => reader.finishGathering
  | .exampleRow cells => reader.addExampleRow cells
  | .tableRow cells => reader.addTableRow cells
  | .blank =>
    let reader := reader.finishGathering
    if reader.current = .feature true then { reader with current := .feature false } else reader
  | .comment => reader.finishGathering
  | .tags names =>
    let reader := reader.finishGathering
    { reader with pendingTags := reader.pendingTags ++ names }
  | .header header title => reader.finishGathering.openSection header title
  | .step keyword text => reader.finishGathering.addStep number keyword text
  | .description line => reader.finishGathering.addDescription line
  | .unrecognized _ => reader.finishGathering

def read (reader : Reader) (number : Nat) (raw : List Char) : Reader :=
  reader.act number (reader.role raw)

/-- Reads lines that are numbered from `number` on. -/
def readLines (reader : Reader) (number : Nat) : List (List Char) → Reader
  | [] => reader
  | line :: rest => (reader.read number line).readLines (number + 1) rest

def finish (reader : Reader) : Feature := reader.closeSection.feature

end Reader

/-- Reads a document. Every text is one: what makes no sense is passed over. -/
def readFeature (path : Option SourcePath) (text : String) : Feature :=
  ((Reader.start path).readLines 1 (linesOf text.toList)).finish

end ScenarioRunner
