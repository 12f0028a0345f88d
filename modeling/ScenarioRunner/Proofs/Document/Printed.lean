import ScenarioRunner.Document.Reader
import ScenarioRunner.Proofs.Text.Lines
import ScenarioRunner.Proofs.Text.Trim

namespace ScenarioRunner

def headerLine (spelling title : String) : List Char := spelling.toList ++ ' ' :: title.toList

/-- All tags stand on one line. Without tags there is no line for them. -/
def tagLines (tags : List String) : List (List Char) :=
  if tags = [] then [] else [[' '].intercalate (tags.map fun tag => '@' :: tag.toList)]

def rowLine (cells : List String) : List Char :=
  '|' :: cells.flatMap fun cell => ' ' :: cell.toList ++ [' ', '|']

def DataTable.lines (table : DataTable) : List (List Char) := table.allRows.map rowLine

namespace DocString

def contentLines (doc : DocString) : List (List Char) := doc.content.toList.splitOn '\n'

/-- No line of the content would be taken for the closing mark, however far it is indented. -/
def Admits (doc : DocString) (mark : DocMark) : Prop :=
  ∀ line ∈ doc.contentLines, mark.text.isPrefixOf (trim line) = false

instance (doc : DocString) (mark : DocMark) : Decidable (doc.Admits mark) :=
  inferInstanceAs (Decidable (∀ line ∈ doc.contentLines, _))

/-- Double quotes, unless the content could end them. -/
def mark (doc : DocString) : DocMark :=
  if doc.Admits .doubleQuotes then .doubleQuotes else .singleQuotes

def lines (doc : DocString) : List (List Char) :=
  (doc.mark.text ++ (doc.mediaType.getD "").toList) :: (doc.contentLines ++ [doc.mark.text])

end DocString

def Step.lines (step : Step) : List (List Char) :=
  (step.keyword.text.toList ++ ' ' :: step.text.toList) ::
    ((step.table.map DataTable.lines).getD [] ++ (step.docString.map DocString.lines).getD [])

def linesOfSteps (steps : List Step) : List (List Char) := steps.flatMap Step.lines

def Scenario.lines (scenario : Scenario) : List (List Char) :=
  tagLines scenario.tags ++ headerLine "Scenario:" scenario.name :: linesOfSteps scenario.steps

/-- A table without columns has no rows to write. -/
def ExampleTable.lines (table : ExampleTable) : List (List Char) :=
  tagLines table.tags ++ headerLine "Examples:" (table.name.getD "") ::
    if table.headers = [] then [] else (table.headers :: table.rows).map rowLine

def ScenarioOutline.lines (outline : ScenarioOutline) : List (List Char) :=
  tagLines outline.tags ++ headerLine "Scenario Outline:" outline.name ::
    (linesOfSteps outline.steps ++ outline.examples.flatMap ExampleTable.lines)

namespace Feature

def descriptionLines (feature : Feature) : List (List Char) :=
  (feature.description.map fun text => text.toList.splitOn '\n').getD []

def backgroundLines (feature : Feature) : List (List Char) :=
  (feature.background.map fun steps => "Background:".toList :: linesOfSteps steps).getD []

def lines (feature : Feature) : List (List Char) :=
  tagLines feature.tags ++ headerLine "Feature:" feature.name ::
    (feature.descriptionLines ++ (feature.backgroundLines ++
      (feature.scenarios.flatMap Scenario.lines ++ feature.outlines.flatMap ScenarioOutline.lines)))

/-- The document that says what the feature says, and nothing else. -/
def print (feature : Feature) : String := String.ofList (joinLines feature.lines)

end Feature

/-- A text within a line, made of allowed characters only. -/
structure Inline (allowed : Char → Prop) (text : String) : Prop where
  made : ∀ c ∈ text.toList, allowed c
  trimmed : Trimmed text.toList

structure IsTag (tag : String) : Prop where
  nonempty : tag ≠ ""
  solid : ∀ c ∈ tag.toList, isBlank c = false

structure IsCell (allowed : Char → Prop) (cell : String) : Prop where
  inline : Inline allowed cell
  noBar : '|' ∉ cell.toList

structure DataTable.PrintableIn (allowed : Char → Prop) (table : DataTable) : Prop where
  headers : table.headers ≠ []
  rows : ∀ row ∈ table.rows, row ≠ []
  cells : ∀ row ∈ table.allRows, ∀ cell ∈ row, IsCell allowed cell

structure DocString.PrintableIn (allowed : Char → Prop) (doc : DocString) : Prop where
  mediaType : ∀ mediaType ∈ doc.mediaType, mediaType ≠ "" ∧ Inline allowed mediaType
  content : ∀ line ∈ doc.contentLines, ∀ c ∈ line, allowed c
  admits : ∃ mark, doc.Admits mark

structure Step.PrintableIn (allowed : Char → Prop) (step : Step) : Prop where
  nonempty : step.text ≠ ""
  text : Inline allowed step.text
  table : ∀ table ∈ step.table, table.PrintableIn allowed
  docString : ∀ doc ∈ step.docString, doc.PrintableIn allowed

structure Scenario.PrintableIn (allowed : Char → Prop) (scenario : Scenario) : Prop where
  name : Inline allowed scenario.name
  tags : ∀ tag ∈ scenario.tags, IsTag tag
  steps : ∀ step ∈ scenario.steps, step.PrintableIn allowed

structure ExampleTable.PrintableIn (allowed : Char → Prop) (table : ExampleTable) : Prop where
  name : ∀ name ∈ table.name, name ≠ "" ∧ Inline allowed name
  tags : ∀ tag ∈ table.tags, IsTag tag
  width : ∀ row ∈ table.rows, row.length = table.headers.length
  rowless : table.headers = [] → table.rows = []
  cells : ∀ row ∈ table.headers :: table.rows, ∀ cell ∈ row, IsCell allowed cell

structure ScenarioOutline.PrintableIn (allowed : Char → Prop) (outline : ScenarioOutline) :
    Prop where
  name : Inline allowed outline.name
  tags : ∀ tag ∈ outline.tags, IsTag tag
  steps : ∀ step ∈ outline.steps, step.PrintableIn allowed
  examples : ∀ table ∈ outline.examples, table.PrintableIn allowed

/-- A line that no other rule takes, so that it can only describe. -/
structure IsDescription (line : List Char) : Prop where
  nonempty : line ≠ []
  trimmed : Trimmed line
  noComment : line.head? ≠ some '#'
  noImport : ¬ "import ".toList <+: line
  noTags : line.head? ≠ some '@'
  noHeader : Header.read? line = none
  noStep : readStep? line = none

structure Feature.PrintableIn (allowed : Char → Prop) (feature : Feature) : Prop where
  name : Inline allowed feature.name
  tags : ∀ tag ∈ feature.tags, IsTag tag
  description : ∀ line ∈ feature.descriptionLines, IsDescription line
  background : ∀ steps ∈ feature.background, ∀ step ∈ steps, step.PrintableIn allowed
  scenarios : ∀ scenario ∈ feature.scenarios, scenario.PrintableIn allowed
  outlines : ∀ outline ∈ feature.outlines, outline.PrintableIn allowed

/-- The characters that end no line. -/
def OnLine (c : Char) : Prop := c ≠ '\n' ∧ c ≠ '\r'

/-- All that a document can say. -/
abbrev Feature.Printable (feature : Feature) : Prop := feature.PrintableIn OnLine

end ScenarioRunner
