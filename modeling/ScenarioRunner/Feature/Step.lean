import ScenarioRunner.SourcePath

namespace ScenarioRunner

/-- The role of a step: what holds before, what happens, what follows, or more of the same. -/
inductive StepKeyword where
  | context
  | event
  | outcome
  | conjunction
  | exception
  deriving DecidableEq, Repr

namespace StepKeyword

def all : List StepKeyword := [context, event, outcome, conjunction, exception]

def text : StepKeyword → String
  | context => "Given"
  | event => "When"
  | outcome => "Then"
  | conjunction => "And"
  | exception => "But"

/-- The keyword with the given spelling, letter for letter. -/
def ofText? (text : String) : Option StepKeyword := all.find? (·.text == text)

def unknownMessage (text : String) : String := "`" ++ text ++ "` is not a step keyword"

theorem ofText?_text (keyword : StepKeyword) : ofText? keyword.text = some keyword := by
  cases keyword <;> decide

end StepKeyword

/-- A line of a document, counted from one. -/
structure SourceLocation where
  path : SourcePath
  line : Nat
  deriving DecidableEq, Repr

def SourceLocation.text (location : SourceLocation) : String :=
  location.path.text ++ ":" ++ toString location.line

/-- Locations are ordered by document first, by line second. -/
def SourceLocation.compare (a b : SourceLocation) : Ordering :=
  (a.path.compare b.path).then (Ord.compare a.line b.line)

structure DataTable where
  headers : List String
  rows : List (List String)
  deriving DecidableEq, Repr

/-- Each row as pairs of header and cell; cells without a header, and headers without a cell, are
left out. -/
def DataTable.records (table : DataTable) : List (List (String × String)) :=
  table.rows.map table.headers.zip

/-- The headers as a row above the others. -/
def DataTable.allRows (table : DataTable) : List (List String) := table.headers :: table.rows

structure DocString where
  content : String
  mediaType : Option String
  deriving DecidableEq, Repr

structure Step where
  keyword : StepKeyword
  text : String
  location : Option SourceLocation := none
  table : Option DataTable := none
  docString : Option DocString := none
  deriving DecidableEq, Repr

namespace Step

def fullText (step : Step) : String := step.keyword.text ++ " " ++ step.text

/-- The step without the place it was read from. Steps count as equal when these agree. -/
def unlocated (step : Step) : Step := { step with location := none }

end Step

/-- A place in a document, or a word that says that there is none. -/
def locationText (location : Option SourceLocation) : String :=
  (location.map SourceLocation.text).getD "<unknown>"

end ScenarioRunner
