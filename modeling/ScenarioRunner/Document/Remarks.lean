import ScenarioRunner.Document.Reader
import ScenarioRunner.Record

namespace ScenarioRunner

/-- What the reader has to say about a document besides its content. -/
inductive Remark where
  | opening (header : Header) (title : String)
  | unrecognized (line : Nat) (text : String)
  | repeatedFeature
  | repeatedBackground
  | strayExamples
  | strayStep (line : Nat) (fullText : String)
  | unevenRow (line : Nat) (cells columns : Nat)
  | openDocString
  deriving DecidableEq, Repr

namespace Reader

/-- Closing a second background puts it in the place of the first. -/
def closingRemarks (reader : Reader) : List Remark :=
  match reader.current with
  | .background _ => if reader.feature.background.isSome then [.repeatedBackground] else []
  | _ => []

def headerRemarks (reader : Reader) (header : Header) : List Remark :=
  match header with
  | .examples =>
    if reader.current.outline?.isSome then [] else .strayExamples :: reader.closingRemarks
  | .feature => reader.closingRemarks ++ if reader.hasFeatureLine then [.repeatedFeature] else []
  | _ => reader.closingRemarks

/-- The remarks on one line, in the order in which they come up. -/
def remarks (reader : Reader) (number : Nat) : LineRole → List Remark
  | .header header title => .opening header title :: reader.headerRemarks header
  | .step keyword text =>
    if reader.current.steps?.isSome then []
    else [.strayStep number (Step.mk keyword text none none none).fullText]
  | .exampleRow cells =>
    match reader.current with
    | .examples _ table =>
      if table.headers.isEmpty || cells.length == table.headers.length then []
      else [.unevenRow number cells.length table.headers.length]
    | _ => []
  | .unrecognized line => [.unrecognized number (String.ofList line)]
  | _ => []

def endRemarks (reader : Reader) : List Remark :=
  (match reader.gathering with
    | .docString _ _ _ => [.openDocString]
    | _ => []) ++ reader.closingRemarks

def remarksOn (reader : Reader) (number : Nat) : List (List Char) → List Remark
  | [] => reader.endRemarks
  | line :: rest =>
    reader.remarks number (reader.role line) ++
      (reader.read number line).remarksOn (number + 1) rest

end Reader

/-- Everything there is to remark on a document, from its first line to its end. -/
def remarksOn (path : Option SourcePath) (text : String) : List Remark :=
  (Reader.start path).remarksOn 1 (linesOf text.toList)

/-- The log record of a remark. -/
def Remark.record (path : Option SourcePath) : Remark → Record
  | .opening header title =>
    ⟨.trace, "opening section", [("header", header.name), ("title", title)]⟩
  | .unrecognized line text =>
    ⟨.trace, "ignoring unrecognized line: " ++ text, [("number", toString line)]⟩
  | .repeatedFeature =>
    ⟨.warn, "repeated `Feature:` header, renaming the feature", [pathField path]⟩
  | .repeatedBackground =>
    ⟨.warn, "repeated `Background:` replaces the previous one", [pathField path]⟩
  | .strayExamples =>
    ⟨.warn, "`Examples:` outside of a scenario outline are ignored", [pathField path]⟩
  | .strayStep line fullText =>
    ⟨.warn, "step outside of a scenario is ignored: " ++ fullText,
      [pathField path, ("line", toString line)]⟩
  | .unevenRow line cells columns =>
    ⟨.warn, "examples row has " ++ toString cells ++ " cells, while headers have " ++
      toString columns, [pathField path, ("line", toString line)]⟩
  | .openDocString => ⟨.warn, "doc string is not terminated", [pathField path]⟩

end ScenarioRunner
