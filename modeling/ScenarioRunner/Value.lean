import ScenarioRunner.Number.Notation
import ScenarioRunner.Number.Read

namespace ScenarioRunner

/-- What a placeholder stands for. -/
inductive ParamKind where
  | string
  | int
  | double
  | bool
  deriving DecidableEq, Repr

namespace ParamKind

def name : ParamKind → String
  | string => "string"
  | int => "int"
  | double => "double"
  | bool => "bool"

/-- Kinds have short and long names. -/
def ofName? : String → Option ParamKind
  | "string" | "str" | "String" => some string
  | "int" | "i64" | "integer" => some int
  | "double" | "f64" | "float" => some double
  | "bool" | "boolean" => some bool
  | _ => none

def unknownMessage (name : String) : String :=
  "unknown parameter kind `" ++ name ++ "`, expected one of: string, int, double, bool"

theorem ofName?_name (kind : ParamKind) : ofName? kind.name = some kind := by
  cases kind <;> rfl

end ParamKind

/-- An argument of a step. -/
inductive Value where
  | string (text : String)
  | int (n : Int64)
  | double (x : Float)
  | bool (b : Bool)
  deriving Repr

namespace Value

def kind : Value → ParamKind
  | string _ => .string
  | int _ => .int
  | double _ => .double
  | bool _ => .bool

def text : Value → String
  | string text => text
  | int n => toString n.toInt
  | double x => plainText x
  | bool b => if b then "true" else "false"

end Value

/-- A captured text that is no value of its placeholder's kind. -/
structure ConversionError where
  captured : String
  placeholder : String
  kind : ParamKind
  deriving DecidableEq, Repr

def ConversionError.message (error : ConversionError) : String :=
  "cannot convert `" ++ error.captured ++ "` captured by `\x7b" ++ error.placeholder ++
    "\x7d` into " ++ error.kind.name

/-- Reads a text as a value of this kind. Nothing is trimmed: blanks make a number unreadable. -/
def ParamKind.read? (kind : ParamKind) (text : List Char) : Option Value :=
  match kind with
  | string => some (.string (String.ofList text))
  | int => (readInt64? text).map .int
  | double => (readFloat? text).map .double
  | bool =>
    if text = "true".toList then some (.bool true)
    else if text = "false".toList then some (.bool false)
    else none

def ParamKind.convert (kind : ParamKind) (placeholder : String) (text : List Char) :
    Except ConversionError Value :=
  match kind.read? text with
  | some value => .ok value
  | none => .error ⟨String.ofList text, placeholder, kind⟩

/-- Reads a value back from its kind and its text. -/
def Value.read? (kind : ParamKind) (text : String) : Option Value := kind.read? text.toList

end ScenarioRunner
