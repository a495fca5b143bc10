import HeapQuery.ClassPattern
import HeapQuery.Text.Case
import HeapQuery.Token
import HeapQuery.Value

namespace HeapQuery

namespace ValueType

def readInteger (t : ValueType) (bits : Nat) (text : String) : Except ConvertError Int :=
  match Number.readInteger (.signed bits) 10 text.toList with
  | .ok n => .ok n
  | .error fault => .error (.invalidInteger t.name text fault)

def readFloat (t : ValueType) (f : Number.Format) (text : String) :
    Except ConvertError Number.Binary :=
  match Number.readFloat f text.toList with
  | .ok x => .ok x
  | .error fault => .error (.invalidFloat t.name text fault)

/-- The source of the pattern that a text stands for. -/
def patternSource (advice : Option Advice) (text : String) : String :=
  if advice = some .classNamePattern then ClassPattern.normalize false text else text

/-- Reads a value of the type. Text other than `true`, in any case, is false. -/
def read (t : ValueType) (advice : Option Advice) (text : String) : Except ConvertError Value :=
  match t with
  | string => .ok (.string text)
  | boolean => .ok (.boolean (Text.equalsIgnoringAsciiCase text "true"))
  | int => (t.readInteger 32 text).map fun n => .int (Int32.ofInt n)
  | long => (t.readInteger 64 text).map fun n => .long (Int64.ofInt n)
  | short => (t.readInteger 16 text).map fun n => .short (Int16.ofInt n)
  | double => (t.readFloat .double text).map .double
  | float => (t.readFloat .single text).map .float
  | pattern =>
    let source := patternSource advice text
    match Pattern.compile? Regex.standard source with
    | some p => .ok (.pattern p)
    | none => .error (.invalidPattern source)
  | file => .ok (.file text)
  | enum e =>
    if e.constants.contains text then .ok (.constant text) else .error (.invalidConstant e text)
  | host name => .error (.notConvertible name)

def write (t : ValueType) (value : Value) : Except ConvertError String :=
  if !t.accepts value then .error (.typeMismatch t.name value.display)
  else
    match value with
    | .deferred .. | .host .. => .error (.typeMismatch t.name value.display)
    | .file path => .ok (Path.absolute path)
    | value => .ok value.display

def textOf (t : ValueType) (value : Value) : String :=
  match t.write value with
  | .ok text => text
  | .error _ => value.display

def wordOf (t : ValueType) (value : Value) : String := Token.escape (t.textOf value)

end ValueType

end HeapQuery
