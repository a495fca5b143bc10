import HeapQuery.Heap.Snapshot
import HeapQuery.Path
import HeapQuery.Pattern
import HeapQuery.QueryError

namespace HeapQuery

/-- How many values an argument takes. Deferred values inside a list are built one by one. -/
inductive Multiplicity
  | single
  | array
  | list
  deriving DecidableEq, Repr, Inhabited

/-- The number of a registration and a position among its arguments: two arguments with the same
number are the same argument. -/
structure ArgumentId where
  registration : Nat
  position : Nat
  deriving DecidableEq, Repr

inductive HostContent
  | text (s : String)
  | snapshot (s : Heap.Snapshot)

/-- A value as those who build deferred values see it. The serial number tells which deferred value
it is, and so what it would become. -/
inductive Seen
  | string (text : String)
  | boolean (b : Bool)
  | int (n : Int32)
  | long (n : Int64)
  | short (n : Int16)
  | double (x : Number.Double)
  | float (x : Number.Single)
  | pattern (p : Pattern Regex.standard)
  | file (path : String)
  | constant (name : String)
  | list (items : List Seen)
  | deferred (serial : Nat) (usage : String)
  | host (serial : Nat) (content : HostContent)

structure ArgumentView where
  id : ArgumentId
  name : String
  flag : Option String
  mandatory : Bool
  multiplicity : Multiplicity
  type : ValueType
  advice : Option Advice
  default : Option Seen
  help : Option String

/-- A value of a query argument. Deferred values are built for their argument right before a query
runs; `usage` is the text that recreates one on a command line. The serial numbers tell instances
apart. -/
inductive Value
  | string (text : String)
  | boolean (b : Bool)
  | int (n : Int32)
  | long (n : Int64)
  | short (n : Int16)
  | double (x : Number.Double)
  | float (x : Number.Single)
  | pattern (p : Pattern Regex.standard)
  | file (path : String)
  | constant (name : String)
  | list (items : List Value)
  | deferred (serial : Nat) (usage : String) (product : ArgumentView → Except QueryError Value)
  | host (serial : Nat) (content : HostContent)

/-- True for values whose shape fits the type. Deferred values and host objects fit every type: only
the query they are given to can tell. -/
def ValueType.accepts : ValueType → Value → Bool
  | _, .deferred .. | _, .host .. => true
  | .string, .string _ | .boolean, .boolean _ | .int, .int _ | .long, .long _
  | .short, .short _ | .double, .double _ | .float, .float _ | .pattern, .pattern _
  | .file, .file _ => true
  | .enum e, .constant name => e.constants.contains name
  | _, _ => false

namespace Value

def text? : Value → Option String
  | string s | constant s => some s
  | _ => none

def bool? : Value → Option Bool
  | boolean b => some b
  | _ => none

def int? : Value → Option Int32
  | int n => some n
  | short n => some n.toInt32
  | _ => none

def long? : Value → Option Int64
  | long n => some n
  | int n => some n.toInt64
  | short n => some n.toInt64
  | _ => none

def double? : Value → Option Number.Double
  | double x => some x
  | float x => some (x.convert .double)
  | _ => none

def pattern? : Value → Option (Pattern Regex.standard)
  | pattern p => some p
  | _ => none

def path? : Value → Option String
  | file path => some path
  | _ => none

def list? : Value → Option (List Value)
  | list items => some items
  | _ => none

def hostText? : Value → Option String
  | host _ (.text s) => some s
  | _ => none

def snapshot? : Value → Option Heap.Snapshot
  | host _ (.snapshot s) => some s
  | _ => none

def isDeferred : Value → Bool
  | deferred .. => true
  | _ => false

def elements : Value → List Value
  | list items => items
  | value => [value]

mutual

def display : Value → String
  | string s | constant s => s
  | boolean b => toString b
  | int n => toString n
  | long n => toString n
  | short n => toString n
  | double x => Number.Layout.plain.write .double x
  | float x => Number.Layout.plain.write .single x
  | pattern p => p.source
  | file path => path
  | list items => "[" ++ String.intercalate ", " (displays items) ++ "]"
  | deferred _ usage _ => usage
  | host .. => "<object>"

def displays : List Value → List String
  | [] => []
  | item :: rest => item.display :: displays rest

end

mutual

def inspect : Value → String
  | string s => "String(" ++ Text.quoted s ++ ")"
  | boolean b => "Boolean(" ++ toString b ++ ")"
  | int n => "Integer(" ++ toString n ++ ")"
  | long n => "Long(" ++ toString n ++ ")"
  | short n => "Short(" ++ toString n ++ ")"
  | double x => "Double(" ++ Number.Layout.inspect.write .double x ++ ")"
  | float x => "Float(" ++ Number.Layout.inspect.write .single x ++ ")"
  | pattern p => "Pattern(" ++ Text.quoted p.source ++ ")"
  | file path => "File(" ++ Text.quoted path ++ ")"
  | constant s => "Enum(" ++ Text.quoted s ++ ")"
  | list items => "[" ++ String.intercalate ", " (inspects items) ++ "]"
  | deferred _ usage _ => "Factory(" ++ Text.quoted usage ++ ")"
  | host .. => "Object(..)"

def inspects : List Value → List String
  | [] => []
  | item :: rest => item.inspect :: inspects rest

end

mutual

def seen : Value → Seen
  | string s => .string s
  | boolean b => .boolean b
  | int n => .int n
  | long n => .long n
  | short n => .short n
  | double x => .double x
  | float x => .float x
  | pattern p => .pattern p
  | file path => .file path
  | constant s => .constant s
  | list items => .list (seenItems items)
  | deferred serial usage _ => .deferred serial usage
  | host serial content => .host serial content

def seenItems : List Value → List Seen
  | [] => []
  | item :: rest => item.seen :: seenItems rest

end

mutual

/-- Equality of values: numbers by value, so that `NaN` differs from itself, files by the parts of
their paths, host objects by instance, deferred values by instance and text. -/
def same : Value → Value → Bool
  | string a, string b | constant a, constant b => a == b
  | boolean a, boolean b => a == b
  | int a, int b => a == b
  | long a, long b => a == b
  | short a, short b => a == b
  | double a, double b | float a, float b => a.equals b
  | pattern a, pattern b => a == b
  | file a, file b => Path.same a b
  | list as, list bs => sameItems as bs
  | deferred a u _, deferred b v _ => a == b && u == v
  | host a _, host b _ => a == b
  | _, _ => false

def sameItems : List Value → List Value → Bool
  | [], [] => true
  | a :: as, b :: bs => a.same b && sameItems as bs
  | _, _ => false

end

end Value

end HeapQuery
