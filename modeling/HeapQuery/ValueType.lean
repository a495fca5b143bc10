namespace HeapQuery

inductive Advice
  | heapObject
  | secondarySnapshot
  | classNamePattern
  | directory
  | save
  deriving DecidableEq, Repr

structure EnumType where
  name : String
  constants : List String
  deriving DecidableEq, Repr

/-- The type of an argument. Values of a `host` type have no text; only the environment of a query
can supply them. -/
inductive ValueType
  | string
  | boolean
  | int
  | long
  | short
  | double
  | float
  | pattern
  | file
  | enum (e : EnumType)
  | host (name : String)
  deriving DecidableEq, Repr, Inhabited

namespace ValueType

def isBoolean (t : ValueType) : Bool := t == boolean

def enum? : ValueType → Option EnumType
  | enum e => some e
  | _ => none

def isTextual : ValueType → Bool
  | host _ => false
  | _ => true

def name : ValueType → String
  | string => "string"
  | boolean => "boolean"
  | int => "int"
  | long => "long"
  | short => "short"
  | double => "double"
  | float => "float"
  | pattern => "pattern"
  | file => "file"
  | enum e => e.name
  | host name => name

end ValueType

end HeapQuery
