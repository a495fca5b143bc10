import HeapQuery.Argument

namespace HeapQuery

/-- The value that is bound to an argument. `null` says that the argument was set to nothing. -/
inductive Field
  | null
  | scalar (value : Value)
  | array (values : List Value)
  | list (values : List Value)

namespace Field

def isNull : Field → Bool
  | null => true
  | _ => false

def scalar? : Field → Option Value
  | scalar value => some value
  | _ => none

def values : Field → List Value
  | null => []
  | scalar value => [value]
  | array values | list values => values

def display : Field → String
  | null => "null"
  | scalar value => value.display
  | array values | list values => (Value.list values).display

end Field

def Argument.illegal (a : Argument) (field : Field) : QueryError :=
  .illegalArgument a.name a.expected field.display

namespace Field

def scalarAs (field : Field) (a : Argument) (extract : Value → Option α) : Except QueryError α :=
  match field.scalar?.bind extract with
  | some part => .ok part
  | none => .error (a.illegal field)

def optionalAs (field : Field) (a : Argument) (extract : Value → Option α) :
    Except QueryError (Option α) :=
  if field.isNull then .ok none else (field.scalarAs a extract).map some

def listAs (field : Field) (a : Argument) (extract : Value → Option α) :
    Except QueryError (List α) :=
  match field.values.mapM extract with
  | some parts => .ok parts
  | none => .error (a.illegal field)

end Field

end HeapQuery
