import HeapQuery.Bindings

namespace HeapQuery

/-- What an executed query leaves: the query, the command line that repeats it and its output. -/
structure Outcome where
  query : Query
  command : String
  output : Option Json

namespace Argument

def shape (a : Argument) (value : Value) : Field :=
  match a.multiplicity with
  | .single => .scalar value
  | .array => .array value.elements
  | .list => .list value.elements

/-- Builds a deferred value; any other value stays as it is. -/
def force (a : Argument) : Value → Except QueryError Value
  | .deferred _ _ product => a.build product
  | value => .ok value

/-- The field for a value. A deferred value is built first, and so are the elements of a list. -/
def field (a : Argument) (value : Value) : Except QueryError Field :=
  match value with
  | .deferred _ _ product => do return a.shape (← a.build product)
  | value =>
    match a.multiplicity with
    | .list => do return .list (← value.elements.mapM a.force)
    | _ => .ok (a.shape value)

end Argument

namespace Bindings

/-- The field that is bound to an argument, if one is. The default stands in for a missing value,
and for null where the argument is mandatory. -/
def field? (b : Bindings) (position : Nat) (a : Argument) : Except QueryError (Option Field) :=
  let binding := b.at? position
  let value := match binding with
    | some (some value) => some value
    | some none => if a.mandatory then a.default else none
    | none => a.default
  match value with
  | some value => do return some (← a.field value)
  | none =>
    if a.mandatory then .error (.missingMandatoryArgument a.name)
    else if binding.isSome then .ok (some .null)
    else .ok none

def giveFrom (b : Bindings) (before : List Given) :
    List (Nat × Argument) → Except QueryError (List Given)
  | [] => .ok before
  | (i, a) :: rest => do
    match ← b.field? i a with
    | none => b.giveFrom before rest
    | some field =>
      b.query.command.accept before (a, field)
      b.giveFrom (before ++ [(a, field)]) rest

def given (b : Bindings) : Except QueryError (List Given) := b.giveFrom [] (positions b.query)

def execute (b : Bindings) (listener : Listener) : Except QueryError Outcome × Progress :=
  match b.given with
  | .error e => (.error e, .none)
  | .ok given =>
    match (b.query.command.run given).start listener with
    | (.ok output, progress) => (.ok ⟨b.query, b.line, output⟩, progress)
    | (.error failure, progress) => (.error (failure.rethrow b.query.identifier), progress)

end Bindings

end HeapQuery
