import HeapQuery.Number.Literal
import HeapQuery.ValueType

namespace HeapQuery

inductive ConvertError
  | invalidInteger (kind text : String) (fault : Number.IntegerFault)
  | invalidFloat (kind text : String) (fault : Number.FloatFault)
  | invalidPattern (source : String)
  | invalidConstant (enum : EnumType) (text : String)
  | notConvertible (type : String)
  | typeMismatch (expected value : String)
  deriving DecidableEq, Repr

def ConvertError.message : ConvertError → String
  | invalidInteger kind text fault => s!"'{text}' is not a valid {kind}: {fault.message}"
  | invalidFloat kind text fault => s!"'{text}' is not a valid {kind}: {fault.message}"
  | invalidPattern source => s!"invalid pattern '{source}'"
  | invalidConstant enum text =>
    let legal := String.intercalate ", " enum.constants
    s!"invalid value '{text}' for enum {enum.name}, expected one of [{legal}]"
  | notConvertible type => s!"values of type {type} cannot be converted from text"
  | typeMismatch expected value => s!"value {value} is not of type {expected}"

/-- An error of registration, lookup, parsing or execution. Cancellation is never wrapped into
another error. -/
inductive QueryError
  | duplicateIdentifier (identifier owner : String)
  | invalidArgument (query argument reason : String)
  | invalidQuery (query reason : String)
  | queryNotFound (name : String)
  | noSuchArgument (query argument : String)
  | invalidCommand (line : String)
  | unknownFlag (query flag : String)
  | missingValue (argument : String) (flag : Option String)
  | noUnflaggedArguments (token : String)
  | assignmentFailed (token argument : String)
  | conversion (e : ConvertError)
  | missingMandatoryArgument (argument : String)
  | illegalArgument (argument expected value : String)
  | execution (query cause : String)
  | canceled
  deriving DecidableEq, Repr

namespace QueryError

def message : QueryError → String
  | duplicateIdentifier identifier owner =>
    s!"query name '{identifier}' is already bound to {owner}"
  | invalidArgument query argument reason =>
    s!"invalid argument '{argument}' in query {query}: {reason}"
  | invalidQuery query reason => s!"invalid query {query}: {reason}"
  | queryNotFound name => s!"query not found: {name}"
  | noSuchArgument query argument => s!"query {query} has no argument '{argument}'"
  | invalidCommand line => s!"invalid command line: '{line}'"
  | unknownFlag query flag => s!"query {query} has no argument for flag -{flag}"
  | missingValue argument flag =>
    let shown := match flag with
      | some flag => s!" (-{flag})"
      | none => ""
    s!"missing value for argument '{argument}'{shown}"
  | noUnflaggedArguments token => s!"no unflagged argument accepts the value '{token}'"
  | assignmentFailed token argument =>
    s!"cannot assign '{token}', argument '{argument}' already took the unflagged value"
  | conversion e => e.message
  | missingMandatoryArgument argument => s!"missing mandatory argument '{argument}'"
  | illegalArgument argument expected value =>
    s!"illegal value {value} for argument '{argument}' of type {expected}"
  | execution query cause => s!"query {query} failed: {cause}"
  | canceled => "operation canceled"

def isCanceled : QueryError → Bool
  | canceled => true
  | _ => false

end QueryError

end HeapQuery
