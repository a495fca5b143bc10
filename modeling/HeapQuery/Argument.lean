import HeapQuery.Conversion

namespace HeapQuery

/-- An argument of a registered query. Without a flag it is positional. -/
structure Argument where
  id : ArgumentId
  name : String
  flag : Option String
  mandatory : Bool
  multiplicity : Multiplicity
  type : ValueType
  advice : Option Advice
  default : Option Value
  help : Option String

namespace Argument

def view (a : Argument) : ArgumentView :=
  ⟨a.id, a.name, a.flag, a.mandatory, a.multiplicity, a.type, a.advice, a.default.map Value.seen,
    a.help⟩

def build (a : Argument) (product : ArgumentView → Except QueryError Value) :
    Except QueryError Value :=
  product a.view

def isMultiple (a : Argument) : Bool := a.multiplicity != .single

def isPositional (a : Argument) : Bool := a.flag.isNone

def isBoolean (a : Argument) : Bool := a.type.isBoolean

def flagText (a : Argument) : String :=
  match a.flag with
  | some flag => "-" ++ flag ++ " "
  | none => ""

def placeholder (a : Argument) : Option String :=
  if a.isMultiple then some ("<" ++ a.name ++ "0 .. N>")
  else
    match a.type with
    | .boolean => none
    | .enum e => some (String.intercalate "|" e.constants)
    | _ => some ("<" ++ a.name ++ ">")

/-- The usage of the argument, such as `[-x <x0 .. N>]`; brackets say that it may be left out. -/
def usage (a : Argument) : String :=
  let flag := (a.flag.map ("-" ++ ·)).toList
  let body := String.intercalate " " (flag ++ a.placeholder.toList)
  if a.mandatory then body else "[" ++ body ++ "]"

/-- The word for a value, unless reading it again would give something else: empty text is the null
token, a dash in front makes a flag where no flag came before, and a semicolon ends a list. -/
def word? (a : Argument) (inList : Bool) (value : Value) : Option String :=
  let text := a.type.textOf value
  let isFlag := (inList || a.isPositional) && (Token.word text).flag?.isSome
  let endsList := inList && text.toList.getLast? == some ';'
  if text.isEmpty || isFlag || endsList then none else some (Token.escape text)

def elementText? (a : Argument) : Value → Option String
  | .deferred _ usage _ => some usage
  | value => a.word? true value

def valueText? (a : Argument) (value : Value) : Option String :=
  if a.isMultiple then
    match value.elements.filterMap a.elementText? with
    | [] => none
    | texts => some (String.intercalate " " texts)
  else a.word? false value

/-- The command text that sets the argument to `value`, where no value is null. There is none for
lists without elements, for switches that are off and for values that cannot be written. -/
def valueUsage (a : Argument) : Option Value → Option String
  | none => if a.isMultiple || a.isBoolean then none else some (a.flagText ++ "\"\"")
  | some (.deferred _ usage _) => some (a.flagText ++ usage)
  | some value =>
    if a.isBoolean then
      match value, a.flag with
      | .boolean true, some flag => some ("-" ++ flag)
      | _, _ => none
    else (a.valueText? value).map (a.flagText ++ ·)

def display (a : Argument) : String :=
  let flag := a.flag.getD "<none>"
  s!"{a.name}(required={a.mandatory},flag={flag},type={a.type.name})"

def expected (a : Argument) : String :=
  if a.isMultiple then a.type.name ++ "[]" else a.type.name

end Argument

end HeapQuery
