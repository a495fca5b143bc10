import HeapQuery.Argument

namespace HeapQuery

inductive FlagChoice
  | derived
  | unflagged
  | named (flag : String)
  deriving DecidableEq, Repr

structure ArgumentSpec where
  name : String
  type : ValueType
  flag : FlagChoice := .derived
  mandatory : Bool := false
  multiplicity : Multiplicity := .single
  advice : Option Advice := none
  default : Option Value := none
  help : Option String := none

namespace ArgumentSpec

def hasEmptyName (spec : ArgumentSpec) : Bool := Text.isBlankText spec.name

/-- The flag of the argument without its dash; the outer `none` is a flag that is no word. -/
def flag? (spec : ArgumentSpec) : Option (Option String) :=
  match spec.flag with
  | .derived => some (some (Text.lower spec.name))
  | .unflagged => some none
  | .named flag =>
    let bare := match flag.toList with
      | '-' :: rest => rest
      | cs => cs
    if bare.isEmpty || bare.any Text.isBlank then none else some (some (String.ofList bare))

def adviceFault? (spec : ArgumentSpec) : Option String :=
  match spec.advice, spec.type with
  | some .classNamePattern, .pattern => none
  | some .classNamePattern, _ => some "class name pattern advice requires a pattern type"
  | some .directory, .file | some .save, .file => none
  | some .directory, _ | some .save, _ => some "directory and save advice require a file type"
  | _, _ => none

/-- The default value in the shape the argument has; the outer `none` is a default that does not
fit. A deferred value fits as it is. -/
def default? (spec : ArgumentSpec) : Option (Option Value) :=
  match spec.default with
  | none => some none
  | some (.deferred serial usage product) => some (some (.deferred serial usage product))
  | some value =>
    if spec.multiplicity == .single then
      if spec.type.accepts value then some (some value) else none
    else if value.elements.all spec.type.accepts then some (some (.list value.elements))
    else none

/-- The argument that the spec describes, checked in this order: its name, its flag, its advice and
its default. -/
def build (spec : ArgumentSpec) (query : String) (id : ArgumentId) : Except QueryError Argument :=
  let invalid := fun reason => QueryError.invalidArgument query spec.name reason
  if spec.hasEmptyName then .error (invalid "argument name must not be empty")
  else
    match spec.flag? with
    | none => .error (invalid "flags must be a single non-empty word")
    | some flag =>
      if spec.type.isBoolean && flag.isNone then .error (invalid "boolean arguments need a flag")
      else
        match spec.adviceFault?, spec.default? with
        | some fault, _ => .error (invalid fault)
        | none, none => .error (invalid "default value does not match the argument type")
        | none, some default =>
          .ok ⟨id, spec.name, flag, spec.mandatory, spec.multiplicity, spec.type, spec.advice,
            default, spec.help⟩

end ArgumentSpec

end HeapQuery
