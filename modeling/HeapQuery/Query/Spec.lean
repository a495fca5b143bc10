import HeapQuery.Argument.Spec
import HeapQuery.Query
import HeapQuery.Translations

namespace HeapQuery

structure PresetSpec where
  label : Option String := none
  category : Option String := none
  help : Option String := none
  helpUrl : Option String := none
  options : String := ""
  deriving DecidableEq, Repr

structure QuerySpec where
  command : Command
  name : Option String := none
  commandName : Option String := none
  category : Option String := none
  usage : Option String := none
  help : Option String := none
  helpUrl : Option String := none
  arguments : List ArgumentSpec := []
  presets : List PresetSpec := []

namespace QuerySpec

def key (spec : QuerySpec) : String := spec.command.simpleName

def rawName (spec : QuerySpec) : String := spec.name.getD spec.key

def identifier (spec : QuerySpec) : String :=
  let text := spec.commandName.getD (Label.split spec.rawName).2
  String.ofList ((Text.lower (Text.trim text)).toList.map fun c => if c == ' ' then '_' else c)

def translatedArguments (spec : QuerySpec) (t : Translations) : List ArgumentSpec :=
  spec.arguments.map fun a =>
    match t.get? (spec.key ++ "." ++ a.name ++ ".help") with
    | some help => { a with help := some help }
    | none => a

def buildArguments (query : String) (registration : Nat) :
    Nat → List ArgumentSpec → Except QueryError (List Argument)
  | _, [] => .ok []
  | position, spec :: rest => do
    let a ← spec.build query ⟨registration, position⟩
    return a :: (← buildArguments query registration (position + 1) rest)

/-- Names have to differ, and flags have to differ in more than their case. `names` and `flags` are
those of the arguments before. -/
def checkDistinct (query : String) (names flags : List String) :
    List Argument → Except QueryError Unit
  | [] => .ok ()
  | a :: rest =>
    if names.contains a.name then .error (.invalidArgument query a.name "duplicate argument name")
    else
      match a.flag.map Text.lower with
      | none => checkDistinct query (a.name :: names) flags rest
      | some flag =>
        if flags.contains flag then .error (.invalidArgument query a.name "duplicate flag")
        else checkDistinct query (a.name :: names) (flag :: flags) rest

def checkPositional (query : String) (arguments : List Argument) : Except QueryError Unit :=
  if 1 < arguments.countP Argument.isPositional then
    .error (.invalidQuery query "at most one argument may be unflagged")
  else .ok ()

def preset (q : Query) (key : String) (t : Translations) (index : Nat) (p : PresetSpec) : Query :=
  let start := key ++ ".menu." ++ toString index
  let given := (t.translate (start ++ ".label") p.label).filter fun l => !Text.isBlankText l
  let label := given.getD (key ++ " menu entry #" ++ toString (index + 1))
  let (sortKey, name) := Label.split label
  { q with
    name := name
    sortKey := sortKey
    category := (t.translate (start ++ ".category") p.category).or q.category
    help := (t.translate (start ++ ".help") p.help).or q.help
    helpUrl := p.helpUrl.or q.helpUrl
    options := some p.options }

def query (spec : QuerySpec) (t : Translations) (arguments : List Argument) : Query :=
  let label := (t.translate (spec.key ++ ".name") (some spec.rawName)).getD spec.key
  { identifier := spec.identifier
    name := (Label.split label).2
    sortKey := (Label.split label).1
    category := t.translate (spec.key ++ ".category") spec.category
    command := spec.command
    fixedUsage := spec.usage
    help := t.translate (spec.key ++ ".help") spec.help
    helpUrl := spec.helpUrl
    arguments := arguments
    options := none }

def build (spec : QuerySpec) (t : Translations) (registration : Nat) :
    Except QueryError Registered := do
  let identifier := spec.identifier
  if identifier.isEmpty || Text.hasBlank identifier then
    throw (.invalidQuery spec.command.typeName s!"'{identifier}' is not a usable command name")
  let arguments ← buildArguments identifier registration 0 (spec.translatedArguments t)
  checkDistinct identifier [] [] arguments
  checkPositional identifier arguments
  let q := spec.query t arguments
  return { q with presets := spec.presets.mapIdx (preset q spec.key t) }

end QuerySpec

end HeapQuery
