import HeapQuery.Cli.Action
import HeapQuery.Json.Printer
import HeapQuery.Report.Script

namespace HeapQuery.Cli

def padded (width : Nat) (text : String) : String :=
  text ++ String.ofList (List.replicate (width - text.length) ' ')

def widest (texts : List String) : Nat := (texts.map String.utf8ByteSize).foldl max 0

def matching (s : Setup) : Option String → Action (List Registered)
  | none => pure s.registry.queries
  | some source =>
    match Pattern.compile? Regex.standard source with
    | some p => pure (s.registry.matching p)
    | none => throw (.other s!"Invalid query pattern '{source}'")

def describe (s : Setup) (q : Query) : Json :=
  .record
    [("identifier", .string q.identifier), ("name", .string q.name),
      ("category", .text? q.category), ("usage", .string (q.usage s.context)),
      ("accepted", .bool (q.isAccepted s.context)), ("description", .text? q.shortDescription?)]

def listLine (s : Setup) (width : Nat) (q : Query) : String :=
  let style := if q.isAccepted s.context then Report.Style.colored .green else Report.Style.faint
  let start := s.apply style (padded width q.identifier) ++ "  " ++ q.name
  match q.shortDescription? with
  | some text => start ++ ": " ++ text
  | none => start

def emptyList (s : Setup) (all : Bool) : String :=
  if all then "No queries registered"
  else if s.snapshot.isNone then "No snapshot loaded. Pass one with --snapshot or use --all."
  else "No matching query can run on this snapshot."

def list (s : Setup) (pattern : Option String) (all : Bool) : Action Unit := do
  let found ← matching s pattern
  let shown := found.filter fun q => all || q.isAccepted s.context
  let sorted := shown.mergeSort fun a b => !(b.identifier < a.identifier)
  if s.json then
    Action.say (Json.array (sorted.map fun q => describe s q.toQuery)).pretty
  else if sorted.isEmpty then Action.say (emptyList s all)
  else
    let width := widest (sorted.map fun q => q.identifier)
    Action.sayAll (sorted.map fun q => listLine s width q.toQuery)

def indentation (depth : Nat) : String := String.ofList (List.replicate (2 * depth) ' ')

mutual

/-- The lines for a menu item. Presets have a star. -/
def menuLines (s : Setup) (depth : Nat) : Menu → List String
  | .category name _ _ items =>
    (indentation depth ++ s.apply .strong (name ++ "/")) :: itemLines s (depth + 1) items
  | .query q =>
    let star := if q.isPreset then " *" else ""
    [indentation depth ++ q.name ++ star ++ " (" ++ q.identifier ++ ")"]

def itemLines (s : Setup) (depth : Nat) : List Menu → List String
  | [] => []
  | item :: rest => menuLines s depth item ++ itemLines s depth rest

end

mutual

def menuJson : Menu → Json
  | .category name path _ items =>
    .record
      [("category", .string name), ("path", .text? path), ("children", .array (itemsJson items))]
  | .query q =>
    .record
      [("query", .string q.identifier), ("name", .string q.name), ("options", .text? q.options)]

def itemsJson : List Menu → List Json
  | [] => []
  | item :: rest => menuJson item :: itemsJson rest

end

def categories (s : Setup) : Action Unit :=
  let menu := s.registry.menu.1
  if s.json then Action.say (menuJson menu).pretty
  else Action.sayAll (itemLines s 0 menu.children)

def find (s : Setup) (name : String) : Action Registered :=
  match s.registry.find? name with
  | some q => pure q
  | none => throw (.query (.queryNotFound name))

def argumentJson (a : Argument) : Json :=
  .record
    [("name", .string a.name), ("flag", .text? a.flag), ("type", .string a.type.name),
      ("mandatory", .bool a.mandatory), ("multiple", .bool a.isMultiple),
      ("default", .text? (a.valueUsage a.default)), ("help", .text? a.help)]

def usageJson (s : Setup) (q : Query) : Json :=
  .record
    [("identifier", .string q.identifier), ("name", .string q.name),
      ("usage", .string (q.usage s.context)), ("help", .text? q.help),
      ("help_url", .text? q.helpUrl), ("arguments", .array (q.arguments.map argumentJson))]

def argumentLine (width : Nat) (a : Argument) : String :=
  let start := "  " ++ padded width a.usage ++ "  " ++ a.help.getD ""
  match a.default.bind fun value => a.valueUsage (some value) with
  | some text => start ++ " (default: " ++ text ++ ")"
  | none => start

def argumentLines (s : Setup) (q : Query) : List String :=
  let shown := q.arguments.filter fun a => !s.context.supplies a
  if shown.isEmpty then []
  else "" :: "Arguments:" :: shown.map (argumentLine (widest (shown.map Argument.usage)))

def presetLine (q : Query) : Option String :=
  q.options.map fun options => "Menu: " ++ q.name ++ " = " ++ q.identifier ++ " " ++ options

def usageLines (s : Setup) (q : Registered) : List String :=
  [s.apply .strong q.name, "Usage: " ++ q.usage s.context] ++
    (q.help.map fun help => ["", help]).getD [] ++
    (q.helpUrl.map fun url => "See " ++ url).toList ++
    argumentLines s q.toQuery ++ q.presets.filterMap presetLine

def usage (s : Setup) (name : String) : Action Unit := do
  let q ← find s name
  if s.json then Action.say (usageJson s q.toQuery).pretty else Action.sayAll (usageLines s q)

def explain (s : Setup) (name : String) : Action Unit := do
  let q ← find s name
  let reasons := ((q.explain? s.context).map Report.lines).getD []
  if s.json then
    Action.say (Json.record
      [("identifier", .string q.identifier), ("accepted", .bool (q.explain? s.context).isNone),
        ("reasons", .strings reasons)]).pretty
  else if (q.explain? s.context).isNone then
    Action.say (s.yes ++ " " ++ q.identifier ++ " can run here")
  else
    Action.say (s.no ++ " " ++ q.identifier ++ " cannot run here:")
    Action.sayAll (reasons.map fun reason => "  " ++ reason)

end HeapQuery.Cli
