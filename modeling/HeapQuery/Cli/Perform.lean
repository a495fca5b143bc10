import HeapQuery.Cli.Show
import HeapQuery.CommandLine
import HeapQuery.Report.Table

namespace HeapQuery.Cli

def tokenJson : Token → Json
  | .null => .null
  | .word text => .string text

def tokenLine (s : Setup) : Token → String
  | .null => s.apply .faint "<null>"
  | .word text => text

def tokenize (s : Setup) (around : Surroundings) (text : Option String) : Action Unit := do
  let tokens := Token.ofLine (← textOrInput around text)
  if s.json then Action.say (Json.array (tokens.map tokenJson)).pretty
  else Action.sayAll (tokens.map (tokenLine s))

def shownBindings (b : Bindings) : List (String × String) :=
  b.query.arguments.filterMap fun a =>
    (b.binding? a).map fun value =>
      let shown :=
        if b.context.supplies a then "<context>" else (value.map Value.display).getD "<null>"
      (a.name, shown)

def bindingsJson (b : Bindings) : Json :=
  let shown := (shownBindings b).map fun (name, value) =>
    Json.record [("name", .string name), ("value", .string value)]
  .record
    [("query", .string b.query.identifier), ("arguments", .array shown),
      ("unset", .string b.unsetUsage), ("executable", .bool b.isExecutable),
      ("command", .string b.line)]

def bindingLines (s : Setup) (b : Bindings) : List String :=
  let shown := shownBindings b
  let width := widest (shown.map (·.1))
  [s.apply .strong b.query.name] ++
    (shown.map fun (name, value) => "  " ++ padded width name ++ "  " ++ value) ++
    (if b.unsetUsage.isEmpty then [] else ["Unset: " ++ b.unsetUsage]) ++
    [if b.isExecutable then s.yes ++ " " ++ b.line else s.no ++ " missing mandatory arguments"]

def parse (s : Setup) (around : Surroundings) (command : Option String) : Action Unit := do
  let line ← textOrInput around command
  let b ← Action.ofQuery (CommandLine.parse s.registry s.context line)
  if s.json then Action.say (bindingsJson b).pretty else Action.sayAll (bindingLines s b)

def execute (s : Setup) (line : String) : Except QueryError Outcome := do
  let b ← CommandLine.parse s.registry s.context line
  (b.execute .silent).1

def outcomeText (s : Setup) (o : Outcome) : String :=
  if s.json then
    (Json.record
      [("query", .string o.query.identifier), ("command", .string o.command),
        ("result", .ofOption o.output)]).compact
  else
    match o.output with
    | some output => Report.human s.colors output
    | none => s.yes ++ " " ++ o.command ++ " finished"

def run (s : Setup) (around : Surroundings) (command : Option String) : Action Unit := do
  let line ← textOrInput around command
  let o ← Action.ofQuery (execute s line)
  Action.say (outcomeText s o)

/-- Runs one command of a script and tells whether it failed. Only a canceled command ends the
script. -/
def runLine (s : Setup) (line : String) : Action Bool := do
  if !s.json then Action.say (s.apply (.sign .cyan) ">" ++ " " ++ line)
  match execute s line with
  | .ok o =>
    Action.say (outcomeText s o)
    return false
  | .error e =>
    if e.isCanceled then throw (.query e)
    Action.complain (s.apply (.sign .red) "Error:" ++ " " ++ e.message)
    return true

def script (around : Surroundings) : Option String → Action (List String)
  | none => pure (Report.commands around.input)
  | some path =>
    match around.look path with
    | .text content => pure (Report.commands content)
    | _ => throw (.other s!"Failed to read commands: {path}")

def batch (s : Setup) (around : Surroundings) (file : Option String) : Action Unit := do
  let lines ← script around file
  let failed ← lines.mapM (runLine s)
  let count := failed.countP id
  if 0 < count then throw (.other s!"{count} of {lines.length} commands failed")

end HeapQuery.Cli
