import HeapQuery.Cli.Perform

namespace HeapQuery.Cli

def nextSteps (path : String) : List String :=
  ["✓ Created " ++ path, "", "Next steps:",
    "   matq list --all", "   matq --snapshot heap.json run \"histogram java.util.*\""]

def writeConfig (around : Surroundings) (base : String) : Action Unit :=
  let directory := Config.directoryIn base
  let path := Config.pathIn base
  let isText := fun (place : String) =>
    match around.look place with
    | .text _ => true
    | _ => false
  if !(around.look path).isMissing then Action.say ("ℹ Configuration already exists at " ++ path)
  else if (Path.ancestors directory).any isText then
    throw (.other s!"Failed to create directory: {directory}")
  else do
    Action.create path Config.defaultText
    Action.sayAll (nextSteps path)

def ready (around : Surroundings) (i : Invocation) : Action Setup :=
  match setUp around i with
  | .ok s => pure s
  | .error e => throw e

/-- Performs an invocation. A configuration file is written without reading one first. -/
def perform (around : Surroundings) (i : Invocation) : Action Unit := do
  match i.command with
  | .init => writeConfig around (i.argument.getD around.directory)
  | .list => list (← ready around i) i.pattern i.all
  | .categories => categories (← ready around i)
  | .usage => usage (← ready around i) (i.argument.getD "")
  | .explain => explain (← ready around i) (i.argument.getD "")
  | .tokenize => tokenize (← ready around i) around i.argument
  | .parse => parse (← ready around i) around i.argument
  | .run => run (← ready around i) around i.argument
  | .batch => batch (← ready around i) around i.argument

def places (directory : String) (i : Invocation) : List String :=
  match i.command with
  | .init =>
    let base := i.argument.getD directory
    Config.pathIn base :: Path.ancestors (Config.directoryIn base)
  | command =>
    let file := if command == .batch then i.argument.toList else []
    i.config.getD (Config.pathIn directory) :: i.snapshot.toList ++ file

/-- True when an invocation reads the input: a command text or a script that was not given. -/
def needsInput (i : Invocation) : Bool :=
  i.argument.isNone &&
    match i.command with
    | .tokenize | .parse | .run | .batch => true
    | _ => false

def invoke (around : Surroundings) (arguments : List String) : Option Failure × Written :=
  match read (around.env "MATQ_CONFIG") arguments with
  | .error e => (some (.usage e), {})
  | .ok i => (perform around i).outcome

end HeapQuery.Cli
