import HeapQuery.Cli.Options
import HeapQuery.Config
import HeapQuery.Heap.Listing
import HeapQuery.Heap.Queries
import HeapQuery.Registry
import HeapQuery.Report.Style

namespace HeapQuery.Cli

/-- What the tool finds around it: its working directory, the variables of the environment, files and
its input. -/
structure Surroundings where
  directory : String
  env : String → Option String
  look : String → Entry
  input : String

inductive Failure
  | usage (e : UsageError)
  | query (e : QueryError)
  | config (e : ConfigError)
  | other (text : String)
  deriving DecidableEq, Repr

structure Written where
  out : String := ""
  err : String := ""
  files : List (String × String) := []
  deriving DecidableEq, Repr

/-- An action that writes and may fail; what it wrote before it failed stays. -/
abbrev Action := ExceptT Failure (StateM Written)

namespace Action

def say (line : String) : Action Unit := modify fun w => { w with out := w.out ++ line ++ "\n" }

def complain (line : String) : Action Unit := modify fun w => { w with err := w.err ++ line ++ "\n" }

def sayAll (lines : List String) : Action Unit := lines.forM say

def create (path text : String) : Action Unit :=
  modify fun w => { w with files := w.files ++ [(path, text)] }

def ofQuery (result : Except QueryError α) : Action α :=
  match result with
  | .ok x => pure x
  | .error e => throw (.query e)

def outcome (a : Action Unit) : Option Failure × Written :=
  match a.run {} with
  | (.ok _, written) => (none, written)
  | (.error e, written) => (some e, written)

end Action

structure Setup where
  registry : Registry
  snapshot : Option Heap.Snapshot
  json : Bool
  colors : Bool

namespace Setup

def context (s : Setup) : Context := Heap.environment s.snapshot

def apply (s : Setup) (style : Report.Style) (text : String) : String := style.apply s.colors text

def yes (s : Setup) : String := s.apply (.sign .green) "✓"

def no (s : Setup) : String := s.apply (.sign .red) "✗"

end Setup

def loadSnapshot (around : Surroundings) : Option String → Except Failure (Option Heap.Snapshot)
  | none => .ok none
  | some path =>
    match around.look path with
    | .text content =>
      match Heap.Snapshot.read path content with
      | .ok snapshot => .ok (some snapshot)
      | .error text => .error (.other text)
    | _ => .error (.other s!"Failed to read snapshot: {path}")

def setUp (around : Surroundings) (i : Invocation) : Except Failure Setup := do
  let config ← (Config.load around.look around.env around.directory i.config).mapError
    Failure.config
  let snapshot ← loadSnapshot around i.snapshot
  let (_, registry) := (Registry.withTranslations config.translations).registerAll Heap.queries
  return ⟨registry, snapshot, i.json || config.format == "json", config.color == "always"⟩

def textOrInput (around : Surroundings) : Option String → Action String
  | some text => pure text
  | none =>
    let text := Text.trim around.input
    if text.isEmpty then throw (.other "Empty input provided") else pure text

end HeapQuery.Cli
