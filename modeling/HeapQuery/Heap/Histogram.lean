import HeapQuery.Heap.Environment
import HeapQuery.Query.Spec

namespace HeapQuery.Heap

def snapshotArgument : ArgumentSpec where
  name := "snapshot"
  type := snapshotType
  mandatory := true
  help := some "The object listing to analyze."

def pollInterval : Nat := 1024

/-- Asks whether the run is canceled, once in every interval. -/
def pollAt (index : Nat) : Run Unit :=
  if index % pollInterval == 0 then Run.checkCanceled else pure ()

def needSnapshot (snapshot : Option Snapshot) : Run Snapshot :=
  match snapshot with
  | some s => pure s
  | none => Run.fail (.other "no snapshot bound")

namespace Histogram

structure Settings where
  snapshot : Option Snapshot := none
  classes : List (Pattern Regex.standard) := []
  byPackage : Bool := false

def bind (s : Settings) (given : Given) : Except QueryError Settings :=
  let (a, field) := given
  match a.name with
  | "snapshot" => do return { s with snapshot := some (← field.scalarAs a Value.snapshot?) }
  | "classes" => do return { s with classes := ← field.listAs a Value.pattern? }
  | "groupby" => do
    let grouping ← field.optionalAs a Value.text?
    return { s with byPackage := grouping == some "BY_PACKAGE" }
  | _ => .error (a.illegal field)

structure Row where
  name : String
  objects : Nat
  shallow : Nat
  retained : Nat
  deriving DecidableEq, Repr

def addTo (name : String) (o : Object) : List Row → List Row
  | [] => [⟨name, 1, o.shallow, o.retained⟩]
  | row :: rest =>
    if row.name == name then
      ⟨name, row.objects + 1, row.shallow + o.shallow, row.retained + o.retained⟩ :: rest
    else row :: addTo name o rest

def Settings.wants (s : Settings) (o : Object) : Bool :=
  s.classes.isEmpty || s.classes.any fun p => p.accepts o.className

def Settings.rowName (s : Settings) (o : Object) : String :=
  if s.byPackage then o.package else o.className

def Settings.count (s : Settings) (rows : List Row) (o : Object) : List Row :=
  if s.wants o then addTo (s.rowName o) o rows else rows

def Row.comesBefore (a b : Row) : Bool :=
  if a.shallow == b.shallow then !(b.name < a.name) else b.shallow < a.shallow

def Row.json (row : Row) : Json :=
  .record
    [("name", .string row.name), ("objects", .nat row.objects), ("shallow", .nat row.shallow),
      ("retained", .nat row.retained)]

def Settings.rows (s : Settings) (objects : List Object) : List Row :=
  (objects.foldl s.count []).mergeSort Row.comesBefore

def countAll (index : Nat) : List Object → Run Unit
  | [] => pure ()
  | _ :: rest => do
    pollAt index
    Run.worked 1
    countAll (index + 1) rest

def run (s : Settings) : Run (Option Json) := do
  let snapshot ← needSnapshot s.snapshot
  Run.beginTask "Counting objects" snapshot.objects.length
  countAll 0 snapshot.objects
  Run.done
  return some (.array ((s.rows snapshot.objects).map Row.json))

def command : Command := .stateful "matq::queries::histogram::Histogram" {} bind run

end Histogram

def histogram : QuerySpec where
  command := Histogram.command
  name := some "1|Class Histogram"
  commandName := some "histogram"
  category := some "1|Java Basics"
  help := some ("Number of objects, shallow and retained size per class. " ++
    "Restrict the classes with patterns such as java.util.* or *Map.")
  arguments :=
    [snapshotArgument,
      { name := "classes"
        type := .pattern
        flag := .unflagged
        multiplicity := .list
        advice := some .classNamePattern
        help := some "Only count classes matching one of these patterns." },
      { name := "groupby"
        type := .enum ⟨"Grouping", ["BY_CLASS", "BY_PACKAGE"]⟩
        default := some (.constant "BY_CLASS")
        help := some "Group rows by class or by package." }]
  presets :=
    [{ label := some "2|Histogram by package"
       help := some "Number of objects, shallow and retained size per package."
       options := "-groupby BY_PACKAGE" }]

end HeapQuery.Heap
