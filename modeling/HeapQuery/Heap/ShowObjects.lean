import HeapQuery.Heap.Histogram

namespace HeapQuery.Heap

namespace ShowObjects

structure Settings where
  snapshot : Option Snapshot := none
  ids : List Nat := []
  least : Nat := 0

def nat? (value : Value) : Option Nat :=
  value.long?.bind fun n => if 0 ≤ n.toInt then some n.toInt.toNat else none

def bind (s : Settings) (given : Given) : Except QueryError Settings :=
  let (a, field) := given
  match a.name with
  | "snapshot" => do return { s with snapshot := some (← field.scalarAs a Value.snapshot?) }
  | "objects" => do
    let ids ← field.scalarAs a fun value => value.list?.bind fun items => items.mapM nat?
    return { s with ids := ids }
  | "min" => do
    match ← field.optionalAs a nat? with
    | some least => return { s with least := least }
    | none => return { s with least := 0 }
  | _ => .error (a.illegal field)

def resolve (snapshot : Snapshot) (least : Nat) : List Nat → Run (List Object)
  | [] => pure []
  | id :: rest => do
    Run.checkCanceled
    match snapshot.object? id with
    | none => Run.fail (.other s!"no object {address id} in {snapshot.path}")
    | some o =>
      Run.worked 1
      let others ← resolve snapshot least rest
      return if least ≤ o.shallow then o :: others else others

def comesBefore (a b : Object) : Bool :=
  if a.retained == b.retained then a.id ≤ b.id else b.retained < a.retained

def row (o : Object) : Json :=
  .record
    [("address", .string (address o.id)), ("class", .string o.className),
      ("shallow", .nat o.shallow), ("retained", .nat o.retained)]

def run (s : Settings) : Run (Option Json) := do
  let snapshot ← needSnapshot s.snapshot
  Run.beginTask "Resolving objects" s.ids.length
  let objects ← resolve snapshot s.least s.ids
  Run.done
  return some (.array ((objects.mergeSort comesBefore).map row))

def command : Command := .stateful "matq::queries::show_objects::ShowObjects" {} bind run

end ShowObjects

def showObjects : QuerySpec where
  command := ShowObjects.command
  name := some "2|Show Objects"
  commandName := some "show_objects"
  category := some "1|Java Basics"
  help := some "Shallow and retained size of the selected objects, largest first."
  arguments :=
    [snapshotArgument,
      { name := "objects"
        type := objectsType
        flag := .unflagged
        mandatory := true
        advice := some .heapObject
        help := some "Object addresses, e.g. 0x10 or #16." },
      { name := "min"
        type := .long
        default := some (.long 0)
        help := some "Skip objects with a smaller shallow size." }]

end HeapQuery.Heap
