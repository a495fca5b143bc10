import HeapQuery.Heap.Selection

namespace HeapQuery.Heap

def snapshotType : ValueType := .host "snapshot"

def objectsType : ValueType := .host "objects"

def isSelection (t : ValueType) (advice : Option Advice) : Bool :=
  t == objectsType && advice == some .heapObject

def isSnapshot (t : ValueType) (advice : Option Advice) : Bool :=
  t == snapshotType && advice.isNone

def readSelection (tokens : List Token) : Reading :=
  let (selection, taken) := Selection.read tokens
  ⟨selection.map fun s => some s.value, taken⟩

def environment (snapshot : Option Snapshot) : Context :=
  { Context.bare with
    available := fun t advice => snapshot.isSome && isSnapshot t advice
    get := fun t advice =>
      if isSnapshot t advice then snapshot.map fun s => .host 0 (.snapshot s) else none
    converts := fun t advice => isSelection t advice || t.isTextual
    parses := isSelection
    parse := fun _ _ tokens => readSelection tokens }

end HeapQuery.Heap
