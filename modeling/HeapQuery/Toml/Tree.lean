import HeapQuery.Json

namespace HeapQuery.Toml

/-- Where a table comes from: it lies on the way to a table with a header, it was made by a key with
dots, or it has a header of its own. -/
inductive Origin
  | implied
  | dotted
  | header
  deriving DecidableEq, Repr

/-- A node of the tree. The items of `tables` are tables with headers, of which the last one is
open. -/
inductive Node
  | value (v : Json)
  | table (origin : Origin) (fields : List (String × Node))
  | tables (items : List (List (String × Node)))

abbrev Fields := List (String × Node)

namespace Fields

def replace (key : String) (node : Node) (fields : Fields) : Fields :=
  fields.map fun f => if f.1 == key then (key, node) else f

def add (key : String) (node : Node) (fields : Fields) : Fields := fields ++ [(key, node)]

/-- Changes the table at a path with `f`, which is told whether a key with dots made that table.
Missing tables on the way are made. A key with dots (`dotted`) must not enter a table with a
header. -/
def change (dotted : Bool) (f : Bool → Fields → Option Fields) :
    List String → Bool → Fields → Option Fields
  | [], made, fields => f made fields
  | key :: path, _, fields =>
    match fields.lookup key with
    | none => do
      let inner ← change dotted f path dotted []
      return fields.add key (.table (if dotted then .dotted else .implied) inner)
    | some (.value _) => none
    | some (.table origin inner) =>
      if dotted && origin == .header then none
      else do
        let inner ← change dotted f path (origin == .dotted) inner
        return fields.replace key (.table origin inner)
    | some (.tables items) => do
      let inner ← change dotted f path false (← items.getLast?)
      return fields.replace key (.tables (items.dropLast ++ [inner]))

/-- Adds a value under a key with the dotted path `path` before it. Only tables that keys with dots
made may be extended by such keys. -/
def set (path : List String) (key : String) (v : Json) (fields : Fields) : Option Fields :=
  change true (fun made fields =>
    if made == path.isEmpty || (fields.lookup key).isSome then none
    else some (fields.add key (.value v))) path false fields

/-- Opens the table under a header. It must be new, or known only as part of other headers. -/
def openTable (path : List String) (key : String) (fields : Fields) : Option Fields :=
  change false (fun _ fields =>
    match fields.lookup key with
    | none => some (fields.add key (.table .header []))
    | some (.table .implied inner) => some (fields.replace key (.table .header inner))
    | _ => none) path false fields

def openItem (path : List String) (key : String) (fields : Fields) : Option Fields :=
  change false (fun _ fields =>
    match fields.lookup key with
    | none => some (fields.add key (.tables [[]]))
    | some (.tables items) => some (fields.replace key (.tables (items ++ [[]])))
    | _ => none) path false fields

def setIn (table path : List String) (key : String) (v : Json) (fields : Fields) :
    Option Fields :=
  change false (fun _ fields => set path key v fields) table false fields

end Fields

mutual

def Node.json : Node → Json
  | .value v => v
  | .table _ fields => .object (fieldsJson fields)
  | .tables items => .array (itemsJson items)

def fieldsJson : List (String × Node) → List (String × Json)
  | [] => []
  | (key, node) :: rest => (key, node.json) :: fieldsJson rest

def itemsJson : List (List (String × Node)) → List Json
  | [] => []
  | fields :: rest => .object (fieldsJson fields) :: itemsJson rest

end

end HeapQuery.Toml
