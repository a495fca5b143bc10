import HeapQuery.Heap.Snapshot
import HeapQuery.Json.Reader

namespace HeapQuery.Heap

/-- The value of a field that may be given once at most; the outer `none` is a repeated one. -/
def onlyField? (key : String) (fields : List (String × Json)) : Option (Option Json) :=
  match fields.filter fun f => f.1 == key with
  | [] => some none
  | [(_, value)] => some (some value)
  | _ => none

def optionalWord? : Option Json → Option (Option Nat)
  | none | some .null => some none
  | some value => value.word?.map some

namespace Object

def ofFields? (fields : List (String × Json)) : Option Object := do
  let id ← (← onlyField? "id" fields).bind Json.word?
  let className ← (← onlyField? "class" fields).bind Json.string?
  let shallow ← (← onlyField? "shallow" fields).bind Json.word?
  let retained ← optionalWord? (← onlyField? "retained" fields)
  return ⟨id, className, shallow, retained⟩

/-- An object from JSON. Fields of other names do not matter. -/
def ofJson? : Json → Option Object
  | .object fields => ofFields? fields
  | .array [id, className, shallow] => do
    return ⟨← id.word?, ← className.string?, ← shallow.word?, none⟩
  | .array [id, className, shallow, retained] => do
    return ⟨← id.word?, ← className.string?, ← shallow.word?, ← optionalWord? (some retained)⟩
  | _ => none

end Object

def objectsOfJson? (listing : Json) : Option (List Object) :=
  listing.array?.bind fun items => items.mapM Object.ofJson?

def Snapshot.read (path text : String) : Except String Snapshot :=
  match (Json.read? text).bind objectsOfJson? with
  | some objects => ofObjects path objects
  | none => .error s!"Invalid object listing in {path}"

end HeapQuery.Heap
