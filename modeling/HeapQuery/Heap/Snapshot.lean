import HeapQuery.Text.Quoted

namespace HeapQuery.Heap

/-- An object of the heap: its address, its class, its own size, and the size of all that it keeps
alive, where that is known. -/
structure Object where
  id : Nat
  className : String
  shallow : Nat
  retained? : Option Nat
  deriving DecidableEq, Repr

namespace Object

/-- The size of all that the object keeps alive, which is at least the object itself. -/
def retained (o : Object) : Nat := o.retained?.getD o.shallow

/-- The class name without the brackets of array types; `cs` is the name from its end. -/
def dropBrackets : List Char → List Char
  | ']' :: '[' :: rest => dropBrackets rest
  | cs => cs

def package (o : Object) : String :=
  match (dropBrackets o.className.toList.reverse).dropWhile (· != '.') with
  | [] => "<default>"
  | _ :: before => String.ofList before.reverse

end Object

def address (id : Nat) : String := "0x" ++ String.ofList (Text.hexDigits id)

def firstRepeated? (seen : List Nat) : List Object → Option Nat
  | [] => none
  | o :: rest => if seen.contains o.id then some o.id else firstRepeated? (o.id :: seen) rest

structure Snapshot where
  path : String
  objects : List Object
  unrepeated : firstRepeated? [] objects = none
  deriving DecidableEq

namespace Snapshot

def ofObjects (path : String) (objects : List Object) : Except String Snapshot :=
  match h : firstRepeated? [] objects with
  | none => .ok ⟨path, objects, h⟩
  | some id => .error s!"Duplicate object id {address id} in {path}"

def object? (s : Snapshot) (id : Nat) : Option Object := s.objects.find? fun o => o.id == id

def totalRetained (s : Snapshot) : Nat := s.objects.foldl (fun total o => total + o.retained) 0

end Snapshot

theorem firstRepeated_none {seen : List Nat} {objects : List Object}
    (h : firstRepeated? seen objects = none) :
    (objects.map Object.id).Nodup ∧ ∀ o ∈ objects, o.id ∉ seen := by
  induction objects generalizing seen with
  | nil => simp
  | cons o rest ih =>
    simp only [firstRepeated?] at h
    split at h
    · simp at h
    · rename_i hs
      obtain ⟨hd, hn⟩ := ih h
      simp only [List.contains_iff_mem] at hs
      refine ⟨?_, ?_⟩
      · simp only [List.map_cons, List.nodup_cons, List.mem_map, not_exists, not_and]
        refine ⟨fun p hp e => hn p hp ?_, hd⟩
        simp [e]
      · intro p hp
        rcases List.mem_cons.mp hp with rfl | hp
        · exact hs
        · exact fun hm => hn p hp (List.mem_cons_of_mem _ hm)

/-- The addresses of a snapshot differ. -/
theorem Snapshot.ids_nodup (s : Snapshot) : (s.objects.map Object.id).Nodup :=
  (firstRepeated_none s.unrepeated).1

end HeapQuery.Heap
