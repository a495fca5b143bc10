namespace HeapQuery

structure Translations where
  entries : List (String × String)
  deriving DecidableEq, Repr, Inhabited

namespace Translations

def empty : Translations := ⟨[]⟩

def insertEntry (key text : String) : List (String × String) → List (String × String)
  | [] => [(key, text)]
  | (k, t) :: rest =>
    if key < k then (key, text) :: (k, t) :: rest
    else if key == k then (key, text) :: rest
    else (k, t) :: insertEntry key text rest

def insert (t : Translations) (key text : String) : Translations :=
  ⟨insertEntry key text t.entries⟩

def ofList (entries : List (String × String)) : Translations :=
  entries.foldl (fun t entry => t.insert entry.1 entry.2) empty

def get? (t : Translations) (key : String) : Option String := t.entries.lookup key

def translate (t : Translations) (key : String) (fallback : Option String) : Option String :=
  (t.get? key).or fallback

def size (t : Translations) : Nat := t.entries.length

end Translations

end HeapQuery
