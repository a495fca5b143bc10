import HeapQuery.Query

namespace HeapQuery

inductive Menu
  | category (name : String) (path : Option String) (sortKey : Nat) (children : List Menu)
  | query (q : Query)

namespace Menu

def name : Menu → String
  | category name _ _ _ => name
  | query q => q.name

def sortKey : Menu → Nat
  | category _ _ key _ => key
  | query q => q.sortKey

def isQuery : Menu → Bool
  | category .. => false
  | query _ => true

/-- Items come in the order of their keys, then categories before queries, then by name. -/
def comesBefore (a b : Menu) : Bool :=
  match compare a.sortKey b.sortKey with
  | .lt => true
  | .gt => false
  | .eq => if a.isQuery == b.isQuery then !(b.name < a.name) else b.isQuery

def children : Menu → List Menu
  | category _ _ _ items => items
  | query _ => []

mutual

def queryCount : Menu → Nat
  | category _ _ _ items => queryCounts items
  | query _ => 1

def queryCounts : List Menu → Nat
  | [] => 0
  | item :: rest => item.queryCount + queryCounts rest

end

structure Draft where
  name : String
  path : Option String
  sortKey : Nat
  categories : List Draft
  queries : List Query

namespace Draft

def root : Draft := ⟨"<root>", none, Label.unsorted, [], []⟩

def inside (parent : Draft) (name : String) : Draft :=
  let path := match parent.path with
    | some path => path ++ " / " ++ name
    | none => name
  ⟨name, some path, Label.unsorted, [], []⟩

/-- The first key that is given to a category stays. -/
def keyed (d : Draft) (key : Nat) : Draft :=
  if d.sortKey == Label.unsorted then { d with sortKey := key } else d

def change (name : String) (f : Draft → Draft) (new : Draft) : List Draft → List Draft
  | [] => [f new]
  | d :: rest => if d.name == name then f d :: rest else d :: change name f new rest

def add (q : Query) : List (Nat × String) → Draft → Draft
  | [], d => { d with queries := d.queries ++ [q] }
  | (key, name) :: path, d =>
    { d with categories :=
        change name (fun inner => add q path (inner.keyed key)) (d.inside name) d.categories }

mutual

def finish : Draft → Menu
  | ⟨name, path, key, categories, queries⟩ =>
    .category name path key
      ((finishAll categories ++ queries.map Menu.query).mergeSort comesBefore)

def finishAll : List Draft → List Menu
  | [] => []
  | d :: rest => d.finish :: finishAll rest

end

end Draft

def segments (path : String) : List (Nat × String) :=
  let texts := (path.toList.splitOn '/').map fun cs => Text.trim (String.ofList cs)
  (texts.filter fun text => !text.isEmpty).map Label.split

def ofQueries (queries : List Query) : Menu :=
  let shown := queries.filter fun q => !q.isHidden
  (shown.foldl (fun d q => d.add q (segments (q.category.getD ""))) Draft.root).finish

def ofRegistered (queries : List Registered) : Menu :=
  ofQueries (queries.flatMap fun q => q.toQuery :: q.presets)

end Menu

end HeapQuery
