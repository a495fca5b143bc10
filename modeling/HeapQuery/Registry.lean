import HeapQuery.Menu
import HeapQuery.Query.Spec

namespace HeapQuery

/-- Registered queries in the order of registration, and the identifier that was last registered
under each type name in small letters. `next` is the number of the next registration, and
`keptMenu` the menu that was built last, unless the queries have changed since. -/
structure Registry where
  translations : Translations
  queries : List Registered
  byType : List (String × String)
  next : Nat
  keptMenu : Option Menu

namespace Registry

def withTranslations (t : Translations) : Registry := ⟨t, [], [], 0, none⟩

def empty : Registry := withTranslations .empty

def identified? (r : Registry) (identifier : String) : Option Registered :=
  r.queries.find? fun q => q.identifier == identifier

def noteType (typeName identifier : String) (byType : List (String × String)) :
    List (String × String) :=
  (typeName, identifier) :: byType.filter fun entry => entry.1 != typeName

def register (r : Registry) (spec : QuerySpec) : Except QueryError (Registered × Registry) := do
  let q ← spec.build r.translations r.next
  match r.identified? q.identifier with
  | some owner => throw (.duplicateIdentifier q.identifier owner.command.typeName)
  | none =>
    return (q,
      { r with
        queries := r.queries ++ [q]
        byType := noteType (Text.lower q.command.typeName) q.identifier r.byType
        next := r.next + 1
        keptMenu := none })

/-- Adds every query that can be registered; the errors are those of the others. -/
def registerAll (r : Registry) : List QuerySpec → List QueryError × Registry
  | [] => ([], r)
  | spec :: rest =>
    match r.register spec with
    | .ok (_, r) => r.registerAll rest
    | .error e =>
      let (errors, r) := r.registerAll rest
      (e :: errors, r)

/-- Removes the query with this identifier. -/
def remove (r : Registry) (identifier : String) : Option Registered × Registry :=
  match r.identified? identifier with
  | none => (none, r)
  | some q =>
    (some q,
      { r with
        queries := r.queries.filter fun q => q.identifier != identifier
        byType := r.byType.filter fun entry => entry.2 != identifier
        keptMenu := none })

def removeType (r : Registry) (typeName : String) : List Registered × Registry :=
  let (removed, kept) := r.queries.partition fun q => q.command.typeName == typeName
  if removed.isEmpty then ([], r)
  else
    let lowered := Text.lower typeName
    (removed,
      { r with
        queries := kept
        byType := r.byType.filter fun entry => entry.1 != lowered
        keptMenu := none })

/-- The query with this identifier, or else the one whose type has this name, in any case. The
simple name of the type is tried last. -/
def find? (r : Registry) (name : String) : Option Registered :=
  match r.identified? name with
  | some q => some q
  | none =>
    match r.byType.lookup (Text.lower name) with
    | some identifier => r.identified? identifier
    | none =>
      r.queries.find? fun q => Text.equalsIgnoringAsciiCase q.command.simpleName name

def matching (r : Registry) (p : Pattern Regex.standard) : List Registered :=
  r.queries.filter fun q => p.accepts q.identifier

def menu (r : Registry) : Menu × Registry :=
  match r.keptMenu with
  | some menu => (menu, r)
  | none =>
    let menu := Menu.ofRegistered r.queries
    (menu, { r with keptMenu := some menu })

end Registry

end HeapQuery
