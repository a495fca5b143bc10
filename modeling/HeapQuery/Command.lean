import HeapQuery.Field
import HeapQuery.Json
import HeapQuery.Run

namespace HeapQuery

abbrev Given := Argument × Field

/-- An implementation under the name of its type. `accept` gives the fields bound so far and the
next one; `run` may count on every field having been accepted. -/
structure Command where
  typeName : String
  accept : List Given → Given → Except QueryError Unit
  run : List Given → Run (Option Json)

namespace Command

def afterPath? : List Char → Option (List Char)
  | [] => none
  | c :: rest =>
    (afterPath? rest).or
      (if c == ':' && rest.head? == some ':' then some (rest.drop 1) else none)

def simpleNameOf (typeName : String) : String :=
  let base := typeName.toList.takeWhile (· != '<')
  String.ofList ((afterPath? base).getD base)

def simpleName (c : Command) : String := simpleNameOf c.typeName

/-- A command that keeps a state. Binding a field changes the state or refuses the field. -/
def stateful {σ : Type} (typeName : String) (initial : σ)
    (bind : σ → Given → Except QueryError σ) (run : σ → Run (Option Json)) : Command where
  typeName := typeName
  accept earlier next := do
    let state ← earlier.foldlM bind initial
    discard (bind state next)
  run given :=
    match given.foldlM bind initial with
    | .ok state => run state
    | .error e => Run.fail (.query e)

end Command

end HeapQuery
