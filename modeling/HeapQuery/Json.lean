import HeapQuery.Number.Layout

namespace HeapQuery

inductive Json.Number
  | integer (n : Int)
  | float (x : Number.Double)
  deriving DecidableEq, Repr, Inhabited

/-- A JSON value. `hollow` is what is written well but has no value, such as a string with half of a
surrogate pair or an object with such a key: it can be passed over and nothing else. -/
inductive Json
  | null
  | bool (b : Bool)
  | number (n : Json.Number)
  | string (s : String)
  | array (items : List Json)
  | object (fields : List (String × Json))
  | hollow
  deriving Repr, Inhabited

namespace Json

def nat (n : Nat) : Json := .number (.integer n)

def int (n : Int) : Json := .number (.integer n)

def strings (texts : List String) : Json := .array (texts.map .string)

def ofOption (value : Option Json) : Json := value.getD .null

def text? (value : Option String) : Json := ofOption (value.map .string)

/-- Puts a field into a list of fields that is in the order of its keys, in place of a field with
the same key. -/
def insertField (key : String) (value : Json) : List (String × Json) → List (String × Json)
  | [] => [(key, value)]
  | (k, v) :: rest =>
    if key < k then (key, value) :: (k, v) :: rest
    else if key == k then (key, value) :: rest
    else (k, v) :: insertField key value rest

/-- An object with the given fields in the order of their keys; of two fields with one key the
later one counts. -/
def record (fields : List (String × Json)) : Json :=
  .object (fields.foldl (fun acc f => insertField f.1 f.2 acc) [])

mutual

def sorted : Json → Json
  | .array items => .array (sortedItems items)
  | .object fields => record (sortedFields fields)
  | other => other

def sortedItems : List Json → List Json
  | [] => []
  | item :: rest => sorted item :: sortedItems rest

def sortedFields : List (String × Json) → List (String × Json)
  | [] => []
  | (key, value) :: rest => (key, sorted value) :: sortedFields rest

end

def isNumber : Json → Bool
  | .number _ => true
  | _ => false

def isNested : Json → Bool
  | .array _ | .object _ => true
  | _ => false

/-- The value of the last field with this key. -/
def field? (key : String) : Json → Option Json
  | .object fields => fields.reverse.lookup key
  | _ => none

def string? : Json → Option String
  | .string s => some s
  | _ => none

def array? : Json → Option (List Json)
  | .array items => some items
  | _ => none

def int? : Json → Option Int
  | .number (.integer n) => some n
  | _ => none

def bool? : Json → Option Bool
  | .bool b => some b
  | _ => none

def word? (value : Json) : Option Nat :=
  match value.int? with
  | some n => if 0 ≤ n ∧ n ≤ 0xffffffffffffffff then some n.toNat else none
  | none => none

end Json

end HeapQuery
