import HeapQuery.Argument

namespace HeapQuery

/-- What reading tokens gives: a value, where `none` is null, or an error, and how many tokens were
taken. -/
structure Reading where
  result : Except QueryError (Option Value)
  taken : Nat

/-- An environment. `parse` is for types whose values take several tokens; it is asked only where
`parses` says so. -/
structure Context where
  available : ValueType → Option Advice → Bool
  get : ValueType → Option Advice → Option Value
  converts : ValueType → Option Advice → Bool
  read : ValueType → Option Advice → String → Except QueryError Value
  write : ValueType → Option Advice → Value → Except QueryError String
  parses : ValueType → Option Advice → Bool
  parse : ValueType → Option Advice → List Token → Reading

namespace Context

def readValue (t : ValueType) (advice : Option Advice) (text : String) :
    Except QueryError Value :=
  (t.read advice text).mapError .conversion

def writeValue (t : ValueType) (value : Value) : Except QueryError String :=
  if t.isTextual then (t.write value).mapError .conversion
  else .error (.conversion (.notConvertible t.name))

def bare : Context where
  available _ _ := false
  get _ _ := none
  converts t _ := t.isTextual
  read := readValue
  write t _ value := writeValue t value
  parses _ _ := false
  parse t _ _ := ⟨.error (.conversion (.notConvertible t.name)), 0⟩

def supplies (c : Context) (a : Argument) : Bool := c.available a.type a.advice

def supports (c : Context) (a : Argument) : Bool := c.supplies a || c.converts a.type a.advice

abbrev Slot := ValueType × Option Advice

def supply (supplied : List (Slot × Value)) (slot : Slot) (value : Value) :
    List (Slot × Value) :=
  supplied.filter (fun entry => entry.1 != slot) ++ [(slot, value)]

def ofSupplied (supplied : List (Slot × Value)) : Context :=
  { bare with
    available := fun t advice => (supplied.lookup (t, advice)).isSome
    get := fun t advice => supplied.lookup (t, advice) }

end Context

end HeapQuery
