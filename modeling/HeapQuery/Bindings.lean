import HeapQuery.Query

namespace HeapQuery

/-- The bindings of a query in an environment, in the order in which arguments were first bound. An
entry holds the position of the argument and its value, where `none` is null. -/
structure Bindings where
  query : Query
  context : Context
  entries : List (Nat × Option Value)

namespace Bindings

def put (position : Nat) (value : Option Value) :
    List (Nat × Option Value) → List (Nat × Option Value)
  | [] => [(position, value)]
  | entry :: rest =>
    if entry.1 == position then (position, value) :: rest else entry :: put position value rest

def positions (q : Query) : List (Nat × Argument) := q.arguments.mapIdx fun i a => (i, a)

def initial (q : Query) (c : Context) : Bindings where
  query := q
  context := c
  entries := (positions q).filterMap fun (i, a) =>
    if c.supplies a then some (i, c.get a.type a.advice) else none

def position? (b : Bindings) (a : Argument) : Option Nat :=
  b.query.arguments.findIdx? fun own => own.id == a.id

def noSuchArgument (b : Bindings) (name : String) : QueryError :=
  .noSuchArgument b.query.identifier name

/-- A value in the form in which it is kept: several values are kept as a list. -/
def stored (a : Argument) : Option Value → Option Value
  | none => none
  | some value =>
    if a.isMultiple && !value.isDeferred then some (.list value.elements) else some value

def set (b : Bindings) (a : Argument) (value : Option Value) : Except QueryError Bindings :=
  match b.position? a with
  | some i => .ok { b with entries := put i (stored a value) b.entries }
  | none => .error (b.noSuchArgument a.name)

def setNamed (b : Bindings) (name : String) (value : Option Value) : Except QueryError Bindings :=
  match b.query.argumentNamed? name with
  | some a => b.set a value
  | none => .error (b.noSuchArgument name)

def unset (b : Bindings) (a : Argument) : Except QueryError Bindings :=
  match b.position? a with
  | some i => .ok { b with entries := b.entries.filter fun entry => entry.1 != i }
  | none => .error (b.noSuchArgument a.name)

/-- The binding of the argument at a position: the outer `none` is an unset one. -/
def at? (b : Bindings) (position : Nat) : Option (Option Value) := b.entries.lookup position

def binding? (b : Bindings) (a : Argument) : Option (Option Value) :=
  (b.position? a).bind b.at?

def value? (b : Bindings) (a : Argument) : Option Value := (b.binding? a).join

def isBound (b : Bindings) (a : Argument) : Bool := (b.binding? a).isSome

def isExecutable (b : Bindings) : Bool :=
  (positions b.query).all fun (i, a) =>
    !a.mandatory || (b.at? i).join.isSome || a.default.isSome

def unsetArguments (b : Bindings) : List Argument :=
  (positions b.query).filterMap fun (i, a) => if (b.at? i).isSome then none else some a

def unsetUsage (b : Bindings) : String :=
  let shown := b.unsetArguments.filter fun a => !b.context.supplies a
  Text.trim (String.intercalate " " (shown.map Argument.usage))

/-- The command text for one argument. An unset argument shows its default, and null is written only
where it hides a default. -/
def fragment? (b : Bindings) (position : Nat) (a : Argument) : Option String :=
  if b.context.supplies a then none
  else
    match b.at? position, a.default with
    | some (some value), _ => a.valueUsage (some value)
    | none, some value => a.valueUsage (some value)
    | some none, some _ => a.valueUsage none
    | some none, none | none, none => none

/-- The fragments in one line. A list that comes before a positional value is ended by a
semicolon, or it would take that value too. -/
def joinFragments : List (Argument × String) → String
  | [] => ""
  | [(_, text)] => " " ++ text
  | (a, text) :: (next, nextText) :: rest =>
    let ending := if a.isMultiple && next.isPositional then " ;" else ""
    " " ++ text ++ ending ++ joinFragments ((next, nextText) :: rest)

/-- The command line that makes these bindings. Values that no command text can express are left
out. -/
def line (b : Bindings) : String :=
  b.query.identifier ++ joinFragments ((positions b.query).filterMap fun (i, a) =>
    (b.fragment? i a).map fun text => (a, text))

def display (b : Bindings) : String :=
  let shown := b.entries.filterMap fun (i, value) =>
    b.query.arguments[i]?.map fun a => a.name ++ "=" ++ ((value.map Value.display).getD "null")
  String.intercalate " " (b.query.identifier :: shown)

theorem lookup_put_self (i : Nat) (value : Option Value) (entries : List (Nat × Option Value)) :
    (put i value entries).lookup i = some value := by
  induction entries with
  | nil => simp [put]
  | cons entry rest ih =>
    obtain ⟨j, old⟩ := entry
    by_cases h : j = i
    · simp [put, h]
    · have hb : (i == j) = false := by simpa using Ne.symm h
      simp [put, h, List.lookup_cons, hb, ih]

theorem lookup_put_of_ne {i j : Nat} (h : j ≠ i) (value : Option Value)
    (entries : List (Nat × Option Value)) :
    (put i value entries).lookup j = entries.lookup j := by
  have hb : (j == i) = false := by simpa using h
  induction entries with
  | nil => simp [put, List.lookup_cons, hb]
  | cons entry rest ih =>
    obtain ⟨k, old⟩ := entry
    by_cases hk : k = i
    · simp [put, hk, List.lookup_cons, hb]
    · simp [put, hk, List.lookup_cons, ih]

end Bindings

end HeapQuery
