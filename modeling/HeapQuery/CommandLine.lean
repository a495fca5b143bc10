import HeapQuery.Bindings.Execution
import HeapQuery.Registry

namespace HeapQuery.CommandLine

def missingValue (a : Argument) : QueryError := .missingValue a.name a.flag

/-- The word before a semicolon at its end, unless the semicolon is all there is. -/
def lastWord? (text : String) : Option String :=
  match text.toList.reverse with
  | ';' :: c :: rest => some (String.ofList (c :: rest).reverse)
  | _ => none

/-- The words that an argument with several values takes, and the number of tokens they are. Null
tokens are passed over. -/
def takeWords : List Token → List String × Nat
  | [] => ([], 0)
  | .null :: rest =>
    let (words, taken) := takeWords rest
    (words, taken + 1)
  | .word text :: rest =>
    if text == ";" then ([], 1)
    else if (Token.word text).flag?.isSome then ([], 0)
    else
      match lastWord? text with
      | some word => ([word], 1)
      | none =>
        let (words, taken) := takeWords rest
        (text :: words, taken + 1)

theorem takeWords_le (tokens : List Token) : (takeWords tokens).2 ≤ tokens.length := by
  induction tokens with
  | nil => simp [takeWords]
  | cons token rest ih =>
    cases token with
    | null => simpa [takeWords] using ih
    | word text =>
      simp only [takeWords, List.length_cons]
      split
      · simp
      · split
        · simp
        · split
          · simp
          · simpa using ih

def takeMultiple (c : Context) (a : Argument) (tokens : List Token) :
    Except QueryError (Option Value × Nat) := do
  let (words, taken) := takeWords tokens
  if a.mandatory && words.isEmpty then throw (missingValue a)
  let values ← words.mapM (c.read a.type a.advice)
  return (some (.list values), taken)

def takeSingle (c : Context) (a : Argument) :
    List Token → Except QueryError (Option Value × Nat)
  | [] => .error (missingValue a)
  | .null :: _ => .ok (none, 1)
  | .word text :: _ => do return (some (← c.read a.type a.advice text), 1)

/-- The value of an argument at the start of the tokens, and the number of tokens it took. -/
def takeValue (c : Context) (a : Argument) (tokens : List Token) :
    Except QueryError (Option Value × Nat) :=
  if c.parses a.type a.advice then
    let reading := c.parse a.type a.advice tokens
    reading.result.map fun value => (value, reading.taken)
  else if a.isMultiple then takeMultiple c a tokens
  else takeSingle c a tokens

def takeFlagged (c : Context) (a : Argument) (tokens : List Token) :
    Except QueryError (Option Value × Nat) :=
  if a.isBoolean then .ok (some (.boolean true), 0) else takeValue c a tokens

def openArgument? (b : Bindings) : Option Argument :=
  b.query.arguments.find? fun a => a.isPositional && !b.isBound a

def bindFlag (b : Bindings) (flag : String) (tokens : List Token) :
    Except QueryError (Bindings × Nat) :=
  match b.query.argumentFlagged? flag with
  | none => .error (.unknownFlag b.query.identifier (Text.lower flag))
  | some a => do
    let (value, taken) ← takeFlagged b.context a tokens
    return (← b.set a value, taken)

def bindPositional (b : Bindings) (first : Token) (tokens : List Token) :
    Except QueryError (Bindings × Argument × Nat) :=
  match openArgument? b with
  | none => .error (.noUnflaggedArguments first.shown)
  | some a => do
    let (value, taken) ← takeValue b.context a tokens
    return (← b.set a value, a, taken)

def slack : Option Argument → Nat
  | none => 1
  | some _ => 0

/-- Binds the arguments that the tokens name. `positional` is the argument that already took a value
without a flag. Bindings made before an error stay. -/
def bindAll (b : Bindings) (positional : Option Argument) (tokens : List Token) :
    Bindings × Option QueryError :=
  match tokens with
  | [] => (b, none)
  | token :: rest =>
    match token.flag? with
    | some flag =>
      match bindFlag b flag rest with
      | .error e => (b, some e)
      | .ok (b, taken) => bindAll b positional (rest.drop taken)
    | none =>
      match positional with
      | some bound => (b, some (.assignmentFailed token.shown bound.name))
      | none =>
        match bindPositional b token (token :: rest) with
        | .error e => (b, some e)
        | .ok (b, a, taken) => bindAll b (some a) ((token :: rest).drop taken)
termination_by 2 * tokens.length + slack positional
decreasing_by
  · simp only [List.length_drop, List.length_cons]
    omega
  · simp only [List.length_drop, List.length_cons, slack]
    omega

def fillIn (b : Bindings) (line : String) : Bindings × Option QueryError :=
  match Token.ofLine line with
  | [] => (b, some (.invalidCommand line))
  | tokens => bindAll b none tokens

def finish : Bindings × Option QueryError → Except QueryError Bindings
  | (b, none) => .ok b
  | (_, some e) => .error e

def begin (q : Query) (c : Context) : Except QueryError Bindings :=
  let b := Bindings.initial q c
  match q.options with
  | some options => if Text.isBlankText options then .ok b else finish (fillIn b options)
  | none => .ok b

/-- Every switch starts out as off. -/
def switchesOff (b : Bindings) : Except QueryError Bindings :=
  (b.query.arguments.filter Argument.isBoolean).foldlM
    (fun b a => b.set a (some (.boolean false))) b

def parse (r : Registry) (c : Context) (line : String) : Except QueryError Bindings :=
  match Token.ofLine line with
  | .word name :: tokens =>
    match r.find? (Text.lower name) with
    | none => .error (.queryNotFound name)
    | some q => do
      let b ← switchesOff (← begin q.toQuery c)
      finish (bindAll b none tokens)
  | _ => .error (.invalidCommand line)

def execute (r : Registry) (c : Context) (line : String) (listener : Listener) :
    Except QueryError (Option Json) × Progress :=
  match parse r c line with
  | .error e => (.error e, .none)
  | .ok b =>
    let (outcome, progress) := b.execute listener
    (outcome.map Outcome.output, progress)

end HeapQuery.CommandLine
