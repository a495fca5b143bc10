import HeapQuery.Context

namespace HeapQuery.Heap

/-- The digits of an address and their radix; `none` for text that is no address at all. -/
def addressDigits? : List Char → Option (Nat × List Char)
  | '0' :: 'x' :: digits | '0' :: 'X' :: digits => some (16, digits)
  | '#' :: digits => some (10, digits)
  | _ => none

/-- The address that a word stands for: the outer `none` is a word that is none, an error is one
that is not well formed or does not fit in 64 bits. -/
def readAddress? (word : String) : Option (Except QueryError Nat) :=
  (addressDigits? word.toList).map fun (radix, digits) =>
    match Number.readInteger (.unsigned 64) radix digits with
    | .ok n => .ok n.toNat
    | .error _ => .error (.illegalArgument "objects" "object address" word)

/-- Addresses in the order in which they were picked. -/
structure Selection where
  ids : List Nat
  deriving DecidableEq, Repr

namespace Selection

/-- The addresses at the start of the tokens, up to the first token that is none or has an error,
and the number of tokens they are. -/
def take : List Token → Except QueryError (List Nat) × Nat
  | .word word :: rest =>
    match readAddress? word with
    | none => (.ok [], 0)
    | some (.error e) => (.error e, 0)
    | some (.ok id) =>
      let (ids, taken) := take rest
      (ids.map (id :: ·), taken + 1)
  | _ => (.ok [], 0)

theorem take_le (tokens : List Token) : (take tokens).2 ≤ tokens.length := by
  induction tokens with
  | nil => simp [take]
  | cons token rest ih =>
    cases token with
    | null => simp [take]
    | word word =>
      simp only [take, List.length_cons]
      split
      · simp
      · simp
      · simpa using ih

/-- Reads a selection, which has one address at least, and tells how many tokens it took. -/
def read (tokens : List Token) : Except QueryError Selection × Nat :=
  match take tokens with
  | (.error e, taken) => (.error e, taken)
  | (.ok [], taken) => (.error (.missingValue "objects" none), taken)
  | (.ok ids, taken) => (.ok ⟨ids⟩, taken)

def usage (s : Selection) : String := String.intercalate " " (s.ids.map address)

/-- The addresses as values, which have a sign: one that needs all 64 bits is refused. -/
def values (s : Selection) (a : ArgumentView) : Except QueryError Value :=
  match s.ids.find? fun id => 0x8000000000000000 ≤ id with
  | some id => .error (.illegalArgument a.name "object address" (address id))
  | none => .ok (.list (s.ids.map fun id => .long (Int64.ofNat id)))

def value (s : Selection) : Value := .deferred 0 s.usage s.values

end Selection

end HeapQuery.Heap
