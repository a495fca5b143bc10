import HeapQuery.Number.Layout

namespace HeapQuery.Number

inductive IntegerFault
  | empty
  | invalidDigit
  | tooLarge
  | tooSmall
  deriving DecidableEq, Repr

def IntegerFault.message : IntegerFault → String
  | empty => "cannot parse integer from empty string"
  | invalidDigit => "invalid digit found in string"
  | tooLarge => "number too large to fit in target type"
  | tooSmall => "number too small to fit in target type"

structure IntegerRange where
  least : Int
  greatest : Int
  deriving DecidableEq, Repr

def IntegerRange.signed (bits : Nat) : IntegerRange :=
  ⟨-(1 <<< (bits - 1) : Nat), (1 <<< (bits - 1) : Nat) - 1⟩

def IntegerRange.unsigned (bits : Nat) : IntegerRange := ⟨0, (1 <<< bits : Nat) - 1⟩

def digitValue? (radix : Nat) (c : Char) : Option Nat :=
  let value :=
    if '0' ≤ c ∧ c ≤ '9' then some (c.toNat - '0'.toNat)
    else if 'a' ≤ c ∧ c ≤ 'z' then some (c.toNat - 'a'.toNat + 10)
    else if 'A' ≤ c ∧ c ≤ 'Z' then some (c.toNat - 'A'.toNat + 10)
    else none
  value.filter (· < radix)

/-- Appends digits to `value`, from the left; the first digit that is none or leaves the range
decides. -/
def readDigits (range : IntegerRange) (radix : Nat) (negative : Bool) (value : Int) :
    List Char → Except IntegerFault Int
  | [] => .ok value
  | c :: rest =>
    match digitValue? radix c with
    | none => .error .invalidDigit
    | some d =>
      let next := if negative then value * radix - d else value * radix + d
      if next < range.least then .error .tooSmall
      else if range.greatest < next then .error .tooLarge
      else readDigits range radix negative next rest

/-- Reads an integer with an optional sign; a minus sign only where the range has negative
numbers. -/
def readInteger (range : IntegerRange) (radix : Nat) : List Char → Except IntegerFault Int
  | [] => .error .empty
  | '+' :: [] | '-' :: [] => .error .invalidDigit
  | '+' :: rest => readDigits range radix false 0 rest
  | '-' :: rest =>
    if range.least < 0 then readDigits range radix true 0 rest else .error .invalidDigit
  | cs => readDigits range radix false 0 cs

def natOfDigits (ds : List Char) : Nat :=
  ds.foldl (fun n d => 10 * n + (d.toNat - '0'.toNat)) 0

inductive FloatFault
  | empty
  | invalid
  deriving DecidableEq, Repr

def FloatFault.message : FloatFault → String
  | empty => "cannot parse float from empty string"
  | invalid => "invalid float literal"

def readExponent? : List Char → Option Int
  | [] => some 0
  | c :: rest =>
    if c != 'e' && c != 'E' then none
    else
      let (negative, ds) := match rest with
        | '-' :: r => (true, r)
        | '+' :: r => (false, r)
        | r => (false, r)
      if ds.isEmpty || !ds.all Char.isDigit then none
      else some (if negative then -(natOfDigits ds : Int) else natOfDigits ds)

def readUnsigned? (f : Format) (negative : Bool) (cs : List Char) : Option Binary :=
  let (whole, rest) := cs.span Char.isDigit
  let (places, rest) := match rest with
    | '.' :: r => r.span Char.isDigit
    | r => ([], r)
  if whole.isEmpty && places.isEmpty then none
  else (readExponent? rest).map fun e =>
    Binary.ofDecimal f negative (natOfDigits (whole ++ places)) (e - places.length)

def readSpecial? (negative : Bool) (cs : List Char) : Option Binary :=
  let name := String.ofList (cs.map Char.toLower)
  if name == "inf" || name == "infinity" then some (.infinity negative)
  else if name == "nan" then some .nan
  else none

def readFloat (f : Format) (cs : List Char) : Except FloatFault Binary :=
  if cs.isEmpty then .error .empty
  else
    let (negative, body) := match cs with
      | '-' :: r => (true, r)
      | '+' :: r => (false, r)
      | r => (false, r)
    match (readUnsigned? f negative body).or (readSpecial? negative body) with
    | some x => .ok x
    | none => .error .invalid

end HeapQuery.Number
