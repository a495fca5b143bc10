import HeapQuery.Json
import HeapQuery.Number.Literal

namespace HeapQuery.Json

open HeapQuery.Number (Binary Double natOfDigits)

def skipSpace (cs : List Char) : List Char :=
  cs.dropWhile fun c => c == ' ' || c == '\n' || c == '\t' || c == '\r'

def readHex4? : List Char → Option (Nat × List Char)
  | a :: b :: c :: d :: rest => do
    let a ← HeapQuery.Number.digitValue? 16 a
    let b ← HeapQuery.Number.digitValue? 16 b
    let c ← HeapQuery.Number.digitValue? 16 c
    let d ← HeapQuery.Number.digitValue? 16 d
    some (((a * 16 + b) * 16 + c) * 16 + d, rest)
  | _ => none

/-- The unit of a `\u` escape at the start of the text, if it is the second half of a surrogate
pair, and the text after it. -/
def readLowHalf? : List Char → Option (Nat × List Char)
  | '\\' :: 'u' :: rest => (readHex4? rest).filter fun r => 0xdc00 ≤ r.1 && r.1 ≤ 0xdfff
  | _ => none

def simpleEscape? : Char → Option Char
  | '"' => some '"'
  | '\\' => some '\\'
  | '/' => some '/'
  | 'b' => some '\x08'
  | 'f' => some '\x0c'
  | 'n' => some '\n'
  | 'r' => some '\r'
  | 't' => some '\t'
  | _ => none

/-- Text read so far, last character first, or `none` once it holds half of a surrogate pair. -/
abbrev Collected := Option (List Char)

def Collected.add (text : Collected) (c : Char) : Collected := text.map (c :: ·)

/-- Reads the rest of a string up to its closing quote. Each step takes at least one character, so
`fuel` may be the length of the text, as it may below. -/
def readStringBody : Nat → Collected → List Char → Option (Collected × List Char)
  | 0, _, _ => none
  | _, _, [] => none
  | _, text, '"' :: rest => some (text, rest)
  | fuel + 1, text, '\\' :: 'u' :: rest =>
    match readHex4? rest with
    | none => none
    | some (unit, rest) =>
      if 0xd800 ≤ unit && unit ≤ 0xdbff then
        match readLowHalf? rest with
        | some (low, rest) =>
          let code := 0x10000 + (unit - 0xd800) * 0x400 + (low - 0xdc00)
          readStringBody fuel (text.add (Char.ofNat code)) rest
        | none => readStringBody fuel none rest
      else if 0xdc00 ≤ unit && unit ≤ 0xdfff then readStringBody fuel none rest
      else readStringBody fuel (text.add (Char.ofNat unit)) rest
  | fuel + 1, text, '\\' :: c :: rest =>
    match simpleEscape? c with
    | some e => readStringBody fuel (text.add e) rest
    | none => none
  | fuel + 1, text, c :: rest =>
    if c == '\\' || c.toNat < 0x20 then none else readStringBody fuel (text.add c) rest

def readString (fuel : Nat) (cs : List Char) : Option (Option String × List Char) :=
  (readStringBody fuel (some []) cs).map fun r =>
    (r.1.map fun text => String.ofList text.reverse, r.2)

/-- A significand of 64 bits that takes in digits while they fit; `dropped` tells how many digits
did not, and `places` how many that did came after the point. -/
structure Significand where
  value : Nat
  full : Bool
  dropped : Nat
  places : Nat

def Significand.addWhole (s : Significand) (d : Char) : Significand :=
  let next := 10 * s.value + natOfDigits [d]
  if s.full || 0xffffffffffffffff < next then { s with full := true, dropped := s.dropped + 1 }
  else { s with value := next }

def Significand.addPlace (s : Significand) (d : Char) : Significand :=
  let next := 10 * s.value + natOfDigits [d]
  if s.full || 0xffffffffffffffff < next then { s with full := true }
  else { s with value := next, places := s.places + 1 }

/-- `x * 10 ^ exponent` by one multiplication or division with a power of ten, after divisions by
`10 ^ 308` where the exponent is further down; `none` beyond the format. -/
def scaleByTen (x : Double) (exponent : Int) : Option Double :=
  let power (e : Nat) : Double := Binary.ofDecimal .double false 1 e
  if exponent.natAbs ≤ 308 then
    if 0 ≤ exponent then
      match x.mul .double (power exponent.natAbs) with
      | .infinity _ => none
      | y => some y
    else some (x.div .double (power exponent.natAbs))
  else if x.isZero then some x
  else if 0 ≤ exponent then none
  else scaleByTen (x.div .double (power 308)) (exponent + 308)
termination_by exponent.natAbs

def floatOfParts (negative : Bool) (significand : Nat) (exponent : Int) : Json :=
  match scaleByTen (Binary.ofNat .double significand) exponent with
  | some x => .number (.float (if negative then x.negate else x))
  | none => .hollow

def numberOfParts (negative : Bool) (whole : List Char) (places : Option (List Char))
    (exponent : Option Int) : Json :=
  let s := whole.foldl Significand.addWhole ⟨0, false, 0, 0⟩
  if places.isNone && exponent.isNone && !s.full then
    if !negative then .number (.integer s.value)
    else if s.value == 0 || 0x8000000000000000 < s.value then floatOfParts true s.value 0
    else .number (.integer (-(s.value : Int)))
  else
    let s := (places.getD []).foldl Significand.addPlace { s with full := false }
    floatOfParts negative s.value ((s.dropped : Int) - s.places + exponent.getD 0)

def readPlaces? : List Char → Option (Option (List Char) × List Char)
  | '.' :: rest =>
    let (ds, rest) := rest.span Char.isDigit
    if ds.isEmpty then none else some (some ds, rest)
  | cs => some (none, cs)

def readExponentPart? : List Char → Option (Option Int × List Char)
  | c :: rest =>
    if c == 'e' || c == 'E' then
      let (negative, rest) := match rest with
        | '-' :: r => (true, r)
        | '+' :: r => (false, r)
        | r => (false, r)
      let (ds, rest) := rest.span Char.isDigit
      if ds.isEmpty then none
      else
        let e : Int := natOfDigits ds
        some (some (if negative then -e else e), rest)
    else some (none, c :: rest)
  | [] => some (none, [])

def readNumber (negative : Bool) (cs : List Char) : Option (Json × List Char) := do
  let (whole, rest) := cs.span Char.isDigit
  if whole.isEmpty || (whole.head? == some '0' && 1 < whole.length) then none
  else
    let (places, rest) ← readPlaces? rest
    let (exponent, rest) ← readExponentPart? rest
    some (numberOfParts negative whole places exponent, rest)

/-- Reads the items of an array up to the closing bracket, at most `fuel` of them. -/
def readItems (item : List Char → Option (Json × List Char)) :
    Nat → List Json → List Char → Option (List Json × List Char)
  | 0, _, _ => none
  | fuel + 1, items, cs => do
    let (value, rest) ← item (skipSpace cs)
    match skipSpace rest with
    | ']' :: rest => some ((value :: items).reverse, rest)
    | ',' :: rest => readItems item fuel (value :: items) rest
    | _ => none

/-- Fields read so far, last one first, or `none` once a key has no value. -/
abbrev Fields := Option (List (String × Json))

def Fields.add (fields : Fields) (key : Option String) (value : Json) : Fields := do
  return (← key, value) :: (← fields)

def Fields.toJson : Fields → Json
  | some fields => .object fields.reverse
  | none => .hollow

def readFields (item : List Char → Option (Json × List Char)) :
    Nat → Fields → List Char → Option (Json × List Char)
  | 0, _, _ => none
  | fuel + 1, fields, cs =>
    match skipSpace cs with
    | '"' :: rest => do
      let (key, rest) ← readString fuel rest
      match skipSpace rest with
      | ':' :: rest => do
        let (value, rest) ← item (skipSpace rest)
        match skipSpace rest with
        | '\x7d' :: rest => some ((fields.add key value).toJson, rest)
        | ',' :: rest => readFields item fuel (fields.add key value) rest
        | _ => none
      | _ => none
    | _ => none

def readValue (fuel : Nat) : Nat → List Char → Option (Json × List Char)
  | _, 'n' :: 'u' :: 'l' :: 'l' :: rest => some (.null, rest)
  | _, 't' :: 'r' :: 'u' :: 'e' :: rest => some (.bool true, rest)
  | _, 'f' :: 'a' :: 'l' :: 's' :: 'e' :: rest => some (.bool false, rest)
  | _, '"' :: rest =>
    (readString fuel rest).map fun r =>
      (match r.1 with
       | some text => .string text
       | none => .hollow, r.2)
  | _, '-' :: rest => readNumber true rest
  | depth + 1, '[' :: rest =>
    match skipSpace rest with
    | ']' :: rest => some (.array [], rest)
    | cs => (readItems (readValue fuel depth) fuel [] cs).map fun r => (.array r.1, r.2)
  | depth + 1, '\x7b' :: rest =>
    match skipSpace rest with
    | '\x7d' :: rest => some (.object [], rest)
    | cs => readFields (readValue fuel depth) fuel (some []) cs
  | _, cs => readNumber false cs

/-- The value that `text` holds, hollow parts included. A text cannot nest deeper than it is long. -/
def read? (text : String) : Option Json := do
  let cs := text.toList
  let (value, rest) ← readValue cs.length cs.length (skipSpace cs)
  if (skipSpace rest).isEmpty then some value else none

end HeapQuery.Json
