import HeapQuery.Json
import HeapQuery.Toml.Text

namespace HeapQuery.Toml

open HeapQuery.Number (natOfDigits)

def readDigits (isDigit : Char → Bool) : List Char → Option (List Char × List Char)
  | [] => none
  | c :: rest =>
    if !isDigit c then none
    else
      match rest with
      | '_' :: more => (readDigits isDigit more).map fun r => (c :: r.1, r.2)
      | rest =>
        match readDigits isDigit rest with
        | some (ds, rest) => some (c :: ds, rest)
        | none => some ([c], rest)

def readSign : List Char → Bool × List Char
  | '-' :: rest => (true, rest)
  | '+' :: rest => (false, rest)
  | cs => (false, cs)

/-- Reads the digits of a decimal number, of which the first is zero only if it is the only one. -/
def readWhole : List Char → Option (List Char × List Char)
  | '0' :: rest => some (['0'], rest)
  | cs => readDigits Char.isDigit cs

def integer? (n : Int) : Option Json :=
  if -0x8000000000000000 ≤ n ∧ n < 0x8000000000000000 then some (.int n) else none

def float? (negative : Bool) (digits : List Char) (exponent : Int) : Option Json :=
  match Number.Binary.ofDecimal .double negative (natOfDigits digits) exponent with
  | .infinity false => none
  | x => some (.number (.float x))

def readExponent (cs : List Char) : Option (Int × List Char) := do
  let (negative, cs) := readSign cs
  let (ds, rest) ← readDigits Char.isDigit cs
  let n := natOfDigits ds
  return (if negative then -n else n, rest)

def readOptionalExponent : List Char → Option (Int × List Char)
  | 'e' :: rest | 'E' :: rest => readExponent rest
  | cs => some (0, cs)

def readDecimal (cs : List Char) : Option (Json × List Char) := do
  let (negative, cs) := readSign cs
  let (whole, rest) ← readWhole cs
  match rest with
  | '.' :: rest =>
    let (places, rest) ← readDigits Char.isDigit rest
    let (exponent, rest) ← readOptionalExponent rest
    return (← float? negative (whole ++ places) (exponent - places.length), rest)
  | 'e' :: rest | 'E' :: rest =>
    let (exponent, rest) ← readExponent rest
    return (← float? negative whole exponent, rest)
  | rest =>
    let n : Int := natOfDigits whole
    return (← integer? (if negative then -n else n), rest)

def readRadix (radix : Nat) (cs : List Char) : Option (Json × List Char) := do
  let (ds, rest) ← readDigits (fun c => (digitValue? radix c).isSome) cs
  let n := ds.foldl (fun n d => radix * n + (digitValue? radix d).getD 0) 0
  return (← integer? n, rest)
where
  digitValue? := HeapQuery.Number.digitValue?

def readSpecial (cs : List Char) : Option (Json × List Char) :=
  let (negative, cs) := readSign cs
  match cs with
  | 'i' :: 'n' :: 'f' :: rest => some (.number (.float (.infinity negative)), rest)
  | 'n' :: 'a' :: 'n' :: rest => some (.number (.float .nan), rest)
  | _ => none

def readNumber (cs : List Char) : Option (Json × List Char) :=
  match cs with
  | '0' :: 'x' :: rest => readRadix 16 rest
  | '0' :: 'o' :: rest => readRadix 8 rest
  | '0' :: 'b' :: rest => readRadix 2 rest
  | cs => (readDecimal cs).or (readSpecial cs)

def readFixed (count : Nat) (cs : List Char) : Option (List Char × List Char) :=
  let ds := cs.take count
  if ds.length == count && ds.all Char.isDigit then some (ds, cs.drop count) else none

def readPair (least most : Nat) (cs : List Char) : Option (List Char × List Char) :=
  (readFixed 2 cs).filter fun r => least ≤ natOfDigits r.1 && natOfDigits r.1 ≤ most

def expect (c : Char) : List Char → Option (List Char)
  | d :: rest => if c == d then some rest else none
  | [] => none

def daysIn (year month : Nat) : Nat :=
  if month == 2 then
    if year % 4 == 0 && (year % 100 != 0 || year % 400 == 0) then 29 else 28
  else if month == 4 || month == 6 || month == 9 || month == 11 then 30
  else 31

def readDate (year cs : List Char) : Option (List Char × List Char) := do
  let (month, rest) ← readPair 1 12 (← expect '-' cs)
  let (day, rest) ← readPair 1 (daysIn (natOfDigits year) (natOfDigits month)) (← expect '-' rest)
  return (year ++ '-' :: month ++ '-' :: day, rest)

def readFraction (cs : List Char) : List Char × List Char :=
  match cs with
  | '.' :: rest =>
    let ds := rest.takeWhile Char.isDigit
    let shown := ((ds.take 9).reverse.dropWhile (· == '0')).reverse
    if ds.isEmpty then ([], cs)
    else (if shown.isEmpty then [] else '.' :: shown, rest.drop ds.length)
  | cs => ([], cs)

def readTime (cs : List Char) : Option (List Char × List Char) := do
  let (hour, rest) ← readPair 0 23 cs
  let (minute, rest) ← readPair 0 59 (← expect ':' rest)
  let (second, rest) ← readPair 0 60 (← expect ':' rest)
  let (fraction, rest) := readFraction rest
  return (hour ++ ':' :: minute ++ ':' :: second ++ fraction, rest)

def readOffset (cs : List Char) : Option (List Char × List Char) :=
  match cs with
  | 'Z' :: rest | 'z' :: rest => some (['Z'], rest)
  | c :: rest =>
    if c == '+' || c == '-' then do
      let (hour, rest) ← readPair 0 23 rest
      let (minute, rest) ← readPair 0 59 (← expect ':' rest)
      return (c :: hour ++ ':' :: minute, rest)
    else some ([], cs)
  | [] => some ([], [])

def startsNumbered (count : Nat) (c : Char) (cs : List Char) : Bool :=
  (readFixed count cs).any fun r => r.2.head? == some c

def readTimeAfter (date cs : List Char) : Option (List Char × List Char) :=
  match cs with
  | c :: rest =>
    if (c == 'T' || c == 't' || c == ' ') && startsNumbered 2 ':' rest then do
      let (time, rest) ← readTime rest
      let (offset, rest) ← readOffset rest
      return (date ++ 'T' :: time ++ offset, rest)
    else some (date, cs)
  | [] => some (date, [])

/-- A date or time is a record of its text, under a key of its own. -/
def moment (text : List Char) : Json :=
  .object [("$__toml_private_datetime", .string (String.ofList text))]

def readNumeric (cs : List Char) : Option (Json × List Char) :=
  if startsNumbered 4 '-' cs then do
    let (date, rest) ← readDate (cs.take 4) (cs.drop 4)
    let (text, rest) ← readTimeAfter date rest
    return (moment text, rest)
  else if startsNumbered 2 ':' cs then (readTime cs).map fun r => (moment r.1, r.2)
  else readNumber cs

end HeapQuery.Toml
