import HeapQuery.Number.Shortest

namespace HeapQuery.Number

/-- A way of writing: numbers whose first digit has a weight between `10 ^ from` and `10 ^ upTo`
are positional, the others have an exponent; without `bounds` all are positional. -/
structure Layout where
  bounds : Option (Int × Int)
  point : Bool
  tie : Tie
  deriving DecidableEq, Repr

def Layout.plain : Layout := ⟨none, false, .up⟩

def Layout.inspect : Layout := ⟨some (-4, 15), true, .up⟩

def Layout.json : Layout := ⟨some (-5, 15), true, .even⟩

def decimalDigits (n : Nat) : List Char := Nat.toDigits 10 n

/-- The digits `ds` with a weight of `10 ^ exponent` for the last one, without an exponent. -/
def positional (point : Bool) (ds : List Char) (exponent : Int) : List Char :=
  if 0 ≤ exponent then
    ds ++ List.replicate exponent.toNat '0' ++ (if point then ['.', '0'] else [])
  else
    let places := (-exponent).toNat
    if places < ds.length then
      ds.take (ds.length - places) ++ '.' :: ds.drop (ds.length - places)
    else '0' :: '.' :: List.replicate (places - ds.length) '0' ++ ds

def scientific (ds : List Char) (exponent : Int) : List Char :=
  let top := exponent + ds.length - 1
  ds.take 1 ++ (if 1 < ds.length then '.' :: ds.drop 1 else []) ++ 'e' ::
    ((if top < 0 then ['-'] else []) ++ decimalDigits top.natAbs)

def Layout.writeDecimal (l : Layout) (d : Decimal) : List Char :=
  let ds := decimalDigits d.digits
  let top := d.exponent + ds.length - 1
  match l.bounds with
  | some (low, high) =>
    if d.digits == 0 || (low ≤ top && top ≤ high) then positional l.point ds d.exponent
    else scientific ds d.exponent
  | none => positional l.point ds d.exponent

def Layout.write (l : Layout) (f : Format) : Binary → String
  | .nan => "NaN"
  | .infinity negative => if negative then "-inf" else "inf"
  | .finite negative m e =>
    let d := if m == 0 then ⟨0, 0⟩ else shortest f l.tie m e
    String.ofList ((if negative then ['-'] else []) ++ l.writeDecimal d)

end HeapQuery.Number
