import HeapQuery.Proofs.Outcomes
import HeapQuery.Report.Table

namespace HeapQuery.Report

/-- The fields of a record; those of the first record give the columns their order. -/
abbrev Row := List (String × Json)

namespace Row

/-- What a row shows under a key: a string as it is, another value as JSON on one line, and nothing
where it has null or no such field. -/
def text (row : Row) (key : String) : String :=
  match row.lookup key with
  | none | some .null => ""
  | some (.string text) => text
  | some value => value.compact

def hasNumber (row : Row) (key : String) : Bool :=
  match row.lookup key with
  | some (.number _) => true
  | _ => false

end Row

structure Place where
  start : Nat
  width : Nat

namespace Place

def stop (p : Place) : Nat := p.start + p.width

def read (p : Place) (line : List Char) : List Char := (line.drop p.start).take p.width

/-- Between the two places there are two positions, with spaces in the line. -/
def Beside (line : List Char) (p q : Place) : Prop :=
  q.start = p.stop + 2 ∧ (Place.mk p.stop 2).read line = [' ', ' ']

end Place

/-- A text that fills some positions under a key: to their right end where every row has a number
there, and from their left end otherwise. -/
def filled (rows : List Row) (key : String) (width : Nat) (text : String) : List Char :=
  if rows.all fun row => row.hasNumber key then text.toList.leftpad width ' '
  else text.toList.rightpad width ' '

/-- The line shows a text for every key at the place of the key, two spaces between neighbours, and
nothing else. White space may be lost at the end of the line. -/
def Shows (rows : List Row) (keys : List String) (places : List Place) (text : String → String)
    (line : List Char) : Prop :=
  ∃ lost : List Char, (∀ c ∈ lost, Text.IsWhite c) ∧
    List.Forall₂ (fun key p => p.read (line ++ lost) = filled rows key p.width (text key))
      keys places ∧
    places.IsChain (Place.Beside (line ++ lost)) ∧
    (line ++ lost).length = (places.getLast?.map Place.stop).getD 0

section Columns

variable (rows : List Row) (keys : List String) (key : String)

variable {rows keys}

end Columns

/-! ## Tables -/

end HeapQuery.Report
