namespace HeapQuery.Text

/-- The ranges of a set, first and last code point, in ascending order. -/
abbrev Ranges := List (Nat × Nat)

namespace Ranges

def hexValue (ds : List Char) : Nat :=
  ds.foldl (fun n d =>
    16 * n + (if d.isDigit then d.toNat - '0'.toNat else d.toNat - 'a'.toNat + 10)) 0

def ofWord (word : List Char) : Nat × Nat :=
  match word.splitOn '-' with
  | [first, last] => (hexValue first, hexValue last)
  | _ => (hexValue word, hexValue word)

def ofText (text : String) : Ranges :=
  ((text.toList.splitBy fun a b => !a.isWhitespace && !b.isWhitespace).filter
    fun word => !word.all Char.isWhitespace).map ofWord

/-- The ranges in the row that has this name, of a table of rows with several names each. -/
def named? (table : List (List String × String)) (name : String) : Option Ranges :=
  (table.find? fun row => row.1.contains name).map fun row => ofText row.2

def contains (rs : Ranges) (c : Char) : Bool := rs.any fun r => r.1 ≤ c.toNat && c.toNat ≤ r.2

end Ranges

end HeapQuery.Text
