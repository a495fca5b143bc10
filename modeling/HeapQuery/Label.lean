import HeapQuery.Number.Literal

namespace HeapQuery.Label

/-- The sort key of labels that have none, the greatest number of 32 bits. -/
def unsorted : Nat := 0xffffffff

def key? (digits : List Char) : Option Nat :=
  if !digits.isEmpty && digits.all Char.isDigit then
    let n := Number.natOfDigits digits
    if n ≤ unsorted then some n else none
  else none

def split (label : String) : Nat × String :=
  let cs := label.toList
  match key? (cs.takeWhile (· != '|')), cs.dropWhile (· != '|') with
  | some key, _ :: text => (key, String.ofList text)
  | _, _ => (unsorted, label)

end HeapQuery.Label
