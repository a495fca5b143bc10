namespace HeapQuery.Text

def charOfCode? (code : Nat) : Option Char :=
  if h : code.isValidChar then some (Char.ofNatAux code h) else none

end HeapQuery.Text
