import HeapQuery.Text.Category.Table

namespace HeapQuery.Text

inductive Category
  | lu | ll | lt | lm | lo | mn | mc | me | nd | nl | no | pc | pd | ps | pe | pi | pf | po
  | sm | sc | sk | so | zs | zl | zp | cc | cf | cs | co | cn
  deriving DecidableEq, Repr, Inhabited

namespace Category

def abbreviations : List (String × Category) :=
  [("Lu", lu), ("Ll", ll), ("Lt", lt), ("Lm", lm), ("Lo", lo), ("Mn", mn), ("Mc", mc), ("Me", me),
   ("Nd", nd), ("Nl", nl), ("No", no), ("Pc", pc), ("Pd", pd), ("Ps", ps), ("Pe", pe), ("Pi", pi),
   ("Pf", pf), ("Po", po), ("Sm", sm), ("Sc", sc), ("Sk", sk), ("So", so), ("Zs", zs), ("Zl", zl),
   ("Zp", zp), ("Cc", cc), ("Cf", cf), ("Cs", cs), ("Co", co), ("Cn", cn)]

def ofAbbreviation? (name : String) : Option Category := abbreviations.lookup name

def isLetter (c : Category) : Bool := c matches lu | ll | lt | lm | lo

def isMark (c : Category) : Bool := c matches mn | mc | me

def isNumber (c : Category) : Bool := c matches nd | nl | no

def isPunctuation (c : Category) : Bool := c matches pc | pd | ps | pe | pi | pf | po

def isSymbol (c : Category) : Bool := c matches sm | sc | sk | so

def isSeparator (c : Category) : Bool := c matches zs | zl | zp

def isOther (c : Category) : Bool := c matches cc | cf | cs | co | cn

def addRun (starts : Array (Nat × Category)) (start : Nat) (name : String) (count : Nat) :
    Array (Nat × Category) :=
  if name == "Lx" then
    (List.range count).foldl
      (fun acc i => acc.push (start + i, if i % 2 == 0 then lu else ll)) starts
  else starts.push (start, (ofAbbreviation? name).getD cn)

def words (line : String) : List (List Char) :=
  (line.toList.splitBy fun a b => !a.isWhitespace && !b.isWhitespace).filter
    fun word => !word.all Char.isWhitespace

def addWord (before : Array (Nat × Category) × Nat) (word : List Char) :
    Array (Nat × Category) × Nat :=
  let count := (word.drop 2).foldl (fun n d => 10 * n + (d.toNat - '0'.toNat)) 0
  (addRun before.1 before.2 (String.ofList (word.take 2)) count, before.2 + count)

def tableOf (lines : List String) : Array (Nat × Category) :=
  ((lines.flatMap words).foldl addWord (#[], 0)).1

def starts : Array (Nat × Category) := tableOf runs

def search (table : Array (Nat × Category)) (code low high : Nat) : Category :=
  if low + 1 < high then
    let mid := (low + high) / 2
    if (table[mid]?).any (·.1 ≤ code) then search table code mid high
    else search table code low mid
  else ((table[low]?).map (·.2)).getD cn
termination_by high - low

def ofChar (c : Char) : Category := search starts c.toNat 0 starts.size

end Category

/-- The general category of `c`. The table behind it is too long to be unfolded by accident. -/
@[irreducible] def category (c : Char) : Category := Category.ofChar c

end HeapQuery.Text
