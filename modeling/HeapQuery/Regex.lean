import HeapQuery.Regex.CharSet

namespace HeapQuery

inductive Regex.Look
  | textStart
  | textEnd
  | lineStart
  | lineEnd
  | crlfStart
  | crlfEnd
  | boundary (ascii : Bool)
  | noBoundary (ascii : Bool)
  | wordStart (ascii : Bool)
  | wordEnd (ascii : Bool)
  | wordStartHalf (ascii : Bool)
  | wordEndHalf (ascii : Bool)
  deriving DecidableEq, Repr

namespace Regex

def isWordBeside (ascii : Bool) (c : Option Char) : Bool :=
  c.any (if ascii then isAsciiWordChar else isWordChar)

def Look.holds (look : Look) (left right : Option Char) : Bool :=
  match look with
  | .textStart => left.isNone
  | .textEnd => right.isNone
  | .lineStart => left.isNone || left == some '\n'
  | .lineEnd => right.isNone || right == some '\n'
  | .crlfStart => left.isNone || left == some '\n' || (left == some '\r' && right != some '\n')
  | .crlfEnd => right.isNone || right == some '\r' || (right == some '\n' && left != some '\r')
  | .boundary ascii => isWordBeside ascii left != isWordBeside ascii right
  | .noBoundary ascii => isWordBeside ascii left == isWordBeside ascii right
  | .wordStart ascii => !isWordBeside ascii left && isWordBeside ascii right
  | .wordEnd ascii => isWordBeside ascii left && !isWordBeside ascii right
  | .wordStartHalf ascii => !isWordBeside ascii left
  | .wordEndHalf ascii => !isWordBeside ascii right

end Regex

inductive Regex
  | empty
  | set (s : Regex.CharSet)
  | look (l : Regex.Look)
  | seq (a b : Regex)
  | alt (a b : Regex)
  | repeated (a : Regex) (least : Nat) (most : Option Nat)
  deriving DecidableEq, Repr, Inhabited

namespace Regex

abbrev Positions := List Bool

def Positions.union (a b : Positions) : Positions := List.zipWith (· || ·) a b

def Positions.inter (a b : Positions) : Positions := List.zipWith (· && ·) a b

def Look.positions (look : Look) (left : Option Char) : List Char → Positions
  | [] => [look.holds left none]
  | c :: rest => look.holds left (some c) :: look.positions (some c) rest

def advance (s : CharSet) (text : List Char) (here : Positions) : Positions :=
  false :: List.zipWith (fun c start => start && s.contains c) text here

def iterate (step : Positions → Positions) : Nat → Positions → Positions
  | 0, here => here
  | count + 1, here =>
    let next := step here
    if next == here then here else iterate step count next

def reach (step : Positions → Positions) (start : Positions) : Nat → Positions → Positions
  | 0, here => here
  | count + 1, here =>
    let next := start.union (step here)
    if next == here then here else reach step start count next

def ends (text : List Char) : Regex → Positions → Positions
  | empty, here => here
  | set s, here => advance s text here
  | look l, here => here.inter (l.positions none text)
  | seq a b, here => ends text b (ends text a here)
  | alt a b, here => (ends text a here).union (ends text b here)
  | repeated a least most, here =>
    let first := iterate (ends text a) least here
    let more := match most with
      | some most => most - least
      | none => text.length + 1
    reach (ends text a) first more first

def isMatch (r : Regex) (text : String) : Bool :=
  let cs := text.toList
  (ends cs r (List.replicate (cs.length + 1) true)).any id

end Regex

end HeapQuery
