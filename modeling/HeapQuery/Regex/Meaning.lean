import HeapQuery.Regex.Expr.Reader
import HeapQuery.Regex.PropertyName

namespace HeapQuery.Regex

structure Flags where
  insensitive : Bool
  multiLine : Bool
  dotAll : Bool
  crlf : Bool
  unicode : Bool
  deriving DecidableEq, Repr

namespace Flags

def initial : Flags := ⟨false, false, false, false, true⟩

def set (f : Flags) : Flag × Bool → Flags
  | (.caseInsensitive, on) => { f with insensitive := on }
  | (.multiLine, on) => { f with multiLine := on }
  | (.dotAll, on) => { f with dotAll := on }
  | (.crlf, on) => { f with crlf := on }
  | (.unicode, on) => { f with unicode := on }
  | (.swapGreed, _) | (.verbose, _) => f

def apply (f : Flags) (change : FlagChange) : Flags := change.foldl set f

/-- The set that counts where `s` is written. -/
def fold (f : Flags) (s : CharSet) : CharSet :=
  if f.insensitive then .folded (if f.unicode then .unicode else .ascii) s else s

end Flags

def AsciiClass.set : AsciiClass → CharSet
  | alnum => .union (.range '0' '9') (.union (.range 'A' 'Z') (.range 'a' 'z'))
  | alpha => .union (.range 'A' 'Z') (.range 'a' 'z')
  | ascii => .range '\x00' '\x7f'
  | blank => .union (.single '\t') (.single ' ')
  | cntrl => .union (.range '\x00' '\x1f') (.single '\x7f')
  | digit => .range '0' '9'
  | graph => .range '!' '~'
  | lower => .range 'a' 'z'
  | print => .range ' ' '~'
  | punct =>
    .union (.union (.range '!' '/') (.range ':' '@')) (.union (.range '[' '\x60') (.range '\x7b' '~'))
  | space => .union (.range '\t' '\r') (.single ' ')
  | upper => .range 'A' 'Z'
  | word => .union (.single '_') (.union (.range '0' '9') (.union (.range 'A' 'Z') (.range 'a' 'z')))
  | xdigit => .union (.range '0' '9') (.union (.range 'A' 'F') (.range 'a' 'f'))

def ShortClass.set (unicode : Bool) (k : ShortClass) : CharSet :=
  match k, unicode with
  | digit, true => .property (.general .nd)
  | space, true => .property .blank
  | word, true => .property .word
  | digit, false => AsciiClass.digit.set
  | space, false => AsciiClass.space.set
  | word, false => AsciiClass.word.set

namespace Meaning

/-- The complement, which is out of reach without Unicode: it would match parts of characters. -/
def negate (f : Flags) (negated : Bool) (s : CharSet) : Option CharSet :=
  if !negated then some s
  else if f.unicode then some (.complement s)
  else none

def shortSet (f : Flags) (k : ShortClass) (negated : Bool) : Option CharSet :=
  negate f negated (k.set f.unicode)

def propertySet (f : Flags) (q : PropertyQuery) (negated : Bool) : Option CharSet :=
  if f.unicode then (PropertyName.set? q).bind fun s => negate f negated (f.fold s) else none

def classChar (f : Flags) (l : Literal) : Option Char :=
  if f.unicode || l.char.toNat < 0x80 then some l.char else none

def combine (op : SetOp) (a b : CharSet) : CharSet :=
  match op with
  | .intersection => .inter a b
  | .difference => .difference a b
  | .symmetricDifference => .symmetricDifference a b

mutual

/-- The set an item stands for. A set that is negated has been folded before. -/
def item (f : Flags) : ClassItem → Option CharSet
  | .literal l => (classChar f l).map CharSet.single
  | .range first last => do some (.range (← classChar f first) (← classChar f last))
  | .ascii k negated => negate f negated (f.fold k.set)
  | .short k negated => shortSet f k negated
  | .property q negated => propertySet f q negated
  | .nested negated b => (body f b).bind (negate f negated)

def body (f : Flags) : ClassBody → Option CharSet
  | .items is => (items f is).map f.fold
  | .binary op left right => do
    some (combine op (f.fold (← body f left)) (f.fold (← body f right)))

def items (f : Flags) : List ClassItem → Option CharSet
  | [] => some .empty
  | i :: is => do some (.union (← item f i) (← items f is))

end

def assertion (f : Flags) : Assertion → Look
  | .lineStart => if f.multiLine then (if f.crlf then .crlfStart else .lineStart) else .textStart
  | .lineEnd => if f.multiLine then (if f.crlf then .crlfEnd else .lineEnd) else .textEnd
  | .textStart => .textStart
  | .textEnd => .textEnd
  | .boundary => .boundary !f.unicode
  | .noBoundary => .noBoundary !f.unicode
  | .wordStart => .wordStart !f.unicode
  | .wordEnd => .wordEnd !f.unicode
  | .wordStartHalf => .wordStartHalf !f.unicode
  | .wordEndHalf => .wordEndHalf !f.unicode

/-- A character outside a class. A byte that is no character does not match any text. -/
def literal (f : Flags) (l : Literal) : Option Regex :=
  if f.unicode then some (.set (f.fold (.single l.char)))
  else if l.char.toNat < 0x80 then some (.set (f.fold (.single l.char)))
  else if l.byte then none
  else some (.set (.single l.char))

def dot (f : Flags) : Option Regex :=
  if !f.unicode then none
  else if f.dotAll then some (.set (.property .any))
  else if f.crlf then some (.set (.complement (.union (.single '\n') (.single '\r'))))
  else some (.set (.complement (.single '\n')))

mutual

/-- The meaning of an expression under flags, and the flags after it. -/
def expr (f : Flags) : Expr → Option (Regex × Flags)
  | .empty => some (.empty, f)
  | .literal l => (literal f l).map (·, f)
  | .dot => (dot f).map (·, f)
  | .assertion a => some (.look (assertion f a), f)
  | .short k negated => (shortSet f k negated).map fun s => (.set s, f)
  | .property q negated => (propertySet f q negated).map fun s => (.set s, f)
  | .bracketed negated b => ((body f b).bind (negate f negated)).map fun s => (.set s, f)
  | .flags change => some (.empty, f.apply change)
  | .group change e => (expr (f.apply change) e).map fun r => (r.1, f)
  | .repetition e least most => (expr f e).map fun r => (.repeated r.1 least most, r.2)
  | .concat es => concat f es
  | .alternation es => alternation f es

def concat (f : Flags) : List Expr → Option (Regex × Flags)
  | [] => some (.empty, f)
  | e :: es => do
    let (a, f) ← expr f e
    let (b, f) ← concat f es
    some (.seq a b, f)

def alternation (f : Flags) : List Expr → Option (Regex × Flags)
  | [] => some (.set .empty, f)
  | e :: es => do
    let (a, f) ← expr f e
    let (b, f) ← alternation f es
    some (.alt a b, f)

end

end Meaning

def Expr.meaning? (e : Expr) : Option Regex := (Meaning.expr .initial e).map (·.1)

def parse? (source : String) : Option Regex := (Expr.read? source).bind Expr.meaning?

end HeapQuery.Regex
