import HeapQuery.Text.Blank
import HeapQuery.Text.Folding
import HeapQuery.Text.Alphabetic
import HeapQuery.Text.Quoted
import HeapQuery.Text.Script

namespace HeapQuery.Regex

open HeapQuery.Text (Category category)

/-- Properties that need no table of their own. The sets of all others are in `PropertySet`. -/
inductive Property
  | general (k : Category)
  | letter
  | casedLetter
  | mark
  | number
  | punctuation
  | symbol
  | separator
  | other
  | any
  | ascii
  | assigned
  | alphabetic
  | lowercase
  | uppercase
  | blank
  | cased
  | caseIgnorable
  | hexDigit
  | asciiHexDigit
  | joinControl
  | extending
  | word
  deriving DecidableEq, Repr

def isWordChar (c : Char) : Bool :=
  if c.toNat < 0x80 then c.isAlphanum || c == '_'
  else Text.isAlphabetic c ||
    (let k := category c
     k.isMark || k == .nd || k == .pc || c == '\u200c' || c == '\u200d')

def isAsciiWordChar (c : Char) : Bool := c.isAlphanum || c == '_'

def isHexDigit (c : Char) : Bool :=
  c.isDigit || ('a' ≤ c && c ≤ 'f') || ('A' ≤ c && c ≤ 'F')

def wideHexDigits : Text.Ranges := Text.Ranges.ofText "ff10-ff19 ff21-ff26 ff41-ff46"

def lowercaseExtras : Text.Ranges := Text.Ranges.ofText "
  aa ba 2b0-2b8 2c0-2c1 2e0-2e4 345 37a 10fc 1d2c-1d6a 1d78 1d9b-1dbf 2071 207f 2090-209c 2170-217f
  24d0-24e9 2c7c-2c7d a69c-a69d a770 a7f2-a7f4 a7f8-a7f9 ab5c-ab5f ab69 10780 10783-10785
  10787-107b0 107b2-107ba 1e030-1e06d"

def uppercaseExtras : Text.Ranges :=
  Text.Ranges.ofText "2160-216f 24b6-24cf 1f130-1f149 1f150-1f169 1f170-1f189"

def Property.holds (p : Property) (c : Char) : Bool :=
  match p with
  | .general k => category c == k
  | .letter => (category c).isLetter
  | .casedLetter => (category c matches .lu | .ll | .lt)
  | .mark => (category c).isMark
  | .number => (category c).isNumber
  | .punctuation => (category c).isPunctuation
  | .symbol => (category c).isSymbol
  | .separator => (category c).isSeparator
  | .other => (category c).isOther
  | .any => true
  | .ascii => c.toNat < 0x80
  | .assigned => category c != .cn
  | .alphabetic => Text.isAlphabetic c
  | .lowercase => category c == .ll || lowercaseExtras.contains c
  | .uppercase => category c == .lu || uppercaseExtras.contains c
  | .blank => Text.isBlank c
  | .cased => Text.isCased c
  | .caseIgnorable => Text.isCaseIgnorable c
  | .hexDigit => isHexDigit c || wideHexDigits.contains c
  | .asciiHexDigit => isHexDigit c
  | .joinControl => c == '\u200c' || c == '\u200d'
  | .extending => Text.isExtending c
  | .word => isWordChar c

inductive Casing
  | ascii
  | unicode
  deriving DecidableEq, Repr

def Casing.variants : Casing → Char → List Char
  | ascii => Text.asciiVariants
  | unicode => Text.caseVariants

inductive CharSet
  | empty
  | range (first last : Char)
  | property (p : Property)
  | union (a b : CharSet)
  | inter (a b : CharSet)
  | complement (a : CharSet)
  | folded (casing : Casing) (a : CharSet)
  deriving DecidableEq, Repr, Inhabited

namespace CharSet

/-- Membership; a folded set has every character that differs from a member in case only. -/
def contains : CharSet → Char → Bool
  | empty, _ => false
  | range first last, c => first ≤ c && c ≤ last
  | property p, c => p.holds c
  | union a b, c => a.contains c || b.contains c
  | inter a b, c => a.contains c && b.contains c
  | complement a, c => !a.contains c
  | folded casing a, c => (casing.variants c).any a.contains

def single (c : Char) : CharSet := range c c

def difference (a b : CharSet) : CharSet := inter a (complement b)

def symmetricDifference (a b : CharSet) : CharSet := union (difference a b) (difference b a)

def ofRanges (rs : Text.Ranges) : CharSet :=
  rs.foldr (fun r acc => union (range (Char.ofNat r.1) (Char.ofNat r.2)) acc) empty

end CharSet

end HeapQuery.Regex
