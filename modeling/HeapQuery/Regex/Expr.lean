import HeapQuery.Regex

namespace HeapQuery.Regex

inductive Flag
  | caseInsensitive
  | multiLine
  | dotAll
  | swapGreed
  | unicode
  | crlf
  | verbose
  deriving DecidableEq, Repr

def Flag.ofLetter? : Char → Option Flag
  | 'i' => some caseInsensitive
  | 'm' => some multiLine
  | 's' => some dotAll
  | 'U' => some swapGreed
  | 'u' => some unicode
  | 'R' => some crlf
  | 'x' => some verbose
  | _ => none

abbrev FlagChange := List (Flag × Bool)

/-- A character; `byte` marks one that was written with two hexadecimal digits. -/
structure Literal where
  char : Char
  byte : Bool
  deriving DecidableEq, Repr

inductive ShortClass
  | digit
  | space
  | word
  deriving DecidableEq, Repr

inductive AsciiClass
  | alnum | alpha | ascii | blank | cntrl | digit | graph | lower | print | punct | space | upper
  | word | xdigit
  deriving DecidableEq, Repr

def AsciiClass.ofName? : String → Option AsciiClass
  | "alnum" => some alnum
  | "alpha" => some alpha
  | "ascii" => some ascii
  | "blank" => some blank
  | "cntrl" => some cntrl
  | "digit" => some digit
  | "graph" => some graph
  | "lower" => some lower
  | "print" => some print
  | "punct" => some punct
  | "space" => some space
  | "upper" => some upper
  | "word" => some word
  | "xdigit" => some xdigit
  | _ => none

inductive PropertyQuery
  | named (name : String)
  | valued (name value : String)
  deriving DecidableEq, Repr

inductive SetOp
  | intersection
  | difference
  | symmetricDifference
  deriving DecidableEq, Repr

mutual

inductive ClassItem
  | literal (l : Literal)
  | range (first last : Literal)
  | ascii (k : AsciiClass) (negated : Bool)
  | short (k : ShortClass) (negated : Bool)
  | property (q : PropertyQuery) (negated : Bool)
  | nested (negated : Bool) (body : ClassBody)

inductive ClassBody
  | items (items : List ClassItem)
  | binary (op : SetOp) (left right : ClassBody)

end

inductive Assertion
  | lineStart
  | lineEnd
  | textStart
  | textEnd
  | boundary
  | noBoundary
  | wordStart
  | wordEnd
  | wordStartHalf
  | wordEndHalf
  deriving DecidableEq, Repr

/-- A regular expression as written. -/
inductive Expr
  | empty
  | literal (l : Literal)
  | dot
  | assertion (a : Assertion)
  | short (k : ShortClass) (negated : Bool)
  | property (q : PropertyQuery) (negated : Bool)
  | bracketed (negated : Bool) (body : ClassBody)
  | flags (change : FlagChange)
  | group (change : FlagChange) (body : Expr)
  | repetition (body : Expr) (least : Nat) (most : Option Nat)
  | concat (parts : List Expr)
  | alternation (parts : List Expr)

namespace Expr

def ofParts : List Expr → Expr
  | [] => empty
  | [part] => part
  | parts => concat parts

def isRepeatable : Expr → Bool
  | empty | flags _ => false
  | _ => true

end Expr

mutual

def ClassItem.depth : ClassItem → Nat
  | .nested _ body => body.depth + 1
  | _ => 0

def ClassBody.depth : ClassBody → Nat
  | .items [] => 0
  | .items (first :: rest) =>
    if rest.isEmpty then first.depth else max first.depth (itemsDepth rest) + 1
  | .binary _ left right => max left.depth right.depth + 1

def itemsDepth : List ClassItem → Nat
  | [] => 0
  | item :: rest => max item.depth (itemsDepth rest)

end

mutual

def Expr.depth : Expr → Nat
  | .bracketed _ body => body.depth + 1
  | .group _ body => body.depth + 1
  | .repetition body _ _ => body.depth + 1
  | .concat parts | .alternation parts => partsDepth parts + 1
  | _ => 0

def partsDepth : List Expr → Nat
  | [] => 0
  | part :: rest => max part.depth (partsDepth rest)

end

end HeapQuery.Regex
