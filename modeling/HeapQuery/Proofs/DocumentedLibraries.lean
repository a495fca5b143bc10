import HeapQuery.Regex.Library

namespace HeapQuery.Regex

/-- Syntax that can be written in a row with more of it. -/
inductive Part
  | start
  | stop
  | dot
  | many
  | char (c : Char)
  | group (source : String)

namespace Part

/-- Characters that stand for themselves behind a backslash only. -/
def marks : List Char := "\\.+*?()|[]\x7b\x7d^$#&-~".toList

def text : Part → List Char
  | start => ['^']
  | stop => ['$']
  | dot => ['.']
  | many => ['.', '*']
  | char c => if c ∈ marks then ['\\', c] else [c]
  | group source => '(' :: '?' :: ':' :: (source.toList ++ [')'])

def isGroup : Part → Bool
  | group _ => true
  | _ => false

end Part

abbrev Row := List Part

def Row.text (row : Row) : List Char := row.flatMap Part.text

def Row.source (row : Row) : String := String.ofList row.text

namespace Library

variable (L : Library)

/-- A valid source that is valid too with one more closing parenthesis behind it. The parenthesis
closes no group, so it belongs to a remark. -/
def EndsInRemark (source : String) : Prop :=
  (L.compile? source).isSome = true ∧ (L.compile? (source ++ ")")).isSome = true

/-- A row that is read as its parts. Names of groups may not repeat, so there is one group at
most. -/
structure Legible (row : Row) : Prop where
  chars : ∀ c, .char c ∈ row → c.isAlphanum = true ∨ c = '_' ∨ c ∈ Part.marks
  groups : ∀ source, .group source ∈ row →
    (L.compile? source).isSome = true ∧ ¬L.EndsInRemark source
  one_group : row.countP Part.isGroup ≤ 1

/-- What cannot be called but is said of sources and expressions: how deep the parts of a source
nest, and from where to where in a text an expression matches. -/
structure Semantics where
  Spans : L.Expression → List Char → Nat → Nat → Prop
  depth : String → Nat

namespace Semantics

variable {L} (S : L.Semantics)

def partSpans (text : List Char) : Part → Nat → Nat → Prop
  | .start, i, j => i = 0 ∧ j = 0
  | .stop, i, j => i = text.length ∧ j = text.length
  | .dot, i, j => j = i + 1 ∧ ∃ c, text[i]? = some c ∧ c ≠ '\n'
  | .many, i, j => i ≤ j ∧ ∀ k, i ≤ k → k < j → ∃ c, text[k]? = some c ∧ c ≠ '\n'
  | .char c, i, j => j = i + 1 ∧ text[i]? = some c
  | .group source, i, j => ∃ e, L.compile? source = some e ∧ S.Spans e text i j

def rowSpans (text : List Char) : Row → Nat → Nat → Prop
  | [], i, j => i = j
  | p :: row, i, j => ∃ k, partSpans S text p i k ∧ rowSpans text row k j

def partDepth : Part → Nat
  | .many => 1
  | .group source => S.depth source + 1
  | _ => 0

/-- Two parts or more nest in their row. -/
def rowDepth : Row → Nat
  | [] => 0
  | [p] => S.partDepth p
  | row => (row.map S.partDepth).foldr max 0 + 1

/-- The library does what its documentation says of rows and remarks. It may refuse sources that
nest too deep, but none for the size of what they are compiled to. -/
structure Documented : Prop where
  /-- There is a match anywhere in the text. -/
  isMatch_iff : L.isMatch e text = true ↔
    ∃ i j, i ≤ text.toList.length ∧ S.Spans e text.toList i j
  /-- Parts are concatenated, down to the limit of 250 levels. -/
  row_compiles : L.Legible row →
    ((L.compile? row.source).isSome = true ↔ S.rowDepth row ≤ 250)
  row_spans : L.Legible row → L.compile? row.source = some e → i ≤ text.length →
    (S.Spans e text i j ↔ S.rowSpans text row i j)
  row_depth : L.Legible row → (L.compile? row.source).isSome = true →
    S.depth row.source = S.rowDepth row
  /-- A remark begins with a number sign. -/
  remark_begins : L.EndsInRemark source → '#' ∈ source.toList
  /-- A remark goes on to the end of the line, in a group too. -/
  remark_goes_on : L.EndsInRemark source → L.Legible before → before.countP Part.isGroup = 0 →
    '\n' ∉ rest →
      L.compile? (String.ofList (before.text ++ "(?:".toList ++ source.toList ++ ')' :: rest)) =
        L.compile? (String.ofList (before.text ++ "(?:".toList ++ source.toList))
  /-- A group is closed. -/
  group_closes : (L.compile? source).isSome = true → L.Legible before →
    before.countP Part.isGroup = 0 →
      L.compile? (String.ofList (before.text ++ "(?:".toList ++ source.toList)) = none

end Semantics

end Library

end HeapQuery.Regex
