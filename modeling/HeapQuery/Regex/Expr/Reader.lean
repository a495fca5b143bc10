import HeapQuery.Regex.Expr
import HeapQuery.Number.Literal
import HeapQuery.Text.CodePoint

namespace HeapQuery.Regex.Reader

open HeapQuery.Number (digitValue? natOfDigits)
open HeapQuery.Text (charOfCode?)

def skipRemarks (inside : Bool) : List Char → List Char
  | [] => []
  | c :: rest =>
    if inside then skipRemarks (c != '\n') rest
    else if Text.isBlank c then skipRemarks false rest
    else if c == '#' then skipRemarks true rest
    else c :: rest

def skip (verbose : Bool) (cs : List Char) : List Char :=
  if verbose then skipRemarks false cs else cs

/-- The character that counts next after the first one. In verbose text, blanks and one `#` are
passed over; without such a character it is the next one, whatever it is. -/
def peek (verbose : Bool) : List Char → Option Char
  | [] => none
  | _ :: rest =>
    if verbose then (look false rest).or rest.head? else rest.head?
where
  look (remark : Bool) : List Char → Option Char
    | [] => none
    | c :: rest =>
      if Text.isBlank c then look remark rest
      else if !remark && c == '#' then look true rest
      else some c

def isMeta (c : Char) : Bool := "\\.+*?()|[]\x7b\x7d^$#&-~".toList.contains c

def isEscapable (c : Char) : Bool :=
  isMeta c || (c.toNat < 0x80 && !c.isAlphanum && c != '<' && c != '>')

def readHexFixed (verbose : Bool) : Nat → Nat → List Char → Option (Nat × List Char)
  | 0, value, cs => some (value, cs)
  | _ + 1, _, [] => none
  | count + 1, value, c :: rest => do
    let d ← digitValue? 16 c
    readHexFixed verbose count (16 * value + d) (skip verbose rest)

def readBraced (verbose : Bool) : Nat → List Char → List Char → Option (List Char × List Char)
  | 0, _, _ => none
  | fuel + 1, text, cs =>
    match skip verbose cs with
    | [] => none
    | '\x7d' :: rest => some (text.reverse, rest)
    | c :: rest => readBraced verbose fuel (c :: text) rest

/-- Reads the code point of `\x`, `\u` or `\U`, of which `digits` tells the number of digits. -/
def readCode (verbose : Bool) (digits : Nat) (cs : List Char) : Option (Literal × List Char) :=
  match skip verbose cs with
  | '\x7b' :: rest => do
    let (text, rest) ← readBraced verbose (rest.length + 1) [] rest
    if text.isEmpty || !text.all isHexDigit then none
    else
      let code := text.foldl (fun n d => 16 * n + (digitValue? 16 d).getD 0) 0
      some (⟨← charOfCode? code, false⟩, rest)
  | cs => do
    let (code, rest) ← readHexFixed verbose digits 0 cs
    some (⟨← charOfCode? code, digits == 2⟩, rest)

def splitAtFirst (sep : Char) (cs : List Char) : Option (String × String) :=
  if cs.contains sep then
    some (String.ofList (cs.takeWhile (· != sep)), String.ofList ((cs.dropWhile (· != sep)).drop 1))
  else none

def splitAtUnequal : List Char → Option (List Char × List Char)
  | '!' :: '=' :: rest => some ([], rest)
  | c :: rest => (splitAtUnequal rest).map fun r => (c :: r.1, r.2)
  | [] => none

def queryOfText (text : List Char) : PropertyQuery × Bool :=
  match splitAtUnequal text with
  | some (name, value) => (.valued (String.ofList name) (String.ofList value), true)
  | none =>
    match splitAtFirst ':' text with
    | some (name, value) => (.valued name value, false)
    | none =>
      match splitAtFirst '=' text with
      | some (name, value) => (.valued name value, false)
      | none => (.named (String.ofList text), false)

def readProperty (verbose negated : Bool) (cs : List Char) :
    Option ((PropertyQuery × Bool) × List Char) :=
  match skip verbose cs with
  | [] => none
  | '\x7b' :: rest => do
    let (text, rest) ← readBraced verbose (rest.length + 1) [] rest
    let (query, turned) := queryOfText text
    some ((query, negated != turned), rest)
  | '\\' :: _ => none
  | c :: rest => some ((.named (String.ofList [c]), negated), skip verbose rest)

inductive Primitive
  | literal (l : Literal)
  | assertion (a : Assertion)
  | short (k : ShortClass) (negated : Bool)
  | property (q : PropertyQuery) (negated : Bool)
  | dot

def isBoundaryLetter (c : Char) : Bool := c.isAlpha || c == '-'

/-- Collects the name of a special boundary up to the first character that cannot belong to it. -/
def readBoundaryName (verbose : Bool) : Nat → List Char → List Char → List Char × List Char
  | 0, name, cs => (name.reverse, cs)
  | _, name, [] => (name.reverse, [])
  | fuel + 1, name, c :: rest =>
    if isBoundaryLetter c then readBoundaryName verbose fuel (c :: name) (skip verbose rest)
    else (name.reverse, c :: rest)

/-- Reads what may follow `\b`: the name of a special boundary in braces. Other braces are left for
a repetition. -/
def readBoundary (verbose : Bool) (cs : List Char) : Option (Assertion × List Char) :=
  match cs with
  | '\x7b' :: rest =>
    match skip verbose rest with
    | [] => none
    | c :: inner =>
      if !isBoundaryLetter c then some (.boundary, cs)
      else
        match readBoundaryName verbose (inner.length + 1) [] (c :: inner) with
        | (name, '\x7d' :: rest) =>
          match String.ofList name with
          | "start" => some (.wordStart, rest)
          | "end" => some (.wordEnd, rest)
          | "start-half" => some (.wordStartHalf, rest)
          | "end-half" => some (.wordEndHalf, rest)
          | _ => none
        | _ => none
  | _ => some (.boundary, cs)

def controlEscape? : Char → Option Char
  | 'a' => some '\x07'
  | 'f' => some '\x0c'
  | 't' => some '\t'
  | 'n' => some '\n'
  | 'r' => some '\r'
  | 'v' => some '\x0b'
  | _ => none

def readEscape (verbose : Bool) : List Char → Option (Primitive × List Char)
  | [] => none
  | 'x' :: rest => (readCode verbose 2 rest).map fun r => (.literal r.1, r.2)
  | 'u' :: rest => (readCode verbose 4 rest).map fun r => (.literal r.1, r.2)
  | 'U' :: rest => (readCode verbose 8 rest).map fun r => (.literal r.1, r.2)
  | 'p' :: rest => (readProperty verbose false rest).map fun r => (.property r.1.1 r.1.2, r.2)
  | 'P' :: rest => (readProperty verbose true rest).map fun r => (.property r.1.1 r.1.2, r.2)
  | 'd' :: rest => some (.short .digit false, rest)
  | 'D' :: rest => some (.short .digit true, rest)
  | 's' :: rest => some (.short .space false, rest)
  | 'S' :: rest => some (.short .space true, rest)
  | 'w' :: rest => some (.short .word false, rest)
  | 'W' :: rest => some (.short .word true, rest)
  | 'A' :: rest => some (.assertion .textStart, rest)
  | 'z' :: rest => some (.assertion .textEnd, rest)
  | 'b' :: rest => (readBoundary verbose rest).map fun r => (.assertion r.1, r.2)
  | 'B' :: rest => some (.assertion .noBoundary, rest)
  | '<' :: rest => some (.assertion .wordStart, rest)
  | '>' :: rest => some (.assertion .wordEnd, rest)
  | c :: rest =>
    match controlEscape? c with
    | some e => some (.literal ⟨e, false⟩, rest)
    | none => if isEscapable c then some (.literal ⟨c, false⟩, rest) else none

/-! ## Bracketed classes -/

inductive ClassFrame
  | opened (outer : List ClassItem) (negated : Bool)
  | left (op : SetOp) (body : ClassBody)

def readDashes (verbose : Bool) : Nat → List ClassItem → List Char →
    Option (List ClassItem × List Char)
  | 0, _, _ => none
  | fuel + 1, items, cs =>
    match cs with
    | [] => none
    | '-' :: rest => readDashes verbose fuel (.literal ⟨'-', false⟩ :: items) (skip verbose rest)
    | cs => some (items, cs)

/-- Reads the start of a class after its bracket: a caret, dashes and a closing bracket that comes
first. -/
def openClass (verbose : Bool) (cs : List Char) : Option (Bool × List ClassItem × List Char) := do
  let cs := skip verbose cs
  let (negated, cs) := match cs with
    | '^' :: rest => (true, skip verbose rest)
    | cs => (false, cs)
  let (items, cs) ← readDashes verbose (cs.length + 1) [] cs
  match items, cs with
  | [], ']' :: rest =>
    let rest := skip verbose rest
    if rest.isEmpty then none else some (negated, [.literal ⟨']', false⟩], rest)
  | items, cs => some (negated, items, cs)

def readAsciiClass? (cs : List Char) : Option (ClassItem × List Char) :=
  match cs with
  | ':' :: rest =>
    let (negated, rest) := match rest with
      | '^' :: r => (true, r)
      | r => (false, r)
    let name := rest.takeWhile (· != ':')
    match rest.dropWhile (· != ':') with
    | ':' :: ']' :: rest =>
      (AsciiClass.ofName? (String.ofList name)).map fun k => (.ascii k negated, rest)
    | _ => none
  | _ => none

def readClassPrimitive (verbose : Bool) : List Char → Option (Primitive × List Char)
  | [] => none
  | '\\' :: rest => readEscape verbose rest
  | c :: rest => some (.literal ⟨c, false⟩, rest)

def Primitive.classItem? : Primitive → Option ClassItem
  | .literal l => some (.literal l)
  | .short k negated => some (.short k negated)
  | .property q negated => some (.property q negated)
  | _ => none

def Primitive.literal? : Primitive → Option Literal
  | .literal l => some l
  | _ => none

def readClassItem (verbose : Bool) (cs : List Char) : Option (ClassItem × List Char) := do
  let (first, rest) ← readClassPrimitive verbose cs
  match skip verbose rest with
  | [] => none
  | '-' :: after =>
    let next := peek verbose ('-' :: after)
    if next == some ']' || next == some '-' then
      some (← first.classItem?, '-' :: after)
    else
      let (last, rest) ← readClassPrimitive verbose (skip verbose after)
      let first ← first.literal?
      let last ← last.literal?
      if first.char ≤ last.char then some (.range first last, rest) else none
  | rest => some (← first.classItem?, rest)

def closeOperator (body : ClassBody) : List ClassFrame → ClassBody × List ClassFrame
  | .left op left :: stack => (.binary op left body, stack)
  | stack => (body, stack)

/-- A class that is being read: the frames that are open, the items of the innermost one, last item
first, and the rest of the text. -/
structure ClassState where
  stack : List ClassFrame
  items : List ClassItem
  rest : List Char

def ClassState.body (s : ClassState) : ClassBody := .items s.items.reverse

def ClassState.operator (s : ClassState) (op : SetOp) (rest : List Char) : ClassState :=
  let (left, stack) := closeOperator s.body s.stack
  ⟨.left op left :: stack, [], rest⟩

/-- One step of reading a class: either a new state, or the finished class and the text after it. -/
def stepClass (verbose : Bool) (s : ClassState) :
    Option (ClassState ⊕ (Bool × ClassBody × List Char)) :=
  match s.rest with
  | [] => none
  | '[' :: rest =>
    match readAsciiClass? rest with
    | some (item, rest) => some (.inl { s with items := item :: s.items, rest := rest })
    | none => do
      let (negated, items, rest) ← openClass verbose rest
      some (.inl ⟨.opened s.items negated :: s.stack, items, rest⟩)
  | ']' :: rest =>
    let (body, stack) := closeOperator s.body s.stack
    match stack with
    | [.opened _ negated] => some (.inr (negated, body, rest))
    | .opened outer negated :: stack =>
      some (.inl ⟨stack, .nested negated body :: outer, rest⟩)
    | _ => none
  | '&' :: '&' :: rest => some (.inl (s.operator .intersection rest))
  | '-' :: '-' :: rest => some (.inl (s.operator .difference rest))
  | '~' :: '~' :: rest => some (.inl (s.operator .symmetricDifference rest))
  | cs => do
    let (item, rest) ← readClassItem verbose cs
    some (.inl { s with items := item :: s.items, rest := rest })

def readClass (verbose : Bool) : Nat → ClassState → Option (Bool × ClassBody × List Char)
  | 0, _ => none
  | fuel + 1, s =>
    match stepClass verbose { s with rest := skip verbose s.rest } with
    | none => none
    | some (.inr result) => some result
    | some (.inl next) => readClass verbose fuel next

/-! ## Groups and repetitions -/

inductive Frame
  | group (before : List Expr) (change : FlagChange) (verbose : Bool)
  | alternation (branches : List Expr)

/-- An expression that is being read: whether blanks count, the names of groups, the frames that
are open, the parts of the innermost one, last part first, and the rest of the text. -/
structure State where
  verbose : Bool
  names : List String
  stack : List Frame
  parts : List Expr
  rest : List Char

def State.push (s : State) (part : Expr) (rest : List Char) : State :=
  { s with parts := part :: s.parts, rest := rest }

def State.branch (s : State) : Expr := Expr.ofParts s.parts.reverse

def readFlags : List Char → Bool → Bool → FlagChange → Option (FlagChange × Char × List Char)
  | [], _, _, _ => none
  | c :: rest, negative, dangling, change =>
    if c == ':' || c == ')' then
      if dangling then none else some (change.reverse, c, rest)
    else if c == '-' then
      if negative then none else readFlags rest true true change
    else
      match Flag.ofLetter? c with
      | none => none
      | some flag =>
        if change.any (·.1 == flag) then none
        else readFlags rest negative false ((flag, !negative) :: change)

def verboseAfter (change : FlagChange) (verbose : Bool) : Bool :=
  (change.lookup .verbose).getD verbose

def isNameChar (first : Bool) (c : Char) : Bool :=
  if first then c == '_' || Text.isAlphabetic c
  else c == '_' || c == '.' || c == '[' || c == ']' || Text.isAlphanumeric c

def readName (cs : List Char) : Option (String × List Char) :=
  let name := cs.takeWhile (· != '>')
  match name, cs.dropWhile (· != '>') with
  | first :: others, '>' :: rest =>
    if isNameChar true first && others.all (isNameChar false) then
      some (String.ofList name, rest)
    else none
  | _, _ => none

def State.openGroup (s : State) (change : FlagChange) (rest : List Char) : State :=
  { s with
    verbose := verboseAfter change s.verbose
    stack := .group s.parts change s.verbose :: s.stack
    parts := []
    rest := rest }

def State.openNamed (s : State) (cs : List Char) : Option State := do
  let (name, rest) ← readName cs
  if s.names.contains name then none
  else some { s.openGroup [] rest with names := name :: s.names }

def stepOpen (s : State) (cs : List Char) : Option State :=
  match skip s.verbose cs with
  | '?' :: '=' :: _ | '?' :: '!' :: _ | '?' :: '<' :: '=' :: _ | '?' :: '<' :: '!' :: _ => none
  | '?' :: 'P' :: '<' :: rest => s.openNamed rest
  | '?' :: '<' :: rest => s.openNamed rest
  | '?' :: rest => do
    let (change, ending, rest) ← readFlags rest false false []
    if ending == ':' then some (s.openGroup change rest)
    else if change.isEmpty then none
    else some { s.push (.flags change) rest with verbose := verboseAfter change s.verbose }
  | rest => some (s.openGroup [] rest)

def stepClose (s : State) (rest : List Char) : Option State :=
  match s.stack with
  | .group before change verbose :: stack =>
    some ⟨verbose, s.names, stack, .group change s.branch :: before, rest⟩
  | .alternation branches :: .group before change verbose :: stack =>
    let body := Expr.alternation (s.branch :: branches).reverse
    some ⟨verbose, s.names, stack, .group change body :: before, rest⟩
  | _ => none

def stepBranch (s : State) (rest : List Char) : State :=
  match s.stack with
  | .alternation branches :: stack =>
    { s with stack := .alternation (s.branch :: branches) :: stack, parts := [], rest := rest }
  | stack => { s with stack := .alternation [s.branch] :: stack, parts := [], rest := rest }

def State.repeatLast (s : State) (least : Nat) (most : Option Nat) (rest : List Char) :
    Option State :=
  match s.parts with
  | part :: parts =>
    if part.isRepeatable then
      some { s with parts := .repetition part least most :: parts, rest := rest }
    else none
  | [] => none

def dropLazyMark : List Char → List Char
  | '?' :: rest => rest
  | cs => cs

def readCountDigits (verbose : Bool) : Nat → List Char → List Char → List Char × List Char
  | 0, ds, cs => (ds.reverse, cs)
  | _, ds, [] => (ds.reverse, [])
  | fuel + 1, ds, c :: rest =>
    if c.isDigit then readCountDigits verbose fuel (c :: ds) (skip verbose rest)
    else (ds.reverse, c :: rest)

/-- Reads a count of 32 bits with blanks around it. The count is missing where there are no
digits; `none` is a count out of range. -/
def readCount (verbose : Bool) (cs : List Char) : Option (Option Nat × List Char) :=
  let cs := cs.dropWhile Text.isBlank
  let (ds, rest) := readCountDigits verbose (cs.length + 1) [] cs
  let rest := rest.dropWhile Text.isBlank
  let rest := if ds.isEmpty then rest else skip verbose rest
  if ds.isEmpty then some (none, rest)
  else if natOfDigits ds ≤ 0xffffffff then some (some (natOfDigits ds), rest)
  else none

def readBounds (verbose : Bool) (cs : List Char) : Option (Nat × Option Nat × List Char) := do
  let (least, cs) ← readCount verbose (skip verbose cs)
  let least ← least
  match cs with
  | '\x7d' :: rest => some (least, some least, rest)
  | ',' :: rest =>
    match skip verbose rest with
    | '\x7d' :: rest => some (least, none, rest)
    | rest =>
      let (most, rest) ← readCount verbose rest
      let most ← most
      match rest with
      | '\x7d' :: rest => if least ≤ most then some (least, some most, rest) else none
      | _ => none
  | _ => none

def Primitive.expr : Primitive → Expr
  | .literal l => .literal l
  | .assertion a => .assertion a
  | .short k negated => .short k negated
  | .property q negated => .property q negated
  | .dot => .dot

def step (s : State) : Option State :=
  match s.rest with
  | [] => none
  | '(' :: rest => stepOpen s rest
  | ')' :: rest => stepClose s rest
  | '|' :: rest => some (stepBranch s rest)
  | '[' :: rest => do
    let (negated, items, inner) ← openClass s.verbose rest
    let (negated, body, rest) ←
      readClass s.verbose (rest.length + 1) ⟨[.opened [] negated], items, inner⟩
    some (s.push (.bracketed negated body) rest)
  | '?' :: rest => s.repeatLast 0 (some 1) (dropLazyMark rest)
  | '*' :: rest => s.repeatLast 0 none (dropLazyMark rest)
  | '+' :: rest => s.repeatLast 1 none (dropLazyMark rest)
  | '\x7b' :: rest => do
    let (least, most, rest) ← readBounds s.verbose rest
    s.repeatLast least most (dropLazyMark (skip s.verbose rest))
  | '\\' :: rest => do
    let (item, rest) ← readEscape s.verbose rest
    some (s.push item.expr rest)
  | '.' :: rest => some (s.push .dot rest)
  | '^' :: rest => some (s.push (.assertion .lineStart) rest)
  | '$' :: rest => some (s.push (.assertion .lineEnd) rest)
  | c :: rest => some (s.push (.literal ⟨c, false⟩) rest)

def run : Nat → State → Option State
  | 0, _ => none
  | fuel + 1, s =>
    let s := { s with rest := skip s.verbose s.rest }
    if s.rest.isEmpty then some s
    else
      match step s with
      | none => none
      | some next => run fuel next

def State.finish? (s : State) : Option Expr :=
  match s.stack with
  | [] => some s.branch
  | [.alternation branches] => some (.alternation (s.branch :: branches).reverse)
  | _ => none

end Reader

/-- The expression that `source` spells; it nests at most 250 deep. -/
def Expr.read? (source : String) : Option Expr := do
  let cs := source.toList
  let s ← Reader.run (cs.length + 1) ⟨false, [], [], [], cs⟩
  let e ← s.finish?
  if e.depth ≤ 250 then some e else none

end HeapQuery.Regex
