import HeapQuery.Number.Literal
import HeapQuery.Text.CodePoint

namespace HeapQuery.Toml

open HeapQuery.Number (digitValue?)

def skipBlanks (cs : List Char) : List Char := cs.dropWhile fun c => c == ' ' || c == '\t'

/-- Characters that may stand in a comment: all but control characters, tabs excepted. -/
def isPlain (c : Char) : Bool := c == '\t' || (0x20 ≤ c.toNat && c.toNat != 0x7f)

def afterNewline? : List Char → Option (List Char)
  | '\n' :: rest => some rest
  | '\r' :: '\n' :: rest => some rest
  | _ => none

def skipComment : List Char → List Char
  | '#' :: rest => rest.dropWhile isPlain
  | cs => cs

def afterLine? (cs : List Char) : Option (List Char) :=
  match skipComment (skipBlanks cs) with
  | [] => some []
  | cs => afterNewline? cs

/-- Passes over blanks, comments and line breaks; `fuel` bounds the number of lines. -/
def skipLines : Nat → List Char → List Char
  | 0, cs => cs
  | fuel + 1, cs =>
    let cs := skipBlanks cs
    match afterNewline? (skipComment cs) with
    | some rest => skipLines fuel rest
    | none => cs

def readHex : Nat → Nat → List Char → Option (Nat × List Char)
  | 0, value, cs => some (value, cs)
  | _ + 1, _, [] => none
  | count + 1, value, c :: rest => do readHex count (16 * value + (← digitValue? 16 c)) rest

def readCode (digits : Nat) (cs : List Char) : Option (Char × List Char) := do
  let (code, rest) ← readHex digits 0 cs
  return (← Text.charOfCode? code, rest)

def readEscape : List Char → Option (Char × List Char)
  | 'b' :: rest => some ('\x08', rest)
  | 't' :: rest => some ('\t', rest)
  | 'n' :: rest => some ('\n', rest)
  | 'f' :: rest => some ('\x0c', rest)
  | 'r' :: rest => some ('\r', rest)
  | '"' :: rest => some ('"', rest)
  | '\\' :: rest => some ('\\', rest)
  | 'u' :: rest => readCode 4 rest
  | 'U' :: rest => readCode 8 rest
  | _ => none

/-- Reads a string in double quotes up to its closing quote; `text` is what was read, last character
first. -/
def readBasic : Nat → List Char → List Char → Option (String × List Char)
  | 0, _, _ => none
  | _, _, [] => none
  | fuel + 1, text, c :: rest =>
    if c == '"' then some (String.ofList text.reverse, rest)
    else if c == '\\' then do
      let (e, rest) ← readEscape rest
      readBasic fuel (e :: text) rest
    else if isPlain c then readBasic fuel (c :: text) rest
    else none

def readLiteral (cs : List Char) : Option (String × List Char) :=
  let text := cs.takeWhile fun c => c != '\'' && isPlain c
  match cs.drop text.length with
  | '\'' :: rest => some (String.ofList text, rest)
  | _ => none

/-- The end of a string with three quotes, where quotes come next: how many of them belong to the
text, and whether the string ends after them. -/
def quoteRun (quote : Char) (cs : List Char) : Nat × Bool :=
  let count := (cs.takeWhile (· == quote)).length
  if 3 ≤ count then (min count 5 - 3, true) else (count, false)

/-- The text after a line break in a string and after all blanks and line breaks that follow it. -/
def skipFolded : Nat → List Char → List Char
  | 0, cs => cs
  | fuel + 1, cs =>
    let cs := skipBlanks cs
    match afterNewline? cs with
    | some rest => skipFolded fuel rest
    | none => cs

/-- Reads the rest of a string of several lines. Its quote is the double one if `escapes` count. -/
def readLong (escapes : Bool) : Nat → List Char → List Char → Option (String × List Char)
  | 0, _, _ => none
  | _, _, [] => none
  | fuel + 1, text, c :: rest =>
    let quote := if escapes then '"' else '\''
    if c == quote then
      let (count, ends) := quoteRun quote (c :: rest)
      let text := List.replicate count quote ++ text
      if ends then some (String.ofList text.reverse, (c :: rest).drop (count + 3))
      else readLong escapes fuel text ((c :: rest).drop count)
    else if escapes && c == '\\' then
      match afterNewline? (skipBlanks rest) with
      | some after => readLong escapes fuel text (skipFolded after.length after)
      | none => do
        let (e, rest) ← readEscape rest
        readLong escapes fuel (e :: text) rest
    else
      match afterNewline? (c :: rest) with
      | some rest => readLong escapes fuel ('\n' :: text) rest
      | none => if isPlain c then readLong escapes fuel (c :: text) rest else none

def dropFirstNewline (cs : List Char) : List Char := (afterNewline? cs).getD cs

def readString : List Char → Option (String × List Char)
  | '"' :: '"' :: '"' :: rest => readLong true (rest.length + 1) [] (dropFirstNewline rest)
  | '"' :: rest => readBasic (rest.length + 1) [] rest
  | '\'' :: '\'' :: '\'' :: rest => readLong false (rest.length + 1) [] (dropFirstNewline rest)
  | '\'' :: rest => readLiteral rest
  | _ => none

def isKeyChar (c : Char) : Bool := c.isAlphanum || c == '-' || c == '_'

def readSimpleKey (cs : List Char) : Option (String × List Char) :=
  match cs with
  | '"' :: rest => readBasic (rest.length + 1) [] rest
  | '\'' :: rest => readLiteral rest
  | cs =>
    let name := cs.takeWhile isKeyChar
    if name.isEmpty then none else some (String.ofList name, cs.drop name.length)

def readKeyParts : Nat → List Char → Option (List String × List Char)
  | 0, _ => none
  | fuel + 1, cs => do
    let (part, rest) ← readSimpleKey (skipBlanks cs)
    match skipBlanks rest with
    | '.' :: rest =>
      let (parts, rest) ← readKeyParts fuel rest
      return (part :: parts, rest)
    | rest => return ([part], rest)

def depthLimit : Nat := 80

def readKey (cs : List Char) : Option (List String × List Char) :=
  (readKeyParts (cs.length + 1) cs).filter fun r => r.1.length < depthLimit

end HeapQuery.Toml
