import HeapQuery.Toml.Number
import HeapQuery.Toml.Tree

namespace HeapQuery.Toml

def splitKey (key : List String) : Option (List String × String) :=
  key.getLast?.map fun last => (key.dropLast, last)

/-- Reads the values of an array up to its closing bracket; `value` reads one value. -/
def readItems (value : List Char → Option (Json × List Char)) :
    Nat → List Char → Option (List Json × List Char)
  | 0, _ => none
  | fuel + 1, cs =>
    match skipLines cs.length cs with
    | ']' :: rest => some ([], rest)
    | cs => do
      let (item, rest) ← value cs
      match skipLines rest.length rest with
      | ',' :: rest =>
        let (items, rest) ← readItems value fuel rest
        return (item :: items, rest)
      | ']' :: rest => return ([item], rest)
      | _ => none

def readFields (value : List Char → Option (Json × List Char)) :
    Nat → Fields → List Char → Option (Fields × List Char)
  | 0, _, _ => none
  | fuel + 1, fields, cs => do
    let (key, rest) ← readKey cs
    let (path, last) ← splitKey key
    let (v, rest) ← value (skipBlanks (← expect '=' rest))
    let fields ← fields.set path last v
    match skipBlanks rest with
    | ',' :: rest => readFields value fuel fields rest
    | '\x7d' :: rest => return (fields, rest)
    | _ => none

def readInlineTable (value : List Char → Option (Json × List Char)) (cs : List Char) :
    Option (Json × List Char) :=
  match skipBlanks cs with
  | '\x7d' :: rest => some (.object [], rest)
  | cs => (readFields value (cs.length + 1) [] cs).map fun r => (.object (fieldsJson r.1), r.2)

def readValue : Nat → List Char → Option (Json × List Char)
  | 0, _ => none
  | depth + 1, cs =>
    match cs with
    | '[' :: rest =>
      if depth == 0 then none
      else (readItems (readValue depth) (rest.length + 1) rest).map fun r => (.array r.1, r.2)
    | '\x7b' :: rest => if depth == 0 then none else readInlineTable (readValue depth) rest
    | '"' :: _ | '\'' :: _ => (readString cs).map fun r => (.string r.1, r.2)
    | 't' :: 'r' :: 'u' :: 'e' :: rest => some (.bool true, rest)
    | 'f' :: 'a' :: 'l' :: 's' :: 'e' :: rest => some (.bool false, rest)
    | cs => readNumeric cs

/-- A document that is being read: its tree and the path of the table that was opened last. -/
structure Document where
  root : Fields
  current : List String

def readHeader (d : Document) (cs : List Char) : Option (Document × List Char) :=
  match cs with
  | '[' :: rest => do
    let (key, rest) ← readKey rest
    let (path, last) ← splitKey key
    let rest ← expect ']' (← expect ']' rest)
    return (⟨← d.root.openItem path last, key⟩, ← afterLine? rest)
  | cs => do
    let (key, rest) ← readKey cs
    let (path, last) ← splitKey key
    let rest ← expect ']' rest
    return (⟨← d.root.openTable path last, key⟩, ← afterLine? rest)

def readEntry (d : Document) (cs : List Char) : Option (Document × List Char) := do
  let (key, rest) ← readKey cs
  let (path, last) ← splitKey key
  let (v, rest) ← readValue depthLimit (skipBlanks (← expect '=' rest))
  return ({ d with root := ← d.root.setIn d.current path last v }, ← afterLine? rest)

def readLine (d : Document) (cs : List Char) : Option (Document × List Char) :=
  match cs with
  | '[' :: rest => readHeader d rest
  | '#' :: _ | '\n' :: _ | '\r' :: _ => (afterLine? cs).map fun rest => (d, rest)
  | cs => readEntry d cs

def readDocument : Nat → Document → List Char → Option Document
  | 0, _, _ => none
  | fuel + 1, d, cs =>
    match skipBlanks cs with
    | [] => some d
    | cs => do
      let (d, rest) ← readLine d cs
      readDocument fuel d rest

/-- A mark of the byte order at the start does not count. -/
def dropMark : List Char → List Char
  | '\ufeff' :: rest => rest
  | cs => cs

def read? (text : String) : Option Json := do
  let cs := dropMark text.toList
  let d ← readDocument (cs.length + 1) ⟨[], []⟩ cs
  return .object (fieldsJson d.root)

end HeapQuery.Toml
