import HeapQuery.Json.Printer
import HeapQuery.Report.Style
import HeapQuery.Text.Blank

namespace HeapQuery.Report

def cell : Json → String
  | .string text => text
  | .null => ""
  | value => value.compact

def flatFields? : Json → Option (List (String × Json))
  | .object fields => if fields.any fun f => f.2.isNested then none else some fields
  | _ => none

/-- A column of a table. Numbers stand at its right side. -/
structure Column where
  title : String
  numeric : Bool
  cells : List String
  deriving DecidableEq, Repr

namespace Column

def ofRows (rows : List (List (String × Json))) (key : String) : Column where
  title := key
  numeric := rows.all fun row => (row.lookup key).any Json.isNumber
  cells := rows.map fun row => ((row.lookup key).map cell).getD ""

def width (c : Column) : Nat := (c.cells.map String.length).foldl max c.title.length

def pad (c : Column) (text : String) : String :=
  let blanks := String.ofList (List.replicate (c.width - text.length) ' ')
  if c.numeric then blanks ++ text else text ++ blanks

end Column

def joinCells (cells : List String) : String :=
  String.ofList (Text.trimEnd (String.intercalate "  " cells).toList)

def rowAt (columns : List Column) (index : Nat) : String :=
  joinCells (columns.map fun c => c.pad ((c.cells[index]?).getD ""))

/-- The table of an array of flat records; its columns are the fields of the first one. -/
def table? (colors : Bool) (items : List Json) : Option String := do
  let rows ← items.mapM flatFields?
  let first ← rows.head?
  let columns := first.map fun f => Column.ofRows rows f.1
  let header := joinCells (columns.map fun c => c.pad c.title)
  let lines := (List.range rows.length).map (rowAt columns)
  return String.intercalate "\n" (Style.strong.apply colors header :: lines)

def record (colors : Bool) (fields : List (String × Json)) : String :=
  let title := fun (key : String) => Style.strong.apply colors key
  let shown : List (String ⊕ String) := fields.map fun (key, value) =>
    match value with
    | .array items =>
      match table? colors items with
      | some text => .inr (title key ++ "\n" ++ text)
      | none => .inl (title key ++ ": " ++ value.compact)
    | value => .inl (title key ++ ": " ++ if value.isNested then value.compact else cell value)
  let lines := shown.filterMap Sum.getLeft?
  let tables := shown.filterMap Sum.getRight?
  String.intercalate "\n" (lines ++ tables)

def human (colors : Bool) : Json → String
  | .array items => (table? colors items).getD (Json.array items).pretty
  | .object fields => record colors fields
  | .string text => text
  | value => value.pretty

end HeapQuery.Report
