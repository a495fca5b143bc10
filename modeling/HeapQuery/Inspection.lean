import HeapQuery.Registry
import HeapQuery.Bindings

namespace HeapQuery

def inspectOption (inspect : α → String) : Option α → String
  | some x => "Some(" ++ inspect x ++ ")"
  | none => "None"

def inspectList (inspect : α → String) (xs : List α) : String :=
  "[" ++ String.intercalate ", " (xs.map inspect) ++ "]"

def inspectRecord (name : String) (fields : List (String × String)) : String :=
  let shown := fields.map fun (key, text) => key ++ ": " ++ text
  name ++ " \x7b " ++ String.intercalate ", " shown ++ " \x7d"

def inspectOpenRecord (name : String) (fields : List (String × String)) : String :=
  let shown := fields.map fun (key, text) => key ++ ": " ++ text
  name ++ " \x7b " ++ String.intercalate ", " shown ++ ", .. \x7d"

def inspectText : Option String → String := inspectOption Text.quoted

def Advice.inspect : Advice → String
  | heapObject => "HeapObject"
  | secondarySnapshot => "SecondarySnapshot"
  | classNamePattern => "ClassNamePattern"
  | directory => "Directory"
  | save => "Save"

def EnumType.inspect (e : EnumType) : String :=
  inspectRecord "EnumType"
    [("name", Text.quoted e.name), ("constants", inspectList Text.quoted e.constants)]

def ValueType.inspect : ValueType → String
  | string => "String"
  | boolean => "Boolean"
  | int => "Integer"
  | long => "Long"
  | short => "Short"
  | double => "Double"
  | float => "Float"
  | pattern => "Pattern"
  | file => "File"
  | enum e => "Enum(" ++ e.inspect ++ ")"
  | host name => "Object(" ++ Text.quoted name ++ ")"

def Multiplicity.inspect : Multiplicity → String
  | single => "Single"
  | array => "Array"
  | list => "List"

def Argument.inspect (a : Argument) : String :=
  inspectRecord "ArgumentDescriptor"
    [("name", Text.quoted a.name), ("flag", inspectText a.flag),
      ("mandatory", toString a.mandatory), ("multiplicity", a.multiplicity.inspect),
      ("value_type", a.type.inspect), ("advice", inspectOption Advice.inspect a.advice),
      ("default_value", inspectOption Value.inspect a.default), ("help", inspectText a.help)]

def Query.inspect (q : Query) : String :=
  inspectOpenRecord "QueryDescriptor"
    [("identifier", Text.quoted q.identifier), ("name", Text.quoted q.name),
      ("category", inspectText q.category),
      ("command_type", "CommandType(" ++ Text.quoted q.command.typeName ++ ")"),
      ("arguments", inspectList Argument.inspect q.arguments),
      ("menu_options", inspectText q.options)]

def Bindings.inspect (b : Bindings) : String :=
  let entries := b.entries.map fun (i, value) =>
    toString i ++ ": " ++ inspectOption Value.inspect value
  inspectOpenRecord "ArgumentSet"
    [("query", Text.quoted b.query.identifier),
      ("values", "\x7b" ++ String.intercalate ", " entries ++ "\x7d")]

def Registry.inspect (r : Registry) : String :=
  inspectRecord "QueryRegistry"
    [("queries", inspectList (fun q => Text.quoted q.identifier) r.queries),
      ("translations", toString r.translations.size)]

end HeapQuery
