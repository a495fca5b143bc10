import HeapQuery.Command
import HeapQuery.Context
import HeapQuery.Label

namespace HeapQuery

/-- A query. `options` is the command text that a preset applies; only presets have one. -/
structure Query where
  identifier : String
  name : String
  sortKey : Nat
  category : Option String
  command : Command
  fixedUsage : Option String
  help : Option String
  helpUrl : Option String
  arguments : List Argument
  options : Option String

structure Registered extends Query where
  presets : List Query

namespace Query

def hiddenCategory : String := "__hidden__"

def isHidden (q : Query) : Bool := q.category == some hiddenCategory

def isPreset (q : Query) : Bool := q.options.isSome

def argumentNamed? (q : Query) (name : String) : Option Argument :=
  q.arguments.find? fun a => a.name == name

def argumentFlagged? (q : Query) (flag : String) : Option Argument :=
  q.arguments.find? fun a => a.flag.any fun f => Text.equalsIgnoringAsciiCase f flag

def display (q : Query) : String := q.identifier ++ " (" ++ q.command.typeName ++ ")"

/-- The fixed usage of the query, or else its identifier with the usage of every argument that the
environment does not supply. -/
def usage (q : Query) (c : Context) : String :=
  match q.fixedUsage with
  | some text => text
  | none =>
    let shown := q.arguments.filter fun a => !c.supplies a
    String.intercalate " " (q.identifier :: shown.map Argument.usage)

def isAccepted (q : Query) (c : Context) : Bool := q.arguments.all c.supports

def obstacles (q : Query) (c : Context) : List String :=
  (q.arguments.filter fun a => !c.supports a).map fun a =>
    s!"argument '{a.name}' of type {a.type.name} is not supported by the current context"

def explain? (q : Query) (c : Context) : Option String :=
  match q.obstacles c with
  | [] => none
  | lines => some (String.intercalate "\n" lines)

def hasHelp (q : Query) : Bool := q.help.isSome || q.arguments.any fun a => a.help.isSome

def shortLength : Nat := 80

/-- The part of `cs` before its last blank; none without a blank, or with one at the start only. -/
def beforeLastSpace? (cs : List Char) : Option (List Char) :=
  match cs.reverse.dropWhile (· != ' ') with
  | _ :: c :: rest => some (c :: rest).reverse
  | _ => none

def shorten (help : List Char) : List Char :=
  let head := help.take shortLength
  if head.contains '.' then head.takeWhile (· != '.') ++ ['.']
  else (beforeLastSpace? head).getD head ++ " ...".toList

def shortDescription? (q : Query) : Option String :=
  q.help.map fun help =>
    let cs := (Text.trim help).toList
    String.ofList (if cs.length ≤ shortLength then cs else shorten cs)

end Query

end HeapQuery
