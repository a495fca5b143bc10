import HeapQuery.Path

namespace HeapQuery

inductive Entry
  | missing
  | directory
  | text (content : String)
  deriving DecidableEq, Repr, Inhabited

def Entry.isMissing : Entry → Bool
  | missing => true
  | _ => false

/-- The files below a working directory, each under the names that lead to it, and directories that
were made without files in them. `root` is how the directory itself is written in paths. -/
structure FileTree where
  root : String
  files : List (List String × String)
  directories : List (List String)
  deriving DecidableEq, Repr

namespace FileTree

def isDirectory (t : FileTree) (names : List String) : Bool :=
  names.isEmpty || t.directories.contains names ||
    t.files.any fun f => names.isPrefixOf f.1 && names != f.1

def entry (t : FileTree) (names : List String) : Entry :=
  match t.files.lookup names with
  | some content => .text content
  | none => if t.isDirectory names then .directory else .missing

/-- The names and double dots of a path below the working directory; none for other paths. -/
def steps? (t : FileTree) (path : String) : Option (List String) :=
  let cs := path.toList
  let start := t.root.toList ++ ['/']
  if path == t.root then some []
  else if start.isPrefixOf cs then some (Path.parts (String.ofList (cs.drop start.length)))
  else if path.isEmpty || Path.isAbsolute path then none
  else some (Path.parts path)

def walk (t : FileTree) (here : List String) : List String → Option (List String)
  | [] => some here
  | step :: rest =>
    if !t.isDirectory here then none
    else if step == ".." then if here.isEmpty then none else t.walk here.dropLast rest
    else t.walk (here ++ [step]) rest

/-- What lies at a path. A slash at the end asks for a directory. -/
def look (t : FileTree) (path : String) : Entry :=
  match (t.steps? path).bind (t.walk []) with
  | none => .missing
  | some names =>
    match t.entry names with
    | .text content => if path.toList.getLast? == some '/' then .missing else .text content
    | other => other

def makeDirectories (t : FileTree) (here : List String) : List String → FileTree × List String
  | [] => (t, here)
  | step :: rest =>
    if step == ".." then t.makeDirectories here.dropLast rest
    else
      let next := here ++ [step]
      ({ t with directories := next :: t.directories }).makeDirectories next rest

def write (t : FileTree) (path content : String) : FileTree :=
  match t.steps? path with
  | none => t
  | some steps =>
    let (t, parent) := t.makeDirectories [] steps.dropLast
    let names := parent ++ steps.getLast?.toList
    { t with files := (names, content) :: t.files.filter fun f => f.1 != names }

end FileTree

end HeapQuery
