namespace HeapQuery.Path

inductive Component
  | root
  | here
  | part (name : String)
  deriving DecidableEq, Repr

def pieces (cs : List Char) : List (List Char) := cs.splitOn '/'

def isAbsolute (path : String) : Bool := path.toList.head? == some '/'

def parts (path : String) : List String :=
  ((pieces path.toList).filter fun p => !p.isEmpty && p != ['.']).map String.ofList

/-- The components of a path. A single dot counts only at the start of a relative path. -/
def components (path : String) : List Component :=
  let start :=
    if isAbsolute path then [.root]
    else if (pieces path.toList).head? == some ['.'] then [.here]
    else []
  start ++ (parts path).map .part

def same (a b : String) : Bool := components a == components b

/-- The absolute form of a path, a relative one being taken from the root directory. Single dots
and repeated slashes go, except that exactly two slashes at the start stay, as does one slash at
the end; the empty path has no absolute form and stays as it is. -/
def absolute (path : String) : String :=
  let cs := path.toList
  if cs.isEmpty then path
  else
    let root := if ['/', '/'].isPrefixOf cs && !(['/', '/', '/'].isPrefixOf cs) then "//" else "/"
    let names := parts path
    let last := if cs.getLast? == some '/' && !names.isEmpty then "/" else ""
    root ++ String.intercalate "/" names ++ last

def join (base name : String) : String :=
  if isAbsolute name || base.isEmpty then name
  else if base.toList.getLast? == some '/' then base ++ name
  else base ++ "/" ++ name

def ancestors (path : String) : List String :=
  let names := (pieces path.toList).map String.ofList
  let starts := (List.range names.length).map fun n => names.take (n + 1)
  (starts.filter fun ns => ns.getLast? != some "").map (String.intercalate "/")

end HeapQuery.Path
