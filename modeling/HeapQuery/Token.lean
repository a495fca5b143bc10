import HeapQuery.Text.Blank

namespace HeapQuery

/-- A token: the null token, or a word, which is never empty when it was read from a line. -/
inductive Token
  | null
  | word (text : String)
  deriving DecidableEq, Repr, Inhabited

namespace Token

/-- The word collected in `buffer`, last character first, unless it is empty. -/
def flush (buffer : List Char) : List Token :=
  if buffer.isEmpty then [] else [.word (String.ofList buffer.reverse)]

def scan (inside : Bool) (buffer : List Char) : List Char → List Token
  | [] => flush buffer
  | '"' :: rest =>
    (if inside && buffer.isEmpty then [.null] else flush buffer) ++ scan (!inside) [] rest
  | '\\' :: c :: rest =>
    if c == '"' || c == '\\' then scan inside (c :: buffer) rest
    else scan inside ('\\' :: buffer) (c :: rest)
  | c :: rest =>
    if !inside && Text.isBlank c then flush buffer ++ scan inside [] rest
    else scan inside (c :: buffer) rest

def ofLine (line : String) : List Token := scan false [] line.toList

def hasEscape : List Char → Bool
  | '\\' :: c :: rest => c == '"' || c == '\\' || hasEscape (c :: rest)
  | _ :: rest => hasEscape rest
  | [] => false

/-- Doubles or adds backslashes so that every character is read as itself. `spaced` says that a
closing quote will follow. -/
def escapeChars (spaced : Bool) : List Char → List Char
  | [] => []
  | '"' :: rest => '\\' :: '"' :: escapeChars spaced rest
  | '\\' :: rest =>
    let doubled := match rest with
      | [] => spaced
      | c :: _ => c == '"' || c == '\\'
    if doubled then '\\' :: '\\' :: escapeChars spaced rest else '\\' :: escapeChars spaced rest
  | c :: rest => c :: escapeChars spaced rest

/-- Text that is read as the single word `text`. Only words with white space need quotes. -/
def escape (text : String) : String :=
  let cs := text.toList
  let spaced := cs.any Text.isBlank
  if !cs.contains '"' && !spaced && !hasEscape cs then text
  else if spaced then String.ofList ('"' :: escapeChars true cs ++ ['"'])
  else String.ofList (escapeChars false cs)

def render : Token → String
  | null => "\"\""
  | word text => escape text

def flag? : Token → Option String
  | null => none
  | word text =>
    match text.toList with
    | '-' :: c :: rest => some (String.ofList (c :: rest))
    | _ => none

def shown : Token → String
  | null => "\"\""
  | word text => text

end Token

end HeapQuery
