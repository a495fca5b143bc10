namespace HeapQuery.ClassPattern

/-- Rewrites the rest of a pattern, where `previous` is the unescaped character before it: a `$`
that is not the last character and a `[]` are escaped, and a star without a repeated item before
it becomes `.*`. Escaped characters stay as they are. -/
def fix (previous : Option Char) : List Char → List Char
  | [] => []
  | '\\' :: [] => ['\\']
  | '\\' :: c :: rest => '\\' :: c :: fix none rest
  | '$' :: c :: rest => '\\' :: '$' :: fix none (c :: rest)
  | '[' :: ']' :: rest => '\\' :: '[' :: '\\' :: ']' :: fix none rest
  | '*' :: rest =>
    if previous == some '.' || previous == some ')' || previous == some ']' then
      '*' :: fix (some '*') rest
    else '.' :: '*' :: fix (some '*') rest
  | c :: rest => c :: fix (some c) rest

/-- The regular expression that a typed class name pattern stands for; with `anywhere` it may also
match after other text. -/
def normalize (anywhere : Bool) (pattern : String) : String :=
  let cs := pattern.toList
  let start := if anywhere && !(['.', '*'].isPrefixOf cs) then ['.', '*'] else []
  String.ofList (start ++ fix none cs)

end HeapQuery.ClassPattern
