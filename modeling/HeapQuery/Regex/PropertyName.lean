import HeapQuery.Regex.Expr
import HeapQuery.Regex.PropertySet

namespace HeapQuery.Regex.PropertyName

def simplify (name : List Char) : List Char :=
  (name.filter fun c => c != ' ' && c != '_' && c != '-' && c.toNat < 0x80).map Char.toLower

/-- A name in the form the tables below have. The short name `isc` keeps its `is`. -/
def normalize (name : String) : String :=
  match name.toList with
  | a :: b :: rest =>
    let hasIs := a.toLower == 'i' && b.toLower == 's'
    let short := simplify (if hasIs then rest else a :: b :: rest)
    String.ofList (if hasIs && short == ['c'] then ['i', 's', 'c'] else short)
  | cs => String.ofList (simplify cs)

def binary? : String → Option Property
  | "alphabetic" | "alpha" => some .alphabetic
  | "lowercase" | "lower" => some .lowercase
  | "uppercase" | "upper" => some .uppercase
  | "whitespace" | "space" | "wspace" => some .blank
  | "cased" => some .cased
  | "caseignorable" | "ci" => some .caseIgnorable
  | "hexdigit" | "hex" => some .hexDigit
  | "asciihexdigit" | "ahex" => some .asciiHexDigit
  | "joincontrol" | "joinc" => some .joinControl
  | "graphemeextend" | "grext" => some .extending
  | _ => none

def category? : String → Option Property
  | "any" => some .any
  | "ascii" => some .ascii
  | "assigned" => some .assigned
  | "lc" | "casedletter" => some .casedLetter
  | "l" | "letter" => some .letter
  | "m" | "mark" | "combiningmark" => some .mark
  | "n" | "number" => some .number
  | "p" | "punctuation" | "punct" => some .punctuation
  | "s" | "symbol" => some .symbol
  | "z" | "separator" => some .separator
  | "c" | "other" => some .other
  | "lu" | "uppercaseletter" => some (.general .lu)
  | "ll" | "lowercaseletter" => some (.general .ll)
  | "lt" | "titlecaseletter" => some (.general .lt)
  | "lm" | "modifierletter" => some (.general .lm)
  | "lo" | "otherletter" => some (.general .lo)
  | "mn" | "nonspacingmark" => some (.general .mn)
  | "mc" | "spacingmark" => some (.general .mc)
  | "me" | "enclosingmark" => some (.general .me)
  | "nd" | "decimalnumber" | "digit" => some (.general .nd)
  | "nl" | "letternumber" => some (.general .nl)
  | "no" | "othernumber" => some (.general .no)
  | "pc" | "connectorpunctuation" => some (.general .pc)
  | "pd" | "dashpunctuation" => some (.general .pd)
  | "ps" | "openpunctuation" => some (.general .ps)
  | "pe" | "closepunctuation" => some (.general .pe)
  | "pi" | "initialpunctuation" => some (.general .pi)
  | "pf" | "finalpunctuation" => some (.general .pf)
  | "po" | "otherpunctuation" => some (.general .po)
  | "sm" | "mathsymbol" => some (.general .sm)
  | "sc" | "currencysymbol" => some (.general .sc)
  | "sk" | "modifiersymbol" => some (.general .sk)
  | "so" | "othersymbol" => some (.general .so)
  | "zs" | "spaceseparator" => some (.general .zs)
  | "zl" | "lineseparator" => some (.general .zl)
  | "zp" | "paragraphseparator" => some (.general .zp)
  | "cc" | "control" | "cntrl" => some (.general .cc)
  | "cf" | "format" => some (.general .cf)
  | "co" | "privateuse" => some (.general .co)
  | "cn" | "unassigned" => some (.general .cn)
  | _ => none

/-- The set that a property names: a binary property first, then a category, then a script. -/
def set? : PropertyQuery → Option CharSet
  | .named name =>
    let name := normalize name
    (((binary? name).map .property).or (PropertySet.binary? name)).or
      (((category? name).map .property).or (PropertySet.script? name))
  | .valued name value =>
    let value := normalize value
    match normalize name with
    | "generalcategory" | "gc" => (category? value).map .property
    | "script" | "sc" => PropertySet.script? value
    | "scriptextensions" | "scx" => PropertySet.scriptExtension? value
    | "age" => PropertySet.age? value
    | "graphemeclusterbreak" | "gcb" => PropertySet.graphemeBreak? value
    | "wordbreak" | "wb" => PropertySet.wordBreak? value
    | "sentencebreak" | "sb" => PropertySet.sentenceBreak? value
    | _ => none

end HeapQuery.Regex.PropertyName
