import HeapQuery.Text.Blank

namespace HeapQuery.Report

def dropReturn (cs : List Char) : List Char :=
  if cs.getLast? == some '\r' then cs.dropLast else cs

def lines (text : String) : List String :=
  let pieces := text.toList.splitOn '\n'
  let last := (pieces.getLast?.filter fun cs => !cs.isEmpty).toList
  (pieces.dropLast.map dropReturn ++ last).map String.ofList

def commands (text : String) : List String :=
  ((lines text).map Text.trim).filter fun line => !line.isEmpty && line.toList.head? != some '#'

end HeapQuery.Report
