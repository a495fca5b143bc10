import HeapQuery.Text.Ranges
import HeapQuery.Text.Script.Shared
import HeapQuery.Text.Script.Table

namespace HeapQuery.Text.Script

def ranges? (name : String) : Option Ranges := Ranges.named? table name

def sharedRanges : Ranges := shared.flatMap fun row => Ranges.ofText row.1

def sharedWith (name : String) : Ranges :=
  (table.filter fun row => row.1.contains name).flatMap fun row =>
    (shared.filter fun chars => chars.2.any row.1.contains).flatMap fun chars =>
      Ranges.ofText chars.1

end HeapQuery.Text.Script
