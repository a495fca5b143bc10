import HeapQuery.Text.Case

namespace HeapQuery.Text

/-- Characters whose folded form is not their lower-case form, with the folded form. -/
def foldExceptions : List (Nat × Nat) :=
  [(0xb5, 0x3bc), (0x17f, 0x73), (0x345, 0x3b9), (0x3c2, 0x3c3), (0x3d0, 0x3b2), (0x3d1, 0x3b8),
   (0x3d5, 0x3c6), (0x3d6, 0x3c0), (0x3f0, 0x3ba), (0x3f1, 0x3c1), (0x3f5, 0x3b5),
   (0x1c80, 0x432), (0x1c81, 0x434), (0x1c82, 0x43e), (0x1c83, 0x441), (0x1c84, 0x442),
   (0x1c85, 0x442), (0x1c86, 0x44a), (0x1c87, 0x463), (0x1c88, 0xa64b), (0x1e9b, 0x1e61),
   (0x1fbe, 0x3b9), (0x1fd3, 0x390), (0x1fe3, 0x3b0), (0xfb06, 0xfb05)]

def foldChar (c : Char) : Char :=
  match foldExceptions.lookup c.toNat with
  | some code => Char.ofNat code
  | none => lowerChar c

def caseVariants (c : Char) : List Char :=
  let form := foldChar c
  let upper := lowerRuns.filterMap fun r =>
    let source := shiftedBy form.toNat (-r.shift)
    if r.covers source.toNat && foldChar source == form then some source else none
  let special := foldExceptions.filterMap fun p =>
    if p.2 == form.toNat then some (Char.ofNat p.1) else none
  form :: upper ++ special

/-- The letter `c` in both cases if it is one of `A` to `Z` or `a` to `z`, else `c` alone. -/
def asciiVariants (c : Char) : List Char := [c, c.toLower, c.toUpper]

end HeapQuery.Text
