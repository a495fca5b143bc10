namespace HeapQuery.Text

def isBlank (c : Char) : Bool :=
  (9 ≤ c.toNat && c.toNat ≤ 13) || c == ' ' || c == '\u0085' || c == '\u00a0' ||
  c == '\u1680' || ('\u2000' ≤ c && c ≤ '\u200a') || c == '\u2028' || c == '\u2029' ||
  c == '\u202f' || c == '\u205f' || c == '\u3000'

def IsWhite (c : Char) : Prop :=
  (0x9 ≤ c.toNat ∧ c.toNat ≤ 0xd) ∨ (0x2000 ≤ c.toNat ∧ c.toNat ≤ 0x200a) ∨
    c.toNat ∈ [0x20, 0x85, 0xa0, 0x1680, 0x2028, 0x2029, 0x202f, 0x205f, 0x3000]

theorem isBlank_iff {c : Char} : isBlank c = true ↔ IsWhite c := by
  have hchar : ∀ d : Char, c = d ↔ c.toNat = d.toNat := fun d => Char.toNat_inj.symm
  have hle : ('\u2000' ≤ c ∧ c ≤ '\u200a') ↔ 0x2000 ≤ c.toNat ∧ c.toNat ≤ 0x200a := Iff.rfl
  simp only [isBlank, IsWhite, Bool.or_eq_true, Bool.and_eq_true, decide_eq_true_eq,
    beq_iff_eq, hle, hchar, List.mem_cons, List.not_mem_nil, or_false]
  simp only [Char.reduceToNat]
  omega

def trimStart (cs : List Char) : List Char := cs.dropWhile isBlank

def trimEnd (cs : List Char) : List Char := (cs.reverse.dropWhile isBlank).reverse

def trim (text : String) : String := String.ofList (trimEnd (trimStart text.toList))

def isBlankText (text : String) : Bool := text.toList.all isBlank

def hasBlank (text : String) : Bool := text.toList.any isBlank

/-- Trimming an end takes nothing but white space from it. -/
theorem trimEnd_append (cs : List Char) :
    ∃ lost, trimEnd cs ++ lost = cs ∧ lost.all isBlank = true := by
  refine ⟨(cs.reverse.takeWhile isBlank).reverse, ?_, ?_⟩
  · rw [trimEnd, ← List.reverse_append, List.takeWhile_append_dropWhile, List.reverse_reverse]
  · rw [List.all_reverse]
    exact List.all_takeWhile

/-- Trimmed text does not begin with white space. -/
theorem head_trim (text : String) : ∀ c ∈ (trim text).toList.head?, isBlank c = false := by
  obtain ⟨lost, hlost, -⟩ := trimEnd_append (trimStart text.toList)
  have hstart := List.head?_dropWhile_not isBlank text.toList
  intro c hc
  rw [trim, String.toList_ofList] at hc
  have hhead : (trimStart text.toList).head? = some c := by
    rw [← hlost, List.head?_append, hc]
    rfl
  rw [trimStart] at hhead
  rwa [hhead] at hstart

end HeapQuery.Text
