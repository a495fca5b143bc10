import HeapQuery.Regex.Library

namespace HeapQuery

def Pattern.wholeSource (source : String) : String := "^(?:" ++ source ++ ")$"

/-- A regular expression in two forms: one that matches anywhere in a text and one that matches
whole texts. -/
structure Pattern (L : Regex.Library) where
  source : String
  anywhere : L.Expression
  whole : L.Expression
  anywhere_compiled : L.compile? source = some anywhere
  whole_compiled : L.compile? (Pattern.wholeSource source) = some whole

namespace Pattern

variable {L : Regex.Library}

def compile? (L : Regex.Library) (source : String) : Option (Pattern L) :=
  match ha : L.compile? source, hw : L.compile? (wholeSource source) with
  | some anywhere, some whole => some ⟨source, anywhere, whole, ha, hw⟩
  | _, _ => none

def accepts (p : Pattern L) (text : String) : Bool := L.isMatch p.whole text

def occursIn (p : Pattern L) (text : String) : Bool := L.isMatch p.anywhere text

/-- The source decides everything else. -/
theorem ext_source {p q : Pattern L} (h : p.source = q.source) : p = q := by
  obtain ⟨s, a, w, ha, hw⟩ := p
  obtain ⟨t, b, v, hb, hv⟩ := q
  obtain rfl : s = t := h
  obtain rfl : a = b := by simpa [ha] using hb
  obtain rfl : w = v := by simpa [hw] using hv
  rfl

instance : DecidableEq (Pattern L) := fun p q =>
  if h : p.source = q.source then .isTrue (ext_source h)
  else .isFalse fun e => h (e ▸ rfl)

theorem compile_source (p : Pattern L) : compile? L p.source = some p := by
  unfold compile?
  split
  · exact congrArg some (ext_source rfl)
  · rename_i hnone
    exact absurd p.whole_compiled (hnone _ _ p.anywhere_compiled)

theorem source_of_compile {source : String} {p : Pattern L} (h : compile? L source = some p) :
    p.source = source := by
  unfold compile? at h
  split at h
  · rw [← Option.some.inj h]
  · cases h

end Pattern

end HeapQuery
