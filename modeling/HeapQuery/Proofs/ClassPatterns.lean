import HeapQuery.ClassPattern

namespace HeapQuery.ClassPattern

/-- Rewriting never brings a bracket to the front. -/
theorem fix_head_bracket (h : (fix previous cs).head? = some ']') : cs.head? = some ']' := by
  fun_cases fix previous cs <;> simp_all [fix]

/-- Rewriting is done after one time. -/
theorem fix_fix (previous : Option Char) (cs : List Char) :
    fix previous (fix previous cs) = fix previous cs := by
  fun_induction fix previous cs with
  | case1 previous => rfl
  | case2 previous => rfl
  | case3 previous c rest ih => rw [fix.eq_3, ih]
  | case4 previous c rest ih => rw [fix.eq_3, ih]
  | case5 previous rest ih => rw [fix.eq_3, fix.eq_3, ih]
  | case6 previous rest h ih => rw [fix.eq_6, if_pos h, ih]
  | case7 previous rest h ih =>
    rw [fix.eq_7 previous '.' _ (by simp) (by simp) (by simp) (by simp) (by simp), fix.eq_6,
      if_pos (by simp), ih]
  | case8 previous c rest hend hescape hdollar hbrackets hstar ih =>
    rw [fix.eq_7 previous c (fix (some c) rest), ih]
    · rintro rfl hrest
      cases rest with
      | nil => exact hend rfl rfl
      | cons d rest => exact hescape d rest rfl rfl
    · rintro d ds rfl hrest
      cases rest with
      | nil => exact hend rfl rfl
      | cons d rest => exact hescape d rest rfl rfl
    · rintro d ds rfl hrest
      cases rest with
      | nil => cases hrest
      | cons d rest => exact hdollar d rest rfl rfl
    · rintro ds rfl hrest
      have hhead : rest.head? = some ']' := fix_head_bracket (by rw [hrest]; rfl)
      cases rest with
      | nil => cases hhead
      | cons d rest =>
        obtain rfl : d = ']' := by simpa using hhead
        exact hbrackets rest rfl rfl
    · exact hstar

/-- What stands in front of the text only counts for a star that repeats it. -/
theorem fix_of_not_repeated (cs : List Char)
    (h : previous ≠ some '.' ∧ previous ≠ some ')' ∧ previous ≠ some ']') :
    fix previous cs = fix none cs := by
  obtain ⟨hpoint, hround, hsquare⟩ := h
  fun_cases fix previous cs <;> simp_all [fix]

/-- A star behind a dot stays, and what follows it is rewritten as if it stood alone. -/
theorem fix_anything (cs : List Char) :
    fix none ('.' :: '*' :: cs) = '.' :: '*' :: fix none cs := by
  have hrest : fix (some '*') cs = fix none cs := by
    apply fix_of_not_repeated
    decide
  rw [fix.eq_7 none '.' _ (by simp) (by simp) (by simp) (by simp) (by simp), fix.eq_6,
    if_pos (by simp), hrest]

/-- A pattern that may begin with anything does so wherever it may match. -/
theorem normalize_begun {pattern : String} (h : pattern.toList = '.' :: '*' :: cs) :
    (normalize anywhere pattern).toList = '.' :: '*' :: fix none cs := by
  simp [normalize, h, fix_anything]

/-- To match after other text as well, a pattern gets a beginning that matches anything, unless it
has one. -/
theorem normalize_anywhere (pattern : String) :
    ∃ cs, (normalize true pattern).toList = '.' :: '*' :: fix none cs := by
  cases hstart : ['.', '*'].isPrefixOf pattern.toList with
  | true =>
    obtain ⟨cs, hcs⟩ := List.isPrefixOf_iff_prefix.mp hstart
    exact ⟨cs, normalize_begun hcs.symm⟩
  | false => exact ⟨pattern.toList, by simp [normalize, hstart]⟩

theorem normalize_normalize (pattern : String) :
    normalize anywhere (normalize anywhere pattern) = normalize anywhere pattern := by
  cases anywhere with
  | false => simp [normalize, fix_fix]
  | true =>
    obtain ⟨cs, hcs⟩ := normalize_anywhere pattern
    apply String.toList_inj.mp
    rw [normalize_begun hcs, fix_fix, hcs]

/-- A pattern that has been normalized stays as it is, and one that may match anywhere begins with
what matches anything. -/
theorem normalized_for_good (pattern : String) :
    (∀ anywhere, normalize anywhere (normalize anywhere pattern) = normalize anywhere pattern) ∧
    ['.', '*'] <+: (normalize true pattern).toList := by
  obtain ⟨cs, hcs⟩ := normalize_anywhere pattern
  exact ⟨fun _ => normalize_normalize pattern, fix none cs, hcs.symm⟩

end HeapQuery.ClassPattern
