import Mathlib.Data.List.TakeWhile

namespace HeapQuery.Text

variable {mark : Char} {cs after : List Char}

theorem ne_of_not_mem (h : mark ∉ cs) : ∀ c ∈ cs, (c != mark) = true := by
  intro c hc
  apply bne_iff_ne.mpr
  intro he
  exact h (he ▸ hc)

theorem split_at_last (h : mark ∈ cs) :
    ∃ before after, cs = before ++ mark :: after ∧ mark ∉ after := by
  obtain ⟨back, front, hsplit, hnot⟩ := List.eq_append_cons_of_mem (List.mem_reverse.mpr h)
  refine ⟨front.reverse, back.reverse, ?_, by simpa using hnot⟩
  rw [← List.reverse_reverse cs, hsplit]
  simp

/-- The search from the end stops at the last mark. -/
theorem dropWhile_last (before : List Char) (h : mark ∉ after) :
    (before ++ mark :: after).reverse.dropWhile (· != mark) = mark :: before.reverse := by
  have hreverse : (before ++ mark :: after).reverse =
      after.reverse ++ mark :: before.reverse := by
    simp
  have hskip := ne_of_not_mem (mt List.mem_reverse.mp h)
  rw [hreverse, List.dropWhile_append_of_pos hskip, List.dropWhile_cons_of_neg (by simp)]

theorem dropWhile_unmarked (h : mark ∉ cs) : cs.reverse.dropWhile (· != mark) = [] :=
  List.dropWhile_eq_nil_iff.mpr (ne_of_not_mem (mt List.mem_reverse.mp h))

end HeapQuery.Text
