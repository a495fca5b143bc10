import HeapQuery.Text.Category

namespace HeapQuery.Text.Category

/-- The runs are in order of their first code points, and none starts after `next`. -/
structure Ordered (table : Array (Nat × Category)) (next : Nat) : Prop where
  sorted : table.toList.Pairwise fun r s => r.1 ≤ s.1
  started : ∀ r ∈ table.toList, r.1 ≤ next

namespace Ordered

variable {table : Array (Nat × Category)}

theorem empty : Ordered #[] 0 := ⟨by simp, by simp⟩

theorem push (h : Ordered table next) (c : Category) (count : Nat) :
    Ordered (table.push (next, c)) (next + count) := by
  constructor
  · rw [Array.toList_push, List.pairwise_append]
    refine ⟨h.sorted, List.pairwise_singleton _ _, ?_⟩
    intro r hr s hs
    rw [List.mem_singleton] at hs
    subst hs
    exact h.started r hr
  · intro r hr
    rw [Array.toList_push, List.mem_append, List.mem_singleton] at hr
    rcases hr with hr | rfl
    · have := h.started r hr
      omega
    · exact Nat.le_add_right next count

theorem addRun (h : Ordered table start) (name : String) (count : Nat) :
    Ordered (addRun table start name count) (start + count) := by
  unfold Category.addRun
  split
  · induction count with
    | zero => exact h
    | succ count ih =>
      rw [List.range_succ, List.foldl_append]
      exact ih.push _ 1
  · exact h.push _ count

theorem addWord {before : Array (Nat × Category) × Nat} (h : Ordered before.1 before.2)
    (word : List Char) : Ordered (addWord before word).1 (addWord before word).2 :=
  h.addRun _ _

theorem addWords (before : Array (Nat × Category) × Nat) (h : Ordered before.1 before.2)
    (words : List (List Char)) :
    Ordered (words.foldl Category.addWord before).1 (words.foldl Category.addWord before).2 := by
  induction words generalizing before with
  | nil => exact h
  | cons word words ih => exact ih _ (h.addWord word)

/-- A run does not start before an earlier one. -/
theorem start_le {i j : Nat} (h : Ordered table next) (hi : table[i]? = some r)
    (hj : table[j]? = some s) (hle : i ≤ j) : r.1 ≤ s.1 := by
  rcases Nat.eq_or_lt_of_le hle with rfl | hlt
  · exact Nat.le_of_eq (congrArg Prod.fst (Option.some.inj (hi.symm.trans hj)))
  · obtain ⟨hisize, rfl⟩ := Array.getElem?_eq_some_iff.mp hi
    obtain ⟨hjsize, rfl⟩ := Array.getElem?_eq_some_iff.mp hj
    exact List.pairwise_iff_getElem.mp h.sorted i j (by simpa using hisize) (by simpa using hjsize)
      hlt

end Ordered

theorem tableOf_ordered (lines : List String) : ∃ next, Ordered (tableOf lines) next :=
  ⟨_, Ordered.addWords (#[], 0) Ordered.empty (lines.flatMap words)⟩

theorem addRun_extends (table : Array (Nat × Category)) (start : Nat) (name : String)
    (count : Nat) : table.toList <+: (addRun table start name count).toList := by
  unfold addRun
  split
  · induction count with
    | zero => exact List.prefix_rfl
    | succ count ih =>
      rw [List.range_succ, List.foldl_append]
      refine ih.trans ?_
      simp only [List.foldl_cons, List.foldl_nil, Array.toList_push]
      exact List.prefix_append _ _
  · rw [Array.toList_push]
    exact List.prefix_append _ _

theorem addWords_extends (words : List (List Char)) (before : Array (Nat × Category) × Nat) :
    before.1.toList <+: (words.foldl addWord before).1.toList := by
  induction words generalizing before with
  | nil => exact List.prefix_rfl
  | cons word words ih => exact (addRun_extends _ _ _ _).trans (ih (addWord before word))

/-- The runs of some lines stand where they stood before more lines followed. -/
theorem tableOf_append {i : Nat} (h : (tableOf lines)[i]? = some r) (more : List String) :
    (tableOf (lines ++ more))[i]? = some r := by
  rw [← Array.getElem?_toList] at h ⊢
  rw [tableOf, List.flatMap_append, List.foldl_append]
  obtain ⟨others, hothers⟩ := addWords_extends (more.flatMap words) _
  rw [← hothers]
  exact (List.getElem?_append_left (List.getElem?_eq_some_iff.mp h).1).trans h

theorem tableOf_take {i : Nat} (n : Nat) (h : (tableOf (lines.take n))[i]? = some r) :
    (tableOf lines)[i]? = some r := by
  rw [← List.take_append_drop n lines]
  exact tableOf_append h (lines.drop n)

/-- The search ends at the run that starts last among those at or before the code. -/
theorem search_between {table : Array (Nat × Category)} {k low high : Nat}
    (ho : Ordered table limit) (hk : table[k]? = some (first, c))
    (hnext : table[k + 1]? = some (next, d)) (hfirst : first ≤ code) (hcode : code < next)
    (hlow : low ≤ k) (hhigh : k < high) (hsize : high ≤ table.size) :
    search table code low high = c := by
  fun_induction search table code low high with
  | case1 low high hopen mid hmid ih =>
    have hget := Array.getElem?_eq_getElem (show mid < table.size by omega)
    rw [hget, Option.any_some, decide_eq_true_eq] at hmid
    -- The run in the middle starts at or before the code, so it is not after the one sought.
    have hle : mid ≤ k := by
      rcases Nat.lt_or_ge k mid with hlt | hle
      · have := ho.start_le hnext hget hlt
        simp only at this
        omega
      · exact hle
    exact ih hle hhigh hsize
  | case2 low high hopen mid hmid ih =>
    have hget := Array.getElem?_eq_getElem (show mid < table.size by omega)
    rw [hget, Option.any_some, decide_eq_true_eq] at hmid
    have hlt : k < mid := by
      rcases Nat.lt_or_ge k mid with hlt | hle
      · exact hlt
      · exact absurd (Nat.le_trans (ho.start_le hget hk hle) hfirst) hmid
    exact ih hlow hlt (by omega)
  | case3 low high hclosed =>
    have hlow' : low = k := by omega
    rw [hlow', hk]
    rfl

theorem ofChar_between {k : Nat} {c : Char} {kind : Category} (hk : starts[k]? = some (first, kind))
    (hnext : starts[k + 1]? = some (next, other)) (hfirst : first ≤ c.toNat)
    (hcode : c.toNat < next) : ofChar c = kind := by
  obtain ⟨limit, ho⟩ := tableOf_ordered runs
  obtain ⟨hsize, -⟩ := Array.getElem?_eq_some_iff.mp hk
  exact search_between ho hk hnext hfirst hcode (Nat.zero_le k) hsize (Nat.le_refl _)

/-- The runs of the capitals and of the small letters, each with the run after it. -/
theorem letter_runs : starts[16]? = some (0x41, lu) ∧ starts[17]? = some (0x5b, ps) ∧
    starts[23]? = some (0x61, ll) ∧ starts[24]? = some (0x7b, ps) := by
  have hlines : ((tableOf (runs.take 2)).toList.drop 16).take 9 =
      [(0x41, lu), (0x5b, ps), (0x5c, po), (0x5d, pe), (0x5e, sk), (0x5f, pc), (0x60, sk),
       (0x61, ll), (0x7b, ps)] := by decide +kernel
  have hget (i : Nat) (h : i < 9) : (tableOf (runs.take 2))[16 + i]? =
      (((tableOf (runs.take 2)).toList.drop 16).take 9)[i]? := by
    rw [List.getElem?_take_of_lt h, List.getElem?_drop, Array.getElem?_toList]
  refine ⟨tableOf_take 2 ?_, tableOf_take 2 ?_, tableOf_take 2 ?_, tableOf_take 2 ?_⟩
  · rw [hget 0 (by omega), hlines]
    rfl
  · rw [hget 1 (by omega), hlines]
    rfl
  · rw [hget 7 (by omega), hlines]
    rfl
  · rw [hget 8 (by omega), hlines]
    rfl

theorem capital_category (hlow : 0x41 ≤ c.toNat) (hhigh : c.toNat ≤ 0x5a) : category c = lu := by
  rw [category]
  exact ofChar_between letter_runs.1 letter_runs.2.1 hlow (by omega)

theorem small_category (hlow : 0x61 ≤ c.toNat) (hhigh : c.toNat ≤ 0x7a) : category c = ll := by
  rw [category]
  exact ofChar_between letter_runs.2.2.1 letter_runs.2.2.2 hlow (by omega)

end HeapQuery.Text.Category
