import Mathlib.Algebra.BigOperators.Group.List.Basic
import Mathlib.Data.List.Induction
import Mathlib.Data.List.Nodup
import Mathlib.Data.List.Perm.Basic

namespace HeapQuery.Totals

variable {M α : Type} [AddCommMonoid M]

/-- Adds an amount to the row of this name, which is made when it is missing. -/
def add (name : String) (amount : M) : List (String × M) → List (String × M)
  | [] => [(name, amount)]
  | row :: rest =>
    if row.1 == name then (name, row.2 + amount) :: rest else row :: add name amount rest

def of (name : α → String) (amount : α → M) (xs : List α) : List (String × M) :=
  xs.foldl (fun rows x => add (name x) (amount x) rows) []

def sumWhere (p : α → Bool) (amount : α → M) (xs : List α) : M := ((xs.filter p).map amount).sum

theorem sumWhere_cons (p : α → Bool) (amount : α → M) (x : α) (xs : List α) :
    sumWhere p amount (x :: xs) = (if p x then amount x else 0) + sumWhere p amount xs := by
  cases h : p x <;> simp [sumWhere, h]

theorem sumWhere_append (p : α → Bool) (amount : α → M) (xs ys : List α) :
    sumWhere p amount (xs ++ ys) = sumWhere p amount xs + sumWhere p amount ys := by
  simp [sumWhere]

theorem sumWhere_perm {p : α → Bool} {amount : α → M} {xs ys : List α} (h : xs.Perm ys) :
    sumWhere p amount xs = sumWhere p amount ys := ((h.filter p).map amount).sum_eq

theorem sumWhere_true (amount : α → M) (xs : List α) :
    sumWhere (fun _ => true) amount xs = (xs.map amount).sum := by
  simp [sumWhere]

/-- The names stay as they are, or the new one comes behind them. -/
theorem add_names (name : String) (amount : M) (rows : List (String × M)) :
    (add name amount rows).map Prod.fst =
      if name ∈ rows.map Prod.fst then rows.map Prod.fst else rows.map Prod.fst ++ [name] := by
  induction rows with
  | nil => rfl
  | cons row rest ih =>
    by_cases h : row.1 = name
    · simp [add, h]
    · have hne : name ≠ row.1 := Ne.symm h
      simp only [add, beq_iff_eq, h, ↓reduceIte, List.map_cons, ih, List.mem_cons, hne, false_or]
      split <;> simp

theorem add_nodup {rows : List (String × M)} (h : (rows.map Prod.fst).Nodup) (name : String)
    (amount : M) : ((add name amount rows).map Prod.fst).Nodup := by
  rw [add_names]
  split
  · exact h
  · rename_i hnew
    exact h.append (List.nodup_singleton name) (by simpa using hnew)

/-- The rows that names choose gain the amount when its own name is chosen. -/
theorem add_sumWhere (p : String → Bool) (name : String) (amount : M) (rows : List (String × M)) :
    sumWhere (fun row => p row.1) Prod.snd (add name amount rows) =
      sumWhere (fun row => p row.1) Prod.snd rows + if p name then amount else 0 := by
  induction rows with
  | nil => rw [add, sumWhere_cons, add_comm]
  | cons row rest ih =>
    rw [add]
    split
    · rename_i h
      obtain rfl : row.1 = name := by simpa using h
      rw [sumWhere_cons, sumWhere_cons]
      split
      · rw [add_right_comm]
      · rw [add_zero]
    · rw [sumWhere_cons, sumWhere_cons, ih, add_assoc]

variable {name : α → String} {amount : α → M}

theorem of_concat (name : α → String) (amount : α → M) (xs : List α) (x : α) :
    of name amount (xs ++ [x]) = add (name x) (amount x) (of name amount xs) :=
  List.foldl_concat ..

theorem of_nodup (name : α → String) (amount : α → M) (xs : List α) :
    ((of name amount xs).map Prod.fst).Nodup := by
  induction xs using List.reverseRecOn with
  | nil => exact List.nodup_nil
  | append_singleton xs x ih =>
    rw [of_concat]
    exact add_nodup ih _ _

theorem mem_names (name : α → String) (amount : α → M) (xs : List α) {n : String} :
    n ∈ (of name amount xs).map Prod.fst ↔ ∃ x ∈ xs, name x = n := by
  induction xs using List.reverseRecOn with
  | nil => simp [of]
  | append_singleton xs x ih =>
    have hstep : n ∈ (of name amount (xs ++ [x])).map Prod.fst ↔
        n ∈ (of name amount xs).map Prod.fst ∨ name x = n := by
      rw [of_concat, add_names]
      split
      · rename_i hold
        exact (or_iff_left_of_imp fun he => he ▸ hold).symm
      · simp [eq_comm]
    rw [hstep, ih]
    simp [or_and_right, exists_or]

/-- The rows that names choose have together what the elements of these names have. -/
theorem of_sumWhere (p : String → Bool) (name : α → String) (amount : α → M) (xs : List α) :
    sumWhere (fun row => p row.1) Prod.snd (of name amount xs) =
      sumWhere (fun x => p (name x)) amount xs := by
  induction xs using List.reverseRecOn with
  | nil => rfl
  | append_singleton xs x ih =>
    rw [of_concat, add_sumWhere, ih, sumWhere_append, sumWhere_cons]
    simp [sumWhere]

/-- The rows have together what all elements have. -/
theorem of_sum (name : α → String) (amount : α → M) (xs : List α) :
    ((of name amount xs).map Prod.snd).sum = (xs.map amount).sum := by
  rw [← sumWhere_true, ← sumWhere_true]
  exact of_sumWhere (fun _ => true) name amount xs

theorem sumWhere_own {rows : List (String × M)} (h : (rows.map Prod.fst).Nodup)
    {row : String × M} (hm : row ∈ rows) :
    sumWhere (fun r => r.1 == row.1) Prod.snd rows = row.2 := by
  induction rows with
  | nil => cases hm
  | cons first rest ih =>
    obtain ⟨hnew, hrest⟩ := List.nodup_cons.mp h
    rw [sumWhere_cons]
    rcases List.mem_cons.mp hm with rfl | hm
    · have hothers : rest.filter (fun r => r.1 == row.1) = [] := by
        refine List.filter_eq_nil_iff.mpr fun r hr he => hnew ?_
        rw [← beq_iff_eq.mp he]
        exact List.mem_map_of_mem hr
      simp [sumWhere, hothers]
    · have hne : (first.1 == row.1) = false := by
        refine beq_eq_false_iff_ne.mpr fun he => hnew ?_
        rw [he]
        exact List.mem_map_of_mem hm
      simp [hne, ih hrest hm]

/-- There is one row for each name of an element, with the sum of the amounts of that name. -/
theorem mem_of {xs : List α} {row : String × M} : row ∈ of name amount xs ↔
    (∃ x ∈ xs, name x = row.1) ∧ row.2 = sumWhere (fun x => name x == row.1) amount xs := by
  have hnodup := of_nodup name amount xs
  rw [← of_sumWhere (fun n => n == row.1)]
  constructor
  · intro hm
    exact ⟨(mem_names name amount xs).mp (List.mem_map_of_mem hm), (sumWhere_own hnodup hm).symm⟩
  · rintro ⟨hname, hsum⟩
    obtain ⟨own, hown, he⟩ := List.mem_map.mp ((mem_names name amount xs).mpr hname)
    rw [← he, sumWhere_own hnodup hown] at hsum
    rwa [Prod.ext he.symm hsum]

/-- Coarser names add up the rows of the finer ones. -/
theorem mem_of_coarser (coarse : String → String) {xs : List α} {row : String × M} :
    row ∈ of (fun x => coarse (name x)) amount xs ↔
      (∃ fine ∈ of name amount xs, coarse fine.1 = row.1) ∧
        row.2 = sumWhere (fun fine => coarse fine.1 == row.1) Prod.snd (of name amount xs) := by
  rw [mem_of, of_sumWhere (fun n => coarse n == row.1)]
  refine and_congr_left fun _ => ?_
  constructor
  · rintro ⟨x, hx, he⟩
    obtain ⟨fine, hfine, hname⟩ := List.mem_map.mp ((mem_names name amount xs).mpr ⟨x, hx, rfl⟩)
    exact ⟨fine, hfine, by rw [hname, he]⟩
  · rintro ⟨fine, hfine, he⟩
    obtain ⟨x, hx, hname⟩ := (mem_names name amount xs).mp (List.mem_map_of_mem hfine)
    exact ⟨x, hx, by rw [hname, he]⟩

end HeapQuery.Totals
