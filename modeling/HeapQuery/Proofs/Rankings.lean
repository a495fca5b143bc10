import Mathlib.Data.List.Perm.Basic
import Mathlib.Data.List.Sort
import Mathlib.Data.List.TakeWhile
import Mathlib.Data.Prod.Lex
import Mathlib.Order.Defs.LinearOrder

namespace HeapQuery.Rankings

variable {α κ : Type} [LinearOrder κ] {rank : α → κ} {before : α → α → Bool}

def largerFirst (size : Nat) (key : κ) : Natᵒᵈ ×ₗ κ := toLex (OrderDual.toDual size, key)

variable {x y : Nat} {u v : κ}

theorem largerFirst_le : largerFirst x u ≤ largerFirst y v ↔ y < x ∨ x = y ∧ u ≤ v := by
  rw [largerFirst, largerFirst, Prod.Lex.toLex_le_toLex, OrderDual.toDual_lt_toDual,
    OrderDual.toDual_inj]

theorem largerFirst_lt : largerFirst x u < largerFirst y v ↔ y < x ∨ x = y ∧ u < v := by
  rw [largerFirst, largerFirst, Prod.Lex.toLex_lt_toLex, OrderDual.toDual_lt_toDual,
    OrderDual.toDual_inj]

omit [LinearOrder κ] in
theorem largerFirst_inj : largerFirst x u = largerFirst y v ↔ x = y ∧ u = v := by
  rw [largerFirst, largerFirst, toLex_inj, Prod.mk.injEq, OrderDual.toDual_inj]

omit [LinearOrder κ] in
/-- Different keys make different ranks. -/
theorem nodup_of_keys (size : α → Nat) {key : α → κ} {xs : List α} (h : (xs.map key).Nodup) :
    (xs.map fun x => largerFirst (size x) (key x)).Nodup := by
  refine List.Nodup.of_map (fun rank => (ofLex rank).2) ?_
  rw [List.map_map]
  exact h

/-- The comparison that puts larger sizes first, and then smaller keys. -/
theorem comparison_iff [Decidable (v < u)] :
    (if x == y then !decide (v < u) else decide (y < x)) = true ↔
      largerFirst x u ≤ largerFirst y v := by
  have hkeys : (!decide (v < u)) = true ↔ u ≤ v := by
    rw [Bool.not_eq_true', decide_eq_false_iff_not, not_lt]
  rw [largerFirst_le]
  split
  · rename_i h
    obtain rfl : x = y := beq_iff_eq.mp h
    rw [hkeys, and_iff_right rfl, or_iff_right (lt_irrefl x)]
  · rename_i h
    have hne : x ≠ y := fun he => h (beq_iff_eq.mpr he)
    rw [decide_eq_true_iff, or_iff_left fun ⟨he, _⟩ => hne he]

theorem sorted (h : ∀ a b, before a b = true ↔ rank a ≤ rank b) (xs : List α) :
    (xs.mergeSort before).Pairwise fun a b => rank a ≤ rank b := by
  have htrans : ∀ a b c, before a b = true → before b c = true → before a c = true := by
    intro a b c hab hbc
    exact (h a c).mpr (le_trans ((h a b).mp hab) ((h b c).mp hbc))
  have htotal : ∀ a b, (before a b || before b a) = true := by
    intro a b
    rw [Bool.or_eq_true, h, h]
    exact le_total _ _
  exact (List.pairwise_mergeSort htrans htotal xs).imp (h _ _).mp

/-- The ranks grow strictly where they are all different. -/
theorem sorted_strictly (h : ∀ a b, before a b = true ↔ rank a ≤ rank b) {xs : List α}
    (hnodup : (xs.map rank).Nodup) : (xs.mergeSort before).Pairwise fun a b => rank a < rank b := by
  have hperm : ((xs.mergeSort before).map rank).Nodup :=
    (((List.mergeSort_perm xs before).map rank).nodup_iff).mpr hnodup
  exact ((sorted h xs).and (List.pairwise_map.mp hperm)).imp
    fun ⟨hle, hne⟩ => lt_of_le_of_ne hle hne

/-- The same elements come in the same order. -/
theorem eq_of_perm (hinj : Function.Injective rank) {xs ys : List α} (hperm : xs.Perm ys)
    (hxs : xs.Pairwise fun a b => rank a ≤ rank b) (hys : ys.Pairwise fun a b => rank a ≤ rank b) :
    xs = ys :=
  hperm.eq_of_pairwise (fun _ _ _ _ hab hba => hinj (le_antisymm hab hba)) hxs hys

theorem mergeSort_of_perm (h : ∀ a b, before a b = true ↔ rank a ≤ rank b)
    (hinj : Function.Injective rank) {xs ys : List α} (hperm : xs.Perm ys) :
    xs.mergeSort before = ys.mergeSort before := by
  refine eq_of_perm hinj ?_ (sorted h xs) (sorted h ys)
  exact (List.mergeSort_perm xs before).trans (hperm.trans (List.mergeSort_perm ys before).symm)

/-- What is chosen from a list comes first where everything before a chosen element is chosen. -/
theorem filter_prefix {p : α → Bool} {xs : List α}
    (h : xs.Pairwise fun a b => p b = true → p a = true) : xs.filter p <+: xs := by
  have htake : xs.filter p = xs.takeWhile p := by
    induction xs with
    | nil => rfl
    | cons x xs ih =>
      obtain ⟨hx, hxs⟩ := List.pairwise_cons.mp h
      cases hp : p x with
      | true => rw [List.filter_cons_of_pos hp, List.takeWhile_cons_of_pos hp, ih hxs]
      | false =>
        rw [List.takeWhile_cons_of_neg (by simp [hp]), List.filter_eq_nil_iff]
        refine List.forall_mem_cons.mpr ⟨by simp [hp], fun y hy hpy => ?_⟩
        simp [hp] at hx
        simp [hx y hy] at hpy
  rw [htake]
  exact List.takeWhile_prefix p

/-- Sorting what is chosen gives the first part of the sorted list, where everything of a lower rank
than a chosen element is chosen. -/
theorem mergeSort_prefix (h : ∀ a b, before a b = true ↔ rank a ≤ rank b)
    (hinj : Function.Injective rank) {p : α → Bool}
    (hp : ∀ a b, rank a ≤ rank b → p b = true → p a = true) (xs : List α) :
    (xs.filter p).mergeSort before <+: xs.mergeSort before := by
  have hperm : ((xs.filter p).mergeSort before).Perm ((xs.mergeSort before).filter p) :=
    (List.mergeSort_perm _ _).trans ((List.mergeSort_perm xs before).symm.filter p)
  rw [eq_of_perm hinj hperm (sorted h _) ((sorted h xs).filter p)]
  exact filter_prefix ((sorted h xs).imp (hp _ _))

end HeapQuery.Rankings
