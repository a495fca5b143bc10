import HeapQuery.Regex
import Mathlib.Logic.Function.Iterate

namespace HeapQuery.Regex

def Steps (R : Nat → Nat → Prop) : Nat → Nat → Nat → Prop
  | 0, i, j => i = j
  | count + 1, i, j => ∃ k, Steps R count i k ∧ R k j

def charBefore (text : List Char) : Nat → Option Char
  | 0 => none
  | i + 1 => text[i]?

/-- The expression matches what stands in `text` from position `i` to position `j`. A repetition
matches `least` parts in a row and at most `most - least` more; reading refuses bounds that are the
wrong way round. -/
def Spans (text : List Char) : Regex → Nat → Nat → Prop
  | empty, i, j => i = j
  | set s, i, j => j = i + 1 ∧ ∃ c, text[i]? = some c ∧ s.contains c = true
  | look l, i, j => i = j ∧ l.holds (charBefore text i) text[i]? = true
  | seq a b, i, j => ∃ k, Spans text a i k ∧ Spans text b k j
  | alt a b, i, j => Spans text a i j ∨ Spans text b i j
  | repeated a least most, i, j => ∃ more, (∀ m ∈ most, more ≤ m - least) ∧
      Steps (Spans text a) (least + more) i j

variable {R : Nat → Nat → Prop} {text : List Char} {here start : Positions} {i j : Nat}

/-! ## Steps -/

theorem steps_add {n m : Nat} : Steps R (n + m) i j ↔ ∃ k, Steps R n i k ∧ Steps R m k j := by
  induction m generalizing j with
  | zero => simp [Steps]
  | succ m ih =>
    change (∃ l, Steps R (n + m) i l ∧ R l j) ↔ ∃ k, Steps R n i k ∧ ∃ l, Steps R m k l ∧ R l j
    simp only [ih]
    constructor
    · rintro ⟨l, ⟨k, hn, hm⟩, hr⟩
      exact ⟨k, hn, l, hm, hr⟩
    · rintro ⟨k, hn, l, hm, hr⟩
      exact ⟨l, ⟨k, hn, hm⟩, hr⟩

theorem steps_le {n : Nat} (hle : ∀ i j, R i j → i ≤ j) (h : Steps R n i j) : i ≤ j := by
  induction n generalizing j with
  | zero => exact Nat.le_of_eq h
  | succ n ih =>
    obtain ⟨k, hn, hr⟩ := h
    exact Nat.le_trans (ih hn) (hle k j hr)

/-- Steps that stay where they are can be left out. -/
theorem steps_shorten {n : Nat} (hle : ∀ i j, R i j → i ≤ j) (h : Steps R n i j) :
    ∃ m ≤ j - i, Steps R m i j := by
  induction n generalizing j with
  | zero => exact ⟨0, Nat.zero_le _, h⟩
  | succ n ih =>
    obtain ⟨k, hn, hr⟩ := h
    obtain ⟨m, hm, hsteps⟩ := ih hn
    rcases Nat.eq_or_lt_of_le (hle k j hr) with rfl | hlt
    · exact ⟨m, hm, hsteps⟩
    · have hik : i ≤ k := steps_le hle hn
      exact ⟨m + 1, by omega, k, hsteps, hr⟩

/-! ## Sets of positions -/

def Positions.Has (here : Positions) (i : Nat) : Prop := here[i]? = some true

theorem Positions.Has.lt (h : here.Has i) : i < here.length := by
  obtain ⟨hlt, _⟩ := List.getElem?_eq_some_iff.mp h
  exact hlt

@[simp] theorem length_union : (here.union start).length = min here.length start.length := by
  simp [Positions.union]

theorem has_union (hlen : here.length = start.length) :
    (here.union start).Has i ↔ here.Has i ∨ start.Has i := by
  unfold Positions.Has Positions.union
  rw [List.getElem?_zipWith]
  rcases Nat.lt_or_ge i here.length with hi | hi
  · have hi' : i < start.length := hlen ▸ hi
    simp [hi, hi']
  · have hi' : start.length ≤ i := hlen ▸ hi
    simp [hi, hi']

theorem has_inter : (here.inter start).Has i ↔ here.Has i ∧ start.Has i := by
  unfold Positions.Has Positions.inter
  rw [List.getElem?_zipWith]
  cases here[i]? <;> cases start[i]? <;> simp

theorem look_positions (l : Look) (left : Option Char) (text : List Char) :
    (l.positions left text).length = text.length + 1 ∧
    ∀ i ≤ text.length, (l.positions left text)[i]? =
      some (l.holds (if i = 0 then left else charBefore text i) text[i]?) := by
  induction text generalizing left with
  | nil => simp [Look.positions]
  | cons c text ih =>
    obtain ⟨hlen, hat⟩ := ih (some c)
    refine ⟨by simp [Look.positions, hlen], ?_⟩
    intro i hi
    cases i with
    | zero => simp [Look.positions]
    | succ i =>
      have hbefore : (if i = 0 then some c else charBefore text i) =
          charBefore (c :: text) (i + 1) := by
        cases i <;> simp [charBefore]
      simp [Look.positions, hat i (by simpa using hi), hbefore]

theorem has_advance {s : CharSet} : (advance s text here).Has j ↔
    ∃ i, here.Has i ∧ j = i + 1 ∧ ∃ c, text[i]? = some c ∧ s.contains c = true := by
  unfold advance Positions.Has
  cases j with
  | zero => simp
  | succ j =>
    rw [List.getElem?_cons_succ, List.getElem?_zipWith]
    cases htext : text[j]? <;> cases hhere : here[j]? <;> grind

/-! ## The matcher -/

/-- On sets of positions below `n`, `f` goes where `R` leads to. -/
def Follows (n : Nat) (f : Positions → Positions) (R : Nat → Nat → Prop) : Prop :=
  ∀ here, here.length = n → (f here).length = n ∧
    ∀ j, (f here).Has j ↔ ∃ i, here.Has i ∧ R i j

/-- Ending early where nothing changes makes no difference. -/
theorem iterate_eq (f : Positions → Positions) (count : Nat) (here : Positions) :
    iterate f count here = f^[count] here := by
  induction count generalizing here with
  | zero => rfl
  | succ count ih =>
    rw [Function.iterate_succ_apply, iterate]
    split
    · rename_i hsame
      rw [beq_iff_eq.mp hsame]
      exact (Function.iterate_fixed (beq_iff_eq.mp hsame) count).symm
    · exact ih (f here)

theorem reach_eq (f : Positions → Positions) (start : Positions) (count : Nat)
    (here : Positions) :
    reach f start count here = iterate (fun h => start.union (f h)) count here := by
  induction count generalizing here with
  | zero => rfl
  | succ count ih => simp only [reach, iterate, ih]

theorem Follows.iterate {f : Positions → Positions} {n : Nat} (h : Follows n f R) (count : Nat) :
    Follows n (iterate f count) (Steps R count) := by
  intro here hlen
  rw [iterate_eq]
  induction count with
  | zero => simp [Steps, hlen]
  | succ count ih =>
    obtain ⟨hlen', hat⟩ := ih
    obtain ⟨hnext, hstep⟩ := h _ hlen'
    rw [Function.iterate_succ_apply']
    refine ⟨hnext, fun j => ?_⟩
    rw [hstep]
    simp only [hat, Steps]
    constructor
    · rintro ⟨k, ⟨i, hi, hsteps⟩, hr⟩
      exact ⟨i, hi, k, hsteps, hr⟩
    · rintro ⟨i, hi, k, hsteps, hr⟩
      exact ⟨k, ⟨i, hi, hsteps⟩, hr⟩

theorem Follows.reach {f : Positions → Positions} {n : Nat} (h : Follows n f R) (count : Nat)
    (hlen : start.length = n) : (reach f start count start).length = n ∧
      ∀ j, (reach f start count start).Has j ↔
        ∃ i, start.Has i ∧ ∃ more ≤ count, Steps R more i j := by
  rw [reach_eq, iterate_eq]
  induction count with
  | zero => simp [Steps, hlen]
  | succ count ih =>
    obtain ⟨hlen', hat⟩ := ih
    obtain ⟨hnext, hstep⟩ := h _ hlen'
    rw [Function.iterate_succ_apply']
    refine ⟨by simp [hlen, hnext], fun j => ?_⟩
    rw [has_union (hlen.trans hnext.symm), hstep]
    constructor
    · rintro (hj | ⟨k, hk, hr⟩)
      · exact ⟨j, hj, 0, Nat.zero_le _, rfl⟩
      · obtain ⟨i, hi, more, hmore, hsteps⟩ := (hat k).mp hk
        exact ⟨i, hi, more + 1, Nat.succ_le_succ hmore, k, hsteps, hr⟩
    · rintro ⟨i, hi, more, hmore, hsteps⟩
      cases more with
      | zero => exact .inl (hsteps ▸ hi)
      | succ more =>
        obtain ⟨k, hsteps, hr⟩ := hsteps
        exact .inr ⟨k, (hat k).mpr ⟨i, hi, more, Nat.le_of_succ_le_succ hmore, hsteps⟩, hr⟩

/-- Matches do not go backwards. -/
theorem Spans.le {r : Regex} (h : r.Spans text i j) : i ≤ j := by
  induction r generalizing i j with
  | empty => exact Nat.le_of_eq h
  | set s =>
    obtain ⟨rfl, _⟩ := h
    exact Nat.le_succ i
  | look l => exact Nat.le_of_eq h.1
  | seq a b iha ihb =>
    obtain ⟨k, ha, hb⟩ := h
    exact Nat.le_trans (iha ha) (ihb hb)
  | alt a b iha ihb =>
    rcases h with ha | hb
    · exact iha ha
    · exact ihb hb
  | repeated a least most ih =>
    obtain ⟨more, _, hsteps⟩ := h
    exact steps_le (fun _ _ => ih) hsteps

/-- The matcher goes from where matches begin to where they end. -/
theorem follows_ends (text : List Char) (r : Regex) :
    Follows (text.length + 1) (ends text r) (r.Spans text) := by
  induction r with
  | empty => simp [Follows, ends, Spans]
  | set s =>
    intro here hlen
    refine ⟨by simp [ends, advance, hlen], fun j => ?_⟩
    rw [ends, has_advance]
    rfl
  | look l =>
    intro here hlen
    obtain ⟨hpositions, hat⟩ := look_positions l none text
    refine ⟨by simp [ends, Positions.inter, hpositions, hlen], fun j => ?_⟩
    rw [ends, has_inter]
    have hlook (hj : here.Has j) : (l.positions none text).Has j ↔
        l.holds (charBefore text j) text[j]? = true := by
      have hle := hj.lt
      rw [Positions.Has, hat j (by omega), Option.some.injEq]
      cases j <;> rfl
    constructor
    · rintro ⟨hj, hl⟩
      exact ⟨j, hj, rfl, (hlook hj).mp hl⟩
    · rintro ⟨i, hi, rfl, hl⟩
      exact ⟨hi, (hlook hi).mpr hl⟩
  | seq a b iha ihb =>
    intro here hlen
    obtain ⟨hlena, hata⟩ := iha here hlen
    obtain ⟨hlenb, hatb⟩ := ihb _ hlena
    refine ⟨hlenb, fun j => ?_⟩
    rw [ends, hatb]
    simp only [hata, Spans]
    constructor
    · rintro ⟨k, ⟨i, hi, ha⟩, hb⟩
      exact ⟨i, hi, k, ha, hb⟩
    · rintro ⟨i, hi, k, ha, hb⟩
      exact ⟨k, ⟨i, hi, ha⟩, hb⟩
  | alt a b iha ihb =>
    intro here hlen
    obtain ⟨hlena, hata⟩ := iha here hlen
    obtain ⟨hlenb, hatb⟩ := ihb here hlen
    refine ⟨by simp [ends, hlena, hlenb], fun j => ?_⟩
    rw [ends, has_union (hlena.trans hlenb.symm), hata, hatb]
    simp only [Spans, and_or_left, exists_or]
  | repeated a least most ih =>
    intro here hlen
    obtain ⟨hfirst, hat⟩ := ih.iterate least here hlen
    have hreach := fun count => ih.reach count hfirst
    simp only [hat] at hreach
    cases most with
    | some most =>
      obtain ⟨hlast, hall⟩ := hreach (most - least)
      refine ⟨hlast, fun j => ?_⟩
      rw [ends, hall]
      simp only [Spans, Option.mem_some, forall_eq', steps_add]
      constructor
      · rintro ⟨k, ⟨i, hi, hk⟩, more, hmore, hj⟩
        exact ⟨i, hi, more, hmore, k, hk, hj⟩
      · rintro ⟨i, hi, more, hmore, k, hk, hj⟩
        exact ⟨k, ⟨i, hi, hk⟩, more, hmore, hj⟩
    | none =>
      obtain ⟨hlast, hall⟩ := hreach (text.length + 1)
      refine ⟨hlast, fun j => ?_⟩
      rw [ends, hall]
      simp only [Spans, Option.not_mem_none, false_implies, implies_true, true_and, steps_add]
      constructor
      · rintro ⟨k, ⟨i, hi, hk⟩, more, _, hj⟩
        exact ⟨i, hi, more, k, hk, hj⟩
      · rintro ⟨i, hi, more, k, hk, hj⟩
        -- No more steps are needed than there are characters left.
        obtain ⟨short, hshort, hsteps⟩ := steps_shorten (fun _ _ => Spans.le) hj
        obtain ⟨hlength, hhas⟩ := ih.iterate short _ hfirst
        have hend := ((hhas j).mpr ⟨k, (hat k).mpr ⟨i, hi, hk⟩, hsteps⟩).lt
        exact ⟨k, ⟨i, hi, hk⟩, short, by omega, hsteps⟩

/-- A match that begins in the text ends there. -/
theorem Spans.le_length {r : Regex} (h : r.Spans text i j) (hi : i ≤ text.length) :
    j ≤ text.length := by
  have hall : Positions.Has (List.replicate (text.length + 1) true) i := by
    simp [Positions.Has, Nat.lt_succ_of_le hi]
  obtain ⟨hlen, hat⟩ := follows_ends text r (List.replicate (text.length + 1) true) (by simp)
  have hlt := ((hat j).mpr ⟨i, hall, h⟩).lt
  omega

/-- The matcher says yes exactly where there is a match. -/
theorem isMatch_iff {r : Regex} {text : String} :
    r.isMatch text = true ↔ ∃ i j, i ≤ text.toList.length ∧ r.Spans text.toList i j := by
  obtain ⟨_, hat⟩ := follows_ends text.toList r
    (List.replicate (text.toList.length + 1) true) (by simp)
  have hall (i : Nat) : Positions.Has (List.replicate (text.toList.length + 1) true) i ↔
      i ≤ text.toList.length := by
    simp only [Positions.Has, List.getElem?_replicate, Option.ite_none_right_eq_some, and_true]
    exact Nat.lt_succ_iff
  unfold isMatch
  simp only [List.any_eq_true, id_eq, exists_eq_right, List.mem_iff_getElem?]
  constructor
  · rintro ⟨j, hj⟩
    obtain ⟨i, hi, hspans⟩ := (hat j).mp hj
    exact ⟨i, j, (hall i).mp hi, hspans⟩
  · rintro ⟨i, j, hi, hspans⟩
    exact ⟨j, (hat j).mpr ⟨i, (hall i).mpr hi, hspans⟩⟩

end HeapQuery.Regex
