import HeapQuery.Proofs.Rounding

namespace HeapQuery.Number

def Decimal.value (d : Decimal) : ℚ := d.digits * 10 ^ d.exponent

/-! ## Powers of ten -/

theorem ten_zpow_pos (k : Int) : (0 : ℚ) < 10 ^ k := zpow_pos (by norm_num) k

theorem ten_zpow_add (j k : Int) : (10 : ℚ) ^ (j + k) = 10 ^ j * 10 ^ k :=
  zpow_add₀ (by norm_num) j k

theorem lt_ten_zpow_length (n : Nat) : (n : ℚ) < 10 ^ ((Nat.toDigits 10 n).length : Int) := by
  rw [zpow_natCast]
  exact_mod_cast (Nat.length_toDigits_le_iff (by decide) Nat.length_toDigits_pos).mp (Nat.le_refl _)

theorem ten_zpow_length_le {n : Nat} (hn : 0 < n) :
    (10 : ℚ) ^ ((Nat.toDigits 10 n).length - 1 : Int) ≤ n := by
  obtain ⟨k, hk⟩ := Nat.exists_eq_succ_of_ne_zero (Nat.length_toDigits_pos (b := 10) (n := n)).ne'
  have hpow : 10 ^ k ≤ n := by
    rcases Nat.eq_zero_or_pos k with rfl | hpos
    · exact hn
    · have := mt (Nat.length_toDigits_le_iff (b := 10) (n := n) (by decide) hpos).mpr (by omega)
      exact Nat.le_of_not_lt this
  rw [hk, Nat.cast_succ, add_sub_cancel_right, zpow_natCast]
  exact_mod_cast hpow

/-- The decimal magnitude gives a power of ten that is not above the ratio. -/
theorem decimalMagnitude_le {n d : Nat} (hn : 0 < n) (hd : 0 < d) :
    (10 : ℚ) ^ decimalMagnitude n d ≤ n / d := by
  have hdq : (0 : ℚ) < d := by exact_mod_cast hd
  have hnlow := ten_zpow_length_le hn
  have hdhigh := lt_ten_zpow_length d
  unfold decimalMagnitude
  simp only [Nat.pow_eq]
  generalize hk : ((Nat.toDigits 10 n).length - (Nat.toDigits 10 d).length : Int) = k
  have hbelow : (if 0 ≤ k then n < d * 10 ^ k.toNat else n * 10 ^ (-k).toNat < d) ↔
      (n : ℚ) < d * 10 ^ k := by
    split
    · rename_i hpos
      rw [zpow_toNat hpos]
      exact_mod_cast Iff.rfl
    · rename_i hneg
      have hpow : (0 : ℚ) < 10 ^ (-k).toNat := by positivity
      rw [zpow_neg_toNat (by omega), ← div_eq_mul_inv, lt_div_iff₀ hpow]
      exact_mod_cast Iff.rfl
  rw [le_div_iff₀ hdq]
  by_cases h : (n : ℚ) < d * 10 ^ k
  · rw [if_pos (hbelow.mpr h)]
    have hsplit : ((Nat.toDigits 10 n).length - 1 : Int) = k - 1 + (Nat.toDigits 10 d).length := by
      omega
    rw [hsplit, ten_zpow_add] at hnlow
    exact (mul_le_mul_of_nonneg_left hdhigh.le (ten_zpow_pos (k - 1)).le).trans hnlow
  · rw [if_neg (mt hbelow.mp h), mul_comm]
    exact not_lt.mp h

/-! ## The decimal grid -/

/-- `x` lies between two bounds, which count where `closed` says so. -/
def between (closed : Bool) (low x high : Nat) : Bool :=
  if closed then low ≤ x && x ≤ high else low < x && x < high

theorem between_of_strict (hlow : low < x) (hhigh : x < high) : between closed low x high = true := by
  cases closed with
  | false => simp [between, hlow, hhigh]
  | true => simp [between, hlow.le, hhigh.le]

variable {tie : Tie} {closed : Bool} {low value high unit : Nat}

theorem onGrid_eq : onGrid? tie closed low value high unit =
    if between closed low (value / unit * unit) high &&
        between closed low ((value / unit + 1) * unit) high then
      if 2 * (value % unit) < unit then some (value / unit)
      else if unit < 2 * (value % unit) then some (value / unit + 1)
      else match tie with
        | .up => some (value / unit + 1)
        | .even => some (value / unit + value / unit % 2)
    else if between closed low (value / unit * unit) high then some (value / unit)
    else if between closed low ((value / unit + 1) * unit) high then some (value / unit + 1)
    else none := rfl

/-- What is chosen on the grid lies between the bounds. -/
theorem onGrid_between {x : Nat} (h : onGrid? tie closed low value high unit = some x) :
    between closed low (x * unit) high = true := by
  rw [onGrid_eq] at h
  split at h
  · rename_i hboth
    rw [Bool.and_eq_true] at hboth
    have hchoice : x = value / unit ∨ x = value / unit + 1 := by
      split at h
      · cases h
        exact .inl rfl
      split at h
      · cases h
        exact .inr rfl
      split at h
      · cases h
        exact .inr rfl
      · cases h
        omega
    rcases hchoice with rfl | rfl
    · exact hboth.1
    · exact hboth.2
  split at h
  · rename_i hbelow
    cases h
    exact hbelow
  split at h
  · rename_i habove
    cases h
    exact habove
  · cases h

/-- A grid that is finer than the upper half of the interval meets it. -/
theorem onGrid_isSome (hunit : 0 < unit) (hlow : low < value) (hhigh : value + unit < high) :
    (onGrid? tie closed low value high unit).isSome = true := by
  have hnext : value < (value / unit + 1) * unit :=
    Nat.lt_mul_of_div_lt (Nat.lt_succ_self _) hunit
  have hover : (value / unit + 1) * unit ≤ value + unit := by
    rw [Nat.succ_mul]
    exact Nat.add_le_add_right (Nat.div_mul_le_self value unit) unit
  have habove : between closed low ((value / unit + 1) * unit) high = true :=
    between_of_strict (by omega) (by omega)
  rw [onGrid_eq, habove]
  split
  · split
    · rfl
    split
    · rfl
    · split <;> rfl
  split
  · rfl
  · rfl

theorem stripZeros_value (fuel n : Nat) (e : Int) : (stripZeros fuel n e).value = n * 10 ^ e := by
  induction fuel generalizing n e with
  | zero => rfl
  | succ fuel ih =>
    rw [stripZeros]
    split
    · rename_i h
      simp only [Bool.and_eq_true, beq_iff_eq] at h
      have hn : (n : ℚ) = (n / 10 : Nat) * 10 := by
        exact_mod_cast (Nat.div_mul_cancel (Nat.dvd_of_mod_eq_zero h.1)).symm
      rw [ih, ten_zpow_add, hn]
      ring
    · rfl

/-! ## The search -/

def grid (u : Int) : Nat × Nat := if 0 ≤ u then (1, 10 ^ u.toNat) else (10 ^ (-u).toNat, 1)

theorem grid_pos (u : Int) : 0 < (grid u).1 := by
  unfold grid
  split
  · exact Nat.one_pos
  · exact Nat.pow_pos (by decide)

theorem grid_eq (u : Int) : ((grid u).2 : ℚ) = 10 ^ u * (grid u).1 := by
  unfold grid
  split
  · rename_i h
    rw [zpow_toNat h]
    push_cast
    ring
  · rename_i h
    rw [zpow_neg_toNat (by omega)]
    push_cast
    field_simp

variable {f : Format} {m : Nat} {e : Int} {count : Nat}

def lastPlace (m : Nat) (e : Int) (count : Nat) : Int :=
  decimalMagnitude (4 * m * (scale 1 (e - 2)).1) (scale 1 (e - 2)).2 - count

def attempt (f : Format) (tie : Tie) (m : Nat) (e : Int) (count : Nat) : Option Decimal :=
  let factor := (scale 1 (e - 2)).1 * (grid (lastPlace m e count)).1
  (onGrid? tie (m % 2 == 0) ((roundingInterval f m e).1 * factor) (4 * m * factor)
    ((roundingInterval f m e).2 * factor)
    ((scale 1 (e - 2)).2 * (grid (lastPlace m e count)).2)).map
      fun digits => stripZeros 20 digits (lastPlace m e count)

theorem shortest_eq (f : Format) (tie : Tie) (m : Nat) (e : Int) :
    shortest f tie m e = ((List.range 18).findSome? (attempt f tie m e)).getD ⟨0, 0⟩ := rfl

theorem grid_scale_pos (e u : Int) : (0 : ℚ) < (scale 1 (e - 2)).2 * (grid u).1 := by
  exact_mod_cast Nat.mul_pos (scale_pos 1 (e - 2)) (grid_pos u)

/-- Quarters of a unit and decimals, counted on one scale. -/
theorem grid_le {a b : Nat} {u : Int} :
    a * ((scale 1 (e - 2)).1 * (grid u).1) ≤ b * ((scale 1 (e - 2)).2 * (grid u).2) ↔
      a * (2 : ℚ) ^ (e - 2) ≤ b * 10 ^ u := by
  have hscale := grid_scale_pos e u
  rw [← mul_le_mul_iff_left₀ hscale, ← @Nat.cast_le ℚ]
  push_cast
  rw [scale_eq, grid_eq]
  push_cast
  constructor <;> intro h <;> linarith

theorem grid_ge {a b : Nat} {u : Int} :
    b * ((scale 1 (e - 2)).2 * (grid u).2) ≤ a * ((scale 1 (e - 2)).1 * (grid u).1) ↔
      b * 10 ^ u ≤ a * (2 : ℚ) ^ (e - 2) := by
  have hscale := grid_scale_pos e u
  rw [← mul_le_mul_iff_left₀ hscale, ← @Nat.cast_le ℚ]
  push_cast
  rw [scale_eq, grid_eq]
  push_cast
  constructor <;> intro h <;> linarith

theorem attempt_rounds {d : Decimal} (h : attempt f tie m e count = some d) :
    Rounds f m e d.value := by
  obtain ⟨x, hx, rfl⟩ := Option.map_eq_some_iff.mp h
  have hbetween := onGrid_between hx
  rw [stripZeros_value]
  unfold Rounds
  dsimp only
  unfold between at hbetween
  split
  · rename_i heven
    simpa [heven, grid_le, grid_ge] using hbetween
  · rename_i hodd
    simp only [beq_iff_eq, hodd, ↓reduceIte, Bool.and_eq_true, decide_eq_true_eq] at hbetween
    rw [← not_le, ← not_le, grid_le, grid_ge, not_le, not_le] at hbetween
    exact hbetween

/-- The last place lies `count` digits below the magnitude of the number. -/
theorem lastPlace_le (hm : 0 < m) (count : Nat) :
    (10 : ℚ) ^ lastPlace m e count * 10 ^ count ≤ 4 * m * 2 ^ (e - 2) := by
  have hq : 0 < (scale 1 (e - 2)).1 := by simpa using scaled_pos Nat.one_pos (e - 2)
  have hmagnitude := decimalMagnitude_le (n := 4 * m * (scale 1 (e - 2)).1)
    (Nat.mul_pos (by omega) hq) (scale_pos 1 (e - 2))
  have hvalue : ((4 * m * (scale 1 (e - 2)).1 : Nat) : ℚ) / (scale 1 (e - 2)).2 =
      4 * m * 2 ^ (e - 2) := by
    have hs : ((scale 1 (e - 2)).2 : ℚ) ≠ 0 := by exact_mod_cast (scale_pos 1 (e - 2)).ne'
    push_cast
    rw [scale_eq]
    field_simp
    push_cast
    ring
  have hshift : decimalMagnitude (4 * m * (scale 1 (e - 2)).1) (scale 1 (e - 2)).2 =
      lastPlace m e count + (count : Nat) := by
    unfold lastPlace
    omega
  rwa [hvalue, hshift, ten_zpow_add, zpow_natCast] at hmagnitude

/-- With 17 digits the grid is finer than half a unit. -/
theorem lastPlace_fine (hf : f.Moderate) (hm : 0 < m) (hbits : m < 2 ^ f.precision) :
    (10 : ℚ) ^ lastPlace m e 17 < 2 * 2 ^ (e - 2) := by
  have hdigits : (2 : ℚ) * 2 ^ f.precision ≤ 10 ^ 17 := by
    rw [← pow_succ']
    exact_mod_cast hf.digits
  have hm' : (m : ℚ) < 2 ^ f.precision := by exact_mod_cast hbits
  have hten := ten_zpow_pos (lastPlace m e 17)
  have htwo := two_zpow_pos (e - 2)
  have hbound : (10 : ℚ) ^ lastPlace m e 17 * (2 * 2 ^ f.precision) <
      2 * 2 ^ (e - 2) * (2 * 2 ^ f.precision) := by
    calc (10 : ℚ) ^ lastPlace m e 17 * (2 * 2 ^ f.precision)
      _ ≤ 10 ^ lastPlace m e 17 * 10 ^ 17 := mul_le_mul_of_nonneg_left hdigits hten.le
      _ ≤ 4 * m * 2 ^ (e - 2) := lastPlace_le hm 17
      _ < 2 * 2 ^ (e - 2) * (2 * 2 ^ f.precision) := by nlinarith
  exact lt_of_mul_lt_mul_right hbound (by positivity)

/-- 17 digits are always enough. -/
theorem attempt_isSome (hf : f.Moderate) (tie : Tie) (hm : 0 < m) (hbits : m < 2 ^ f.precision) :
    (attempt f tie m e 17).isSome = true := by
  have hq : 0 < (scale 1 (e - 2)).1 := by simpa using scaled_pos Nat.one_pos (e - 2)
  have hfine : (1 : Nat) * (10 : ℚ) ^ lastPlace m e 17 < (2 : Nat) * 2 ^ (e - 2) := by
    have := lastPlace_fine (e := e) hf hm hbits
    simpa using this
  unfold attempt
  rw [Option.isSome_map]
  refine onGrid_isSome (Nat.mul_pos (scale_pos 1 _) ?_) ?_ ?_
  · have hpos : (0 : ℚ) < (grid (lastPlace m e 17)).2 := by
      rw [grid_eq]
      have hgrid : (0 : ℚ) < (grid (lastPlace m e 17)).1 := by exact_mod_cast grid_pos _
      have := ten_zpow_pos (lastPlace m e 17)
      positivity
    exact_mod_cast hpos
  · refine Nat.mul_lt_mul_of_pos_right ?_ (Nat.mul_pos hq (grid_pos _))
    simp only [roundingInterval]
    split <;> omega
  · rw [← not_le, ← grid_le, not_le, Nat.one_mul] at hfine
    simp only [roundingInterval, Nat.add_mul]
    omega

theorem shortest_rounds (hf : f.Moderate) (tie : Tie) (hm : 0 < m) (hbits : m < 2 ^ f.precision) :
    Rounds f m e (shortest f tie m e).value := by
  rw [shortest_eq]
  cases hfound : (List.range 18).findSome? (attempt f tie m e) with
  | some d =>
    obtain ⟨count, _, hd⟩ := List.exists_of_findSome?_eq_some hfound
    exact attempt_rounds hd
  | none =>
    have hnone := List.findSome?_eq_none_iff.mp hfound 17 (by decide)
    have hsome := attempt_isSome (e := e) hf tie hm hbits
    rw [hnone] at hsome
    cases hsome

end HeapQuery.Number
