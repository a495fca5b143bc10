import Mathlib.Algebra.Order.Field.Power
import Mathlib.Data.Rat.Cast.Order
import Mathlib.Tactic.FieldSimp
import Mathlib.Tactic.Linarith
import Mathlib.Tactic.NormNum
import Mathlib.Tactic.Positivity
import Mathlib.Tactic.Ring
import HeapQuery.Number.Binary
import HeapQuery.Number.Shortest

namespace HeapQuery.Number

/-! ## Ratios -/

theorem two_zpow_pos (e : Int) : (0 : ℚ) < 2 ^ e := zpow_pos (by norm_num) e

theorem two_zpow_add (a b : Int) : (2 : ℚ) ^ (a + b) = 2 ^ a * 2 ^ b :=
  zpow_add₀ (by norm_num) a b

theorem two_zpow_add_nat (e : Int) (k : Nat) : (2 : ℚ) ^ (e + k) = 2 ^ e * (2 ^ k : Nat) := by
  rw [two_zpow_add, zpow_natCast]
  push_cast
  rfl

theorem two_zpow_sub_one (e : Int) : (2 : ℚ) ^ (e - 1) = 2 ^ e / 2 := by
  rw [zpow_sub_one₀ (by norm_num)]
  ring

theorem two_zpow_le (h : a ≤ b) : (2 : ℚ) ^ (a : Int) ≤ 2 ^ b :=
  zpow_le_zpow_right₀ (by norm_num) h

theorem le_of_two_zpow_lt {a b : Int} (h : (2 : ℚ) ^ a < 2 ^ (b + 1)) : a ≤ b := by
  have := (zpow_lt_zpow_iff_right₀ (by norm_num : (1 : ℚ) < 2)).mp h
  omega

theorem le_of_cast_lt {m k : Nat} (h : (m : ℚ) < k + 1) : m ≤ k :=
  Nat.lt_succ_iff.mp (by exact_mod_cast h)

theorem zpow_toNat {e : Int} (h : 0 ≤ e) (b : ℚ) : b ^ e = b ^ e.toNat := by
  conv_lhs => rw [← Int.toNat_of_nonneg h]
  exact zpow_natCast b _

theorem zpow_neg_toNat {e : Int} (h : e ≤ 0) (b : ℚ) : b ^ e = (b ^ (-e).toNat)⁻¹ := by
  rw [← zpow_toNat (by omega) b, zpow_neg, inv_inv]

theorem scale_pos (n : Nat) (e : Int) : 0 < (scale n e).2 := by
  unfold scale
  split
  · exact Nat.one_pos
  · rw [Nat.shiftLeft_eq, Nat.one_mul]
    exact Nat.pow_pos (by decide)

/-- What `scale` gives is the ratio that it should be. -/
theorem scale_eq (n : Nat) (e : Int) : ((scale n e).1 : ℚ) = n * 2 ^ e * (scale n e).2 := by
  unfold scale
  split
  · rename_i h
    rw [Nat.shiftLeft_eq, zpow_toNat h]
    push_cast
    ring
  · rename_i h
    rw [Nat.shiftLeft_eq, zpow_neg_toNat (by omega)]
    push_cast
    field_simp

/-- The magnitude is the exponent of the power of two just below a ratio. -/
theorem magnitude_spec {n d : Nat} (hn : 0 < n) (hd : 0 < d) :
    (2 : ℚ) ^ magnitude n d ≤ n / d ∧ (n : ℚ) / d < 2 ^ (magnitude n d + 1) := by
  have hdq : (0 : ℚ) < d := by exact_mod_cast hd
  have hnlow : (2 : ℚ) ^ (n.log2 : Int) ≤ n := by
    rw [zpow_natCast]
    exact_mod_cast Nat.log2_self_le hn.ne'
  have hnhigh : (n : ℚ) < 2 ^ (n.log2 : Int) * 2 := by
    rw [zpow_natCast, ← pow_succ]
    exact_mod_cast Nat.lt_log2_self
  have hdlow : (2 : ℚ) ^ (d.log2 : Int) ≤ d := by
    rw [zpow_natCast]
    exact_mod_cast Nat.log2_self_le hd.ne'
  have hdhigh : (d : ℚ) < 2 ^ (d.log2 : Int) * 2 := by
    rw [zpow_natCast, ← pow_succ]
    exact_mod_cast Nat.lt_log2_self
  have hsplit : (2 : ℚ) ^ (n.log2 : Int) = 2 ^ ((n.log2 : Int) - d.log2) * 2 ^ (d.log2 : Int) := by
    rw [← two_zpow_add]
    congr 1
    ring
  unfold magnitude
  dsimp only
  generalize ((n.log2 : Int) - d.log2) = k at hsplit ⊢
  have hk := two_zpow_pos k
  have hscale := scale_eq d k
  have hspos : (0 : ℚ) < (scale d k).2 := by exact_mod_cast scale_pos d k
  have hbranch : n * (scale d k).2 < (scale d k).1 ↔ (n : ℚ) < d * 2 ^ k := by
    rw [← @Nat.cast_lt ℚ, Nat.cast_mul, hscale]
    constructor
    · intro h
      exact lt_of_mul_lt_mul_right h hspos.le
    · intro h
      exact mul_lt_mul_of_pos_right h hspos
  rw [le_div_iff₀ hdq, div_lt_iff₀ hdq]
  split
  · rename_i h
    rw [hbranch] at h
    rw [sub_add_cancel, two_zpow_sub_one]
    constructor
    · nlinarith
    · linarith
  · rename_i h
    rw [hbranch] at h
    rw [two_zpow_add, zpow_one]
    constructor
    · linarith
    · nlinarith

/-! ## The nearest integer -/

/-- `m` is nearest to `x`, and it is even where `x` lies in the middle of two integers. -/
def Nearest (m : Nat) (x : ℚ) : Prop :=
  if m % 2 = 0 then (m : ℚ) - 1 / 2 ≤ x ∧ x ≤ m + 1 / 2 else (m : ℚ) - 1 / 2 < x ∧ x < m + 1 / 2

theorem Nearest.bounds (h : Nearest m x) : (m : ℚ) - 1 / 2 ≤ x ∧ x ≤ m + 1 / 2 := by
  unfold Nearest at h
  split at h
  · exact h
  · exact ⟨h.1.le, h.2.le⟩

theorem nearest_of_strict {m : Nat} (hlow : (m : ℚ) - 1 / 2 < x) (hhigh : x < m + 1 / 2) :
    Nearest m x := by
  unfold Nearest
  split
  · exact ⟨hlow.le, hhigh.le⟩
  · exact ⟨hlow, hhigh⟩

theorem nearest_of_even {m : Nat} (hm : m % 2 = 0) (hlow : (m : ℚ) - 1 / 2 ≤ x)
    (hhigh : x ≤ m + 1 / 2) : Nearest m x := by
  unfold Nearest
  rw [if_pos hm]
  exact ⟨hlow, hhigh⟩

/-- Two integers that are nearest to `x` are equal: neighbours would both have to be even. -/
theorem Nearest.unique (h : Nearest m x) (h' : Nearest m' x) : m = m' := by
  wlog hle : m ≤ m' generalizing m m'
  · exact (this h' h (by omega)).symm
  obtain ⟨hlow, hhigh⟩ := h.bounds
  obtain ⟨hlow', hhigh'⟩ := h'.bounds
  have hnear : (m' : ℚ) ≤ (m + 1 : Nat) := by
    push_cast
    linarith
  have hstep : m' ≤ m + 1 := by exact_mod_cast hnear
  rcases Nat.lt_or_ge m m' with hlt | hge
  · obtain rfl : m' = m + 1 := by omega
    exfalso
    unfold Nearest at h h'
    push_cast at hlow' h'
    split at h
    · rw [if_neg (by omega)] at h'
      linarith [h'.1]
    · linarith [h.2]
  · omega

theorem divideToEven_nearest {d : Nat} (n : Nat) (hd : 0 < d) :
    Nearest (divideToEven n d) ((n : ℚ) / d) := by
  have hdq : (0 : ℚ) < d := by exact_mod_cast hd
  have hsplit : (n : ℚ) = d * (n / d : Nat) + (n % d : Nat) := by
    exact_mod_cast (Nat.div_add_mod n d).symm
  have hquotient : (n : ℚ) / d = (n / d : Nat) + (n % d : Nat) / d := by
    rw [hsplit]
    field_simp
  have hrest : (0 : ℚ) ≤ (n % d : Nat) / d := by positivity
  have hcompare : ((n % d : Nat) : ℚ) / d < 1 / 2 ↔ 2 * (n % d) < d := by
    rw [div_lt_div_iff₀ hdq (by norm_num), one_mul, mul_comm]
    exact_mod_cast Iff.rfl
  have hcompare' : (1 : ℚ) / 2 < (n % d : Nat) / d ↔ d < 2 * (n % d) := by
    rw [div_lt_div_iff₀ (by norm_num) hdq, one_mul, mul_comm ((n % d : Nat) : ℚ)]
    exact_mod_cast Iff.rfl
  have hone : ((n % d : Nat) : ℚ) / d < 1 := by
    rw [div_lt_one hdq]
    exact_mod_cast Nat.mod_lt n hd
  rw [hquotient]
  unfold divideToEven
  dsimp only
  split
  · rename_i hbelow
    have := hcompare.mpr hbelow
    exact nearest_of_strict (by linarith) (by linarith)
  split
  · rename_i habove
    have := hcompare'.mpr habove
    refine nearest_of_strict ?_ ?_ <;> push_cast <;> linarith
  · rename_i hbelow habove
    rw [← hcompare, not_lt] at hbelow
    rw [← hcompare', not_lt] at habove
    refine nearest_of_even (by omega) ?_ ?_
    · rcases Nat.mod_two_eq_zero_or_one (n / d) with h | h <;> rw [h] <;> push_cast <;> linarith
    · rcases Nat.mod_two_eq_zero_or_one (n / d) with h | h <;> rw [h] <;> push_cast <;> linarith

/-! ## Numbers of a format -/

/-- A format that `ofDecimal` computes in full: 17 digits tell its numbers apart, and they lie
within the powers of ten that are not cut off. -/
structure Format.Moderate (f : Format) : Prop where
  precise : 2 ≤ f.precision
  ordered : f.least ≤ f.most
  digits : 2 ^ (f.precision + 1) ≤ 10 ^ 17
  small : 2 ^ (1 - f.least).toNat ≤ 10 ^ 400
  large : 2 ^ (f.precision + f.most).toNat ≤ 10 ^ 400

theorem moderate_double : Format.double.Moderate := by
  constructor <;> decide +kernel

theorem moderate_single : Format.single.Moderate := by
  constructor <;> decide +kernel

/-- The number is one of the format, written with the greatest mantissa that its exponent allows. -/
def Binary.Canonical (f : Format) : Binary → Prop
  | .finite _ m e => m < 2 ^ f.precision ∧ f.least ≤ e ∧ e ≤ f.most ∧
      (2 ^ (f.precision - 1) ≤ m ∨ e = f.least)
  | _ => True

/-- The ratios that are rounded to `m * 2 ^ e`. The ends belong to them where `m` is even. -/
def Rounds (f : Format) (m : Nat) (e : Int) (x : ℚ) : Prop :=
  let low := (roundingInterval f m e).1 * (2 : ℚ) ^ (e - 2)
  let high := (roundingInterval f m e).2 * (2 : ℚ) ^ (e - 2)
  if m % 2 = 0 then low ≤ x ∧ x ≤ high else low < x ∧ x < high

variable {f : Format} {m : Nat} {e : Int} {x : ℚ}

theorem quarter_zpow (e : Int) : (2 : ℚ) ^ (e - 2) = 2 ^ e / 4 := by
  rw [sub_eq_add_neg, two_zpow_add]
  norm_num
  ring

theorem interval_low (hm : 0 < m) : ((roundingInterval f m e).1 : ℚ) =
    if m = 2 ^ (f.precision - 1) ∧ f.least < e then 4 * (m : ℚ) - 1 else 4 * m - 2 := by
  simp only [roundingInterval, Nat.one_shiftLeft, Bool.and_eq_true, beq_iff_eq, decide_eq_true_eq]
  split
  · rw [Nat.cast_sub (by omega)]
    push_cast
    ring
  · rw [Nat.cast_sub (by omega)]
    push_cast
    ring

theorem Rounds.bounds (h : Rounds f m e x) :
    (roundingInterval f m e).1 * (2 : ℚ) ^ (e - 2) ≤ x ∧
    x ≤ (roundingInterval f m e).2 * (2 : ℚ) ^ (e - 2) := by
  unfold Rounds at h
  dsimp only at h
  split at h
  · exact h
  · exact ⟨h.1.le, h.2.le⟩

theorem Rounds.high (h : Rounds f m e x) : x ≤ (m + 1 / 2) * 2 ^ e := by
  have hle := h.bounds.2
  rw [quarter_zpow] at hle
  simp only [roundingInterval] at hle
  push_cast at hle
  linarith

theorem Rounds.low (hm : 0 < m) (h : Rounds f m e x) : (m - 1 / 2) * 2 ^ e ≤ x := by
  have hle := h.bounds.1
  have hpos := two_zpow_pos e
  rw [quarter_zpow, interval_low hm] at hle
  split at hle <;> linarith

/-- Just below a power of two only a quarter of a unit is rounded up to it. -/
theorem Rounds.low_of_power (h : Rounds f m e x) (hm : m = 2 ^ (f.precision - 1))
    (he : f.least < e) : (m - 1 / 4) * 2 ^ e ≤ x := by
  have hle := h.bounds.1
  have hpos : 0 < m := by
    rw [hm]
    exact Nat.two_pow_pos _
  rw [quarter_zpow, interval_low hpos, if_pos ⟨hm, he⟩] at hle
  linarith

/-- Counted in units of the exponent, the ratio is nearest to the mantissa. -/
theorem Rounds.nearest (hm : 0 < m) (h : Rounds f m e x) : Nearest m (x / 2 ^ e) := by
  have hpos := two_zpow_pos e
  unfold Rounds at h
  dsimp only at h
  unfold Nearest
  rw [le_div_iff₀ hpos, div_le_iff₀ hpos, lt_div_iff₀ hpos, div_lt_iff₀ hpos]
  have hhigh : ((roundingInterval f m e).2 : ℚ) = 4 * m + 2 := by
    simp only [roundingInterval]
    push_cast
    ring
  rw [quarter_zpow, interval_low hm, hhigh] at h
  have hmargin : (m - 1 / 2 : ℚ) * 2 ^ e ≤
      (if m = 2 ^ (f.precision - 1) ∧ f.least < e then 4 * (m : ℚ) - 1 else 4 * m - 2) *
        (2 ^ e / 4) := by
    split <;> linarith
  split at h
  · rename_i heven
    rw [if_pos heven]
    constructor <;> linarith [h.1, h.2]
  · rename_i hodd
    rw [if_neg hodd]
    constructor <;> linarith [h.1, h.2]

theorem scaled_ratio {n d : Nat} (hd : 0 < d) (e : Int) :
    ((n * (scale 1 e).2 : Nat) : ℚ) / (d * (scale 1 e).1 : Nat) = n / d / 2 ^ e := by
  have hdq : (d : ℚ) ≠ 0 := by exact_mod_cast hd.ne'
  have hs : ((scale 1 e).2 : ℚ) ≠ 0 := by exact_mod_cast (scale_pos 1 e).ne'
  have he := (two_zpow_pos e).ne'
  push_cast
  rw [scale_eq]
  field_simp
  push_cast
  ring

theorem scaled_pos {d : Nat} (hd : 0 < d) (e : Int) : 0 < d * (scale 1 e).1 := by
  refine Nat.mul_pos hd ?_
  have hs : (0 : ℚ) < (scale 1 e).2 := by exact_mod_cast scale_pos 1 e
  have hpos : (0 : ℚ) < (scale 1 e).1 := by
    rw [scale_eq]
    have := two_zpow_pos e
    positivity
  exact_mod_cast hpos

def startExponent (f : Format) (n d : Nat) : Int :=
  max f.least (magnitude n d - (f.precision - 1))

/-- A ratio becomes the nearest mantissa, which is carried to the next exponent if it has one bit
too many. -/
theorem ofRatio_eq {n d : Nat} (negative : Bool) (hn : 0 < n) (hd : 0 < d) :
    ∃ m, Nearest m ((n : ℚ) / d / 2 ^ startExponent f n d) ∧ Binary.ofRatio f negative n d =
      if m = 2 ^ f.precision then
        if f.most < startExponent f n d + 1 then .infinity negative
        else .finite negative (m / 2) (startExponent f n d + 1)
      else if f.most < startExponent f n d then .infinity negative
      else .finite negative m (startExponent f n d) := by
  refine ⟨divideToEven (n * (scale 1 (startExponent f n d)).2)
    (d * (scale 1 (startExponent f n d)).1), ?_, ?_⟩
  · rw [← scaled_ratio hd]
    exact divideToEven_nearest _ (scaled_pos hd _)
  · unfold Binary.ofRatio
    rw [if_neg (by simp; omega)]
    simp only [Nat.one_shiftLeft, beq_iff_eq]
    unfold startExponent
    split <;> rfl

theorem two_pow_precision (hf : f.Moderate) :
    2 * 2 ^ (f.precision - 1) = 2 ^ f.precision ∧ 2 ≤ 2 ^ (f.precision - 1) := by
  have hp := hf.precise
  constructor
  · rw [← Nat.pow_succ']
    congr 1
    omega
  · exact Nat.pow_le_pow_right (n := 2) (by decide) (show 1 ≤ f.precision - 1 by omega)

section

variable {n d : Nat}

/-- A ratio that is rounded to a number has no more bits than its mantissa. -/
theorem Rounds.magnitude_le (hf : f.Moderate) (hn : 0 < n) (hd : 0 < d) (hbits : m < 2 ^ f.precision)
    (h : Rounds f m e ((n : ℚ) / d)) : magnitude n d - (f.precision - 1) ≤ e := by
  have hprecise := hf.precise
  have hpos := two_zpow_pos e
  have htop : (n : ℚ) / d < 2 ^ (e + f.precision) := by
    have hle : ((m : ℚ) + 1) ≤ (2 ^ f.precision : Nat) := by exact_mod_cast hbits
    rw [two_zpow_add_nat]
    have := h.high
    nlinarith
  have hbelow := (magnitude_spec hn hd).1
  have hlt : (2 : ℚ) ^ magnitude n d < 2 ^ (e + f.precision - 1 + 1) := by
    rw [sub_add_cancel]
    exact lt_of_le_of_lt hbelow htop
  have := le_of_two_zpow_lt hlt
  omega

/-- Where a ratio is rounded with another exponent at first, it lies in the quarter below a power of
two, and the exponent is one less. -/
theorem Rounds.below_power (hf : f.Moderate) (hn : 0 < n) (hd : 0 < d) (hm : 0 < m)
    (hc : Binary.Canonical f (.finite negative m e)) (h : Rounds f m e ((n : ℚ) / d))
    (hother : startExponent f n d ≠ e) :
    f.least < e ∧ m = 2 ^ (f.precision - 1) ∧ startExponent f n d = e - 1 := by
  obtain ⟨hbits, hleast, _, hfull⟩ := hc
  have hmag := h.magnitude_le hf hn hd hbits
  have habove := (magnitude_spec hn hd).2
  have hprecise := hf.precise
  have hpos := two_zpow_pos e
  obtain ⟨hleast, hstart⟩ : f.least < e ∧ magnitude n d < e + (f.precision - 1) := by
    rw [startExponent] at hother
    omega
  have hlow : 2 ^ (f.precision - 1) ≤ m := by
    rcases hfull with hfull | hfull
    · exact hfull
    · omega
  have hlt : (n : ℚ) / d < 2 ^ e * (2 ^ (f.precision - 1) : Nat) := by
    rw [← two_zpow_add_nat]
    exact lt_of_lt_of_le habove (two_zpow_le (by omega))
  have hpower : m = 2 ^ (f.precision - 1) := by
    refine Nat.le_antisymm (le_of_cast_lt ?_) hlow
    have hle := (h.low hm).trans hlt.le
    have hle' : (m : ℚ) - 1 / 2 ≤ (2 ^ (f.precision - 1) : Nat) := by nlinarith
    linarith
  have hhalf : (2 : ℚ) ^ (e + (f.precision - 1 : Nat) - 1) = 2 ^ e * m / 2 := by
    rw [two_zpow_sub_one, two_zpow_add_nat, hpower]
  have htwo : (2 : ℚ) ≤ m := by
    rw [hpower]
    exact_mod_cast (two_pow_precision hf).2
  have hquarter := h.low_of_power hpower hleast
  have hlower : (2 : ℚ) ^ (e + (f.precision - 1 : Nat) - 1) < 2 ^ (magnitude n d + 1) := by
    rw [hhalf]
    refine lt_of_le_of_lt ?_ habove
    nlinarith
  have hk := le_of_two_zpow_lt hlower
  refine ⟨hleast, hpower, ?_⟩
  unfold startExponent
  omega

/-- Ratios in the interval of a number of the format are rounded to that number. -/
theorem ofRatio_of_rounds (hf : f.Moderate) (negative : Bool) (hn : 0 < n) (hd : 0 < d)
    (hm : 0 < m) (hc : Binary.Canonical f (.finite negative m e)) (h : Rounds f m e ((n : ℚ) / d)) :
    Binary.ofRatio f negative n d = .finite negative m e := by
  obtain ⟨m', hnearest, heq⟩ := ofRatio_eq (f := f) negative hn hd
  obtain ⟨hdouble, htwo⟩ := two_pow_precision hf
  have hpos := two_zpow_pos e
  by_cases hsame : startExponent f n d = e
  · obtain ⟨hbits, _, hmost, _⟩ := hc
    rw [hsame] at hnearest heq
    obtain rfl := (h.nearest hm).unique hnearest
    rw [heq, if_neg (by omega), if_neg (by omega)]
  obtain ⟨hleast, hpower, hexponent⟩ := h.below_power hf hn hd hm hc hsame
  obtain ⟨_, _, hmost, _⟩ := hc
  rw [hexponent] at hnearest heq
  -- Counted in halves of the unit the mantissa has one bit too many, and is carried.
  have hcarry : m' = 2 ^ f.precision := by
    have hquarter := h.low_of_power hpower hleast
    have hhigh : (n : ℚ) / d < 2 ^ e * m := by
      have habove := (magnitude_spec hn hd).2
      rw [hpower, ← two_zpow_add_nat]
      refine lt_of_lt_of_le habove (two_zpow_le ?_)
      have := hf.precise
      unfold startExponent at hexponent
      omega
    have hcast : ((2 ^ f.precision : Nat) : ℚ) = 2 * m := by
      rw [← hdouble, hpower]
      push_cast
      ring
    refine hnearest.unique (nearest_of_even (by omega) ?_ ?_)
    · rw [hcast, two_zpow_sub_one, le_div_iff₀ (by positivity)]
      linarith
    · rw [hcast, two_zpow_sub_one, div_le_iff₀ (by positivity)]
      linarith
  rw [heq, hcarry, if_pos rfl, if_neg (by omega)]
  simp only [sub_add_cancel, Binary.finite.injEq, true_and, and_true]
  omega

end

/-- Rounding gives numbers of the format. -/
theorem ofRatio_canonical (hf : f.Moderate) (negative : Bool) {n d : Nat} (hd : 0 < d) :
    Binary.Canonical f (Binary.ofRatio f negative n d) := by
  obtain ⟨hdouble, htwo⟩ := two_pow_precision hf
  have hprecise := hf.precise
  rcases Nat.eq_zero_or_pos n with rfl | hn
  · exact ⟨Nat.two_pow_pos _, le_refl _, hf.ordered, .inr rfl⟩
  obtain ⟨m, hnearest, heq⟩ := ofRatio_eq (f := f) negative hn hd
  obtain ⟨hbelow, habove⟩ := magnitude_spec hn hd
  obtain ⟨hlow, hhigh⟩ := hnearest.bounds
  have hpos := two_zpow_pos (startExponent f n d)
  have hleast : f.least ≤ startExponent f n d := le_max_left _ _
  have hmost : magnitude n d - (f.precision - 1) ≤ startExponent f n d := le_max_right _ _
  have hle : m ≤ 2 ^ f.precision := by
    have hlt : (n : ℚ) / d / 2 ^ startExponent f n d < (2 ^ f.precision : Nat) := by
      rw [div_lt_iff₀ hpos, mul_comm, ← two_zpow_add_nat]
      exact lt_of_lt_of_le habove (two_zpow_le (by omega))
    exact le_of_cast_lt (by linarith)
  have hfull : 2 ^ (f.precision - 1) ≤ m ∨ startExponent f n d = f.least := by
    rcases max_choice f.least (magnitude n d - (f.precision - 1)) with hmax | hmax
    · exact .inr hmax
    · left
      have hge : ((2 ^ (f.precision - 1) : Nat) : ℚ) ≤ (n : ℚ) / d / 2 ^ startExponent f n d := by
        rw [le_div_iff₀ hpos, mul_comm, ← two_zpow_add_nat]
        refine le_trans (two_zpow_le ?_) hbelow
        unfold startExponent
        omega
      exact le_of_cast_lt (by linarith)
  rw [heq]
  split
  · split
    · trivial
    · exact ⟨by omega, by omega, by omega, .inl (by omega)⟩
  · split
    · trivial
    · exact ⟨by omega, by omega, by omega, hfull⟩

end HeapQuery.Number
