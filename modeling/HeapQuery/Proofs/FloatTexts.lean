import HeapQuery.Number.Literal
import HeapQuery.Proofs.ShortestDecimals

namespace HeapQuery.Number

variable {f : Format} {m : Nat} {e : Int} {negative : Bool} {digits : Nat} {exponent : Int}

/-! ## Decimals to numbers -/

/-- A power of two is not above the one with the exponent cut off at zero. -/
theorem two_zpow_le_toNat (k : Int) : (2 : ℚ) ^ k ≤ (2 ^ k.toNat : Nat) := by
  rw [Nat.cast_pow, Nat.cast_ofNat, ← zpow_natCast]
  exact two_zpow_le (by omega)

theorem lt_of_ten_zpow_lt {j k : Int} (h : (10 : ℚ) ^ j < 10 ^ k) : j < k :=
  (zpow_lt_zpow_iff_right₀ (by norm_num : (1 : ℚ) < 10)).mp h

theorem digits_pos_of_rounds (hm : 0 < m) (h : Rounds f m e (digits * 10 ^ exponent)) :
    0 < digits := by
  have hlow := h.low hm
  have hpow := two_zpow_pos e
  have hm' : (1 : ℚ) ≤ m := by exact_mod_cast hm
  rcases Nat.eq_zero_or_pos digits with rfl | hpos
  · rw [Nat.cast_zero, zero_mul] at hlow
    nlinarith
  · exact hpos

/-- A decimal that is rounded to a positive number is not cut off below. -/
theorem top_not_small (hf : f.Moderate) (hm : 0 < m)
    (hc : Binary.Canonical f (.finite negative m e)) (h : Rounds f m e (digits * 10 ^ exponent)) :
    -400 < exponent + (Nat.toDigits 10 digits).length := by
  have hlow := h.low hm
  have hpow := two_zpow_pos e
  have hm' : (1 : ℚ) ≤ m := by exact_mod_cast hm
  have hsmall : (10 : ℚ) ^ (-400 : Int) ≤ 2 ^ (f.least - 1) := by
    have hle := (two_zpow_le_toNat (1 - f.least)).trans (Nat.cast_le.mpr hf.small)
    rw [Nat.cast_pow, Nat.cast_ofNat] at hle
    have hinverse : (2 : ℚ) ^ (f.least - 1) = (2 ^ (1 - f.least))⁻¹ := by
      rw [← zpow_neg, neg_sub]
    rw [zpow_neg_toNat (by decide), hinverse]
    exact inv_anti₀ (two_zpow_pos _) hle
  refine lt_of_ten_zpow_lt ?_
  calc (10 : ℚ) ^ (-400 : Int)
    _ ≤ 2 ^ (f.least - 1) := hsmall
    _ ≤ 2 ^ (e - 1) := two_zpow_le (by linarith [hc.2.1])
    _ = 2 ^ e / 2 := two_zpow_sub_one e
    _ ≤ digits * 10 ^ exponent := by nlinarith
    _ < 10 ^ ((Nat.toDigits 10 digits).length : Int) * 10 ^ exponent :=
      mul_lt_mul_of_pos_right (lt_ten_zpow_length digits) (ten_zpow_pos exponent)
    _ = 10 ^ (exponent + (Nat.toDigits 10 digits).length) := by
      rw [← ten_zpow_add, add_comm]

/-- Nor is it cut off above. -/
theorem top_not_large (hf : f.Moderate) (hm : 0 < m)
    (hc : Binary.Canonical f (.finite negative m e)) (h : Rounds f m e (digits * 10 ^ exponent)) :
    exponent + (Nat.toDigits 10 digits).length ≤ 400 := by
  have hhigh := h.high
  have hpow := two_zpow_pos e
  have hbits : (m : ℚ) + 1 ≤ 2 ^ (f.precision : Int) := by
    rw [zpow_natCast]
    exact_mod_cast hc.1
  have hlt : exponent + (Nat.toDigits 10 digits).length - 1 < 400 := by
    refine lt_of_ten_zpow_lt ?_
    calc (10 : ℚ) ^ (exponent + (Nat.toDigits 10 digits).length - 1)
      _ = 10 ^ ((Nat.toDigits 10 digits).length - 1 : Int) * 10 ^ exponent := by
        rw [← ten_zpow_add]
        congr 1
        ring
      _ ≤ digits * 10 ^ exponent :=
        mul_le_mul_of_nonneg_right (ten_zpow_length_le (digits_pos_of_rounds hm h))
          (ten_zpow_pos exponent).le
      _ < 2 ^ (f.precision : Int) * 2 ^ e := by nlinarith
      _ ≤ 2 ^ (f.precision + f.most) := by
        rw [← two_zpow_add]
        exact two_zpow_le (by linarith [hc.2.2.1])
      _ ≤ (2 ^ (f.precision + f.most).toNat : Nat) := two_zpow_le_toNat _
      _ ≤ 10 ^ (400 : Int) := by exact_mod_cast hf.large
  omega

/-- Decimals in the interval of a number are converted to that number. -/
theorem ofDecimal_of_rounds (hf : f.Moderate) (hm : 0 < m)
    (hc : Binary.Canonical f (.finite negative m e)) (h : Rounds f m e (digits * 10 ^ exponent)) :
    Binary.ofDecimal f negative digits exponent = .finite negative m e := by
  have hdigits := digits_pos_of_rounds hm h
  have hsmall := top_not_small hf hm hc h
  have hlarge := top_not_large hf hm hc h
  unfold Binary.ofDecimal
  simp only [Nat.pow_eq]
  rw [if_neg (by simp [hdigits.ne']; omega), if_neg (by omega)]
  split
  · rename_i hpos
    refine ofRatio_of_rounds hf negative ?_ Nat.one_pos hm hc ?_
    · exact Nat.mul_pos hdigits (Nat.pow_pos (by decide))
    · rw [zpow_toNat hpos] at h
      push_cast
      rwa [div_one]
  · rename_i hneg
    refine ofRatio_of_rounds hf negative hdigits (Nat.pow_pos (by decide)) hm hc ?_
    rw [zpow_neg_toNat (by omega)] at h
    push_cast
    rwa [div_eq_mul_inv]

theorem zero_canonical (hf : f.Moderate) (negative : Bool) :
    (Binary.zero f negative).Canonical f :=
  ⟨Nat.two_pow_pos _, le_refl _, hf.ordered, .inr rfl⟩

theorem ofDecimal_canonical (hf : f.Moderate) (negative : Bool) (digits : Nat) (exponent : Int) :
    (Binary.ofDecimal f negative digits exponent).Canonical f := by
  unfold Binary.ofDecimal
  simp only [Nat.pow_eq]
  split
  · exact zero_canonical hf negative
  split
  · trivial
  split
  · exact ofRatio_canonical hf negative Nat.one_pos
  · exact ofRatio_canonical hf negative (Nat.pow_pos (by decide))

/-! ## Digits -/

theorem natOfDigits_eq (ds : List Char) : natOfDigits ds = Nat.ofDigitChars 10 ds 0 :=
  Nat.ofDigitChars_eq_foldl.symm

theorem decimalDigits_digits (n : Nat) : ∀ c ∈ decimalDigits n, c.isDigit = true :=
  fun _ => Nat.isDigit_of_mem_toDigits (by decide) (by decide)

theorem zeros_digits (k : Nat) : ∀ c ∈ List.replicate k '0', c.isDigit = true := by
  intro c hc
  rw [List.eq_of_mem_replicate hc]
  rfl

theorem span_digits {ds : List Char} (rest : List Char) (hds : ∀ c ∈ ds, c.isDigit = true)
    (hrest : ∀ c ∈ rest.head?, c.isDigit = false) :
    (ds ++ rest).span Char.isDigit = (ds, rest) := by
  rw [List.span_eq_takeWhile_dropWhile, List.takeWhile_append_of_pos hds,
    List.dropWhile_append_of_pos hds]
  cases rest with
  | nil => simp
  | cons c rest => simp [hrest c rfl]

theorem readUnsigned_whole {ds : List Char} (hds : ∀ c ∈ ds, c.isDigit = true) (hne : ds ≠ []) :
    readUnsigned? f negative ds = some (Binary.ofDecimal f negative (natOfDigits ds) 0) := by
  have hspan := span_digits [] hds (by simp)
  rw [List.append_nil] at hspan
  unfold readUnsigned?
  rw [hspan]
  simp [hne, readExponent?]

theorem readUnsigned_point {whole places : List Char} (hw : ∀ c ∈ whole, c.isDigit = true)
    (hp : ∀ c ∈ places, c.isDigit = true) (hne : whole ≠ []) :
    readUnsigned? f negative (whole ++ '.' :: places) =
      some (Binary.ofDecimal f negative (natOfDigits (whole ++ places)) (-places.length)) := by
  have hspan := span_digits ('.' :: places) hw (by simp)
  have hspan' := span_digits [] hp (by simp)
  rw [List.append_nil] at hspan'
  unfold readUnsigned?
  rw [hspan]
  simp only [hspan']
  simp [hne, readExponent?]

theorem readUnsigned_letter {c : Char} {rest : List Char} (hc : c.isDigit = false) (hpoint : c ≠ '.') :
    readUnsigned? f negative (c :: rest) = none := by
  have hspan : (c :: rest).span Char.isDigit = ([], c :: rest) :=
    span_digits (c :: rest) (List.forall_mem_nil _) (fun d hd => by cases hd; exact hc)
  unfold readUnsigned?
  rw [hspan]
  simp [hpoint]

/-! ## Positional texts -/

/-- A text without an exponent is read as the decimal that it was written for. -/
theorem readUnsigned_positional (f : Format) (negative : Bool) (n : Nat) (exponent : Int) :
    ∃ (digits : Nat) (place : Int),
    readUnsigned? f negative (positional false (decimalDigits n) exponent) =
      some (Binary.ofDecimal f negative digits place) ∧
    (digits : ℚ) * 10 ^ place = n * 10 ^ exponent := by
  have hds := decimalDigits_digits n
  have hne : decimalDigits n ≠ [] := Nat.toDigits_ne_nil
  have hvalue : natOfDigits (decimalDigits n) = n := by
    rw [natOfDigits_eq]
    exact Nat.ofDigitChars_ten_toDigits
  unfold positional
  split
  · rename_i hpos
    simp only [Bool.false_eq_true, ↓reduceIte, List.append_nil]
    refine ⟨_, _, readUnsigned_whole (fun c hc => ?_) (by simp [hne]), ?_⟩
    · rcases List.mem_append.mp hc with hc | hc
      · exact hds c hc
      · exact zeros_digits _ c hc
    · rw [natOfDigits_eq, Nat.ofDigitChars_append, ← natOfDigits_eq, hvalue,
        Nat.ofDigitChars_replicate_zero, zpow_toNat hpos]
      push_cast
      ring
  dsimp only
  split
  · rename_i hneg hplaces
    refine ⟨_, _, readUnsigned_point (fun c hc => hds c (List.mem_of_mem_take hc))
      (fun c hc => hds c (List.mem_of_mem_drop hc)) ?_, ?_⟩
    · simp only [ne_eq, List.take_eq_nil_iff, hne, or_false]
      omega
    · rw [List.take_append_drop, hvalue, List.length_drop]
      congr 2
      omega
  · rename_i hneg hplaces
    generalize hzeros : List.replicate ((-exponent).toNat - (decimalDigits n).length) '0' = zeros
    have hall : ∀ c ∈ zeros ++ decimalDigits n, c.isDigit = true := by
      intro c hc
      rw [← hzeros] at hc
      rcases List.mem_append.mp hc with hc | hc
      · exact zeros_digits _ c hc
      · exact hds c hc
    have hread : readUnsigned? f negative (['0'] ++ '.' :: (zeros ++ decimalDigits n)) = _ :=
      readUnsigned_point (by simp) hall (by simp)
    refine ⟨_, _, hread, ?_⟩
    have hnat : natOfDigits (['0'] ++ (zeros ++ decimalDigits n)) = n := by
      rw [natOfDigits_eq, Nat.ofDigitChars_append, Nat.ofDigitChars_append, ← hzeros]
      simp [Nat.ofDigitChars_cons, ← natOfDigits_eq, hvalue]
    rw [hnat, ← hzeros, List.length_append, List.length_replicate]
    congr 2
    omega

theorem positional_head (n : Nat) (exponent : Int) : ∃ c rest,
    positional false (decimalDigits n) exponent = c :: rest ∧ c.isDigit = true := by
  obtain ⟨c, ds, hds⟩ := List.exists_cons_of_ne_nil (show decimalDigits n ≠ [] from Nat.toDigits_ne_nil)
  have hc := decimalDigits_digits n c (by simp [hds])
  unfold positional
  split
  · exact ⟨c, _, by rw [hds]; rfl, hc⟩
  dsimp only
  split
  · rename_i hplaces
    obtain ⟨k, hk⟩ : ∃ k, (decimalDigits n).length - (-exponent).toNat = k + 1 :=
      ⟨(decimalDigits n).length - (-exponent).toNat - 1, by omega⟩
    exact ⟨c, _, by rw [hk, hds]; rfl, hc⟩
  · exact ⟨'0', _, rfl, rfl⟩

/-! ## Numbers as text -/

def plainDigits (f : Format) (m : Nat) (e : Int) : List Char :=
  let d : Decimal := if m == 0 then ⟨0, 0⟩ else shortest f .up m e
  positional false (decimalDigits d.digits) d.exponent

theorem write_finite (f : Format) (negative : Bool) (m : Nat) (e : Int) :
    (Layout.plain.write f (.finite negative m e)).toList =
      (if negative then ['-'] else []) ++ plainDigits f m e :=
  String.toList_ofList

/-- The digits of a number are converted to that number. -/
theorem readUnsigned_plainDigits (hf : f.Moderate)
    (hc : Binary.Canonical f (.finite negative m e)) :
    readUnsigned? f negative (plainDigits f m e) = some (.finite negative m e) := by
  unfold plainDigits
  dsimp only
  split
  · rename_i hzero
    obtain rfl : m = 0 := by simpa using hzero
    obtain ⟨digits, place, hread, hvalue⟩ := readUnsigned_positional f negative 0 0
    have hten := ten_zpow_pos place
    obtain rfl : digits = 0 := by
      rw [Nat.cast_zero, zero_mul, mul_eq_zero] at hvalue
      rcases hvalue with hvalue | hvalue
      · exact_mod_cast hvalue
      · exact absurd hvalue hten.ne'
    obtain rfl : e = f.least := by
      rcases hc.2.2.2 with hfull | hleast
      · have := Nat.two_pow_pos (f.precision - 1)
        omega
      · exact hleast
    rw [hread]
    rfl
  · rename_i hm
    have hm' : 0 < m := Nat.pos_of_ne_zero (by simpa using hm)
    obtain ⟨digits, place, hread, hvalue⟩ := readUnsigned_positional f negative
      (shortest f .up m e).digits (shortest f .up m e).exponent
    have hrounds := shortest_rounds (e := e) hf .up hm' hc.1
    rw [Decimal.value, ← hvalue] at hrounds
    rw [hread, ofDecimal_of_rounds hf hm' hc hrounds]

theorem plainDigits_head (f : Format) (m : Nat) (e : Int) :
    ∃ c rest, plainDigits f m e = c :: rest ∧ c.isDigit = true :=
  positional_head _ _

theorem digit_no_sign (h : c.isDigit = true) : c ≠ '-' ∧ c ≠ '+' := by
  constructor <;> rintro rfl <;> cases h

/-- A number of the format is read back from its text. -/
theorem readFloat_write {x : Binary} (hf : f.Moderate) (hx : x.Canonical f) :
    readFloat f (Layout.plain.write f x).toList = .ok x := by
  cases x with
  | nan => simp [Layout.write, readFloat, readUnsigned_letter, readSpecial?]
  | infinity negative =>
    cases negative <;> simp [Layout.write, readFloat, readUnsigned_letter, readSpecial?]
  | finite negative m e =>
    have hread := readUnsigned_plainDigits hf hx
    rw [write_finite]
    unfold readFloat
    cases negative with
    | true => simp [hread]
    | false =>
      obtain ⟨c, rest, hdigits, hc⟩ := plainDigits_head f m e
      obtain ⟨hminus, hplus⟩ := digit_no_sign hc
      rw [hdigits] at hread ⊢
      simp [hminus, hplus, hread]

theorem write_ne_empty (f : Format) (x : Binary) : Layout.plain.write f x ≠ "" := by
  cases x with
  | nan => simp [Layout.write]
  | infinity negative => cases negative <;> simp [Layout.write]
  | finite negative m e =>
    intro h
    have hchars := congrArg String.toList h
    obtain ⟨c, rest, hdigits, _⟩ := plainDigits_head f m e
    rw [write_finite, hdigits] at hchars
    simp at hchars

/-- A number that is not negative has no minus sign in its text. -/
theorem write_head {x : Binary} (h : x.isNegative = false) :
    (Layout.plain.write f x).toList.head? ≠ some '-' := by
  cases x with
  | nan => simp [Layout.write]
  | infinity negative =>
    obtain rfl : negative = false := h
    simp [Layout.write]
  | finite negative m e =>
    obtain rfl : negative = false := h
    obtain ⟨c, rest, hdigits, hc⟩ := plainDigits_head f m e
    rw [write_finite, hdigits]
    simpa using (digit_no_sign hc).1

/-! ## What is read -/

theorem readUnsigned_some {cs : List Char} {x : Binary}
    (h : readUnsigned? f negative cs = some x) :
    ∃ digits exponent, x = Binary.ofDecimal f negative digits exponent := by
  have hmap : ∀ {b : Bool} {o : Option Int} {g : Int → Binary},
      (if b then none else o.map g) = some x → ∃ e, x = g e := by
    intro b o g h
    split at h
    · cases h
    · obtain ⟨e, _, he⟩ := Option.map_eq_some_iff.mp h
      exact ⟨e, he.symm⟩
  obtain ⟨e, he⟩ := hmap h
  exact ⟨_, _, he⟩

theorem readSpecial_some {cs : List Char} {x : Binary} (h : readSpecial? negative cs = some x) :
    x = .infinity negative ∨ x = .nan := by
  unfold readSpecial? at h
  dsimp only at h
  split at h
  · cases h
    exact .inl rfl
  split at h
  · cases h
    exact .inr rfl
  · cases h

theorem readFloat_ok {cs : List Char} {x : Binary} (h : readFloat f cs = .ok x) :
    ∃ negative, (negative = true → cs.head? = some '-') ∧
      ((∃ digits exponent, x = Binary.ofDecimal f negative digits exponent) ∨
        x = .infinity negative ∨ x = .nan) := by
  have hbody : ∀ {negative : Bool} {body : List Char},
      (readUnsigned? f negative body).or (readSpecial? negative body) = some x →
      (∃ digits exponent, x = Binary.ofDecimal f negative digits exponent) ∨
        x = .infinity negative ∨ x = .nan := by
    intro negative body h
    rcases Option.or_eq_some_iff.mp h with hread | ⟨_, hread⟩
    · exact .inl (readUnsigned_some hread)
    · exact .inr (readSpecial_some hread)
  unfold readFloat at h
  dsimp only at h
  split at h
  · cases h
  split at h
  · rename_i hread
    cases h
    split at hread
    · exact ⟨true, by simp, hbody hread⟩
    · exact ⟨false, by simp, hbody hread⟩
    · exact ⟨false, by simp, hbody hread⟩
  · cases h

/-- Whatever is read is a number of the format. -/
theorem readFloat_canonical {cs : List Char} {x : Binary} (hf : f.Moderate)
    (h : readFloat f cs = .ok x) : x.Canonical f := by
  obtain ⟨negative, _, hx | rfl | rfl⟩ := readFloat_ok h
  · obtain ⟨digits, exponent, rfl⟩ := hx
    exact ofDecimal_canonical hf negative digits exponent
  · trivial
  · trivial

theorem ofRatio_negative (negative : Bool) (n d : Nat) :
    (Binary.ofRatio f negative n d).isNegative = negative := by
  unfold Binary.ofRatio
  dsimp only
  split
  · rfl
  split
  · split <;> rfl
  · split <;> rfl

theorem ofDecimal_negative (negative : Bool) (digits : Nat) (exponent : Int) :
    (Binary.ofDecimal f negative digits exponent).isNegative = negative := by
  unfold Binary.ofDecimal
  simp only [Nat.pow_eq]
  split
  · rfl
  split
  · rfl
  split
  · exact ofRatio_negative negative _ _
  · exact ofRatio_negative negative _ _

/-- Only a literal with a minus sign gives a negative number. -/
theorem readFloat_nonnegative {cs : List Char} {x : Binary} (h : readFloat f cs = .ok x)
    (hcs : cs.head? ≠ some '-') : x.isNegative = false := by
  obtain ⟨negative, hsign, hx⟩ := readFloat_ok h
  obtain rfl : negative = false := by
    rw [← Bool.not_eq_true]
    exact fun hnegative => hcs (hsign hnegative)
  rcases hx with ⟨digits, exponent, rfl⟩ | rfl | rfl
  · exact ofDecimal_negative false digits exponent
  · rfl
  · rfl

end HeapQuery.Number
