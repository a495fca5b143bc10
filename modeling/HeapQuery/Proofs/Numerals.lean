import Mathlib.Data.Nat.Digits.Defs
import Mathlib.Tactic.Ring
import HeapQuery.Number.Literal
import HeapQuery.Proofs.Outcomes

namespace HeapQuery.Number

def withSign (negative : Bool) (n : Nat) : Int := if negative then -n else n

def IntegerRange.contains (range : IntegerRange) (n : Int) : Prop :=
  range.least ≤ n ∧ n ≤ range.greatest

theorem IntegerRange.signed_eq (bits : Nat) :
    signed bits = ⟨-2 ^ (bits - 1), 2 ^ (bits - 1) - 1⟩ := by
  simp [signed, Nat.one_shiftLeft]

theorem IntegerRange.unsigned_eq (bits : Nat) : unsigned bits = ⟨0, 2 ^ bits - 1⟩ := by
  simp [unsigned, Nat.one_shiftLeft]

variable {range : IntegerRange} {radix : Nat}

theorem digitValue_digitChar (hb : b ≤ 16) (hd : d < b) :
    digitValue? b (Nat.digitChar d) = some d := by
  have hall : ∀ b ≤ 16, ∀ d < b, digitValue? b (Nat.digitChar d) = some d := by decide
  exact hall b hb d hd

theorem digitChar_no_sign (hd : d < 16) : Nat.digitChar d ≠ '+' ∧ Nat.digitChar d ≠ '-' := by
  have hall : ∀ d < 16, Nat.digitChar d ≠ '+' ∧ Nat.digitChar d ≠ '-' := by decide
  exact hall d hd

theorem readDigits_append (xs ys : List Char) :
    readDigits range radix negative value (xs ++ ys) =
      readDigits range radix negative value xs >>= fun w => readDigits range radix negative w ys := by
  induction xs generalizing value with
  | nil => rfl
  | cons x xs ih =>
    simp only [List.cons_append, readDigits]
    cases digitValue? radix x with
    | none => rfl
    | some d =>
      dsimp only
      generalize (if negative then value * radix - d else value * radix + d) = next
      split
      · rfl
      split
      · rfl
      · exact ih

theorem readDigits_digit {m d : Nat} (negative : Bool) (hb : radix ≤ 16) (hd : d < radix)
    (hrange : range.contains (withSign negative (m * radix + d))) :
    readDigits range radix negative (withSign negative m) [Nat.digitChar d] =
      .ok (withSign negative (m * radix + d)) := by
  obtain ⟨hleast, hgreatest⟩ := hrange
  have hnext : (if negative then withSign negative m * radix - d
      else withSign negative m * radix + d) = withSign negative (m * radix + d) := by
    cases negative with
    | false => simp [withSign]
    | true =>
      simp only [withSign, ↓reduceIte]
      push_cast
      ring
  simp only [readDigits, digitValue_digitChar hb hd, hnext]
  rw [if_neg (by omega), if_neg (by omega)]

theorem contains_of_le {m n : Nat} (hzero : range.contains 0) (hmn : m ≤ n)
    (hrange : range.contains (withSign negative n)) : range.contains (withSign negative m) := by
  unfold IntegerRange.contains withSign at hrange ⊢
  unfold IntegerRange.contains at hzero
  cases negative <;> simp only [Bool.false_eq_true, ↓reduceIte] at hrange ⊢ <;> omega

/-- The digits of a number that is in range are read as that number, and so are all their starts. -/
theorem readDigits_toDigits {n : Nat} (negative : Bool) (hlow : 1 < radix) (hb : radix ≤ 16)
    (hzero : range.contains 0) (hrange : range.contains (withSign negative n)) :
    readDigits range radix negative 0 (Nat.toDigits radix n) = .ok (withSign negative n) := by
  induction n using Nat.strongRecOn with
  | ind n ih =>
    rw [Nat.toDigits_eq_if hlow]
    split
    · rename_i hsmall
      have hdigit := readDigits_digit (m := 0) negative hb hsmall
        (by simpa using hrange)
      simpa [withSign] using hdigit
    · rename_i hlarge
      have hsplit : n / radix * radix + n % radix = n := Nat.div_add_mod' n radix
      have hless : n / radix < n := Nat.div_lt_self (by omega) hlow
      have hstart := contains_of_le hzero hless.le hrange
      rw [readDigits_append, ih _ hless hstart]
      have hdigit := readDigits_digit (m := n / radix) negative hb
        (Nat.mod_lt n (by omega)) (by rwa [hsplit])
      rwa [hsplit] at hdigit

theorem toDigits_head (hlow : 1 < radix) (hb : radix ≤ 16) (n : Nat) :
    ∃ d rest, Nat.toDigits radix n = Nat.digitChar d :: rest ∧ d < 16 := by
  induction n using Nat.strongRecOn with
  | ind n ih =>
    rw [Nat.toDigits_eq_if hlow]
    split
    · exact ⟨n, [], rfl, by omega⟩
    · obtain ⟨d, rest, hdigits, hd⟩ := ih (n / radix) (Nat.div_lt_self (by omega) hlow)
      exact ⟨d, rest ++ [Nat.digitChar (n % radix)], by rw [hdigits, List.cons_append], hd⟩

theorem readInteger_toDigits {n : Nat} (hlow : 1 < radix) (hb : radix ≤ 16) (hzero : range.contains 0)
    (hrange : range.contains n) : readInteger range radix (Nat.toDigits radix n) = .ok (n : Int) := by
  have hread := readDigits_toDigits (n := n) false hlow hb hzero
    (by simpa [withSign] using hrange)
  obtain ⟨d, rest, hdigits, hd⟩ := toDigits_head hlow hb n
  obtain ⟨hplus, hminus⟩ := digitChar_no_sign hd
  rw [hdigits] at hread ⊢
  unfold readInteger
  split <;> simp_all [withSign]

theorem readInteger_minus {n : Nat} (hlow : 1 < radix) (hb : radix ≤ 16) (hzero : range.contains 0)
    (hleast : range.least < 0) (hrange : range.contains (-(n : Int))) :
    readInteger range radix ('-' :: Nat.toDigits radix n) = .ok (-(n : Int)) := by
  have hread := readDigits_toDigits (n := n) true hlow hb hzero
    (by simpa [withSign] using hrange)
  obtain ⟨d, rest, hdigits, _⟩ := toDigits_head hlow hb n
  rw [hdigits] at hread ⊢
  simpa [readInteger, hleast, withSign] using hread

/-- A written integer is read back. -/
theorem readInteger_toString {n : Int} (hzero : range.contains 0) (hleast : range.least < 0)
    (hrange : range.contains n) : readInteger range 10 (toString n).toList = .ok n := by
  cases n with
  | ofNat m =>
    have htext : (toString (Int.ofNat m)).toList = Nat.toDigits 10 m := by
      change (Nat.repr m).toList = _
      exact Nat.toList_repr
    rw [htext]
    exact readInteger_toDigits (by decide) (by decide) hzero hrange
  | negSucc m =>
    have htext : (toString (Int.negSucc m)).toList = '-' :: Nat.toDigits 10 (m + 1) := by
      change ("-" ++ Nat.repr (m + 1)).toList = _
      rw [String.toList_append, Nat.toList_repr]
      rfl
    rw [htext]
    exact readInteger_minus (by decide) (by decide) hzero hleast hrange

theorem readDigits_contains {value n : Int} {cs : List Char} (hvalue : range.contains value)
    (h : readDigits range radix negative value cs = .ok n) : range.contains n := by
  induction cs generalizing value with
  | nil =>
    cases h
    exact hvalue
  | cons c cs ih =>
    simp only [readDigits] at h
    split at h
    · cases h
    rename_i d _
    generalize (if negative then value * radix - d else value * radix + d) = next at h
    split at h
    · cases h
    split at h
    · cases h
    · rename_i hleast hgreatest
      exact ih ⟨not_lt.mp hleast, not_lt.mp hgreatest⟩ h

theorem readDigits_nonnegative {value n : Int} {cs : List Char} (hvalue : 0 ≤ value)
    (h : readDigits range radix false value cs = .ok n) : 0 ≤ n := by
  induction cs generalizing value with
  | nil =>
    cases h
    exact hvalue
  | cons c cs ih =>
    simp only [readDigits, Bool.false_eq_true, ↓reduceIte] at h
    split at h
    · cases h
    split at h
    · cases h
    split at h
    · cases h
    · exact ih (Int.add_nonneg (Int.mul_nonneg hvalue (Int.natCast_nonneg _))
        (Int.natCast_nonneg _)) h

/-- An integer that is read lies in the range that was asked for. -/
theorem readInteger_contains {n : Int} {cs : List Char} (hzero : range.contains 0)
    (h : readInteger range radix cs = .ok n) : range.contains n := by
  unfold readInteger at h
  split at h
  · cases h
  · cases h
  · cases h
  · exact readDigits_contains hzero h
  · split at h
    · exact readDigits_contains hzero h
    · cases h
  · exact readDigits_contains hzero h

/-- Only a text with a minus sign gives a negative integer. -/
theorem readInteger_nonnegative {n : Int} {cs : List Char} (h : readInteger range radix cs = .ok n)
    (hcs : cs.head? ≠ some '-') : 0 ≤ n := by
  unfold readInteger at h
  split at h
  · cases h
  · cases h
  · cases h
  · exact readDigits_nonnegative (Int.le_refl 0) h
  · exact absurd rfl hcs
  · exact readDigits_nonnegative (Int.le_refl 0) h

theorem toString_head {n : Int} (h : 0 ≤ n) : (toString n).toList.head? ≠ some '-' := by
  obtain ⟨m, rfl⟩ := Int.eq_ofNat_of_zero_le h
  have htext : (toString (m : Int)).toList = Nat.toDigits 10 m := by
    change (Nat.repr m).toList = _
    exact Nat.toList_repr
  obtain ⟨d, rest, hdigits, hd⟩ := toDigits_head (show 1 < 10 by decide) (by decide) m
  rw [htext, hdigits, List.head?_cons, ne_eq, Option.some.injEq]
  exact (digitChar_no_sign hd).2

/-- Digits and the number that they stand for in a radix. -/
def Denotes (radix : Nat) (digits : List Char) (n : Nat) : Prop :=
  ∃ values, List.Forall₂ (fun c d => digitValue? radix c = some d) digits values ∧
    Nat.ofDigits radix values.reverse = n

/-- A number in digits, at least one of them, behind a plus sign or without it. -/
def Spells (radix : Nat) (cs : List Char) (n : Nat) : Prop :=
  ∃ digits, (cs = digits ∨ cs = '+' :: digits) ∧ digits ≠ [] ∧ Denotes radix digits n

/-- The digit after `m` goes to the number before the digits behind it. -/
theorem ofDigits_behind (radix m d : Nat) (values : List Nat) :
    m * radix ^ (values.length + 1) + Nat.ofDigits radix (d :: values).reverse =
      (m * radix + d) * radix ^ values.length + Nat.ofDigits radix values.reverse := by
  rw [List.reverse_cons, Nat.ofDigits_append, Nat.ofDigits_singleton, List.length_reverse]
  ring

/-- Digits are read behind others as long as the number that all of them stand for fits. -/
theorem readDigits_unsigned {bits m : Nat} {n : Int} (cs : List Char) (hradix : 0 < radix)
    (hm : m < 2 ^ bits) : readDigits (.unsigned bits) radix false m cs = .ok n ↔
      ∃ values, List.Forall₂ (fun c d => digitValue? radix c = some d) cs values ∧
        (m * radix ^ values.length + Nat.ofDigits radix values.reverse : Nat) = n ∧ n < 2 ^ bits := by
  induction cs generalizing m with
  | nil =>
    simp only [readDigits, Except.ok.injEq, List.forall₂_nil_left_iff, exists_eq_left,
      List.length_nil, pow_zero, mul_one, List.reverse_nil, Nat.ofDigits_nil, Nat.add_zero]
    refine (and_iff_left_of_imp ?_).symm
    rintro rfl
    exact_mod_cast hm
  | cons c cs ih =>
    simp only [List.forall₂_cons_left_iff]
    cases hd : digitValue? radix c with
    | none => simp [readDigits, hd]
    | some d =>
      have hnext : (m : Int) * radix + d = (m * radix + d : Nat) := by push_cast; rfl
      have hbound : (2 : Int) ^ bits = (2 ^ bits : Nat) := by push_cast; rfl
      simp only [readDigits, hd, Bool.false_eq_true, ↓reduceIte, hnext,
        IntegerRange.unsigned_eq, Option.some.injEq]
      rw [if_neg (by omega)]
      by_cases hfits : m * radix + d < 2 ^ bits
      · rw [if_neg (by omega), ← IntegerRange.unsigned_eq, ih hfits]
        constructor
        · rintro ⟨values, hvalues, hn⟩
          refine ⟨d :: values, ⟨d, values, rfl, hvalues, rfl⟩, ?_⟩
          rwa [List.length_cons, ofDigits_behind]
        · rintro ⟨_, ⟨_, values, rfl, hvalues, rfl⟩, hn⟩
          refine ⟨values, hvalues, ?_⟩
          rwa [List.length_cons, ofDigits_behind] at hn
      · rw [if_pos (by omega)]
        simp only [reduceCtorEq, false_iff]
        rintro ⟨_, ⟨_, values, rfl, hvalues, rfl⟩, hn, hless⟩
        rw [List.length_cons, ofDigits_behind] at hn
        have hpow : 0 < radix ^ values.length := Nat.pow_pos hradix
        have hle : m * radix + d ≤ (m * radix + d) * radix ^ values.length :=
          Nat.le_mul_of_pos_right _ hpow
        omega

theorem not_denotes_sign {c : Char} (hc : c = '+' ∨ c = '-') (cs : List Char) (n : Nat) :
    ¬ Denotes radix (c :: cs) n := by
  rintro ⟨values, hvalues, _⟩
  obtain ⟨d, _, hd, _⟩ := List.forall₂_cons_left_iff.mp hvalues
  rcases hc with rfl | rfl <;> cases hd

theorem spells_plus {cs : List Char} {n : Nat} :
    Spells radix ('+' :: cs) n ↔ cs ≠ [] ∧ Denotes radix cs n := by
  constructor
  · rintro ⟨digits, rfl | hcs, hne, hden⟩
    · exact absurd hden (not_denotes_sign (.inl rfl) cs n)
    · cases hcs
      exact ⟨hne, hden⟩
  · rintro ⟨hne, hden⟩
    exact ⟨cs, .inr rfl, hne, hden⟩

theorem spells_unsigned {cs : List Char} {n : Nat} (h : cs.head? ≠ some '+') :
    Spells radix cs n ↔ cs ≠ [] ∧ Denotes radix cs n := by
  constructor
  · rintro ⟨digits, rfl | rfl, hne, hden⟩
    · exact ⟨hne, hden⟩
    · exact absurd rfl h
  · rintro ⟨hne, hden⟩
    exact ⟨cs, .inl rfl, hne, hden⟩

theorem not_spells_minus (cs : List Char) (n : Nat) : ¬ Spells radix ('-' :: cs) n := by
  rw [spells_unsigned (by simp)]
  rintro ⟨_, hden⟩
  exact not_denotes_sign (.inr rfl) cs n hden

/-- Where there are no negative numbers, the texts that are read are those that spell a number that
fits. -/
theorem readInteger_unsigned {bits : Nat} {cs : List Char} {n : Int} (hradix : 0 < radix) :
    readInteger (.unsigned bits) radix cs = .ok n ↔
      ∃ id : Nat, Spells radix cs id ∧ (id : Int) = n ∧ id < 2 ^ bits := by
  have hdigits : ∀ digits, readDigits (.unsigned bits) radix false 0 digits = .ok n ↔
      ∃ id : Nat, Denotes radix digits id ∧ (id : Int) = n ∧ id < 2 ^ bits := by
    intro digits
    have hstart := readDigits_unsigned (m := 0) (n := n) digits hradix (Nat.two_pow_pos bits)
    simp only [Nat.zero_mul, Nat.zero_add, Nat.cast_zero] at hstart
    rw [hstart]
    constructor
    · rintro ⟨values, hvalues, rfl, hless⟩
      exact ⟨_, ⟨values, hvalues, rfl⟩, rfl, by exact_mod_cast hless⟩
    · rintro ⟨_, ⟨values, hvalues, rfl⟩, rfl, hless⟩
      exact ⟨values, hvalues, rfl, by exact_mod_cast hless⟩
  unfold readInteger
  split
  · simp [spells_unsigned (show ([] : List Char).head? ≠ some '+' by simp)]
  · simp [spells_plus]
  · simp [not_spells_minus]
  · rename_i rest hne
    have hsome : rest ≠ [] := hne
    simp [spells_plus, hsome, hdigits]
  · simp [not_spells_minus, IntegerRange.unsigned_eq]
  · rename_i hnil _ _ hplus _
    have hsome : cs ≠ [] := hnil
    have hhead : cs.head? ≠ some '+' := by
      intro hhead
      obtain ⟨rest, rfl⟩ := List.head?_eq_some_iff.mp hhead
      exact hplus rest rfl
    simp [spells_unsigned hhead, hsome, hdigits]

end HeapQuery.Number
