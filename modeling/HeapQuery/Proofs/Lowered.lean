import HeapQuery.Proofs.CategoryRuns
import HeapQuery.Proofs.LowerCase

namespace HeapQuery.Text

def CaseRun.target (r : CaseRun) (code : Nat) : Nat := ((code : Int) + r.shift).toNat

/-- No code of `r` is one of `first`, …, `last`, where every second one counts if `skips` holds. -/
def CaseRun.misses (r : CaseRun) (first last : Nat) (skips : Bool) : Bool :=
  last.blt r.first || r.last.blt first ||
  (skips && r.stride.beq 2 && ((first + r.first) % 2).beq 1)

/-- The codes that lower-casing changes: those of the runs and `İ`. -/
def changedRuns : List CaseRun := ⟨0x130, 0x130, 1, 0⟩ :: lowerRuns

def CaseRun.settles (r : CaseRun) : Bool :=
  changedRuns.all fun s =>
    s.misses (r.target r.first) (r.target r.last) (r.stride.beq 2 || r.first.beq r.last)

def isLowered (c : Char) : Bool := changedRuns.all fun r => !r.covers c.toNat

theorem lowerRuns_settle : lowerRuns.all CaseRun.settles = true := by decide +kernel

theorem lowerRuns_positive : ∀ r ∈ lowerRuns, 0 ≤ (r.first : Int) + r.shift := by decide +kernel

theorem isLowered_zero : isLowered (Char.ofNat 0) = true := by decide +kernel

theorem CaseRun.covers_iff {r : CaseRun} {code : Nat} :
    r.covers code = true ↔ r.first ≤ code ∧ code ≤ r.last ∧ (code - r.first) % r.stride = 0 := by
  simp [covers, and_assoc]

theorem CaseRun.covers_target {r s : CaseRun} {code : Nat}
    (hpositive : 0 ≤ (r.first : Int) + r.shift) (h : r.settles = true) (hs : s ∈ changedRuns)
    (hcode : r.covers code = true) : s.covers (r.target code) = false := by
  have hmisses := List.all_eq_true.mp h s hs
  rw [← Bool.not_eq_true]
  intro hcovers
  obtain ⟨hfirst, hlast, hstride⟩ := covers_iff.mp hcode
  obtain ⟨hfirst', hlast', hstride'⟩ := covers_iff.mp hcovers
  simp only [misses, Bool.or_eq_true, Bool.and_eq_true, Nat.blt_eq, Nat.beq_eq] at hmisses
  unfold target at hmisses hfirst' hlast' hstride'
  rcases hmisses with (hbelow | habove) | ⟨⟨htwo | hone, htwo'⟩, hodd⟩
  · omega
  · omega
  · -- Both runs go in steps of two, and they start on codes of different parity.
    rw [htwo] at hstride
    rw [htwo'] at hstride'
    omega
  · rw [htwo'] at hstride'
    omega

theorem toNat_ofNat_or_zero (n : Nat) :
    (Char.ofNat n).toNat = n ∨ Char.ofNat n = Char.ofNat 0 := by
  by_cases hvalid : n.isValidChar
  · left
    unfold Char.ofNat
    rw [dif_pos hvalid]
    rfl
  · right
    unfold Char.ofNat
    rw [dif_neg hvalid]
    rfl

/-- What a run leads to stays as it is. -/
theorem isLowered_shifted {r : CaseRun} {code : Nat} (hr : r ∈ lowerRuns)
    (hcode : r.covers code = true) : isLowered (shiftedBy code r.shift) = true := by
  unfold shiftedBy
  rcases toNat_ofNat_or_zero ((code : Int) + r.shift).toNat with hnat | hzero
  · rw [isLowered, hnat, List.all_eq_true]
    intro s hs
    rw [Bool.not_eq_true']
    exact CaseRun.covers_target (lowerRuns_positive r hr)
      (List.all_eq_true.mp lowerRuns_settle r hr) hs hcode
  · rw [hzero]
    exact isLowered_zero

theorem isLowered_lowerChar (h : c ≠ '\u0130') : isLowered (lowerChar c) = true := by
  unfold lowerChar
  split
  · rename_i r hr
    exact isLowered_shifted (List.mem_of_find?_eq_some hr) (by simpa using List.find?_some hr)
  · rename_i hnone
    have hcode : c.toNat ≠ 0x130 := by
      intro he
      refine h ?_
      rw [← Char.ofNat_toNat c, he]
    rw [isLowered, changedRuns, List.all_cons, Bool.and_eq_true]
    constructor
    · simp only [CaseRun.covers, Bool.not_eq_true', Bool.and_eq_false_iff, decide_eq_false_iff_not]
      omega
    · rw [List.all_eq_true]
      intro r hr
      simpa using List.find?_eq_none.mp hnone r hr

theorem lowerFrom_isLowered (before cs : List Char) :
    ∀ c ∈ lowerFrom before cs, isLowered c = true := by
  have hsigma : isLowered '\u03c2' = true ∧ isLowered '\u03c3' = true := by decide +kernel
  have hdot : isLowered 'i' = true ∧ isLowered '\u0307' = true := by decide +kernel
  induction cs generalizing before with
  | nil => simp [lowerFrom]
  | cons c cs ih =>
    intro d hd
    simp only [lowerFrom] at hd
    rcases List.mem_append.mp hd with hd | hd
    · split at hd
      · rw [List.mem_singleton] at hd
        subst hd
        split
        · exact hsigma.1
        · exact hsigma.2
      split at hd
      · simp only [List.mem_cons, List.not_mem_nil, or_false] at hd
        rcases hd with rfl | rfl
        · exact hdot.1
        · exact hdot.2
      · rename_i hc
        rw [List.mem_singleton] at hd
        subst hd
        exact isLowered_lowerChar (by simpa using hc)
    · exact ih _ d hd

theorem lowerChar_of_isLowered (h : isLowered c = true) : lowerChar c = c := by
  have hnone : lowerRuns.find? (·.covers c.toNat) = none := by
    rw [List.find?_eq_none]
    intro r hr
    simpa using List.all_eq_true.mp h r (List.mem_cons_of_mem _ hr)
  rw [lowerChar, hnone]

theorem lowerFrom_of_isLowered (before : List Char) (h : ∀ c ∈ cs, isLowered c = true) :
    lowerFrom before cs = cs := by
  induction cs generalizing before with
  | nil => rfl
  | cons c cs ih =>
    have hc := h c List.mem_cons_self
    have hsigma : (c == '\u03a3') = false := by
      rw [beq_eq_false_iff_ne]
      rintro rfl
      exact absurd hc (by decide +kernel)
    have hdot : (c == '\u0130') = false := by
      rw [beq_eq_false_iff_ne]
      rintro rfl
      exact absurd hc (by decide +kernel)
    simp only [lowerFrom, hsigma, hdot, Bool.false_eq_true, ↓reduceIte,
      lowerChar_of_isLowered hc, ih _ fun d hd => h d (List.mem_cons_of_mem _ hd),
      List.singleton_append]

/-- Lower-casing leaves a text as it is whose characters are all lower-cased. -/
theorem lower_of_isLowered (h : ∀ c ∈ text.toList, isLowered c = true) : lower text = text := by
  rw [lower, lowerChars, lowerFrom_of_isLowered [] h, String.ofList_toList]

/-- A text in small letters stays as it is. -/
theorem lower_lower (text : String) : lower (lower text) = lower text := by
  apply lower_of_isLowered
  intro c hc
  rw [lower, String.toList_ofList] at hc
  exact lowerFrom_isLowered [] _ c hc

theorem toNat_toLower (h : isUpperAscii c = true) : c.toLower.toNat = c.toNat + 32 := by
  have hall : ∀ n < 26, (Char.ofNat (0x41 + n)).toLower.toNat = 0x41 + n + 32 := by decide
  simp only [isUpperAscii, Bool.and_eq_true, decide_eq_true_eq] at h
  obtain ⟨n, hn⟩ : ∃ n, c.toNat = 0x41 + n := ⟨c.toNat - 0x41, by omega⟩
  have hc : c = Char.ofNat (0x41 + n) := by rw [← hn, Char.ofNat_toNat]
  rw [hn, ← hall n (by omega), ← hc]

theorem isUpperAscii_toLower (c : Char) : isUpperAscii c.toLower = false := by
  cases h : isUpperAscii c with
  | false => rw [toLower_of_not_upper h, h]
  | true =>
    have hcode := toNat_toLower h
    rw [isUpperAscii, Bool.and_eq_true, decide_eq_true_eq, decide_eq_true_eq] at h
    simp only [isUpperAscii, Bool.and_eq_false_iff, decide_eq_false_iff_not]
    omega

theorem toLower_toLower (c : Char) : c.toLower.toLower = c.toLower :=
  toLower_of_not_upper (isUpperAscii_toLower c)

theorem category_of_upper (h : isUpperAscii c = true) :
    category c = .lu ∧ category c.toLower = .ll := by
  have hcode := toNat_toLower h
  simp only [isUpperAscii, Bool.and_eq_true, decide_eq_true_eq] at h
  exact ⟨Category.capital_category h.1 h.2, Category.small_category (by omega) (by omega)⟩

/-- What does not tell the two cases of an ASCII letter apart. -/
theorem same_toLower {f : Char → β} (h : ∀ c, isUpperAscii c = true → f c.toLower = f c)
    (c : Char) : f c.toLower = f c := by
  cases hupper : isUpperAscii c with
  | false => rw [toLower_of_not_upper hupper]
  | true => exact h c hupper

theorem isCased_toLower (c : Char) : isCased c.toLower = isCased c := by
  apply same_toLower (f := isCased)
  intro c h
  obtain ⟨hupper, hlower⟩ := category_of_upper h
  rw [isCased, isCased, hupper, hlower]
  rfl

theorem isCaseIgnorable_toLower (c : Char) : isCaseIgnorable c.toLower = isCaseIgnorable c := by
  apply same_toLower (f := isCaseIgnorable)
  intro c h
  obtain ⟨hupper, hlower⟩ := category_of_upper h
  rw [isCaseIgnorable, isCaseIgnorable, hupper, hlower]
  rfl

theorem lowerChar_toLower (c : Char) : lowerChar c.toLower = lowerChar c := by
  apply same_toLower (f := lowerChar)
  intro c h
  have hcode := toNat_toLower h
  rw [isUpperAscii, Bool.and_eq_true, decide_eq_true_eq, decide_eq_true_eq] at h
  rw [lowerChar_ascii (by omega), lowerChar_ascii (by omega), toLower_toLower]

/-- A character outside ASCII is no ASCII letter of either case. -/
theorem toLower_beq (hd : 128 ≤ d.toNat) (c : Char) : (c.toLower == d) = (c == d) := by
  apply same_toLower (f := (· == d))
  intro c h
  have hcode := toNat_toLower h
  rw [isUpperAscii, Bool.and_eq_true, decide_eq_true_eq, decide_eq_true_eq] at h
  have hupper : (c == d) = false := by
    rw [beq_eq_false_iff_ne]
    rintro rfl
    omega
  have hlower : (c.toLower == d) = false := by
    rw [beq_eq_false_iff_ne]
    rintro rfl
    omega
  rw [hupper, hlower]

theorem startsCased_toLower (cs : List Char) :
    startsCased (cs.map Char.toLower) = startsCased cs := by
  have hignorable : isCaseIgnorable ∘ Char.toLower = isCaseIgnorable := by
    funext c
    rw [Function.comp_apply, isCaseIgnorable_toLower]
  rw [startsCased, startsCased, List.dropWhile_map, List.head?_map, Option.any_map, hignorable]
  simp only [isCased_toLower]

theorem lowerFrom_toLower (before cs : List Char) :
    lowerFrom (before.map Char.toLower) (cs.map Char.toLower) = lowerFrom before cs := by
  induction cs generalizing before with
  | nil => rfl
  | cons c cs ih =>
    have hrest := ih (c :: before)
    simp only [List.map_cons] at hrest
    have hsigma := toLower_beq (d := '\u03a3') (by decide) c
    have hdotted := toLower_beq (d := '\u0130') (by decide) c
    simp only [List.map_cons, lowerFrom, hsigma, hdotted, startsCased_toLower, lowerChar_toLower,
      hrest]

/-- Texts that differ in the case of ASCII letters only have the same lower-case form. -/
theorem lower_eq_of_sameLetters (h : equalsIgnoringAsciiCase a b = true) : lower a = lower b := by
  have hsame : a.toList.map Char.toLower = b.toList.map Char.toLower := by
    simpa [equalsIgnoringAsciiCase] using h
  rw [lower, lower, lowerChars, lowerChars, ← lowerFrom_toLower [] a.toList,
    ← lowerFrom_toLower [] b.toList, hsame]

end HeapQuery.Text
