import HeapQuery.Text.Case

namespace HeapQuery.Text

def isAscii (text : String) : Bool := text.toList.all fun c => c.toNat < 128

def isUpperAscii (c : Char) : Bool := 0x41 ≤ c.toNat && c.toNat ≤ 0x5a

theorem toLower_of_upper (h : isUpperAscii c = true) : c.toLower = shiftedBy c.toNat 32 := by
  have hall : ∀ n < 26, (Char.ofNat (0x41 + n)).toLower = shiftedBy (0x41 + n) 32 := by decide
  simp only [isUpperAscii, Bool.and_eq_true, decide_eq_true_eq] at h
  obtain ⟨n, hn⟩ : ∃ n, c.toNat = 0x41 + n := ⟨c.toNat - 0x41, by omega⟩
  have hc : c = Char.ofNat (0x41 + n) := by rw [← hn, Char.ofNat_toNat]
  rw [hn, ← hall n (by omega), ← hc]

theorem toLower_of_not_upper (h : isUpperAscii c = false) : c.toLower = c := by
  unfold Char.toLower
  split
  · rename_i hc
    have hupper : isUpperAscii c = true := by
      obtain ⟨hlow, hhigh⟩ := hc
      simp only [isUpperAscii, Bool.and_eq_true, decide_eq_true_eq]
      exact ⟨hlow, hhigh⟩
    rw [h] at hupper
    cases hupper
  · rfl

theorem lowerRuns_ascii : ∃ others, lowerRuns = ⟨0x41, 0x5a, 1, 32⟩ :: others ∧
    ∀ r ∈ others, 128 ≤ r.first := by
  refine ⟨lowerRuns.tail, rfl, ?_⟩
  decide +kernel

theorem find_ascii_run (h : c.toNat < 128) :
    lowerRuns.find? (·.covers c.toNat) =
      if isUpperAscii c then some ⟨0x41, 0x5a, 1, 32⟩ else none := by
  obtain ⟨others, hruns, hothers⟩ := lowerRuns_ascii
  rw [hruns, List.find?_cons]
  have hfirst : CaseRun.covers ⟨0x41, 0x5a, 1, 32⟩ c.toNat = isUpperAscii c := by
    simp [CaseRun.covers, isUpperAscii, Nat.mod_one]
  rw [hfirst]
  cases isUpperAscii c with
  | true => rfl
  | false =>
    simp only [Bool.false_eq_true, ↓reduceIte, List.find?_eq_none]
    intro r hr
    have hlow := hothers r hr
    have hnot : ¬ r.first ≤ c.toNat := by omega
    simp [CaseRun.covers, hnot]

theorem lowerChar_ascii (h : c.toNat < 128) : lowerChar c = c.toLower := by
  unfold lowerChar
  rw [find_ascii_run h]
  cases hupper : isUpperAscii c with
  | true => exact (toLower_of_upper hupper).symm
  | false => exact (toLower_of_not_upper hupper).symm

/-- No run leads to an ASCII capital. -/
theorem lowerRuns_leave_capitals : ∀ r ∈ lowerRuns,
    0x5a < (r.first : Int) + r.shift ∨ (r.last : Int) + r.shift < 0x41 := by
  decide +kernel

theorem toNat_ofNat_of_upper (h : isUpperAscii (Char.ofNat n) = true) :
    (Char.ofNat n).toNat = n := by
  by_cases hvalid : n.isValidChar
  · unfold Char.ofNat
    rw [dif_pos hvalid]
    rfl
  · unfold Char.ofNat at h
    rw [dif_neg hvalid] at h
    exact absurd h (by decide)

theorem lowerChar_not_upper (c : Char) : isUpperAscii (lowerChar c) = false := by
  unfold lowerChar
  split
  · rename_i r hr
    have hcovers := List.find?_some hr
    have hrun := lowerRuns_leave_capitals r (List.mem_of_find?_eq_some hr)
    simp only [CaseRun.covers, Bool.and_eq_true, decide_eq_true_eq] at hcovers
    rw [← Bool.not_eq_true]
    intro hupper
    unfold shiftedBy at hupper
    have hnat := toNat_ofNat_of_upper hupper
    rw [isUpperAscii, hnat, Bool.and_eq_true, decide_eq_true_eq, decide_eq_true_eq] at hupper
    omega
  · rename_i hnone
    cases hupper : isUpperAscii c with
    | false => rfl
    | true =>
      have hlt : c.toNat < 128 := by
        simp only [isUpperAscii, Bool.and_eq_true, decide_eq_true_eq] at hupper
        omega
      rw [find_ascii_run hlt, hupper] at hnone
      cases hnone

theorem lowerFrom_ascii (before : List Char) (h : cs.all (fun c => c.toNat < 128) = true) :
    lowerFrom before cs = cs.map Char.toLower := by
  induction cs generalizing before with
  | nil => rfl
  | cons c cs ih =>
    simp only [List.all_cons, Bool.and_eq_true, decide_eq_true_eq] at h
    have hsigma : (c == '\u03a3') = false := by
      rw [beq_eq_false_iff_ne]
      rintro rfl
      exact absurd h.1 (by decide)
    have hdot : (c == '\u0130') = false := by
      rw [beq_eq_false_iff_ne]
      rintro rfl
      exact absurd h.1 (by decide)
    simp only [lowerFrom, hsigma, hdot, Bool.false_eq_true, ↓reduceIte, lowerChar_ascii h.1, ih _ h.2,
      List.singleton_append, List.map_cons]

theorem lower_ascii (h : isAscii text = true) :
    lower text = String.ofList (text.toList.map Char.toLower) := by
  rw [lower, lowerChars, lowerFrom_ascii [] h]

/-- For ASCII texts the two ways to compare without case agree. -/
theorem lower_eq_of_equalsIgnoringAsciiCase (ha : isAscii a = true) (hb : isAscii b = true)
    (h : equalsIgnoringAsciiCase a b = true) : lower a = lower b := by
  rw [lower_ascii ha, lower_ascii hb]
  exact congrArg String.ofList (by simpa [equalsIgnoringAsciiCase] using h)

theorem lowerFrom_not_upper (before cs : List Char) :
    ∀ c ∈ lowerFrom before cs, isUpperAscii c = false := by
  induction cs generalizing before with
  | nil => simp [lowerFrom]
  | cons c cs ih =>
    intro d hd
    simp only [lowerFrom] at hd
    rcases List.mem_append.mp hd with hd | hd
    · split at hd
      · rw [List.mem_singleton] at hd
        subst hd
        split <;> decide
      split at hd
      · simp only [List.mem_cons, List.not_mem_nil, or_false] at hd
        rcases hd with rfl | rfl <;> decide
      · rw [List.mem_singleton] at hd
        subst hd
        exact lowerChar_not_upper c
    · exact ih _ d hd

/-- Lower-casing has no effect on an ASCII text without capitals. -/
theorem lower_eq_self (ha : isAscii text = true)
    (h : ∀ c ∈ text.toList, isUpperAscii c = false) : lower text = text := by
  rw [lower_ascii ha]
  apply String.toList_inj.mp
  rw [String.toList_ofList]
  refine (List.map_congr_left fun c hc => ?_).trans (List.map_id text.toList)
  exact toLower_of_not_upper (h c hc)

end HeapQuery.Text
