import HeapQuery.Label
import HeapQuery.Text.Blank
import HeapQuery.Proofs.FloatTexts

namespace HeapQuery

namespace Text

/-- The inner text is what is left without the white space at both ends. -/
structure Trims (text inner : List Char) : Prop where
  around : ∃ before after, text = before ++ (inner ++ after) ∧ (∀ c ∈ before, IsWhite c) ∧
    ∀ c ∈ after, IsWhite c
  head : ∀ c ∈ inner.head?, ¬ IsWhite c
  last : ∀ c ∈ inner.getLast?, ¬ IsWhite c

variable {text inner : List Char}

theorem trimStart_white {before : List Char} (h : ∀ c ∈ before, IsWhite c) (rest : List Char) :
    trimStart (before ++ rest) = trimStart rest :=
  List.dropWhile_append_of_pos fun c hc => isBlank_iff.mpr (h c hc)

theorem trimEnd_white {after : List Char} (h : ∀ c ∈ after, IsWhite c) (rest : List Char) :
    trimEnd (rest ++ after) = trimEnd rest := by
  rw [trimEnd, List.reverse_append, List.dropWhile_append_of_pos, trimEnd]
  intro c hc
  exact isBlank_iff.mpr (h c (List.mem_reverse.mp hc))

theorem trimStart_self (h : ∀ c ∈ text.head?, ¬ IsWhite c) : trimStart text = text := by
  cases text with
  | nil => rfl
  | cons c rest => exact List.dropWhile_cons_of_neg (mt isBlank_iff.mp (h c rfl))

theorem trimEnd_self (h : ∀ c ∈ text.getLast?, ¬ IsWhite c) : trimEnd text = text := by
  have hreverse : trimStart text.reverse = text.reverse :=
    trimStart_self (by rwa [List.head?_reverse])
  rw [trimStart] at hreverse
  rw [trimEnd, hreverse, List.reverse_reverse]

theorem trims_iff : Trims text inner ↔ trimEnd (trimStart text) = inner := by
  constructor
  · rintro ⟨⟨before, after, rfl, hbefore, hafter⟩, hhead, hlast⟩
    rw [trimStart_white hbefore]
    cases inner with
    | nil =>
      have hnone := trimStart_white hafter []
      rw [List.append_nil] at hnone
      rw [List.nil_append, hnone]
      rfl
    | cons c rest =>
      rw [trimStart_self (by simpa using hhead), trimEnd_white hafter, trimEnd_self hlast]
  · rintro rfl
    obtain ⟨after, hafter, hwhite⟩ := trimEnd_append (trimStart text)
    refine ⟨⟨text.takeWhile isBlank, after, ?_, fun c hc => ?_, fun c hc => ?_⟩, ?_, ?_⟩
    · rw [hafter]
      exact List.takeWhile_append_dropWhile.symm
    · exact isBlank_iff.mp (List.all_eq_true.mp List.all_takeWhile c hc)
    · exact isBlank_iff.mp (List.all_eq_true.mp hwhite c hc)
    · intro c hc
      have hhead := head_trim (String.ofList text) c
      simp only [trim, String.toList_ofList] at hhead
      simp [← isBlank_iff, hhead hc]
    · intro c hc
      have hlast := List.head?_dropWhile_not isBlank (trimStart text).reverse
      rw [trimEnd, List.getLast?_reverse] at hc
      rw [hc] at hlast
      simpa [← isBlank_iff] using hlast

end Text

namespace Label

/-- The digits are a sort key of 32 bits. -/
structure IsKey (digits : List Char) (key : Nat) : Prop where
  nonempty : digits ≠ []
  decimal : ∀ c ∈ digits, '0' ≤ c ∧ c ≤ '9'
  value : Nat.ofDigitChars 10 digits 0 = key
  fits : key < 2 ^ 32

/-- A label is a sort key and a text with a bar between them, or all of it is the text and the key
is the greatest one. -/
inductive Parts : List Char → Nat × String → Prop where
  | keyed : IsKey digits key → Parts (digits ++ '|' :: label) (key, String.ofList label)
  | plain : (∀ digits key label, IsKey digits key → text ≠ digits ++ '|' :: label) →
      Parts text (2 ^ 32 - 1, String.ofList text)

variable {text digits : List Char} {key : Nat} {label : Nat × String}

theorem isKey_iff : IsKey digits key ↔ key? digits = some key := by
  have hall : (!digits.isEmpty && digits.all Char.isDigit) = true ↔
      digits ≠ [] ∧ ∀ c ∈ digits, '0' ≤ c ∧ c ≤ '9' := by
    simp [List.all_eq_true, Char.isDigit, Char.le_def]
  have hunsorted : unsorted = 2 ^ 32 - 1 := rfl
  unfold key?
  rw [Number.natOfDigits_eq]
  constructor
  · rintro ⟨hne, hdecimal, rfl, hfits⟩
    rw [if_pos (hall.mpr ⟨hne, hdecimal⟩)]
    exact if_pos (by omega)
  · intro h
    split at h
    · rename_i hdigits
      obtain ⟨hne, hdecimal⟩ := hall.mp hdigits
      dsimp only at h
      split at h
      · exact ⟨hne, hdecimal, Option.some.inj h, by rw [← Option.some.inj h]; omega⟩
      · cases h
    · cases h

/-- The digits of a key have no bar among them. -/
theorem IsKey.before_bar (h : IsKey digits key) (label : List Char) :
    (digits ++ '|' :: label).takeWhile (· != '|') = digits ∧
      (digits ++ '|' :: label).dropWhile (· != '|') = '|' :: label := by
  have hbar : ∀ c ∈ digits, (c != '|') = true := by
    intro c hc
    refine bne_iff_ne.mpr ?_
    rintro rfl
    exact absurd (h.decimal _ hc).2 (by decide)
  constructor
  · rw [List.takeWhile_append_of_pos hbar]
    simp
  · rw [List.dropWhile_append_of_pos hbar]
    simp

theorem parts_iff : Parts text label ↔ split (String.ofList text) = label := by
  have hsplit : text.takeWhile (· != '|') ++ text.dropWhile (· != '|') = text :=
    List.takeWhile_append_dropWhile
  rw [split, String.toList_ofList]
  constructor
  · intro h
    cases h with
    | keyed hkey =>
      obtain ⟨htake, hdrop⟩ := hkey.before_bar _
      rw [htake, hdrop, isKey_iff.mp hkey]
    | plain hnone =>
      cases hkey : key? (text.takeWhile (· != '|')) with
      | none => rfl
      | some key =>
        cases hdrop : text.dropWhile (· != '|') with
        | nil => rfl
        | cons c rest =>
          obtain rfl : c = '|' := by
            have hhead := List.head?_dropWhile_not (· != '|') text
            simpa [hdrop] using hhead
          rw [hdrop] at hsplit
          exact absurd hsplit.symm (hnone _ key rest (isKey_iff.mpr hkey))
  · rintro rfl
    split
    · rename_i key c rest hkey hdrop
      obtain rfl : c = '|' := by
        have hhead := List.head?_dropWhile_not (· != '|') text
        simpa [hdrop] using hhead
      rw [hdrop] at hsplit
      have hkeyed : Parts (text.takeWhile (· != '|') ++ '|' :: rest) (key, String.ofList rest) :=
        .keyed (isKey_iff.mpr hkey)
      rwa [hsplit] at hkeyed
    · rename_i hnone
      refine .plain fun digits key label hkey htext => ?_
      obtain ⟨htake, hdrop⟩ := hkey.before_bar label
      exact hnone key '|' label (by rw [htext, htake, isKey_iff.mp hkey]) (by rw [htext, hdrop])

end Label

end HeapQuery
