import HeapQuery.Proofs.Selections

namespace HeapQuery.Heap

def looksLikeAddress : Token → Bool
  | .null => false
  | .word text => ["0x", "0X", "#"].any fun mark => mark.toList.isPrefixOf text.toList

/-- The token holds this number of 64 bits: in hexadecimal digits behind `0x` or `0X`, or in decimal
ones behind `#`. -/
inductive Holds : Token → Nat → Prop where
  | hexadecimal : text.toList = '0' :: mark :: digits → mark = 'x' ∨ mark = 'X' →
      Number.Spells 16 digits n → n < 2 ^ 64 → Holds (.word text) n
  | decimal : text.toList = '#' :: digits → Number.Spells 10 digits n → n < 2 ^ 64 →
      Holds (.word text) n

def addressRun (tokens : List Token) : List Token := tokens.takeWhile looksLikeAddress

variable {word : String} {token : Token} {tokens : List Token} {n : Nat} {e : QueryError}

theorem addressDigits_some {cs : List Char} {radix : Nat} {digits : List Char} :
    addressDigits? cs = some (radix, digits) ↔
      (radix = 16 ∧ (cs = '0' :: 'x' :: digits ∨ cs = '0' :: 'X' :: digits)) ∨
      (radix = 10 ∧ cs = '#' :: digits) := by
  unfold addressDigits?
  split <;> simp_all [eq_comm]

theorem looksLikeAddress_iff : looksLikeAddress (.word word) = true ↔
    ∃ radix digits, addressDigits? word.toList = some (radix, digits) := by
  simp only [looksLikeAddress, List.any_cons, List.any_nil, Bool.or_false, Bool.or_eq_true,
    List.isPrefixOf_iff_prefix, addressDigits_some]
  constructor
  · rintro (⟨digits, hword⟩ | ⟨digits, hword⟩ | ⟨digits, hword⟩)
    · exact ⟨16, digits, .inl ⟨rfl, .inl hword.symm⟩⟩
    · exact ⟨16, digits, .inl ⟨rfl, .inr hword.symm⟩⟩
    · exact ⟨10, digits, .inr ⟨rfl, hword.symm⟩⟩
  · rintro ⟨_, digits, ⟨_, hword | hword⟩ | ⟨_, hword⟩⟩
    · exact .inl ⟨digits, hword.symm⟩
    · exact .inr (.inl ⟨digits, hword.symm⟩)
    · exact .inr (.inr ⟨digits, hword.symm⟩)

/-- What does not look like an address is none. -/
theorem readAddress_none : readAddress? word = none ↔ looksLikeAddress (.word word) = false := by
  rw [readAddress?, Option.map_eq_none_iff, ← Bool.not_eq_true, looksLikeAddress_iff]
  simp [Option.eq_none_iff_forall_ne_some]

theorem readAddress_some : readAddress? word = some (.ok n) ↔ ∃ radix digits,
    addressDigits? word.toList = some (radix, digits) ∧
      Number.readInteger (.unsigned 64) radix digits = .ok (n : Int) := by
  rw [readAddress?, Option.map_eq_some_iff, Prod.exists]
  refine exists₂_congr fun radix digits => and_congr_right fun hdigits => ?_
  dsimp only
  cases hread : Number.readInteger (.unsigned 64) radix digits with
  | error fault => simp
  | ok m =>
    have hradix : 0 < radix := by
      rcases addressDigits_some.mp hdigits with ⟨rfl, _⟩ | ⟨rfl, _⟩ <;> decide
    obtain ⟨id, _, rfl, _⟩ := (Number.readInteger_unsigned hradix).mp hread
    simp

/-- An address is read as the number that it holds. -/
theorem readAddress_ok : readAddress? word = some (.ok n) ↔ Holds (.word word) n := by
  rw [readAddress_some]
  constructor
  · rintro ⟨radix, digits, hdigits, hn⟩
    rcases addressDigits_some.mp hdigits with ⟨rfl, hword⟩ | ⟨rfl, hword⟩
    · obtain ⟨m, hspells, hm, hless⟩ := (Number.readInteger_unsigned (by decide)).mp hn
      obtain rfl : m = n := by exact_mod_cast hm
      rcases hword with hword | hword
      · exact .hexadecimal hword (.inl rfl) hspells hless
      · exact .hexadecimal hword (.inr rfl) hspells hless
    · obtain ⟨m, hspells, hm, hless⟩ := (Number.readInteger_unsigned (by decide)).mp hn
      obtain rfl : m = n := by exact_mod_cast hm
      exact .decimal hword hspells hless
  · intro h
    cases h with
    | hexadecimal hword hmark hspells hless =>
      refine ⟨16, _, addressDigits_some.mpr (.inl ⟨rfl, ?_⟩),
        (Number.readInteger_unsigned (by decide)).mpr ⟨n, hspells, rfl, hless⟩⟩
      rcases hmark with rfl | rfl
      · exact .inl hword
      · exact .inr hword
    | decimal hword hspells hless =>
      exact ⟨10, _, addressDigits_some.mpr (.inr ⟨rfl, hword⟩),
        (Number.readInteger_unsigned (by decide)).mpr ⟨n, hspells, rfl, hless⟩⟩

/-- What looks like an address and holds no number is refused. -/
theorem readAddress_error : (∃ e, readAddress? word = some (.error e)) ↔
    looksLikeAddress (.word word) = true ∧ ∀ n, ¬ Holds (.word word) n := by
  constructor
  · rintro ⟨e, he⟩
    refine ⟨?_, fun n hn => ?_⟩
    · rw [← Bool.not_eq_false, ← readAddress_none, he]
      simp
    · rw [readAddress_ok.mpr hn] at he
      cases he
  · rintro ⟨hlooks, hnone⟩
    cases hread : readAddress? word with
    | none =>
      rw [readAddress_none, hlooks] at hread
      cases hread
    | some reading =>
      cases reading with
      | error e => exact ⟨e, rfl⟩
      | ok n => exact absurd (readAddress_ok.mp hread) (hnone n)

namespace Selection

/-- The numbers of a run are read one by one, as far as every token of the run holds one. -/
theorem take_ok {ids : List Nat} {taken : Nat} : take tokens = (.ok ids, taken) ↔
    List.Forall₂ Holds (addressRun tokens) ids ∧ (addressRun tokens).length = taken := by
  have hnone : ∀ tokens ids taken, addressRun tokens = [] → take tokens = (.ok [], 0) →
      (take tokens = (.ok ids, taken) ↔
        List.Forall₂ Holds (addressRun tokens) ids ∧ (addressRun tokens).length = taken) := by
    intro tokens ids taken hrun htake
    simp [hrun, htake, eq_comm]
  induction tokens generalizing ids taken with
  | nil => exact hnone _ _ _ rfl rfl
  | cons token tokens ih =>
    cases token with
    | null => exact hnone _ _ _ rfl rfl
    | word word =>
      cases hread : readAddress? word with
      | none =>
        refine hnone _ _ _ ?_ (by simp [take, hread])
        simp [addressRun, readAddress_none.mp hread]
      | some reading =>
        have hlooks : looksLikeAddress (.word word) = true := by
          rw [← Bool.not_eq_false, ← readAddress_none, hread]
          simp
        have hrun : addressRun (.word word :: tokens) = .word word :: addressRun tokens := by
          simp [addressRun, hlooks]
        rw [hrun]
        cases reading with
        | error e =>
          have hnot := (readAddress_error.mp ⟨e, hread⟩).2
          simp [take, hread, List.forall₂_cons_left_iff, hnot]
        | ok n =>
          have htake : take (.word word :: tokens) =
              ((take tokens).1.map (n :: ·), (take tokens).2 + 1) := by
            simp [take, hread]
          rw [htake, Prod.mk.injEq, map_ok, List.forall₂_cons_left_iff, List.length_cons]
          constructor
          · rintro ⟨⟨rest, hrest, rfl⟩, rfl⟩
            obtain ⟨hholds, hlength⟩ := ih.mp (Prod.ext hrest rfl)
            exact ⟨⟨n, rest, readAddress_ok.mp hread, hholds, rfl⟩, by rw [hlength]⟩
          · rintro ⟨⟨m, rest, hm, hholds, rfl⟩, rfl⟩
            have hrest := ih.mpr ⟨hholds, rfl⟩
            have hsame := (readAddress_ok.mpr hm).symm.trans hread
            rw [Option.some.injEq, Except.ok.injEq] at hsame
            exact ⟨⟨rest, congrArg Prod.fst hrest, by rw [hsame]⟩, by rw [hrest]⟩

/-- A run is refused where a token of it holds no number. -/
theorem take_error : (∃ e, (take tokens).1 = .error e) ↔
    ∃ token ∈ addressRun tokens, ∀ n, ¬ Holds token n := by
  have hall : (∃ ids, (take tokens).1 = .ok ids) ↔ ∀ token ∈ addressRun tokens, ∃ n, Holds token n := by
    rw [← exists_forall₂]
    constructor
    · rintro ⟨ids, h⟩
      exact ⟨ids, (take_ok.mp (Prod.ext h rfl)).1⟩
    · rintro ⟨ids, h⟩
      exact ⟨ids, congrArg Prod.fst (take_ok.mpr ⟨h, rfl⟩)⟩
  have hnot : (∃ e, (take tokens).1 = .error e) ↔ ¬ ∃ ids, (take tokens).1 = .ok ids := by
    cases (take tokens).1 <;> simp
  rw [hnot, hall]
  push Not
  rfl

/-- A selection is read where addresses come first and all of them hold numbers. It takes the whole
run of them. -/
theorem read_ok {s : Selection} {taken : Nat} : read tokens = (.ok s, taken) ↔
    addressRun tokens ≠ [] ∧ List.Forall₂ Holds (addressRun tokens) s.ids ∧
      (addressRun tokens).length = taken := by
  obtain ⟨ids⟩ := s
  have hempty : List.Forall₂ Holds (addressRun tokens) ids → (addressRun tokens ≠ [] ↔ ids ≠ []) := by
    intro h
    rw [ne_eq, ne_eq, ← List.length_eq_zero_iff, ← List.length_eq_zero_iff, h.length_eq]
  have hread : read tokens = (.ok ⟨ids⟩, taken) ↔ ids ≠ [] ∧ take tokens = (.ok ids, taken) := by
    unfold read
    split
    · simp [*]
    · simp_all
    · rename_i hne htake
      simp only [htake, Prod.mk.injEq, Except.ok.injEq, Selection.mk.injEq]
      refine (and_iff_right_of_imp ?_).symm
      rintro ⟨rfl, _⟩
      exact hne
  rw [hread, take_ok]
  constructor
  · rintro ⟨hne, hholds, hlength⟩
    exact ⟨(hempty hholds).mpr hne, hholds, hlength⟩
  · rintro ⟨hne, hholds, hlength⟩
    exact ⟨(hempty hholds).mp hne, hholds, hlength⟩

/-- Nothing else is refused than an empty run and a token of a run without a number. -/
theorem read_error : (∃ e, (read tokens).1 = .error e) ↔
    addressRun tokens = [] ∨ ∃ token ∈ addressRun tokens, ∀ n, ¬ Holds token n := by
  have hempty : (take tokens).1 = .ok [] ↔ addressRun tokens = [] := by
    constructor
    · intro h
      exact List.forall₂_nil_right_iff.mp (take_ok.mp (Prod.ext h rfl)).1
    · intro h
      exact congrArg Prod.fst (take_ok.mpr ⟨by rw [h]; exact .nil, rfl⟩)
  rw [← take_error, ← hempty]
  unfold read
  split <;> simp_all

end Selection

end HeapQuery.Heap
