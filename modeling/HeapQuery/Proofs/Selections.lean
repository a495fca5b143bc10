import HeapQuery.Heap.Environment
import HeapQuery.Proofs.CanonicalLine
import HeapQuery.Proofs.Numerals

namespace HeapQuery.Heap

open CommandLine (Within StartsFlag)

theorem address_toList (id : Nat) :
    (address id).toList = '0' :: 'x' :: Nat.toDigits 16 id := by
  simp [address, Text.hexDigits]

/-- An address that fits in 64 bits is read from its text. -/
theorem readAddress_address {id : Nat} (h : id < 2 ^ 64) :
    readAddress? (address id) = some (.ok id) := by
  have hdigits : addressDigits? (address id).toList = some (16, Nat.toDigits 16 id) := by
    rw [address_toList]
    rfl
  have hread : Number.readInteger (.unsigned 64) 16 (Nat.toDigits 16 id) = .ok (id : Int) := by
    refine Number.readInteger_toDigits (by decide) (by decide) ⟨?_, ?_⟩ ⟨?_, ?_⟩ <;>
      simp only [Number.IntegerRange.unsigned_eq] <;> omega
  rw [readAddress?, hdigits, Option.map_some]
  simp only [hread]
  rfl

theorem readAddress_range {word : String} {id : Nat} (h : readAddress? word = some (.ok id)) :
    id < 2 ^ 64 := by
  obtain ⟨⟨radix, digits⟩, _, hread⟩ := Option.map_eq_some_iff.mp h
  dsimp only at hread
  split at hread
  · rename_i n hn
    cases hread
    obtain ⟨hlow, hhigh⟩ : (Number.IntegerRange.unsigned 64).contains n := by
      refine Number.readInteger_contains ⟨?_, ?_⟩ hn <;>
        simp only [Number.IntegerRange.unsigned_eq] <;> omega
    simp only [Number.IntegerRange.unsigned_eq] at hlow hhigh
    omega
  · cases hread

theorem address_simple (id : Nat) : Token.isSimple (address id) = true := by
  have hdigit : ∀ d < 16, (!Text.isBlank (Nat.digitChar d) && Nat.digitChar d != '"' &&
      Nat.digitChar d != '\\') = true := by decide
  have hdigits : (Nat.toDigits 16 id).all (fun c => !Text.isBlank c && c != '"' && c != '\\') =
      true := by
    induction id using Nat.strongRecOn with
    | ind n ih =>
      rw [Nat.toDigits_eq_if (by decide)]
      split
      · rename_i hsmall
        simpa using hdigit n hsmall
      · rename_i hlarge
        rw [List.all_append, ih _ (Nat.div_lt_self (by omega) (by decide)), Bool.true_and]
        simpa using hdigit (n % 16) (Nat.mod_lt _ (by decide))
  rw [Token.isSimple, address_toList, List.all_cons, List.all_cons, hdigits]
  decide

theorem address_bare (id : Nat) : (Token.word (address id)).flag? = none := by
  simp [Token.flag?, address_toList]

namespace Selection

/-- A selection as it is read: some addresses, which fit in 64 bits. -/
def Readable (s : Selection) : Prop := s.ids ≠ [] ∧ ∀ id ∈ s.ids, id < 2 ^ 64

def tokens (s : Selection) : List Token := s.ids.map fun id => .word (address id)

def EndsBefore (rest : List Token) : Prop :=
  ∀ word, rest.head? = some (.word word) → readAddress? word = none

theorem take_ids {ids : List Nat} {rest : List Token} (h : ∀ id ∈ ids, id < 2 ^ 64)
    (hrest : EndsBefore rest) :
    take (ids.map (fun id => .word (address id)) ++ rest) = (.ok ids, ids.length) := by
  induction ids with
  | nil =>
    cases rest with
    | nil => rfl
    | cons token rest =>
      cases token with
      | null => rfl
      | word word => simp [take, hrest word rfl]
  | cons id ids ih =>
    have hid := readAddress_address (h id List.mem_cons_self)
    have htail := ih fun id hm => h id (List.mem_cons_of_mem _ hm)
    simp [take, hid, htail, Except.map]

/-- The tokens of a selection are read as the selection. -/
theorem read_tokens {s : Selection} {rest : List Token} (h : s.Readable) (hrest : EndsBefore rest) :
    read (s.tokens ++ rest) = (.ok s, s.tokens.length) := by
  obtain ⟨ids⟩ := s
  obtain ⟨hne, hall⟩ := h
  cases ids with
  | nil => exact absurd rfl hne
  | cons id ids => simp only [read, tokens, take_ids hall hrest, List.length_map]

theorem take_range {tokens : List Token} {ids : List Nat} (h : (take tokens).1 = .ok ids) :
    ∀ id ∈ ids, id < 2 ^ 64 := by
  induction tokens generalizing ids with
  | nil =>
    cases h
    simp
  | cons token tokens ih =>
    cases token with
    | null =>
      cases h
      simp
    | word word =>
      simp only [take] at h
      split at h
      · cases h
        simp
      · cases h
      · rename_i first hfirst
        obtain ⟨rest, hrest, rfl⟩ := map_ok.mp h
        intro id hm
        rcases List.mem_cons.mp hm with rfl | hm
        · exact readAddress_range hfirst
        · exact ih hrest id hm

/-- Whatever is read as a selection is readable. -/
theorem readable_of_read {tokens : List Token} {s : Selection} (h : (read tokens).1 = .ok s) :
    s.Readable := by
  have hrange := @take_range tokens
  unfold read at h
  split at h
  · cases h
  · cases h
  · rename_i ids taken hne htake
    cases h
    exact ⟨hne, hrange (by rw [htake])⟩

theorem usage_eq (s : Selection) : s.usage = Token.spell s.tokens := by
  rw [Token.spell_eq, tokens, List.map_map, usage]
  congr 1
  exact List.map_congr_left fun id _ => (Token.render_simple (address_simple id)).symm

theorem ofLine_usage (s : Selection) : Token.ofLine s.usage = s.tokens := by
  rw [usage_eq]
  refine Token.ofLine_spell fun hm => ?_
  obtain ⟨id, _, he⟩ := List.mem_map.mp hm
  have hchars := congrArg String.toList (Token.word.inj he)
  rw [address_toList] at hchars
  cases hchars

theorem tokens_head {s : Selection} (h : s.ids ≠ []) :
    ∃ token others, s.tokens = token :: others ∧ token.flag? = none := by
  obtain ⟨id, ids, hids⟩ := List.exists_cons_of_ne_nil h
  exact ⟨.word (address id), ids.map fun id => .word (address id), by simp [tokens, hids],
    address_bare id⟩

theorem value_spelled {s : Selection} (h : s.ids ≠ []) : Argument.Spelled s.value := by
  obtain ⟨token, others, htokens, _⟩ := tokens_head h
  exact ⟨by rw [ofLine_usage, htokens]; simp, by rw [ofLine_usage, usage_eq]⟩

/-- Neither a flag nor the end of a line is an address. -/
theorem endsBefore_flag {rest : List Token} (h : StartsFlag rest) : EndsBefore rest := by
  intro word hhead
  have hflag := h (.word word) hhead
  unfold readAddress?
  rw [Option.map_eq_none_iff]
  obtain ⟨flag, hflag⟩ := Option.isSome_iff_exists.mp hflag
  have hword := Token.word.inj (CommandLine.flag_eq_some hflag).1
  have hchars : word.toList = '-' :: flag.toList := by
    rw [hword]
    simp
  rw [hchars]
  rfl

theorem read_snd_le (tokens : List Token) : (read tokens).2 ≤ tokens.length := by
  have h := take_le tokens
  unfold read
  split <;> simp_all

end Selection

end HeapQuery.Heap

namespace HeapQuery.Context

open Heap

def Selects (c : Context) : Prop :=
  ∀ t advice, c.parses t advice = true →
    t = objectsType ∧ ∀ tokens, c.parse t advice tokens = readSelection tokens

theorem selects_supplied (supplied : List (Slot × Value)) : (ofSupplied supplied).Selects := by
  intro t advice h
  cases h

theorem selects_environment (snapshot : Option Snapshot) : (environment snapshot).Selects := by
  intro t advice h
  have hselection : isSelection t advice = true := h
  simp only [isSelection, Bool.and_eq_true, beq_iff_eq] at hselection
  exact ⟨hselection.1, fun tokens => rfl⟩

theorem Selects.within {c : Context} (h : c.Selects) : CommandLine.Within c := by
  intro t advice tokens hparses
  obtain ⟨_, hparse⟩ := h t advice hparses
  rw [hparse]
  exact Selection.read_snd_le tokens

end HeapQuery.Context
