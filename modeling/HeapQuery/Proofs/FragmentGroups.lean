import HeapQuery.Proofs.FragmentTokens
import HeapQuery.Proofs.TypedNames

namespace HeapQuery.CommandLine

open Token Bindings

variable {q : Query} {c : Context} {a : Argument} {g : Group} {groups : List Group}
  {stuff tokens rest : List Token} {fragments : List (Argument × List Token)}

/-! ## Bare groups -/

theorem flagless_inner {inner : List Token} (h : inner.all isInner = true) : Flagless inner := by
  intro token hm
  have hinner := List.all_eq_true.mp h token hm
  cases token with
  | null => rfl
  | word text =>
    simp only [isInner, Bool.and_eq_true, Option.isNone_iff_eq_none] at hinner
    exact hinner.1

theorem flagless_semicolon : Flagless [.word ";"] := by
  simp [Flagless, Token.flag?]

theorem WordRun.flagless {run : List Token} {words : List String} (h : WordRun run words) :
    Flagless run := by
  cases h with
  | unended hinner => exact flagless_inner hinner
  | ended hinner => exact (flagless_inner hinner).append flagless_semicolon
  | glued hinner _ hflag =>
    refine (flagless_inner hinner).append ?_
    simpa [Flagless] using hflag

theorem GroupForm.flagless (h : GroupForm q c g) (hbare : g.isBare = true) : Flagless g.body := by
  cases h with
  | switch | flagged => cases hbare
  | bare _ _ htoken hvalue =>
    generalize hbody : _ :: _ = body at hvalue
    cases hvalue with
    | null => simp [Flagless, Token.flag?]
    | word =>
      cases hbody
      simpa [Flagless] using htoken
    | list _ hrun => exact hrun.flagless

theorem Taken.drop {before : List Group} (h : Taken q c (before ++ groups)) : Taken q c groups := by
  induction before with
  | nil => exact h
  | cons g before ih =>
    cases h with
    | cons _ hafter => exact ih hafter

theorem Taken.startsFlag (hp : ∀ type advice, c.parses type advice = false)
    (h : Taken q c groups) (hflags : ∀ g ∈ groups, g.isBare = false) :
    StartsFlag (groups.flatMap Group.tokens) := by
  cases h with
  | nil => simp [StartsFlag]
  | cons hg _ =>
    rw [List.flatMap_cons]
    exact ((takenBefore_iff hp).mp hg).1.startsFlag.mpr (hflags _ List.mem_cons_self)

/-- What stands before the first flag can be told from the tokens. -/
theorem before_flag (h : Flagless tokens) (hrest : StartsFlag rest) :
    (tokens ++ rest).takeWhile (·.flag?.isNone) = tokens := by
  have hnone : rest.takeWhile (·.flag?.isNone) = [] := by
    cases rest with
    | nil => rfl
    | cons token rest =>
      have hflag := hrest token rfl
      exact List.takeWhile_cons_of_neg (by simpa [Option.isSome_iff_ne_none] using hflag)
  rw [List.takeWhile_append_of_pos, hnone, List.append_nil]
  intro token hm
  rw [h token hm]
  rfl

/-- What stands before a flag is taken by a bare group, unless there is nothing. -/
theorem taken_before_flag (hp : ∀ type advice, c.parses type advice = false)
    (ht : Taken q c groups) (hone : groups.countP Group.isBare ≤ 1) (hstuff : Flagless stuff)
    (hrest : StartsFlag rest) (h : groups.flatMap Group.tokens = stuff ++ rest) :
    ∃ (lead : Option Group) (after : List Group), groups = lead.toList ++ after ∧
      after.flatMap Group.tokens = rest ∧ (∀ g ∈ lead, g.isBare = true) ∧
      lead.toList.flatMap Group.body = stuff := by
  cases stuff with
  | nil => exact ⟨none, groups, rfl, h, by simp, rfl⟩
  | cons token stuff =>
    cases ht with
    | nil => cases h
    | @cons after g hg hafter =>
      rw [List.flatMap_cons] at h
      have hform := ((takenBefore_iff hp).mp hg).1
      have hbare : g.isBare = true := by
        by_contra hflagged
        have hstarts : StartsFlag (g.tokens ++ after.flatMap Group.tokens) ↔ g.isBare = false :=
          hform.startsFlag
        rw [h] at hstarts
        have hflag := hstarts.mpr (by simpa using hflagged) token rfl
        rw [hstuff token List.mem_cons_self] at hflag
        cases hflag
      have htokens : g.tokens = g.body := by
        have hnone : g.flag = none := by simpa [Group.isBare] using hbare
        simp [Group.tokens, hnone]
      rw [List.countP_cons_of_pos hbare] at hone
      have hflags : ∀ g' ∈ after, g'.isBare = false := by
        have hzero : after.countP Group.isBare = 0 := by omega
        simpa using List.countP_eq_zero.mp hzero
      rw [htokens] at h
      have hbody : g.body = token :: stuff := by
        rw [← before_flag (hform.flagless hbare) (hafter.startsFlag hp hflags), h,
          before_flag hstuff hrest]
      rw [hbody] at h
      exact ⟨some g, after, rfl, List.append_cancel_left h, by simpa using hbare,
        by simpa using hbody⟩

/-! ## Flagged groups -/

theorem takeWords_append_le (tokens rest : List Token) :
    (takeWords (tokens ++ rest)).2 ≤ tokens.length + (takeWords rest).2 := by
  induction tokens with
  | nil => simp
  | cons token tokens ih =>
    cases token with
    | null =>
      simp only [List.cons_append, takeWords, List.length_cons]
      omega
    | word text =>
      simp only [List.cons_append, takeWords, List.length_cons]
      split
      · omega
      · split
        · omega
        · split
          · omega
          · simp only
            omega

/-- How many tokens are taken behind a flag. -/
theorem takeFlagged_length {taken : Nat} (hp : c.parses a.type a.advice = false)
    (h : takeFlagged c a tokens = .ok (value, taken)) :
    taken = if a.isBoolean then 0 else if a.isMultiple then (takeWords tokens).2 else 1 := by
  unfold takeFlagged at h
  split at h
  · rename_i hb
    cases h
    rw [if_pos hb]
  rename_i hb
  rw [if_neg hb]
  simp only [takeValue, hp, Bool.false_eq_true, ↓reduceIte] at h
  split at h
  · rename_i hm
    rw [if_pos hm]
    simp only [takeMultiple] at h
    split at h
    · cases h
    · obtain ⟨values, _, hpair⟩ := bind_ok.mp h
      cases hpair
      rfl
  · rename_i hm
    rw [if_neg hm]
    unfold takeSingle at h
    split at h
    · cases h
    · cases h
      rfl
    · obtain ⟨v, _, hpair⟩ := bind_ok.mp h
      cases hpair
      rfl

/-- The parser takes the flag of a fragment with the token that guards it, and no token of the next
fragment. -/
theorem fragment_taken {flag : String} {guard tail more : List Token} (hq : q.WellMade)
    (hp : ∀ type advice, c.parses type advice = false) (ha : a ∈ q.arguments)
    (hflag : a.flag = some flag)
    (hguard : guard.length = if a.isMultiple || a.isBoolean then 0 else 1)
    (hwords : a.isMultiple = true → (takeWords (tail ++ rest)).2 ≤ tail.length)
    (h : g.TakenBefore q c more)
    (htokens : g.tokens ++ more = .word ("-" ++ flag) :: (guard ++ (tail ++ rest))) :
    g.argument = a ∧ g.isBare = false ∧ ∃ used left, tail = used ++ left ∧ more = left ++ rest ∧
      g.tokens = .word ("-" ++ flag) :: (guard ++ used) ∧
      (a.isMultiple = false → a.isBoolean = false → used = []) := by
  have hne : flag ≠ "" := by
    rintro rfl
    exact (hq.made a ha).flag_ne hflag
  obtain ⟨own, flag', body, value⟩ := g
  cases flag' with
  | none =>
    obtain ⟨_, _, ⟨token, others, hbody, htoken⟩, _⟩ := h
    subst hbody
    obtain ⟨rfl, _⟩ := List.cons.inj htokens
    rw [flag_of_dash hne] at htoken
    cases htoken
  | some flag' =>
    obtain ⟨hne', hfind, htake⟩ := h
    obtain ⟨hdash, hrest⟩ := List.cons.inj htokens
    have hflags := congrArg Token.flag? hdash
    rw [flag_of_dash hne, flag_of_dash hne', Option.some.injEq] at hflags
    subst hflags
    obtain rfl : own = a := Option.some.inj (hfind.symm.trans (hq.finds_flag ha hflag))
    have hrest : body ++ more = guard ++ (tail ++ rest) := hrest
    have hlength := takeFlagged_length (hp _ _) htake
    dsimp only at hlength
    rw [hrest] at hlength
    have hbounds : guard.length ≤ body.length ∧ body.length ≤ guard.length + tail.length ∧
        (own.isMultiple = false → own.isBoolean = false → body.length = guard.length) := by
      cases hb : own.isBoolean with
      | true => simp_all
      | false =>
        cases hm : own.isMultiple with
        | true =>
          obtain rfl : guard = [] := by simpa [hm] using hguard
          simpa [hlength, hm, hb] using hwords hm
        | false => simp_all
    obtain ⟨hfrom, hto, hsingle⟩ := hbounds
    have hbody : body <+: guard ++ (tail ++ rest) := ⟨more, hrest⟩
    obtain ⟨used, rfl⟩ := List.prefix_of_prefix_length_le (List.prefix_append _ _) hbody hfrom
    rw [List.append_assoc] at hrest
    have hrest := List.append_cancel_left hrest
    have hused : used <+: tail ++ rest := ⟨more, hrest⟩
    obtain ⟨left, rfl⟩ := List.prefix_of_prefix_length_le hused (List.prefix_append _ _)
      (by simpa using hto)
    rw [List.append_assoc] at hrest
    exact ⟨rfl, rfl, used, left, rfl, List.append_cancel_left hrest, rfl, by simpa using hsingle⟩

theorem startsFlag_own {flag : String} (hq : q.WellMade) (ha : a ∈ q.arguments)
    (hflag : a.flag = some flag) : StartsFlag (.word ("-" ++ flag) :: rest) := by
  intro token htoken
  cases htoken
  rw [flag_of_dash]
  · rfl
  · rintro rfl
    exact (hq.made a ha).flag_ne hflag

/-- A list ends where its fragment does. -/
theorem takeWords_sealed (hq : q.WellMade) (hm : a.isMultiple = true)
    (hsets : ∀ f ∈ fragments, f.1 ∈ q.arguments ∧ f.1.SetBy f.2) :
    (takeWords (tokens ++ sealOf a fragments ++ joinTokens fragments)).2 ≤
      (tokens ++ sealOf a fragments).length := by
  cases fragments with
  | nil =>
    have hle := takeWords_le (tokens ++ sealOf a [])
    simpa [joinTokens] using hle
  | cons f fragments =>
    obtain ⟨next, fragment⟩ := f
    cases hpos : next.isPositional with
    | true =>
      have hle := takeWords_append_le tokens
        (.word ";" :: joinTokens ((next, fragment) :: fragments))
      simpa [sealOf, hm, hpos, takeWords] using hle
    | false =>
      have hstarts : StartsFlag (joinTokens ((next, fragment) :: fragments)) := by
        obtain ⟨hnext, hfragment⟩ : next ∈ q.arguments ∧ next.SetBy fragment :=
          hsets _ List.mem_cons_self
        cases hfragment with
        | bare hnone => simp [Argument.isPositional, hnone] at hpos
        | flagged _ _ hflag => exact startsFlag_own hq hnext hflag
      have hle := takeWords_append_le tokens (joinTokens ((next, fragment) :: fragments))
      rw [takeWords_flag hstarts] at hle
      simpa [sealOf, hm, hpos] using hle

/-! ## All groups -/

/-- The groups of a line of fragments that starts with what another fragment has left. Where one
value is expected, a flag is taken with the token behind it. -/
structure Reads (stuff : List Token) (fragments : List (Argument × List Token))
    (groups : List Group) : Prop where
  left : stuff ≠ [] → ∃ g ∈ groups, g.isBare = true ∧ stuff <:+: g.body
  taken : ∀ f ∈ fragments, f.1.isPositional = false → ∃ g ∈ groups, g.argument = f.1
  owned : ∀ g ∈ groups, g.isBare = false → ∃ f ∈ fragments, f.1 = g.argument ∧
    (f.1.isMultiple = false → f.1.isBoolean = false → g.tokens = f.2.take 2)
  bare : ∀ f ∈ fragments, f.1.isPositional = true → f.2 ≠ [] →
    ∃ g ∈ groups, g.isBare = true ∧ f.2 <:+: g.body

theorem flagless_seal (a : Argument) (fragments : List (Argument × List Token)) :
    Flagless (sealOf a fragments) := by
  unfold sealOf
  split
  · simp [Flagless]
  · split
    · exact flagless_semicolon
    · simp [Flagless]

namespace Reads

variable {lead : Option Group}

theorem nil (hlead : ∀ g ∈ lead, g.isBare = true)
    (hstuff : lead.toList.flatMap Group.body = stuff) : Reads stuff [] lead.toList := by
  refine ⟨?_, by simp, ?_, by simp⟩
  · intro hne
    cases lead with
    | none => exact absurd hstuff.symm hne
    | some g => exact ⟨g, by simp, hlead g rfl, by simp [← hstuff]⟩
  · intro g hg hflagged
    rw [hlead g (by simpa using hg)] at hflagged
    cases hflagged

/-- A bare fragment is read with what was left before it. -/
theorem cons_bare (h : Reads (stuff ++ (tokens ++ sealOf a fragments)) fragments groups)
    (hpos : a.isPositional = true) : Reads stuff ((a, tokens) :: fragments) groups := by
  refine ⟨?_, ?_, ?_, ?_⟩
  · intro hne
    obtain ⟨g, hg, hbare, hbody⟩ := h.left (by simp [hne])
    exact ⟨g, hg, hbare, (List.prefix_append _ _).isInfix.trans hbody⟩
  · intro f hf hflagged
    rcases List.mem_cons.mp hf with rfl | hf
    · rw [hpos] at hflagged
      cases hflagged
    · exact h.taken f hf hflagged
  · intro g hg hflagged
    obtain ⟨f, hf, hown⟩ := h.owned g hg hflagged
    exact ⟨f, List.mem_cons_of_mem _ hf, hown⟩
  · intro f hf hbare hne
    rcases List.mem_cons.mp hf with rfl | hf
    · obtain ⟨g, hg, hbare, hbody⟩ := h.left (by simp [hne])
      have hinfix : tokens <:+: stuff ++ (tokens ++ sealOf a fragments) :=
        ⟨stuff, sealOf a fragments, by rw [List.append_assoc]⟩
      exact ⟨g, hg, hbare, hinfix.trans hbody⟩
    · exact h.bare f hf hbare hne

/-- A fragment with a flag is read after a bare group for what was left before it. -/
theorem cons_flagged {left : List Token} (h : Reads left fragments groups)
    (hpos : a.isPositional = false) (hown : g.argument = a) (hflagged : g.isBare = false)
    (htokens : a.isMultiple = false → a.isBoolean = false → g.tokens = tokens.take 2)
    (hlead : ∀ g ∈ lead, g.isBare = true) (hstuff : lead.toList.flatMap Group.body = stuff) :
    Reads stuff ((a, tokens) :: fragments) (lead.toList ++ g :: groups) := by
  have hbefore := Reads.nil hlead hstuff
  refine ⟨?_, ?_, ?_, ?_⟩
  · intro hne
    obtain ⟨g', hg', hbare, hbody⟩ := hbefore.left hne
    exact ⟨g', List.mem_append_left _ hg', hbare, hbody⟩
  · intro f hf hflagged
    rcases List.mem_cons.mp hf with rfl | hf
    · exact ⟨g, by simp, hown⟩
    · obtain ⟨g', hg', hown'⟩ := h.taken f hf hflagged
      exact ⟨g', by simp [hg'], hown'⟩
  · intro g' hg' hflagged'
    rcases List.mem_append.mp hg' with hg' | hg'
    · rw [hlead g' (by simpa using hg')] at hflagged'
      cases hflagged'
    rcases List.mem_cons.mp hg' with rfl | hg'
    · exact ⟨(a, tokens), List.mem_cons_self, hown.symm, htokens⟩
    · obtain ⟨f, hf, hown'⟩ := h.owned g' hg' hflagged'
      exact ⟨f, List.mem_cons_of_mem _ hf, hown'⟩
  · intro f hf hbare hne
    rcases List.mem_cons.mp hf with rfl | hf
    · rw [hpos] at hbare
      cases hbare
    · obtain ⟨g', hg', hbody⟩ := h.bare f hf hbare hne
      exact ⟨g', by simp [hg'], hbody⟩

end Reads

/-- Whatever groups the parser takes of a line of fragments, it reads the fragments. -/
theorem reads_fragments (hq : q.WellMade) (hp : ∀ type advice, c.parses type advice = false)
    (hsets : ∀ f ∈ fragments, f.1 ∈ q.arguments ∧ f.1.SetBy f.2) (ht : Taken q c groups)
    (hone : groups.countP Group.isBare ≤ 1) (hstuff : Flagless stuff)
    (h : groups.flatMap Group.tokens = stuff ++ joinTokens fragments) :
    Reads stuff fragments groups := by
  induction fragments generalizing stuff groups with
  | nil =>
    obtain ⟨lead, after, rfl, hafter, hlead, hbody⟩ :=
      taken_before_flag hp ht hone hstuff (by simp [StartsFlag, joinTokens]) h
    have hnone : after = [] := by
      cases ht.drop with
      | nil => rfl
      | cons hg =>
        rw [List.flatMap_cons] at hafter
        exact absurd (List.append_eq_nil_iff.mp hafter).1 hg.tokens_ne
    rw [hnone, List.append_nil]
    exact .nil hlead hbody
  | cons f fragments ih =>
    obtain ⟨a, tokens⟩ := f
    obtain ⟨⟨ha, hown⟩, hrest⟩ := List.forall_mem_cons.mp hsets
    dsimp only at ha hown
    have hseal := flagless_seal a fragments
    cases hown with
    | bare hflag htokens =>
      refine Reads.cons_bare (ih hrest ht hone (hstuff.append (htokens.append hseal)) ?_) ?_
      · simpa [joinTokens] using h
      · simp [Argument.isPositional, hflag]
    | @flagged flag guard tail hflag hguard htail =>
      have hjoined : joinTokens ((a, .word ("-" ++ flag) :: (guard ++ tail)) :: fragments) =
          .word ("-" ++ flag) ::
            (guard ++ (tail ++ sealOf a fragments ++ joinTokens fragments)) := by
        simp [joinTokens]
      rw [hjoined] at h
      obtain ⟨lead, after, rfl, hafter, hlead, hbody⟩ :=
        taken_before_flag hp ht hone hstuff (startsFlag_own hq ha hflag) h
      have hafterTaken := ht.drop
      cases hafterTaken with
      | nil => cases hafter
      | @cons after g hg hgs =>
        rw [List.flatMap_cons] at hafter
        obtain ⟨hargument, hflagged, used, left, hsplit, hmore, htokens, hsingle⟩ :=
          fragment_taken hq hp ha hflag hguard (takeWords_sealed hq · hrest) hg hafter
        have hleft : Flagless left := by
          intro token hm
          refine htail.append hseal token ?_
          rw [hsplit]
          exact List.mem_append_right _ hm
        have hone' : after.countP Group.isBare ≤ 1 := by
          rw [List.countP_append, List.countP_cons] at hone
          omega
        refine (ih hrest hgs hone' hleft hmore).cons_flagged ?_ hargument hflagged ?_ hlead hbody
        · simp [Argument.isPositional, hflag]
        · intro hm hb
          obtain ⟨token, rfl⟩ : ∃ token, guard = [token] :=
            List.length_eq_one_iff.mp (by simpa [hm, hb] using hguard)
          rw [htokens, hsingle hm hb]
          rfl

end HeapQuery.CommandLine
