import HeapQuery.Proofs.HeldValues
import HeapQuery.Proofs.LegibleValues
import HeapQuery.Proofs.Selections

namespace HeapQuery

open CommandLine

variable {q : Query} {c : Context} {a : Argument} {b : Bindings} {i : Nat}

/-- What the parser may have bound to an argument. -/
def Argument.Parsed (c : Context) (a : Argument) : Option Value → Prop
  | none => a.isMultiple = false ∧ a.isBoolean = false ∧ c.parses a.type a.advice = false
  | some value =>
    if c.parses a.type a.advice then ∃ s : Heap.Selection, s.Readable ∧ value = s.value
    else a.Legible value ∧ (a.isMultiple = false → a.canWrite false value = true)

theorem Context.Selects.boolean (hs : c.Selects) (hb : a.isBoolean = true) :
    c.parses a.type a.advice = false := by
  rw [← Bool.not_eq_true]
  intro hp
  have htype : a.type = .boolean := by simpa [Argument.isBoolean, ValueType.isBoolean] using hb
  have hobjects := (hs _ _ hp).1
  rw [htype] at hobjects
  cases hobjects

/-- A switch that is set or not is bound to what the parser may bind. -/
theorem parsed_switch (hs : c.Selects) (hb : a.isBoolean = true) (on : Bool) :
    a.Parsed c (Bindings.stored a (some (.boolean on))) := by
  have htype : a.type = .boolean := by simpa [Argument.isBoolean, ValueType.isBoolean] using hb
  have hlegible : a.type.Legible a.advice (.boolean on) := by
    rw [htype]
    exact ValueType.legible_of_exact rfl rfl rfl fun _ hp => by cases hp
  cases hm : a.isMultiple with
  | true =>
    have hstored : Bindings.stored a (some (.boolean on)) = some (.list [.boolean on]) := by
      simp [Bindings.stored, hm, Value.isDeferred, Value.elements]
    rw [hstored]
    simp only [Argument.Parsed, hs.boolean hb, Argument.Legible, hm, ↓reduceIte]
    exact ⟨⟨_, rfl, by simpa using hlegible⟩, fun hsingle => by cases hsingle⟩
  | false =>
    rw [stored_single hm]
    simp only [Argument.Parsed, hs.boolean hb, Argument.Legible, hm]
    refine ⟨hlegible, fun _ => ?_⟩
    simp only [Argument.canWrite, htype]
    cases on <;> cases a.isPositional <;> decide

theorem head_of_take {tokens body : List Token} {token : Token} {taken : Nat}
    (h : tokens.take taken = token :: body) : tokens.head? = some token := by
  have hhead := congrArg List.head? h
  rw [List.head?_take] at hhead
  split at hhead
  · cases hhead
  · exact hhead

/-- Whatever the parser takes may be bound. -/
theorem yields_parsed (hc : c.Converts) (hs : c.Selects) : c.Yields (Argument.Parsed c) a := by
  intro tokens value taken hword hfirst h
  unfold takeFlagged at h
  split at h
  · rename_i hb
    cases h
    exact parsed_switch hs hb true
  rename_i hb
  cases hp : c.parses a.type a.advice with
  | true =>
    unfold takeValue at h
    rw [if_pos hp] at h
    obtain ⟨v, hv, hpair⟩ := map_ok.mp h
    cases hpair
    rw [(hs _ _ hp).2] at hv
    obtain ⟨s, hs, rfl⟩ := map_ok.mp hv
    have hstored : Bindings.stored a (some s.value) = some s.value := by
      simp [Bindings.stored, Heap.Selection.value, Value.isDeferred]
    rw [hstored]
    simp only [Argument.Parsed, hp, ↓reduceIte]
    exact ⟨s, Heap.Selection.readable_of_read hs, rfl⟩
  | false =>
    obtain ⟨hform, _⟩ := valueForm_of_takeValue hp h
    generalize hbody : tokens.take taken = body at hform
    cases hform with
    | null hm =>
      rw [stored_single hm]
      exact ⟨hm, by simpa using hb, hp⟩
    | @word text v hm hread =>
      have hhead := head_of_take hbody
      have hne : text ≠ "" := by
        rintro rfl
        exact hword (List.mem_of_mem_head? hhead)
      have hread := hc.read_ok hread
      rw [stored_single hm]
      simp only [Argument.Parsed, hp, Argument.Legible, hm]
      exact ⟨ValueType.legible_read hread, fun _ => Argument.canWrite_read hread hne fun hpos =>
        hfirst hpos _ hhead⟩
    | list hm _ _ hwords =>
      rw [stored_list]
      simp only [Argument.Parsed, hp, Argument.Legible, hm, ↓reduceIte]
      refine ⟨⟨_, rfl, fun item hitem => ?_⟩, fun hsingle => by cases hsingle⟩
      obtain ⟨word, _, hword⟩ := exists_of_mem_right hwords hitem
      exact ValueType.legible_read (hc.read_ok hword)

/-- A line that is parsed names a registered query, and goes on with what is bound. -/
theorem parse_ok {r : Registry} {line : String} (hr : r.Reachable) (h : parse r c line = .ok b) :
    ∃ (p : Registered) (b₀ : Bindings) (name : String) (tokens : List Token), p ∈ r.queries ∧
      Token.ofLine line = .word name :: tokens ∧ r.find? (Text.lower name) = some p ∧
      .word "" ∉ tokens ∧ b₀.query = p.toQuery ∧ b₀.context = c ∧
      (∀ (i : Nat) (a : Argument), p.arguments[i]? = some a → b₀.at? i = c.startOf a) ∧
      CommandLine.bindAll b₀ none tokens = (b, none) := by
  have hempty := Token.empty_word_not_scanned false [] line.toList
  unfold parse at h
  split at h
  · rename_i name tokens hline
    split at h
    · cases h
    · rename_i p hfind
      have hp := Registry.find_mem hfind
      have hmade := (hr.sound.offered hp (.inl rfl)).1
      obtain ⟨b₁, hbegin, h⟩ := bind_ok.mp h
      obtain ⟨b₂, hoff, h⟩ := bind_ok.mp h
      have hinitial : b₁ = Bindings.initial p.toQuery c := by
        rw [begin, hr.sound.no_options hp] at hbegin
        cases hbegin
        rfl
      obtain ⟨b₀, hb₀, hquery, hcontext, hstart⟩ := started hmade c
      rw [hinitial, hb₀, Except.ok.injEq] at hoff
      subst hoff
      refine ⟨p, b₀, name, tokens, hp, hline, hfind, fun hm => hempty ?_, hquery, hcontext, hstart,
        finish_ok.mp h⟩
      change Token.word "" ∈ Token.ofLine line
      rw [hline]
      exact List.mem_cons_of_mem _ hm
  · cases h

/-- What a parsed line binds to the arguments of its query. Switches are always bound. -/
theorem parsed_bindings {r : Registry} {line : String} (hr : r.Reachable) (hc : c.Converts)
    (hs : c.Selects) (h : parse r c line = .ok b) :
    ∃ p ∈ r.queries, b.query = p.toQuery ∧ b.context = c ∧ b.Holds (Argument.Parsed c) ∧
      ∀ (i : Nat) (a : Argument), b.query.arguments[i]? = some a → a.isBoolean = true →
        b.at? i ≠ none := by
  obtain ⟨p, b₀, _, tokens, hp, _, _, hword, hquery, hcontext, hstart, hall⟩ := parse_ok hr h
  have hmade : b₀.query.WellMade := hquery ▸ (hr.sound.offered hp (.inl rfl)).1
  have hholds : b₀.Holds (Argument.Parsed c) := by
    intro i a hi hsupplied value hvalue
    rw [hquery] at hi
    rw [hcontext] at hsupplied
    rw [hstart i a hi, Context.startOf] at hvalue
    split at hvalue
    · rename_i hb
      cases hvalue
      exact parsed_switch hs hb false
    · simp [hsupplied] at hvalue
  have hwithin : Within b₀.context := hcontext ▸ hs.within
  obtain ⟨groups, _, htaken, _, hfold⟩ := groups_of_bindAll hwithin hmade hall
  obtain ⟨hquery', hcontext'⟩ := foldl_frame b₀ groups
  rw [hfold] at hquery' hcontext'
  refine ⟨p, hp, hquery'.trans hquery, hcontext'.trans hcontext, ?_, ?_⟩
  · refine hholds.bindAll hmade hwithin (fun a _ _ => ?_) hword hall
    rw [hcontext]
    exact yields_parsed hc hs
  · intro i a hi hb hnone
    rw [hquery'] at hi
    have ha : a ∈ b₀.query.arguments := List.mem_iff_getElem?.mpr ⟨i, hi⟩
    have hafter := binding_after_groups hmade ha fun g hg => (htaken.mem g hg).1
    rw [hfold, Bindings.binding_eq (hquery'.symm ▸ hmade) (hquery'.symm ▸ hi),
      Bindings.binding_eq hmade hi, hnone, hstart i a (hquery ▸ hi), Context.startOf, if_pos hb]
      at hafter
    simp at hafter

end HeapQuery
