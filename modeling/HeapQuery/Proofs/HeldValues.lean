import HeapQuery.Proofs.LineParsed

namespace HeapQuery

open CommandLine

/-- What is bound to an argument has a property, wherever the environment does not supply it. -/
def Bindings.Holds (P : Argument → Option Value → Prop) (b : Bindings) : Prop :=
  ∀ (i : Nat) (a : Argument), b.query.arguments[i]? = some a → b.context.supplies a = false →
    ∀ value, b.at? i = some value → P a value

/-- The property holds of whatever the parser takes for an argument. No word is empty, and no flag
comes first where the argument is positional. -/
def Context.Yields (P : Argument → Option Value → Prop) (c : Context) (a : Argument) : Prop :=
  ∀ (tokens : List Token) (value : Option Value) (taken : Nat), .word "" ∉ tokens →
    (a.isPositional = true → ∀ token ∈ tokens.head?, token.flag? = none) →
    takeFlagged c a tokens = .ok (value, taken) → P a (Bindings.stored a value)

variable {P : Argument → Option Value → Prop} {b b' : Bindings} {a : Argument}
  {value : Option Value} {i j : Nat}

/-! ## Edits -/

theorem Bindings.Holds.bound (hb : b.Holds P) :
    b.Bound fun a value => b.context.supplies a = false → P a value := by
  intro i a hi value hv hsupplied
  exact hb i a hi hsupplied value hv

theorem Bindings.Holds.set (hb : b.Holds P) (hq : b.query.WellMade) (ha : a ∈ b.query.arguments)
    (hvalue : P a (stored a value)) (hset : b.set a value = .ok b') :
    b'.Holds P := by
  have hbound := hb.bound.set hq ha (fun _ => hvalue) hset
  intro i a' hi hsupplied v hv
  rw [(set_frame hset).2] at hsupplied
  exact hbound i a' hi v hv hsupplied

theorem Bindings.Holds.unset (hb : b.Holds P) (hq : b.query.WellMade)
    (ha : a ∈ b.query.arguments) (hunset : b.unset a = .ok b') : b'.Holds P := by
  have hbound := hb.bound.unset hq ha hunset
  intro i a' hi hsupplied v hv
  rw [(unset_frame hunset).2] at hsupplied
  exact hbound i a' hi v hv hsupplied

/-! ## The parser -/

theorem takeFlagged_of_taken {q : Query} {c : Context} {g : Group} {rest : List Token}
    (hq : q.WellMade) (h : g.TakenBefore q c rest) :
    takeFlagged c g.argument (g.body ++ rest) = .ok (g.value, g.body.length) := by
  obtain ⟨hm, hpos⟩ := h.mem
  unfold Group.TakenBefore at h
  unfold Group.isBare at hpos
  split at h
  · exact h.2.2
  · rename_i hflag
    have hswitch : g.argument.isBoolean = false := by
      rw [← Bool.not_eq_true]
      intro hboolean
      rw [(hq.made _ hm).switch_flagged hboolean, hflag] at hpos
      cases hpos
    simpa [takeFlagged, hswitch] using h.2.2.2

theorem CommandLine.Taken.yields {q : Query} {c : Context} {groups : List Group} (hq : q.WellMade)
    (hc : ∀ a ∈ q.arguments, c.supplies a = false → c.Yields P a) (h : Taken q c groups)
    (hword : .word "" ∉ groups.flatMap Group.tokens) :
    ∀ g ∈ groups, c.supplies g.argument = false →
      P g.argument (Bindings.stored g.argument g.value) := by
  induction h with
  | nil => simp
  | @cons g groups hg _ ih =>
    intro g' hm hsupplied
    rw [List.flatMap_cons, List.mem_append, not_or] at hword
    rcases List.mem_cons.mp hm with rfl | hm
    · refine hc _ hg.mem.1 hsupplied _ _ _ ?_ ?_ (takeFlagged_of_taken hq hg)
      · rw [List.mem_append, not_or]
        refine ⟨fun hm => hword.1 ?_, hword.2⟩
        unfold Group.tokens
        split
        · exact List.mem_cons_of_mem _ hm
        · exact hm
      · intro hpos token htoken
        rw [hg.mem.2, Group.isBare, Option.isNone_iff_eq_none] at hpos
        simp only [Group.TakenBefore, hpos] at hg
        obtain ⟨_, _, ⟨first, others, hbody, hfirst⟩, _⟩ := hg
        rw [hbody] at htoken
        cases htoken
        exact hfirst
    · exact ih hword.2 g' hm hsupplied

/-- The parser keeps to what holds of the values that it takes. -/
theorem Bindings.Holds.bindAll {positional : Option Argument} {tokens : List Token}
    (hb : b.Holds P) (hq : b.query.WellMade) (hw : Within b.context)
    (hc : ∀ a ∈ b.query.arguments, b.context.supplies a = false → b.context.Yields P a)
    (hword : .word "" ∉ tokens) (h : CommandLine.bindAll b positional tokens = (b', none)) :
    b'.Holds P := by
  obtain ⟨groups, rfl, htaken, _, rfl⟩ := groups_of_bindAll hw hq h
  obtain ⟨hquery, hcontext⟩ := foldl_frame b groups
  intro i a hi hsupplied v hv
  rw [hquery] at hi
  rw [hcontext] at hsupplied
  have ha : a ∈ b.query.arguments := List.mem_iff_getElem?.mpr ⟨i, hi⟩
  have hafter := binding_after_groups hq ha fun g hg => (htaken.mem g hg).1
  rw [binding_eq (by rw [hquery]; exact hq) (by rw [hquery]; exact hi), binding_eq hq hi, hv]
    at hafter
  cases hlast : lastNaming a groups with
  | none =>
    rw [hlast] at hafter
    exact hb i a hi hsupplied v hafter.symm
  | some g =>
    obtain ⟨hg, hid⟩ := lastNaming_some hlast
    have hown := hq.same_argument (htaken.mem g hg).1 ha hid
    rw [hlast] at hafter
    have hyields := htaken.yields hq hc hword g hg
    rw [hown] at hyields
    rw [Option.some.inj hafter]
    exact hyields hsupplied

theorem finish_ok {outcome : Bindings × Option QueryError} :
    finish outcome = .ok b ↔ outcome = (b, none) := by
  obtain ⟨b', e⟩ := outcome
  cases e <;> simp [finish]

theorem Bindings.holds_initial (P : Argument → Option Value → Prop) (q : Query) (c : Context) :
    (initial q c).Holds P := by
  intro i a hi hsupplied v hv
  have hnone : (initial q c).at? i = _ := initial_at (c := c) hi
  have hfree : c.supplies a = false := hsupplied
  rw [hnone, hfree] at hv
  cases hv

/-- New bindings are those that the environment makes, or those that the options of a preset make of
them. -/
theorem begin_ok {q : Query} {c : Context} : begin q c = .ok b ↔
    (∀ options ∈ q.options, Text.isBlankText options = true) ∧ b = .initial q c ∨
    ∃ options ∈ q.options, Text.isBlankText options = false ∧ Token.ofLine options ≠ [] ∧
      bindAll (.initial q c) none (Token.ofLine options) = (b, none) := by
  have hinitial : .initial q c = b ↔ b = .initial q c := eq_comm
  unfold begin
  cases q.options with
  | none => simp [hinitial]
  | some options =>
    cases hblank : Text.isBlankText options with
    | true => simp [hblank, hinitial]
    | false =>
      simp only [hblank, Bool.false_eq_true, ↓reduceIte, finish_ok, fillIn]
      cases htokens : Token.ofLine options <;> simp [hblank, htokens]

/-- New bindings of a query hold what the parser takes from the options of a preset. -/
theorem Bindings.holds_begin {q : Query} {c : Context} (hq : q.WellMade) (hw : Within c)
    (hc : ∀ a ∈ q.arguments, c.supplies a = false → c.Yields P a) (h : begin q c = .ok b) :
    b.Holds P ∧ b.query = q ∧ b.context = c := by
  have hinitial := holds_initial P q c
  rcases begin_ok.mp h with ⟨_, rfl⟩ | ⟨options, _, _, _, hall⟩
  · exact ⟨hinitial, rfl, rfl⟩
  · obtain ⟨_, _, _, _, hfold⟩ := groups_of_bindAll (b := initial q c) hw hq hall
    refine ⟨hinitial.bindAll hq hw hc (Token.empty_word_not_scanned false [] _) hall, ?_⟩
    rw [← hfold]
    exact foldl_frame (initial q c) _

/-! ## Legible values -/

theorem stored_single (hm : a.isMultiple = false) (value : Option Value) :
    Bindings.stored a value = value := by
  cases value <;> simp [Bindings.stored, hm]

theorem stored_list (a : Argument) (items : List Value) :
    Bindings.stored a (some (.list items)) = some (.list items) := by
  simp [Bindings.stored, Value.elements]

theorem Context.Converts.read_ok {c : Context} {t : ValueType} {advice : Option Advice}
    {text : String} {v : Value} (hc : c.Converts) (h : c.read t advice text = .ok v) :
    t.read advice text = .ok v := by
  rw [hc, Context.readValue] at h
  cases hread : t.read advice text with
  | error e => simp [hread, Except.mapError] at h
  | ok w => simpa [hread, Except.mapError] using h

def Argument.AllLegible (a : Argument) (value : Option Value) : Prop := ∀ v ∈ value, a.Legible v

/-- What the parser takes is legible where all that the conversion reads is legible. -/
theorem yields_legible {c : Context} (hc : c.Converts) (hp : c.parses a.type a.advice = false)
    (hread : ∀ text v, a.type.read a.advice text = .ok v → a.type.Legible a.advice v) :
    c.Yields Argument.AllLegible a := by
  intro tokens value taken _ _ h v hv
  rw [Option.mem_def] at hv
  unfold takeFlagged at h
  unfold Argument.Legible
  split at h
  · rename_i hboolean
    cases h
    have htype : a.type = .boolean := by simpa [Argument.isBoolean, ValueType.isBoolean] using hboolean
    have hlegible := hread "true" (.boolean true) (by rw [htype]; rfl)
    split
    · rename_i hm
      simp only [Bindings.stored, hm, Value.isDeferred, Bool.not_false, Bool.and_self, ↓reduceIte,
        Option.some.injEq] at hv
      exact ⟨[.boolean true], hv.symm, by simpa using hlegible⟩
    · rename_i hm
      rw [stored_single (by simpa using hm), Option.some.injEq] at hv
      exact hv ▸ hlegible
  · obtain ⟨hform, _⟩ := valueForm_of_takeValue hp h
    generalize tokens.take taken = body at hform
    cases hform with
    | null hm =>
      rw [stored_single hm] at hv
      cases hv
    | word hm hword =>
      rw [stored_single hm, Option.some.injEq] at hv
      rw [hm]
      exact hv ▸ hread _ _ (hc.read_ok hword)
    | list hm _ _ hwords =>
      rw [stored_list, Option.some.injEq] at hv
      rw [if_pos hm]
      refine ⟨_, hv.symm, fun item hitem => ?_⟩
      obtain ⟨word, _, hword⟩ := exists_of_mem_right hwords hitem
      exact hread _ _ (hc.read_ok hword)

def Argument.parts (a : Argument) (value : Value) : List Value :=
  if a.isMultiple then value.elements else [value]

theorem Argument.not_deferred_of_parts {value : Value}
    (h : ∀ part ∈ a.parts value, part.isPlain = true) : value.isDeferred = false := by
  cases value with
  | deferred serial usage product =>
    have hm : Value.deferred serial usage product ∈ a.parts (.deferred serial usage product) := by
      unfold parts
      split <;> exact List.mem_singleton.mpr rfl
    exact absurd (h _ hm) (by simp [Value.isPlain])
  | _ => rfl

theorem Argument.legible_of_parts {value : Value}
    (hlist : a.isMultiple = true → ∃ items, value = .list items)
    (h : ∀ part ∈ a.parts value, a.type.Legible a.advice part) : a.Legible value := by
  unfold Legible
  unfold parts at h
  split
  · rename_i hm
    obtain ⟨items, rfl⟩ := hlist hm
    rw [if_pos hm] at h
    exact ⟨items, rfl, h⟩
  · rename_i hm
    rw [if_neg hm] at h
    exact h value (List.mem_singleton.mpr rfl)

/-- A default has the shape of its argument, and the type accepts its parts. -/
theorem Argument.WellMade.default_parts {value : Value} (h : a.WellMade)
    (hdefault : a.default = some value) (hplain : value.isDeferred = false) :
    (a.isMultiple = true → ∃ items, value = .list items) ∧
    ∀ part ∈ a.parts value, a.type.accepts part = true := by
  have hfits := (h.default_fits value hdefault).resolve_left (by simp [hplain])
  unfold parts
  split at hfits
  · rename_i hm
    obtain ⟨items, rfl, haccepts⟩ := hfits
    rw [if_pos hm]
    exact ⟨fun _ => ⟨items, rfl⟩, List.all_eq_true.mp haccepts⟩
  · rename_i hm
    rw [if_neg hm]
    refine ⟨fun hmultiple => absurd hmultiple hm, fun part hpart => ?_⟩
    rw [List.mem_singleton.mp hpart]
    exact hfits

/-! ## Bound again -/

theorem group_of_legible_switch {value : Value} (hmade : a.WellMade) (hb : a.isBoolean = true)
    (hm : a.isMultiple = false) (h : a.Legible value) :
    ∃ flag on, a.flag = some flag ∧ value = .boolean on ∧ a.group? (some value) =
      if on then some ⟨a, some flag, [], some (.boolean true)⟩ else none := by
  have htype : a.type = .boolean := by simpa [Argument.isBoolean, ValueType.isBoolean] using hb
  obtain ⟨flag, hflag⟩ : ∃ flag, a.flag = some flag := by
    have := hmade.switch_flagged hb
    simpa [Argument.isPositional, Option.isSome_iff_exists] using this
  have haccepts : a.type.accepts value = true := by
    unfold Argument.Legible at h
    rw [hm] at h
    exact h.1
  rw [Argument.group_plain h.not_deferred, hb, hflag]
  rw [htype] at haccepts
  cases value with
  | boolean on => exact ⟨flag, on, rfl, rfl, by cases on <;> rfl⟩
  | deferred => cases h.not_deferred
  | host =>
    unfold Argument.Legible at h
    rw [hm] at h
    cases h.2.1
  | _ => cases haccepts

/-- The group that sets a value binds what can be written of it, as it is read. -/
theorem group_of_legible {value : Value} (hb : a.isBoolean = false) (h : a.Legible value) :
    ((a.group? (some value)).map fun g => Bindings.stored a g.value) =
      if a.isMultiple then
        match value.elements.filter (a.canWrite true) with
        | [] => none
        | items => some (some (.list (items.map Value.written)))
      else if a.canWrite false value then some (some value.written) else none := by
  rw [Argument.group_plain h.not_deferred, hb]
  simp only [Bool.false_eq_true, ↓reduceIte]
  cases hm : a.isMultiple with
  | true =>
    simp only [↓reduceIte]
    cases value.elements.filter (a.canWrite true) with
    | nil => rfl
    | cons item items => rw [Option.map_some, stored_list]
  | false =>
    simp only [Bool.false_eq_true, ↓reduceIte]
    split
    · rw [Option.map_some, stored_single hm]
    · rfl

end HeapQuery
