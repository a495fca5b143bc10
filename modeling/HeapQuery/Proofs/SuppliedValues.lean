import HeapQuery.Proofs.ParsedBindings

namespace HeapQuery

namespace CommandLine

/-- The tokens are these groups, one after the other; a list goes on as long as it can. -/
structure Grouped (q : Query) (c : Context) (tokens : List Token) (groups : List Group) : Prop where
  covers : groups.flatMap Group.tokens = tokens
  formed : ∀ g ∈ groups, GroupForm q c g
  longest : groups.IsChain fun g next => g.isClosed = true ∨ next.isBare = false

/-- The tokens name the flag of the argument: one of their groups starts with it. A token that looks
like the flag may also be the value of another argument. -/
def NamesFlag (q : Query) (c : Context) (tokens : List Token) (a : Argument) : Prop :=
  ∃ groups, Grouped q c tokens groups ∧ ∃ g ∈ groups, g.isBare = false ∧ g.argument = a

variable {q : Query} {c : Context} {tokens : List Token} {groups groups' : List Group}

theorem grouped_iff (hp : ∀ type advice, c.parses type advice = false) :
    Grouped q c tokens groups ↔ groups.flatMap Group.tokens = tokens ∧ Taken q c groups := by
  rw [taken_iff hp]
  constructor
  · intro h
    exact ⟨h.covers, h.formed, h.longest⟩
  · rintro ⟨hcovers, hformed, hlongest⟩
    exact ⟨hcovers, hformed, hlongest⟩

theorem Grouped.unique (hq : q.WellMade) (hp : ∀ type advice, c.parses type advice = false)
    (h : Grouped q c tokens groups) (h' : Grouped q c tokens groups') : groups = groups' := by
  obtain ⟨hcovers, htaken⟩ := (grouped_iff hp).mp h
  obtain ⟨hcovers', htaken'⟩ := (grouped_iff hp).mp h'
  exact htaken.unique hq htaken' (hcovers.trans hcovers'.symm)

end CommandLine

open CommandLine

theorem supplied_get {supplied : List (Context.Slot × Value)} {a : Argument}
    (h : (Context.ofSupplied supplied).supplies a = true) :
    ∃ v, (Context.ofSupplied supplied).get a.type a.advice = some v :=
  Option.isSome_iff_exists.mp h

variable {r : Registry} {c : Context} {line : String} {b : Bindings} {a : Argument}

/-- An argument that something is bound to from the start keeps it, unless the line names its flag:
no value without a flag is for an argument that is bound. -/
theorem start_kept (hr : r.Reachable) (hp : ∀ type advice, c.parses type advice = false)
    (hparse : parse r c line = .ok b) (ha : a ∈ b.query.arguments)
    (hstart : (c.startOf a).isSome = true)
    (hunnamed : ¬ NamesFlag b.query c (Token.ofLine line).tail a) :
    b.binding? a = c.startOf a := by
  obtain ⟨p, b₀, name, tokens, hm, hline, _, _, hquery, hcontext, hbefore, hall⟩ :=
    parse_ok hr hparse
  have hmade : b₀.query.WellMade := hquery ▸ (hr.sound.offered hm (.inl rfl)).1
  have hparses : ∀ type advice, b₀.context.parses type advice = false := hcontext ▸ hp
  obtain ⟨groups, hcovers, htaken, hbare, hfold⟩ :=
    groups_of_bindAll (within_of_no_parses hparses) hmade hall
  have hquery' : b.query = b₀.query := hfold ▸ (foldl_frame b₀ groups).1
  rw [hquery'] at ha hunnamed
  obtain ⟨i, hi⟩ := List.mem_iff_getElem?.mp ha
  have hbound : b₀.binding? a = c.startOf a := by
    rw [Bindings.binding_eq hmade hi, hbefore i a (hquery ▸ hi)]
  have hnone : lastNaming a groups = none := by
    rw [Option.eq_none_iff_forall_ne_some]
    intro g hlast
    obtain ⟨hg, hid⟩ := lastNaming_some hlast
    have hsame : g.argument = a := hmade.same_argument (htaken.mem g hg).1 ha hid
    cases hgb : g.isBare with
    | true =>
      have hfree := hbare.2 g hg hgb
      rw [hsame, Bindings.isBound, hbound, hstart] at hfree
      cases hfree
    | false =>
      refine hunnamed ⟨groups, (grouped_iff hp).mpr ⟨?_, hcontext ▸ htaken⟩, g, hg, hgb, hsame⟩
      rw [hline, hcovers, List.tail_cons]
  have hafter := binding_after_groups hmade ha fun g hg => (htaken.mem g hg).1
  rwa [hfold, hnone, Option.map_none, Option.none_or, hbound] at hafter

theorem stored_off (a : Argument) : Bindings.stored a (some (.boolean false)) =
    some (if a.multiplicity = .single then .boolean false else .list [.boolean false]) := by
  cases hm : a.multiplicity <;>
    simp [Bindings.stored, Argument.isMultiple, Value.isDeferred, Value.elements, hm]

/-- A supplied value is still bound after a line that does not name the flag of its argument. A
switch whose flag is not named is off, whatever is supplied for it or if nothing is. -/
theorem supplied_value_survives {supplied : List (Context.Slot × Value)} (hr : r.Reachable)
    (hparse : parse r (.ofSupplied supplied) line = .ok b) (ha : a ∈ b.query.arguments)
    (hunnamed : ¬ NamesFlag b.query (.ofSupplied supplied) (Token.ofLine line).tail a) :
    (a.isBoolean = false → (Context.ofSupplied supplied).supplies a = true →
      ∃ v, (Context.ofSupplied supplied).get a.type a.advice = some v ∧
        b.binding? a = some (some v)) ∧
    (a.isBoolean = true → b.binding? a =
      some (some (if a.multiplicity = .single then .boolean false else .list [.boolean false]))) := by
  have hkept : (Context.startOf (.ofSupplied supplied) a).isSome = true →
      b.binding? a = Context.startOf (.ofSupplied supplied) a := fun hstart =>
    start_kept hr (fun _ _ => rfl) hparse ha hstart hunnamed
  constructor
  · intro hswitch hsupplied
    obtain ⟨v, hv⟩ := supplied_get hsupplied
    have hstart : Context.startOf (.ofSupplied supplied) a = some (some v) := by
      rw [Context.startOf, if_neg (by simp [hswitch]), if_pos hsupplied, hv]
    rw [hstart] at hkept
    exact ⟨v, hv, hkept rfl⟩
  · intro hswitch
    have hstart : Context.startOf (.ofSupplied supplied) a =
        some (some (if a.multiplicity = .single then .boolean false else .list [.boolean false])) := by
      rw [Context.startOf, if_pos hswitch, stored_off]
    rw [hstart] at hkept
    exact hkept rfl

def memoQuery : QuerySpec where
  command := Heap.Histogram.command
  commandName := some "memo"
  arguments :=
    [{ name := "note", type := .string },
      { name := "limit", type := .long },
      { name := "loud", type := .boolean }]

def memoArguments : List Argument :=
  [⟨⟨0, 0⟩, "note", some "note", false, .single, .string, none, none, none⟩,
    ⟨⟨0, 1⟩, "limit", some "limit", false, .single, .long, none, none, none⟩,
    ⟨⟨0, 2⟩, "loud", some "loud", false, .single, .boolean, none, none, none⟩]

theorem memoQuery_built : ∃ p, memoQuery.build .empty 0 = .ok p ∧ p.identifier = "memo" ∧
    p.arguments = memoArguments :=
  ⟨_, rfl, rfl, rfl⟩

def memoSupplied : List (Context.Slot × Value) :=
  [((.long, none), .long 7), ((.boolean, none), .boolean true)]

/-- The text of the memo is the flag of the number. Neither the number nor the switch is named. -/
theorem memo_parsed : ∃ (r : Registry) (b : Bindings), r.Reachable ∧
    parse r (.ofSupplied memoSupplied) "memo -note -limit" = .ok b ∧
    b.query.arguments = memoArguments ∧ ∀ a ∈ memoArguments, a.name ≠ "note" →
      ¬ NamesFlag b.query (.ofSupplied memoSupplied) (Token.ofLine "memo -note -limit").tail a := by
  obtain ⟨p, hbuild, hid, hargs⟩ := memoQuery_built
  obtain ⟨r, hr, hp⟩ := Registry.reachable_alone hbuild
  have hmade : p.toQuery.WellMade := (hr.sound.offered hp (.inl rfl)).1
  have hfind : r.find? (Text.lower "memo") = some p := hr.sound.find_typed hp (by rw [hid]; decide)
  obtain ⟨note, others, hmemo, hnote⟩ : ∃ note others, memoArguments = note :: others ∧
      note.name = "note" := ⟨_, _, rfl, rfl⟩
  have htaken : Taken p.toQuery (.ofSupplied memoSupplied)
      [⟨note, some "note", [.word "-limit"], some (.string "-limit")⟩] := by
    obtain ⟨rfl, rfl⟩ := List.cons.inj hmemo
    refine .cons ⟨by decide, ?_, rfl⟩ .nil
    rw [Query.argumentFlagged?, hargs]
    rfl
  have hline : Token.ofLine "memo -note -limit" =
      .word "memo" :: [.word "-note", .word "-limit"] := by
    decide
  obtain ⟨b, hparse, hquery, _, _⟩ := parse_groups hr hp hline hfind htaken
    (by simp [Group.isBare]) (by simp [Group.isBare])
  refine ⟨r, b, hr, hparse, hquery ▸ hargs, ?_⟩
  rintro a ha hname ⟨groups, hgroups, g, hg, _, rfl⟩
  rw [hquery, hline] at hgroups
  obtain rfl := hgroups.unique hmade (fun _ _ => rfl)
    ((grouped_iff fun _ _ => rfl).mpr ⟨rfl, htaken⟩)
  obtain rfl := List.mem_singleton.mp hg
  exact hname hnote

/-- The number is as it was supplied, and the switch is off. -/
theorem supplied_limit_survives : ∃ (r : Registry) (b : Bindings), r.Reachable ∧
    parse r (.ofSupplied memoSupplied) "memo -note -limit" = .ok b ∧
    (∃ a ∈ b.query.arguments, a.name = "limit" ∧
      (Context.ofSupplied memoSupplied).supplies a = true ∧
      ¬ NamesFlag b.query (.ofSupplied memoSupplied) (Token.ofLine "memo -note -limit").tail a ∧
      b.binding? a = some (some (.long 7))) ∧
    (∃ a ∈ b.query.arguments, a.name = "loud" ∧
      ¬ NamesFlag b.query (.ofSupplied memoSupplied) (Token.ofLine "memo -note -limit").tail a ∧
      b.binding? a = some (some (.boolean false))) := by
  obtain ⟨r, b, hr, hparse, hargs, hunnamed⟩ := memo_parsed
  refine ⟨r, b, hr, hparse, ?_, ?_⟩
  · obtain ⟨a, ha, hname, hswitch, hsupplied, hget⟩ : ∃ a ∈ memoArguments, a.name = "limit" ∧
        a.isBoolean = false ∧ (Context.ofSupplied memoSupplied).supplies a = true ∧
        (Context.ofSupplied memoSupplied).get a.type a.advice = some (.long 7) :=
      ⟨_, List.mem_cons_of_mem _ List.mem_cons_self, rfl, rfl, rfl, rfl⟩
    have hfree := hunnamed a ha (by rw [hname]; decide)
    obtain ⟨v, hv, hbound⟩ :=
      (supplied_value_survives hr hparse (hargs ▸ ha) hfree).1 hswitch hsupplied
    obtain rfl := Option.some.inj (hget.symm.trans hv)
    exact ⟨a, hargs ▸ ha, hname, hsupplied, hfree, hbound⟩
  · obtain ⟨a, ha, hname, hswitch, hsingle⟩ : ∃ a ∈ memoArguments, a.name = "loud" ∧
        a.isBoolean = true ∧ a.multiplicity = .single :=
      ⟨_, List.mem_cons_of_mem _ (List.mem_cons_of_mem _ List.mem_cons_self), rfl, rfl, rfl⟩
    have hfree := hunnamed a ha (by rw [hname]; decide)
    have hbound := (supplied_value_survives hr hparse (hargs ▸ ha) hfree).2 hswitch
    rw [if_pos hsingle] at hbound
    exact ⟨a, hargs ▸ ha, hname, hfree, hbound⟩

/-- The switch that is supplied as on is off after the line. -/
theorem supplied_switch_reset :
    ¬ ∀ (r : Registry) (supplied : List (Context.Slot × Value)) (line : String) (b : Bindings)
        (a : Argument), r.Reachable → parse r (.ofSupplied supplied) line = .ok b →
        a ∈ b.query.arguments → (Context.ofSupplied supplied).supplies a = true →
        ¬ NamesFlag b.query (.ofSupplied supplied) (Token.ofLine line).tail a →
        ∃ v, (Context.ofSupplied supplied).get a.type a.advice = some v ∧
          b.binding? a = some (some v) := by
  intro h
  obtain ⟨r, b, hr, hparse, hargs, hunnamed⟩ := memo_parsed
  obtain ⟨a, ha, hname, hstart, hsupplied, hget⟩ : ∃ a ∈ memoArguments, a.name = "loud" ∧
      Context.startOf (.ofSupplied memoSupplied) a = some (some (.boolean false)) ∧
      (Context.ofSupplied memoSupplied).supplies a = true ∧
      (Context.ofSupplied memoSupplied).get a.type a.advice = some (.boolean true) :=
    ⟨_, List.mem_cons_of_mem _ (List.mem_cons_of_mem _ List.mem_cons_self), rfl, rfl, rfl, rfl⟩
  have hfree := hunnamed a ha (by rw [hname]; decide)
  obtain ⟨v, hv, hbound⟩ := h r _ _ b a hr hparse (hargs ▸ ha) hsupplied hfree
  obtain rfl := Option.some.inj (hget.symm.trans hv)
  have hoff := start_kept hr (fun _ _ => rfl) hparse (hargs ▸ ha) (by rw [hstart]; rfl) hfree
  rw [hoff, hstart] at hbound
  cases hbound

end HeapQuery
