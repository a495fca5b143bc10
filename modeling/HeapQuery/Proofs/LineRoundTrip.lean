import HeapQuery.Heap.Histogram
import HeapQuery.Proofs.HeldValues

namespace HeapQuery

open CommandLine

/-- The argument may be set to the value: its type has all parts of the value, and none of them has
to be built or would be rewritten when it is read. -/
def Argument.Takes (a : Argument) (value : Value) : Prop :=
  ∀ part ∈ a.parts value, a.type.accepts part = true ∧ part.isPlain = true ∧
    ValueType.Settled a.advice part

/-- Queries that a line can set in full: plain words for the identifier and the flags, switches that
are on or off, types whose values stay the same when they are written and read, and defaults that
are set like any other value. -/
structure Query.Plain (q : Query) : Prop where
  identifier : Token.isSimple q.identifier = true ∧ Text.isAscii q.identifier = true
  flags : q.PlainFlags
  switches : ∀ a ∈ q.arguments, a.isBoolean = true → a.isMultiple = false
  types : ∀ a ∈ q.arguments, a.type.isExact = true
  defaults : ∀ a ∈ q.arguments, ∀ value ∈ a.default, a.Takes value

namespace Bindings

/-- What setting and unsetting arguments makes of bindings. -/
inductive Edited (start : Bindings) : Bindings → Prop where
  | start : Edited start start
  | set {b b' : Bindings} {a : Argument} {value : Option Value} : Edited start b →
      a ∈ b.query.arguments → (∀ v ∈ value, a.Takes v) → b.set a value = .ok b' → Edited start b'
  | unset {b b' : Bindings} {a : Argument} : Edited start b → a ∈ b.query.arguments →
      b.unset a = .ok b' → Edited start b'

/-- The binding of an argument after the line was parsed. Values that have no text are missing, and
a list without elements is no binding. -/
def reread (b : Bindings) (position : Nat) (a : Argument) : Option (Option Value) :=
  if b.context.supplies a then
    some (if a.isBoolean then some (.boolean false) else b.context.get a.type a.advice)
  else if a.isBoolean then
    match b.shown? position a with
    | some (some (.boolean true)) => some (some (.boolean true))
    | _ => some (some (.boolean false))
  else
    match b.shown? position a with
    | none => none
    | some none => if a.isMultiple then none else some none
    | some (some value) =>
      if a.isMultiple then
        match value.elements.filter (a.canWrite true) with
        | [] => none
        | items => some (some (.list items))
      else if a.canWrite false value then some (some value) else none

end Bindings

variable {q : Query} {a : Argument} {b b₀ : Bindings}

/-! ## Legible values -/

theorem Argument.Takes.part_legible {value part : Value} (ht : a.type.isExact = true)
    (h : a.Takes value) (hm : part ∈ a.parts value) : a.type.Legible a.advice part := by
  obtain ⟨haccepts, hplain, hsettled⟩ := h part hm
  exact ValueType.legible_of_exact ht haccepts hplain hsettled

theorem Argument.Takes.not_deferred {value : Value} (h : a.Takes value) :
    value.isDeferred = false :=
  Argument.not_deferred_of_parts fun part hm => (h part hm).2.1

theorem Argument.Takes.legible {value : Value} (ht : a.type.isExact = true) (h : a.Takes value) :
    a.AllLegible (Bindings.stored a (some value)) := by
  intro v hv
  rw [Option.mem_def] at hv
  have hparts : ∀ part ∈ a.parts value, a.type.Legible a.advice part :=
    fun part hm => h.part_legible ht hm
  cases hm : a.isMultiple with
  | false =>
    rw [stored_single hm, Option.some.injEq] at hv
    exact Argument.legible_of_parts (by simp [hm]) (hv ▸ hparts)
  | true =>
    simp only [Bindings.stored, hm, h.not_deferred, Bool.not_false, Bool.and_self, ↓reduceIte,
      Option.some.injEq] at hv
    subst hv
    refine Argument.legible_of_parts (fun _ => ⟨_, rfl⟩) ?_
    simpa [Argument.parts, hm, Value.elements] using hparts

/-- Edits keep bindings legible, and the query and its environment stay the same. -/
theorem Bindings.Edited.legible (h : b₀.Edited b) (hq : b₀.query.WellMade)
    (ht : ∀ a ∈ b₀.query.arguments, a.type.isExact = true) (hb : b₀.Holds Argument.AllLegible) :
    b.Holds Argument.AllLegible ∧ b.query = b₀.query ∧ b.context = b₀.context := by
  induction h with
  | start => exact ⟨hb, rfl, rfl⟩
  | @set b b' a value _ ha hvalue hset ih =>
    obtain ⟨hholds, hquery, hcontext⟩ := ih
    obtain ⟨hquery', hcontext'⟩ := set_frame hset
    refine ⟨hholds.set (hquery ▸ hq) ha ?_ hset, hquery'.trans hquery, hcontext'.trans hcontext⟩
    cases value with
    | none => exact fun _ hv => by cases hv
    | some value => exact (hvalue value rfl).legible (ht a (hquery ▸ ha))
  | @unset b b' a _ ha hunset ih =>
    obtain ⟨hholds, hquery, hcontext⟩ := ih
    obtain ⟨hquery', hcontext'⟩ := Bindings.unset_frame hunset
    exact ⟨hholds.unset (hquery ▸ hq) ha hunset, hquery'.trans hquery, hcontext'.trans hcontext⟩

/-- All that the line shows is legible. -/
theorem shown_legible {i : Nat} (hq : b.query.WellMade) (hplain : b.query.Plain)
    (hb : b.Holds Argument.AllLegible) (hi : b.query.arguments[i]? = some a)
    (hsupplied : b.context.supplies a = false) {value : Value}
    (h : b.shown? i a = some (some value)) : a.Legible value := by
  have ha : a ∈ b.query.arguments := List.mem_iff_getElem?.mpr ⟨i, hi⟩
  rcases Bindings.shown_cases h with hat | ⟨_, hdefault⟩
  · exact hb i a hi hsupplied _ hat value rfl
  · have htakes := hplain.defaults a ha value hdefault
    refine Argument.legible_of_parts ?_ fun part hm => htakes.part_legible (hplain.types a ha) hm
    exact ((hq.made a ha).default_parts hdefault htakes.not_deferred).1

/-! ## The round trip -/

theorem ValueType.Legible.written_eq {t : ValueType} {advice : Option Advice} {value : Value}
    (ht : t.isExact = true) (h : t.Legible advice value) : value.written = value := by
  obtain ⟨haccepts, _⟩ := h
  cases value with
  | file => cases t <;> first | (cases ht; done) | cases haccepts
  | _ => rfl

/-- Values of exact types are bound again just as they were. -/
theorem group_of_exact {value : Value} (ht : a.type.isExact = true) (hb : a.isBoolean = false)
    (h : a.Legible value) :
    ((a.group? (some value)).map fun g => Bindings.stored a g.value) =
      if a.isMultiple then
        match value.elements.filter (a.canWrite true) with
        | [] => none
        | items => some (some (.list items))
      else if a.canWrite false value then some (some value) else none := by
  rw [group_of_legible hb h]
  unfold Argument.Legible at h
  cases hm : a.isMultiple with
  | true =>
    rw [hm] at h
    obtain ⟨items, rfl, hitems⟩ := h
    simp only [↓reduceIte, Value.elements]
    have hwritten : (items.filter (a.canWrite true)).map Value.written =
        items.filter (a.canWrite true) := by
      refine (List.map_congr_left fun item hitem => ?_).trans (List.map_id _)
      exact (hitems item (List.mem_filter.mp hitem).1).written_eq ht
    generalize items.filter (a.canWrite true) = kept at hwritten ⊢
    cases kept with
    | nil => rfl
    | cons item kept => simp only [hwritten]
  | false =>
    rw [hm] at h
    simp only [Bool.false_eq_true, ↓reduceIte, ValueType.Legible.written_eq ht h]

/-- The binding that a group makes is what is kept of the value that the line shows. -/
theorem binding_of_shown {i : Nat} (hq : b.query.WellMade) (hplain : b.query.Plain)
    (hi : b.query.arguments[i]? = some a)
    (hv : b.context.supplies a = false → ∀ v, b.shown? i a = some (some v) → a.Legible v) :
    ((b.groupAt? i a).map fun g => Bindings.stored a g.value).or (b.context.startOf a) =
      b.reread i a := by
  have ha : a ∈ b.query.arguments := List.mem_iff_getElem?.mpr ⟨i, hi⟩
  unfold Bindings.groupAt? Bindings.reread Context.startOf
  cases hsupplied : b.context.supplies a with
  | true =>
    cases hb : a.isBoolean with
    | true => simp [stored_single (hplain.switches a ha hb)]
    | false => simp
  | false =>
    have hlegible := hv hsupplied
    simp only [Bool.false_eq_true, ↓reduceIte]
    cases hb : a.isBoolean with
    | true =>
      have hm := hplain.switches a ha hb
      cases hshown : b.shown? i a with
      | none => simp [stored_single hm]
      | some shown =>
        cases shown with
        | none => simp [Argument.group?, hb, stored_single hm]
        | some value =>
          obtain ⟨flag, on, _, rfl, hgroup⟩ :=
            group_of_legible_switch (hq.made a ha) hb hm (hlegible value hshown)
          rw [Option.bind_some, hgroup]
          cases on <;> simp [stored_single hm]
    | false =>
      cases hshown : b.shown? i a with
      | none => simp
      | some shown =>
        cases shown with
        | none => cases hm : a.isMultiple <;> simp [Argument.group?, hb, hm, stored_single]
        | some value =>
          rw [Option.bind_some, group_of_exact (hplain.types a ha) hb (hlegible value hshown)]
          simp

/-- The line of edited bindings is parsed, and it binds again what can be written. -/
theorem edited_line_read_back {r : Registry} {p : Registered} {supplied : List (Context.Slot × Value)}
    (hr : r.Reachable) (hp : p ∈ r.queries) (hq : p.Offers q) (hplain : q.Plain)
    (hbegin : begin q (Context.ofSupplied supplied) = .ok b₀) (hedited : b₀.Edited b) :
    ∃ b', parse r (Context.ofSupplied supplied) b.line = .ok b' ∧ b'.query = p.toQuery ∧
      b'.context = Context.ofSupplied supplied ∧
      ∀ (i : Nat) (a : Argument), q.arguments[i]? = some a → b'.at? i = b.reread i a := by
  obtain ⟨hmade, hid, hargs⟩ := hr.sound.offered hp hq
  have hparses : ∀ type advice, (Context.ofSupplied supplied).parses type advice = false :=
    fun _ _ => rfl
  have hconverts : (Context.ofSupplied supplied).Converts := rfl
  obtain ⟨hstart, hquery₀, hcontext₀⟩ := Bindings.holds_begin hmade (within_of_no_parses hparses)
    (fun a ha _ => yields_legible hconverts (hparses _ _)
      fun _ _ => ValueType.legible_of_read (hplain.types a ha)) hbegin
  obtain ⟨hholds, hquery, hcontext⟩ := hedited.legible (hquery₀.symm ▸ hmade)
    (hquery₀.symm ▸ hplain.types) hstart
  rw [hquery₀] at hquery
  rw [hcontext₀] at hcontext
  have hshown : ∀ (i : Nat) (a : Argument), q.arguments[i]? = some a →
      b.context.supplies a = false → ∀ v, b.shown? i a = some (some v) → a.Legible v := by
    intro i a hi hsupplied v hv
    exact shown_legible (hquery.symm ▸ hmade) (hquery.symm ▸ hplain) hholds (hquery.symm ▸ hi)
      hsupplied hv
  have hspeakable : b.Speakable := by
    refine ⟨⟨?_, ?_⟩, ?_, ?_⟩
    · rw [hquery, hid]
      exact hr.sound.identifier_ne hp
    · rw [hquery]
      exact hplain.identifier.1
    · intro a ha flag hflag
      exact (hplain.flags a (hquery ▸ ha) flag hflag).1
    · intro i a hi hsupplied value hvalue
      exact (hshown i a (hquery ▸ hi) hsupplied value hvalue).spelled
  have htaken : Taken p.toQuery b.context (sealAll b.groups) := by
    refine taken_of_legible (hr.sound.offered hp (.inl rfl)).1 ?_ (by rw [hquery, hargs])
      (hcontext.symm ▸ hconverts) fun i a hi hsupplied => ⟨?_, hshown i a (hargs ▸ hi) hsupplied⟩
    · intro a ha
      exact hplain.flags a (hargs ▸ ha)
    · rw [hcontext]
      exact hparses _ _
  obtain ⟨b', hparse, hquery', hcontext', hat⟩ := parse_line hr hp (hquery.symm ▸ hq) hspeakable
    (by rw [hquery]; exact hplain.identifier.2) htaken
  rw [hcontext] at hparse hcontext'
  refine ⟨b', hparse, hquery', hcontext', fun i a hi => ?_⟩
  rw [hat i a (hargs ▸ hi)]
  exact binding_of_shown (hquery.symm ▸ hmade) (hquery.symm ▸ hplain) (hquery.symm ▸ hi)
    (hshown i a hi)

def searchQuery : QuerySpec where
  command := Heap.Histogram.command
  commandName := some "search"
  arguments :=
    [{ name := "words", type := .string, multiplicity := .list },
      { name := "limit", type := .long, default := some (.long 5) },
      { name := "loud", type := .boolean }]

def searchArguments : List Argument :=
  [⟨⟨0, 0⟩, "words", some "words", false, .list, .string, none, none, none⟩,
    ⟨⟨0, 1⟩, "limit", some "limit", false, .single, .long, none, some (.long 5), none⟩,
    ⟨⟨0, 2⟩, "loud", some "loud", false, .single, .boolean, none, none, none⟩]

theorem searchQuery_built : ∃ p, searchQuery.build .empty 0 = .ok p ∧
    p.identifier = "search" ∧ p.arguments = searchArguments :=
  ⟨_, rfl, rfl, rfl⟩

theorem searchQuery_plain (hid : q.identifier = "search") (hargs : q.arguments = searchArguments) :
    q.Plain := by
  have hcases : ∀ a ∈ q.arguments, a ∈ searchArguments := fun a ha => hargs ▸ ha
  simp only [searchArguments, List.mem_cons, List.not_mem_nil, or_false] at hcases
  refine ⟨by rw [hid]; decide, ?_, ?_, ?_, ?_⟩
  · intro a ha flag hflag
    rcases hcases a ha with rfl | rfl | rfl <;> cases hflag <;> decide
  · intro a ha _
    rcases hcases a ha with rfl | rfl | rfl <;> trivial
  · intro a ha
    rcases hcases a ha with rfl | rfl | rfl <;> rfl
  · intro a ha value hvalue part hm
    rcases hcases a ha with rfl | rfl | rfl <;> cases hvalue
    obtain rfl := List.mem_singleton.mp hm
    exact ⟨rfl, rfl, fun _ hp => by cases hp⟩

/-- The words of a search are set; the one that ends in a semicolon has no text. -/
theorem search_line_read_back : ∃ (r : Registry) (p : Registered) (b₀ b : Bindings),
    r.Reachable ∧ p ∈ r.queries ∧ p.toQuery.Plain ∧
    begin p.toQuery (Context.ofSupplied []) = .ok b₀ ∧ b₀.Edited b ∧
    ∃ b', parse r (Context.ofSupplied []) b.line = .ok b' ∧
      ∀ (i : Nat) (a : Argument), p.arguments[i]? = some a → b'.at? i = b.reread i a := by
  obtain ⟨p, hbuild, hid, hargs⟩ := searchQuery_built
  obtain ⟨r, hr, hp⟩ := Registry.reachable_alone hbuild
  have hplain := searchQuery_plain hid hargs
  have hmade := (hr.sound.offered hp (.inl rfl)).1
  have hbegin : begin p.toQuery (Context.ofSupplied []) =
      .ok (Bindings.initial p.toQuery (Context.ofSupplied [])) := by
    rw [begin, hr.sound.no_options hp]
  have hwords : p.arguments[0]? = some ⟨⟨0, 0⟩, "words", some "words", false, .list, .string, none,
      none, none⟩ := by
    rw [hargs]
    rfl
  have htakes : ∀ v ∈ some (Value.list [.string "a b", .string "c;"]),
      Argument.Takes ⟨⟨0, 0⟩, "words", some "words", false, .list, .string, none, none, none⟩ v := by
    intro v hv part hm
    cases hv
    have hparts : part = .string "a b" ∨ part = .string "c;" := by
      simpa [Argument.parts, Argument.isMultiple, Value.elements] using hm
    rcases hparts with rfl | rfl <;> exact ⟨rfl, rfl, fun _ hp => by cases hp⟩
  have hedited := Bindings.Edited.set
    (show (Bindings.initial p.toQuery (Context.ofSupplied [])).Edited _ from .start)
    (List.mem_iff_getElem?.mpr ⟨0, hwords⟩) htakes (Bindings.set_eq hmade hwords)
  obtain ⟨b', hparse, _, _, hat⟩ := edited_line_read_back hr hp (.inl rfl) hplain hbegin hedited
  exact ⟨r, p, _, _, hr, hp, hplain, hbegin, hedited, b', hparse, hat⟩

end HeapQuery
