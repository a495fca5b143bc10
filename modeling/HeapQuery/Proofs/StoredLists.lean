import HeapQuery.Proofs.LineRoundTrip

namespace HeapQuery

open CommandLine

def Value.isListed : Value → Bool
  | .list _ | .deferred .. => true
  | _ => false

namespace Bindings

/-- The bindings in an environment that calls lead to. A line that is filled in may fail halfway;
the bindings made before stay. An argument of another query is refused, so it leads nowhere. -/
inductive Reached (r : Registry) (c : Context) : Bindings → Prop where
  | begin {p : Registered} {q : Query} : p ∈ r.queries → p.Offers q → begin q c = .ok b →
      Reached r c b
  | parse (line : String) : parse r c line = .ok b → Reached r c b
  | fillIn (line : String) : Reached r c b → Reached r c (fillIn b line).1
  | set {a : Argument} : Reached r c b → a ∈ b.query.arguments → b.set a value = .ok b' →
      Reached r c b'
  | setNamed : Reached r c b → b.setNamed name value = .ok b' → Reached r c b'
  | unset {a : Argument} : Reached r c b → a ∈ b.query.arguments → b.unset a = .ok b' →
      Reached r c b'

/-- A value of a multi-valued argument is a list or was put off as a whole, or it is just what the
environment supplies. -/
def ListedOrSupplied (c : Context) (a : Argument) (value : Option Value) : Prop :=
  ∀ v, value = some v → a.isMultiple = true →
    v.isListed = true ∨ c.supplies a = true ∧ c.get a.type a.advice = some v

structure Lists (c : Context) (b : Bindings) : Prop where
  context : b.context = c
  wellMade : b.query.WellMade
  listed : b.Bound (ListedOrSupplied c)

variable {b b' : Bindings} {c : Context} {a : Argument} {value : Option Value} {q : Query}

theorem stored_listed {v : Value} (hm : a.isMultiple = true) (h : stored a value = some v) :
    v.isListed = true := by
  cases value with
  | none => cases h
  | some w =>
    cases hw : w.isDeferred with
    | true =>
      simp only [stored, hm, hw, Bool.not_true, Bool.and_false, Bool.false_eq_true, ↓reduceIte,
        Option.some.injEq] at h
      subst h
      cases w with
      | deferred => rfl
      | _ => cases hw
    | false =>
      simp only [stored, hm, hw, Bool.not_false, Bool.and_self, ↓reduceIte, Option.some.injEq] at h
      subst h
      rfl

namespace Lists

theorem initial (hq : q.WellMade) (c : Context) : (initial q c).Lists c := by
  refine ⟨rfl, hq, ?_⟩
  intro i a hi value hvalue v hv _
  have hat : (Bindings.initial q c).at? i = _ := initial_at (c := c) hi
  rw [hat] at hvalue
  split at hvalue
  · rename_i hsupplied
    exact .inr ⟨hsupplied, (Option.some.inj hvalue).trans hv⟩
  · cases hvalue

theorem set (h : b.Lists c) (ha : a ∈ b.query.arguments) (hset : b.set a value = .ok b') :
    b'.Lists c := by
  obtain ⟨hquery, hcontext⟩ := set_frame hset
  refine ⟨hcontext.trans h.context, hquery ▸ h.wellMade, ?_⟩
  apply h.listed.set h.wellMade ha _ hset
  intro v hv hm
  exact .inl (stored_listed hm hv)

theorem setNamed (h : b.Lists c) (hset : b.setNamed name value = .ok b') : b'.Lists c := by
  unfold Bindings.setNamed at hset
  split at hset
  · rename_i a ha
    exact h.set (List.mem_of_find?_eq_some ha) hset
  · cases hset

theorem unset (h : b.Lists c) (ha : a ∈ b.query.arguments) (hunset : b.unset a = .ok b') :
    b'.Lists c := by
  obtain ⟨hquery, hcontext⟩ := unset_frame hunset
  exact ⟨hcontext.trans h.context, hquery ▸ h.wellMade, h.listed.unset h.wellMade ha hunset⟩

/-- The parser binds by setting arguments of the query, also where it stops at an error. -/
theorem bindAll (h : b.Lists c) (positional : Option Argument) (tokens : List Token) :
    (bindAll b positional tokens).1.Lists c := by
  induction b, positional, tokens using bindAll.induct with
  | case1 b positional =>
    rw [bindAll.eq_1]
    exact h
  | case2 b positional token rest flag hflag e hbind =>
    rw [bindAll.eq_def]
    simpa only [hflag, hbind] using h
  | case3 b positional token rest flag hflag b₁ taken hbind ih =>
    rw [bindAll.eq_def]
    simp only [hflag, hbind]
    obtain ⟨a, value, hfind, _, hset⟩ := bindFlag_ok.mp hbind
    exact ih (h.set (argumentFlagged_mem hfind).1 hset)
  | case4 b token rest hflag bound =>
    rw [bindAll.eq_def]
    simpa only [hflag] using h
  | case5 b token rest hflag e hbind =>
    rw [bindAll.eq_def]
    simpa only [hflag, hbind] using h
  | case6 b token rest hflag b₁ a taken hbind ih =>
    rw [bindAll.eq_def]
    simp only [hflag, hbind]
    obtain ⟨hopen, value, _, hset⟩ := bindPositional_ok.mp hbind
    exact ih (h.set ((openArgument_eq h.wellMade).mp hopen).1 hset)

theorem fillIn (h : b.Lists c) (line : String) : (fillIn b line).1.Lists c := by
  unfold CommandLine.fillIn
  split
  · exact h
  · exact h.bindAll none _

theorem finish {outcome : Bindings × Option QueryError} (h : outcome.1.Lists c)
    (hfinish : finish outcome = .ok b) : b.Lists c := by
  rw [finish_ok] at hfinish
  rw [hfinish] at h
  exact h

theorem begin (hq : q.WellMade) (hbegin : begin q c = .ok b) : b.Lists c := by
  have hinitial := Lists.initial hq c
  unfold CommandLine.begin at hbegin
  split at hbegin
  · split at hbegin
    · rw [Except.ok.injEq] at hbegin
      exact hbegin ▸ hinitial
    · exact (hinitial.fillIn _).finish hbegin
  · rw [Except.ok.injEq] at hbegin
    exact hbegin ▸ hinitial

theorem setAll {switches : List Argument} (h : b.Lists c)
    (hs : ∀ a ∈ switches, a ∈ b.query.arguments)
    (hset : switches.foldlM (fun b a => b.set a value) b = .ok b') : b'.Lists c := by
  induction switches generalizing b with
  | nil =>
    rw [List.foldlM_nil] at hset
    cases hset
    exact h
  | cons a switches ih =>
    rw [List.foldlM_cons] at hset
    obtain ⟨b₁, hfirst, hset⟩ := bind_ok.mp hset
    obtain ⟨hquery, _⟩ := set_frame hfirst
    apply ih (h.set (hs a List.mem_cons_self) hfirst) _ hset
    intro a' ha'
    rw [hquery]
    exact hs a' (List.mem_cons_of_mem _ ha')

theorem parse {r : Registry} {line : String} (hr : r.Reachable)
    (hparse : parse r c line = .ok b) : b.Lists c := by
  unfold CommandLine.parse at hparse
  split at hparse
  · split at hparse
    · cases hparse
    · rename_i p hfind
      have hmade := (hr.sound.offered (Registry.find_mem hfind) (.inl rfl)).1
      obtain ⟨b₀, hbegin, hparse⟩ := bind_ok.mp hparse
      obtain ⟨b₁, hoff, hfinish⟩ := bind_ok.mp hparse
      have hstart : b₁.Lists c :=
        (Lists.begin hmade hbegin).setAll (fun a ha => (List.mem_filter.mp ha).1) hoff
      exact (hstart.bindAll none _).finish hfinish
  · cases hparse

end Lists

/-- Every call keeps lists where there are lists. -/
theorem Reached.lists {r : Registry} (hr : r.Reachable) (h : b.Reached r c) : b.Lists c := by
  induction h with
  | begin hp hq hbegin => exact Lists.begin (hr.sound.offered hp hq).1 hbegin
  | parse line hparse => exact Lists.parse hr hparse
  | fillIn line _ ih => exact ih.fillIn line
  | set _ ha hset ih => exact ih.set ha hset
  | setNamed _ hset ih => exact ih.setNamed hset
  | unset _ ha hunset ih => exact ih.unset ha hunset

end Bindings

/-- Multi-valued arguments keep lists in all bindings of a query exactly where the environment
supplies them with lists. -/
theorem lists_kept_iff {r : Registry} {p : Registered} (hr : r.Reachable) (hp : p ∈ r.queries)
    (c : Context) :
    (∀ b : Bindings, b.Reached r c → p.Offers b.query → ∀ (i : Nat) (a : Argument) (v : Value),
      p.arguments[i]? = some a → a.isMultiple = true → b.at? i = some (some v) →
        v.isListed = true) ↔
    ∀ a ∈ p.arguments, a.isMultiple = true → c.supplies a = true →
      ∀ v, c.get a.type a.advice = some v → v.isListed = true := by
  constructor
  · intro hkept a ha hm hsupplied v hv
    obtain ⟨i, hi⟩ := List.mem_iff_getElem?.mp ha
    apply hkept _ (.begin hp (.inl rfl) (hr.sound.begin_initial hp c)) (.inl rfl) i a v hi hm
    rw [Bindings.initial_at hi, if_pos hsupplied, hv]
  · intro hsupplies b hb hoffered i a v hi hm hv
    have hargs := (hr.sound.offered hp hoffered).2.2
    rcases (hb.lists hr).listed i a (hargs ▸ hi) _ hv v rfl hm with hlisted | ⟨hsupplied, hget⟩
    · exact hlisted
    · exact hsupplies a (List.mem_iff_getElem?.mpr ⟨i, hi⟩) hm hsupplied v hget

/-- The words of a search are kept as a list where the environment supplies texts as a list. -/
theorem search_lists_kept : ∃ (r : Registry) (p : Registered), r.Reachable ∧ p ∈ r.queries ∧
    ∀ b : Bindings, b.Reached r (.ofSupplied [((.string, none), .list [.string "a"])]) →
      p.Offers b.query → ∀ v, b.at? 0 = some (some v) → v.isListed = true := by
  obtain ⟨p, hbuild, _, hargs⟩ := searchQuery_built
  obtain ⟨r, hr, hp⟩ := Registry.reachable_alone hbuild
  refine ⟨r, p, hr, hp, ?_⟩
  intro b hb hoffered v hv
  have hwords : p.arguments[0]? = some ⟨⟨0, 0⟩, "words", some "words", false, .list, .string, none,
      none, none⟩ := by
    rw [hargs]
    rfl
  apply (lists_kept_iff hr hp (.ofSupplied [((.string, none), .list [.string "a"])])).mpr _ b hb
    hoffered 0 _ v hwords rfl hv
  intro a ha hm _ v hv
  rw [hargs] at ha
  simp only [searchArguments, List.mem_cons, List.not_mem_nil, or_false] at ha
  rcases ha with rfl | rfl | rfl
  · cases hv
    rfl
  · cases hm
  · cases hm

/-- A list of words is kept as one text where the environment supplies a text. -/
theorem supplied_text_kept :
    ¬ ∀ (r : Registry) (p : Registered) (supplied : List (Context.Slot × Value)) (b : Bindings),
        r.Reachable → p ∈ r.queries → b.Reached r (.ofSupplied supplied) → b.query = p.toQuery →
        ∀ (i : Nat) (a : Argument) (v : Value), p.arguments[i]? = some a → a.isMultiple = true →
          b.at? i = some (some v) → v.isListed = true := by
  intro h
  obtain ⟨p, hbuild, _, hargs⟩ := searchQuery_built
  obtain ⟨r, hr, hp⟩ := Registry.reachable_alone hbuild
  have hwords : p.arguments[0]? = some ⟨⟨0, 0⟩, "words", some "words", false, .list, .string, none,
      none, none⟩ := by
    rw [hargs]
    rfl
  have hbegin := hr.sound.begin_initial hp (.ofSupplied [((.string, none), .string "a")])
  have hlisted := h r p _ _ hr hp (.begin hp (.inl rfl) hbegin) rfl 0 _ (.string "a") hwords rfl
    (Bindings.initial_at hwords)
  cases hlisted

end HeapQuery
