import HeapQuery.Proofs.Outcomes
import HeapQuery.Registry

namespace HeapQuery

/-- A default has the shape of its argument, unless it was put off. -/
def Argument.DefaultFits (a : Argument) : Prop :=
  ∀ value, a.default = some value → value.isDeferred = true ∨
    if a.isMultiple then ∃ items, value = .list items ∧ items.all a.type.accepts = true
    else a.type.accepts value = true

structure Argument.WellMade (a : Argument) : Prop where
  flag_ne : a.flag ≠ some ""
  switch_flagged : a.isBoolean = true → a.isPositional = false
  default_fits : a.DefaultFits

/-- Two arguments that a command line and a query can tell apart. -/
def Argument.Apart (a b : Argument) : Prop :=
  a.name ≠ b.name ∧ ∀ f ∈ a.flag, ∀ g ∈ b.flag, Text.lower f ≠ Text.lower g

/-- The arguments of a registered query. The numbers of a registration count them. -/
structure Query.WellMade (q : Query) : Prop where
  counted : ∃ n, ∀ (i : Nat) (a : Argument), q.arguments[i]? = some a → a.id = ⟨n, i⟩
  made : ∀ a ∈ q.arguments, a.WellMade
  apart : q.arguments.Pairwise Argument.Apart
  positional : q.arguments.countP Argument.isPositional ≤ 1

/-! ## One argument -/

theorem lowerFrom_ne_nil (before : List Char) (h : cs ≠ []) : Text.lowerFrom before cs ≠ [] := by
  cases cs with
  | nil => exact absurd rfl h
  | cons c cs =>
    simp only [Text.lowerFrom]
    split
    · simp
    · split <;> simp

theorem lower_ne_empty (h : text ≠ "") : Text.lower text ≠ "" := by
  intro he
  have hchars := congrArg String.toList he
  simp only [Text.lower, String.toList_ofList, String.toList_empty] at hchars
  exact lowerFrom_ne_nil [] (by simpa using h) hchars

namespace ArgumentSpec

variable {query : String} {id : ArgumentId}

theorem build_ok {spec : ArgumentSpec} (h : spec.build query id = .ok a) :
    ∃ flag default, spec.hasEmptyName = false ∧ spec.flag? = some flag ∧
      (spec.type.isBoolean && flag.isNone) = false ∧ spec.adviceFault? = none ∧
      spec.default? = some default ∧
      a = ⟨id, spec.name, flag, spec.mandatory, spec.multiplicity, spec.type, spec.advice,
        default, spec.help⟩ := by
  simp only [build] at h
  split at h
  · cases h
  rename_i hname
  split at h
  · cases h
  rename_i flag hflag
  split at h
  · cases h
  rename_i hswitch
  split at h
  · cases h
  · cases h
  · rename_i default hadvice hdefault
    rw [Except.ok.injEq] at h
    exact ⟨flag, default, by simpa using hname, hflag, Bool.eq_false_iff.mpr hswitch, hadvice,
      hdefault, h.symm⟩

theorem named_ne_empty (bare : List Char) :
    (if bare.isEmpty || bare.any Text.isBlank then none else some (some (String.ofList bare))) ≠
      some (some "") := by
  intro h
  split at h
  · cases h
  · rename_i hbare
    rw [Option.some.injEq, Option.some.injEq] at h
    have hchars := congrArg String.toList h
    rw [String.toList_ofList, String.toList_empty] at hchars
    rw [hchars] at hbare
    exact hbare rfl

theorem flag_ne_empty {spec : ArgumentSpec} (hname : spec.hasEmptyName = false) :
    spec.flag? ≠ some (some "") := by
  unfold flag?
  split
  · intro h
    simp only [Option.some.injEq] at h
    refine lower_ne_empty ?_ h
    rintro hempty
    simp [hasEmptyName, hempty, Text.isBlankText] at hname
  · simp
  · exact named_ne_empty _

theorem default_fits {spec : ArgumentSpec} (h : spec.build query id = .ok a) : a.DefaultFits := by
  obtain ⟨flag, default, _, _, _, _, hdefault, rfl⟩ := build_ok h
  intro value hvalue
  obtain rfl : default = some value := hvalue
  unfold default? at hdefault
  simp only [Argument.isMultiple, bne_iff_ne, ne_eq]
  split at hdefault
  · cases hdefault
  · cases hdefault
    exact .inl rfl
  · simp only [beq_iff_eq] at hdefault
    split at hdefault
    · rename_i hsingle
      split at hdefault
      · cases hdefault
        rename_i haccepts
        exact .inr (by simpa [hsingle] using haccepts)
      · cases hdefault
    · rename_i hmultiple
      split at hdefault
      · rename_i haccepts
        cases hdefault
        exact .inr (by simpa [hmultiple] using haccepts)
      · cases hdefault

theorem build_wellMade {spec : ArgumentSpec} (h : spec.build query id = .ok a) : a.WellMade := by
  have hfits := default_fits h
  obtain ⟨flag, default, hname, hflag, hswitch, _, _, rfl⟩ := build_ok h
  refine ⟨?_, ?_, hfits⟩
  · rintro rfl
    exact flag_ne_empty hname hflag
  · intro hboolean
    simp only [Bool.and_eq_false_iff] at hswitch
    rcases hswitch with hb | hf
    · exact absurd hboolean (by simp [Argument.isBoolean, hb])
    · exact hf

end ArgumentSpec

/-! ## One query -/

namespace QuerySpec

variable {query : String} {arguments : List Argument}

theorem buildArguments_getElem {a : Argument} {specs : List ArgumentSpec}
    (h : buildArguments query n start specs = .ok arguments) (ha : arguments[i]? = some a) :
    ∃ spec : ArgumentSpec, specs[i]? = some spec ∧ spec.build query ⟨n, start + i⟩ = .ok a := by
  induction specs generalizing start arguments i with
  | nil =>
    simp only [buildArguments, Except.ok.injEq] at h
    simp [← h] at ha
  | cons spec specs ih =>
    obtain ⟨b, hb, h⟩ := bind_ok.mp h
    obtain ⟨rest, hrest, h⟩ := bind_ok.mp h
    simp only [pure, Except.pure, Except.ok.injEq] at h
    subst h
    cases i with
    | zero =>
      simp only [List.getElem?_cons_zero, Option.some.injEq] at ha
      subst ha
      exact ⟨spec, by simp, hb⟩
    | succ i =>
      obtain ⟨s, hs, hbuild⟩ := ih hrest ha
      refine ⟨s, hs, ?_⟩
      rwa [Nat.add_assoc, Nat.add_comm 1 i] at hbuild

/-- Names and flags are told apart from those before and from one another. -/
theorem checkDistinct_apart (h : checkDistinct query names flags arguments = .ok ()) :
    (∀ a ∈ arguments, a.name ∉ names ∧ ∀ f ∈ a.flag, Text.lower f ∉ flags) ∧
    arguments.Pairwise Argument.Apart := by
  induction arguments generalizing names flags with
  | nil => exact ⟨by simp, .nil⟩
  | cons a rest ih =>
    simp only [checkDistinct] at h
    split at h
    · cases h
    rename_i hname
    simp only [List.contains_eq_mem, decide_eq_true_eq] at hname
    split at h
    · rename_i hflag
      simp only [Option.map_eq_none_iff] at hflag
      obtain ⟨hseen, hrest⟩ := ih h
      refine ⟨?_, .cons ?_ hrest⟩
      · intro b hb
        rcases List.mem_cons.mp hb with rfl | hb
        · exact ⟨hname, by simp [hflag]⟩
        · exact ⟨fun hm => (hseen b hb).1 (List.mem_cons_of_mem _ hm), (hseen b hb).2⟩
      · intro b hb
        refine ⟨fun he => (hseen b hb).1 (by simp [he]), by simp [hflag]⟩
    · rename_i lowered hflag
      obtain ⟨flag, hown, rfl⟩ := Option.map_eq_some_iff.mp hflag
      split at h
      · cases h
      rename_i hfresh
      simp only [List.contains_eq_mem, decide_eq_true_eq] at hfresh
      obtain ⟨hseen, hrest⟩ := ih h
      refine ⟨?_, .cons ?_ hrest⟩
      · intro b hb
        rcases List.mem_cons.mp hb with rfl | hb
        · refine ⟨hname, fun f hf => ?_⟩
          obtain rfl : flag = f := Option.some.inj (hown.symm.trans hf)
          exact hfresh
        · refine ⟨fun hm => (hseen b hb).1 (List.mem_cons_of_mem _ hm), fun f hf hm => ?_⟩
          exact (hseen b hb).2 f hf (List.mem_cons_of_mem _ hm)
      · intro b hb
        refine ⟨fun he => (hseen b hb).1 (by simp [he]), fun f hf g hg he => ?_⟩
        obtain rfl : flag = f := Option.some.inj (hown.symm.trans hf)
        exact (hseen b hb).2 g hg (by simp [he])

theorem build_ok {spec : QuerySpec} (h : spec.build t n = .ok q) :
    ∃ arguments, spec.identifier ≠ "" ∧ Text.hasBlank spec.identifier = false ∧
      buildArguments spec.identifier n 0 (spec.translatedArguments t) = .ok arguments ∧
      checkDistinct spec.identifier [] [] arguments = .ok () ∧
      checkPositional spec.identifier arguments = .ok () ∧
      q = { spec.query t arguments with
        presets := spec.presets.mapIdx (preset (spec.query t arguments) spec.key t) } := by
  unfold build at h
  simp only [] at h
  split at h
  · simp [throw, throwThe, MonadExceptOf.throw, bind, Except.bind] at h
  rename_i hid
  obtain ⟨arguments, ha, h⟩ := bind_ok.mp h
  obtain ⟨_, hd, h⟩ := bind_ok.mp h
  obtain ⟨_, hp, h⟩ := bind_ok.mp h
  simp only [pure, Except.pure, Except.ok.injEq] at h
  simp only [Bool.or_eq_true, not_or, Bool.not_eq_true, String.isEmpty_eq_false_iff] at hid
  exact ⟨arguments, hid.1, hid.2, ha, hd, hp, h.symm⟩

theorem build_wellMade {spec : QuerySpec} (h : spec.build t n = .ok q) : q.toQuery.WellMade := by
  obtain ⟨arguments, _, _, ha, hd, hp, rfl⟩ := build_ok h
  refine ⟨⟨n, ?_⟩, ?_, (checkDistinct_apart hd).2, ?_⟩
  · intro i a hi
    obtain ⟨s, _, hs⟩ := buildArguments_getElem ha hi
    obtain ⟨_, _, _, _, _, _, _, rfl⟩ := ArgumentSpec.build_ok hs
    simp
  · intro a hm
    obtain ⟨i, hi⟩ := List.mem_iff_getElem?.mp hm
    obtain ⟨s, _, hs⟩ := buildArguments_getElem ha hi
    exact ArgumentSpec.build_wellMade hs
  · unfold checkPositional at hp
    split at hp
    · cases hp
    · rename_i hcount
      exact Nat.le_of_not_lt hcount

end QuerySpec

def Registered.Offers (q : Registered) (p : Query) : Prop := p = q.toQuery ∨ p ∈ q.presets

theorem QuerySpec.offers_same {spec : QuerySpec} (h : spec.build t n = .ok q) (hp : q.Offers p) :
    p.identifier = q.identifier ∧ p.arguments = q.arguments ∧ p.command = q.command := by
  rcases hp with rfl | hp
  · exact ⟨rfl, rfl, rfl⟩
  · obtain ⟨arguments, _, _, _, _, _, rfl⟩ := build_ok h
    obtain ⟨i, hi⟩ := List.mem_iff_getElem?.mp hp
    simp only [List.getElem?_mapIdx, Option.map_eq_some_iff] at hi
    obtain ⟨s, _, rfl⟩ := hi
    exact ⟨rfl, rfl, rfl⟩

theorem QuerySpec.offers_wellMade {spec : QuerySpec} (h : spec.build t n = .ok q)
    (hp : q.Offers p) : p.WellMade := by
  obtain ⟨hcounted, hmade, hapart, hpositional⟩ := build_wellMade h
  obtain ⟨_, hargs, _⟩ := offers_same h hp
  exact ⟨hargs ▸ hcounted, hargs ▸ hmade, hargs ▸ hapart, hargs ▸ hpositional⟩

/-! ## The catalog -/

namespace Registry

inductive Reachable : Registry → Prop where
  | start (t : Translations) : Reachable (withTranslations t)
  | register (spec : QuerySpec) : Reachable r → r.register spec = .ok (q, r') → Reachable r'
  | remove (identifier : String) : Reachable r → Reachable (r.remove identifier).2
  | removeType (typeName : String) : Reachable r → Reachable (r.removeType typeName).2
  | menu : Reachable r → Reachable r.menu.2

variable {r r' : Registry} {q : Registered}

theorem Reachable.registerAll (h : Reachable r) (specs : List QuerySpec) :
    Reachable (r.registerAll specs).2 := by
  induction specs generalizing r with
  | nil =>
    unfold Registry.registerAll
    exact h
  | cons spec rest ih =>
    unfold Registry.registerAll
    split
    · rename_i q next hr
      have hnext : Reachable next := .register spec h hr
      exact ih hnext
    · exact ih h

structure Sound (r : Registry) : Prop where
  built : ∀ q ∈ r.queries, ∃ (spec : QuerySpec) (n : Nat), spec.build r.translations n = .ok q
  identifiers : (r.queries.map fun q => q.identifier).Nodup

theorem register_ok {spec : QuerySpec} (h : r.register spec = .ok (q, r')) :
    spec.build r.translations r.next = .ok q ∧ r.identified? q.identifier = none ∧
      r' = { r with
        queries := r.queries ++ [q]
        byType := noteType (Text.lower q.command.typeName) q.identifier r.byType
        next := r.next + 1
        keptMenu := none } := by
  obtain ⟨p, hp, h⟩ := bind_ok.mp h
  split at h
  · cases h
  · rename_i hfree
    simp only [pure, Except.pure, Except.ok.injEq, Prod.mk.injEq] at h
    obtain ⟨rfl, rfl⟩ := h
    exact ⟨hp, hfree, rfl⟩

theorem Sound.filter (h : Sound r) (p : Registered → Bool) (byType : List (String × String))
    (kept : Option Menu) :
    Sound { r with queries := r.queries.filter p, byType := byType, keptMenu := kept } where
  built q hq := h.built q (List.mem_filter.mp hq).1
  identifiers := h.identifiers.sublist (List.filter_sublist.map _)

theorem Reachable.sound (h : Reachable r) : Sound r := by
  induction h with
  | start t => exact ⟨by simp [withTranslations], by simp [withTranslations]⟩
  | register spec _ hr ih =>
    obtain ⟨hb, hfree, rfl⟩ := register_ok hr
    constructor
    · intro p hp
      rcases List.mem_append.mp hp with hp | hp
      · exact ih.built p hp
      · obtain rfl := List.mem_singleton.mp hp
        exact ⟨spec, _, hb⟩
    · rw [List.map_append, List.nodup_append]
      refine ⟨ih.identifiers, by simp, ?_⟩
      intro x hx y hy
      obtain ⟨p, hp, rfl⟩ := List.mem_map.mp hx
      simp only [List.map_cons, List.map_nil, List.mem_singleton] at hy
      subst hy
      simpa using List.find?_eq_none.mp hfree p hp
  | remove identifier _ ih =>
    unfold Registry.remove
    split
    · exact ih
    · exact ih.filter _ _ _
  | removeType typeName _ ih =>
    unfold Registry.removeType
    simp only [List.partition_eq_filter_filter]
    split
    · exact ih
    · exact ih.filter _ _ _
  | menu _ ih =>
    unfold Registry.menu
    split
    · exact ih
    · exact ⟨ih.built, ih.identifiers⟩

/-- A query that can be built can be registered in an empty catalog. -/
theorem reachable_alone {spec : QuerySpec} (h : spec.build t 0 = .ok q) :
    ∃ r, Reachable r ∧ q ∈ r.queries :=
  ⟨_, .register spec (.start t) (bind_ok.mpr ⟨q, h, rfl⟩), by simp⟩

theorem find_mem {name : String} (h : r.find? name = some q) : q ∈ r.queries := by
  unfold find? at h
  split at h
  · rename_i hid
    cases h
    exact List.mem_of_find?_eq_some hid
  split at h
  · exact List.mem_of_find?_eq_some h
  · exact List.mem_of_find?_eq_some h

theorem Sound.identified (h : Sound r) (hq : q ∈ r.queries) :
    r.identified? q.identifier = some q := by
  unfold identified?
  rw [List.find?_eq_some_iff_getElem]
  obtain ⟨i, hi, rfl⟩ := List.mem_iff_getElem.mp hq
  refine ⟨by simp, i, hi, rfl, ?_⟩
  intro j hj
  have hne := (List.nodup_iff_pairwise_ne.mp h.identifiers)
  have := List.pairwise_iff_getElem.mp hne j i (by simp; omega) (by simpa using hi) hj
  simpa using this

theorem Sound.find (h : Sound r) (hq : q ∈ r.queries) : r.find? q.identifier = some q := by
  simp [find?, h.identified hq]

/-- What is typed in any case names the query whose identifier it is in small letters. -/
theorem Sound.find_typed {name : String} (h : Sound r) (hq : q ∈ r.queries)
    (hname : Text.lower name = q.identifier) : r.find? (Text.lower name) = some q := by
  rw [hname, h.find hq]

/-- A query is offered with the same arguments by all its presets. -/
theorem Sound.offered (h : Sound r) (hq : q ∈ r.queries) (hp : q.Offers p) :
    p.WellMade ∧ p.identifier = q.identifier ∧ p.arguments = q.arguments := by
  obtain ⟨spec, n, hb⟩ := h.built q hq
  obtain ⟨hid, hargs, _⟩ := QuerySpec.offers_same hb hp
  exact ⟨QuerySpec.offers_wellMade hb hp, hid, hargs⟩

end Registry

end HeapQuery
