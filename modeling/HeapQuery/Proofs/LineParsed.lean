import HeapQuery.Proofs.LineGroups

namespace HeapQuery

open CommandLine

variable {q : Query} {c : Context} {a : Argument} {i : Nat}

/-! ## The identifier -/

theorem QuerySpec.identifier_not_upper (spec : QuerySpec) :
    ∀ c ∈ spec.identifier.toList, Text.isUpperAscii c = false := by
  intro c hc
  simp only [identifier, String.toList_ofList, List.mem_map] at hc
  obtain ⟨d, hd, rfl⟩ := hc
  split
  · decide
  · simp only [Text.lower, String.toList_ofList, Text.lowerChars] at hd
    exact Text.lowerFrom_not_upper [] _ d hd

namespace Registry

variable {r : Registry} {p : Registered}

theorem Sound.lower_identifier (h : Sound r) (hp : p ∈ r.queries)
    (hascii : Text.isAscii p.identifier = true) : Text.lower p.identifier = p.identifier := by
  obtain ⟨spec, n, hb⟩ := h.built p hp
  obtain ⟨_, _, _, _, _, _, rfl⟩ := QuerySpec.build_ok hb
  exact Text.lower_eq_self hascii spec.identifier_not_upper

theorem Sound.identifier_ne (h : Sound r) (hp : p ∈ r.queries) : p.identifier ≠ "" := by
  obtain ⟨spec, n, hb⟩ := h.built p hp
  obtain ⟨_, hne, _, _, _, _, rfl⟩ := QuerySpec.build_ok hb
  exact hne

theorem Sound.no_options (h : Sound r) (hp : p ∈ r.queries) : p.options = none := by
  obtain ⟨spec, n, hb⟩ := h.built p hp
  obtain ⟨_, _, _, _, _, _, rfl⟩ := QuerySpec.build_ok hb
  rfl

theorem Sound.begin_initial (h : Sound r) (hp : p ∈ r.queries) (c : Context) :
    begin p.toQuery c = .ok (.initial p.toQuery c) := by
  rw [begin, h.no_options hp]

end Registry

/-! ## New bindings -/

def Context.startOf (c : Context) (a : Argument) : Option (Option Value) :=
  if a.isBoolean then some (Bindings.stored a (some (.boolean false)))
  else if c.supplies a then some (c.get a.type a.advice)
  else none

theorem lookup_below {arguments : List Argument} {f : Argument → Option (Option Value)}
    (h : i < start) :
    ((arguments.mapIdx fun j a => (start + j, a)).filterMap fun (j, a) =>
      (f a).map fun v => (j, v)).lookup i = none := by
  rw [List.lookup_eq_none_iff]
  intro entry hm
  obtain ⟨⟨j, a⟩, hj, he⟩ := List.mem_filterMap.mp hm
  obtain ⟨k, hk, hpair⟩ := List.mem_mapIdx.mp hj
  cases hpair
  obtain ⟨v, _, rfl⟩ := Option.map_eq_some_iff.mp he
  simp
  omega

theorem lookup_filterMap (start i : Nat) (arguments : List Argument)
    (f : Argument → Option (Option Value)) :
    ((arguments.mapIdx fun j a => (start + j, a)).filterMap fun (j, a) =>
      (f a).map fun v => (j, v)).lookup (start + i) = arguments[i]?.bind f := by
  induction arguments generalizing start i with
  | nil => simp
  | cons a arguments ih =>
    have hshift : (a :: arguments).mapIdx (fun j a => (start + j, a)) =
        (start, a) :: arguments.mapIdx fun j a => (start + 1 + j, a) := by
      rw [List.mapIdx_cons]
      simp [Nat.add_comm 1, Nat.add_assoc]
    rw [hshift, List.filterMap_cons]
    cases i with
    | zero =>
      cases hf : f a with
      | none => simpa [hf] using lookup_below (Nat.lt_succ_self start)
      | some v => simp [hf]
    | succ i =>
      have hne : (start + (i + 1) == start) = false := by simp
      have hrest := ih (start + 1) i
      rw [Nat.add_assoc, Nat.add_comm 1 i] at hrest
      cases hf : f a with
      | none => simpa [hf] using hrest
      | some v => simpa [hf, List.lookup_cons, hne] using hrest

theorem Bindings.initial_at (hi : q.arguments[i]? = some a) :
    (initial q c).at? i = if c.supplies a then some (c.get a.type a.advice) else none := by
  have hentries : (initial q c).entries =
      (q.arguments.mapIdx fun j a => (0 + j, a)).filterMap fun (j, a) =>
        (if c.supplies a then some (c.get a.type a.advice) else none).map fun v => (j, v) := by
    simp only [initial, positions, Nat.zero_add]
    refine List.filterMap_congr fun entry _ => ?_
    split <;> rfl
  have hlookup := lookup_filterMap 0 i q.arguments
    fun a => if c.supplies a then some (c.get a.type a.advice) else none
  rw [at?, hentries]
  rw [Nat.zero_add, hi, Option.bind_some] at hlookup
  exact hlookup

/-- Turning switches off one by one changes no other argument. -/
theorem setAll_off {b : Bindings} (hq : b.query.WellMade) (switches : List Argument)
    (hs : ∀ a ∈ switches, a ∈ b.query.arguments) :
    ∃ b', switches.foldlM (fun b a => b.set a (some (.boolean false))) b = .ok b' ∧
      b'.query = b.query ∧ b'.context = b.context ∧
      ∀ a ∈ b.query.arguments,
        (a ∈ switches → b'.binding? a = some (Bindings.stored a (some (.boolean false)))) ∧
        (a ∉ switches → b'.binding? a = b.binding? a) := by
  induction switches using List.reverseRecOn with
  | nil => exact ⟨b, rfl, rfl, rfl, by simp⟩
  | append_singleton switches last ih =>
    obtain ⟨b₁, hfold, hquery, hcontext, hbinding⟩ := ih fun a ha => hs a (List.mem_append_left _ ha)
    have hlast : last ∈ b.query.arguments := hs last (by simp)
    obtain ⟨b', hset, hquery', hcontext', hself, hother⟩ :=
      Bindings.set_spec (b := b₁) (hquery.symm ▸ hq) (hquery.symm ▸ hlast) (some (.boolean false))
    refine ⟨b', ?_, hquery'.trans hquery, hcontext'.trans hcontext, fun a ha => ?_⟩
    · rw [List.foldlM_append]
      exact bind_ok.mpr ⟨b₁, hfold, bind_ok.mpr ⟨b', hset, rfl⟩⟩
    by_cases hid : a.id = last.id
    · obtain rfl := hq.same_argument ha hlast hid
      exact ⟨fun _ => hself, fun hnot => absurd (by simp) hnot⟩
    · have hne : a ≠ last := fun he => hid (congrArg Argument.id he)
      have hsame := hother a (hquery.symm ▸ ha) hid
      rw [hsame]
      simpa [hne] using hbinding a ha

/-- The bindings that the parser starts with. -/
theorem started (hq : q.WellMade) (c : Context) :
    ∃ b, switchesOff (Bindings.initial q c) = .ok b ∧ b.query = q ∧ b.context = c ∧
      ∀ i a, q.arguments[i]? = some a → b.at? i = c.startOf a := by
  obtain ⟨b, hb, hquery, hcontext, hbinding⟩ := setAll_off (b := Bindings.initial q c)
    hq (q.arguments.filter Argument.isBoolean) fun a ha => (List.mem_filter.mp ha).1
  refine ⟨b, hb, hquery, hcontext, fun i a hi => ?_⟩
  have ha : a ∈ q.arguments := List.mem_iff_getElem?.mpr ⟨i, hi⟩
  have hwhole : b.query = q := hquery
  rw [← Bindings.binding_eq (hwhole.symm ▸ hq) (hwhole.symm ▸ hi)]
  obtain ⟨hswitch, hother⟩ := hbinding a ha
  unfold Context.startOf
  split
  · rename_i hboolean
    exact hswitch (List.mem_filter.mpr ⟨ha, hboolean⟩)
  · rename_i hboolean
    rw [hother fun hm => hboolean (List.mem_filter.mp hm).2,
      Bindings.binding_eq (b := Bindings.initial q c) hq hi, Bindings.initial_at hi]

/-! ## The groups of the line -/

theorem lastNaming_value (a : Argument) (groups : List Group) :
    (lastNaming a groups).map Group.value =
      ((groups.map fun g => (g.argument, g.value)).reverse.find? fun p => p.1.id == a.id).map
        Prod.snd := by
  rw [lastNaming, ← List.map_reverse, List.find?_map, Option.map_map]
  rfl

theorem sealAll_pairs (groups : List Group) :
    (sealAll groups).map (fun g => (g.argument, g.value)) =
      groups.map fun g => (g.argument, g.value) := by
  match groups with
  | [] => rfl
  | [g] => rfl
  | g :: next :: rest =>
    have hseal : ((g.seal next).argument, (g.seal next).value) = (g.argument, g.value) := by
      unfold Group.seal
      split <;> rfl
    rw [sealAll, List.map_cons, List.map_cons, hseal, sealAll_pairs (next :: rest)]

/-- Semicolons change no value. -/
theorem lastNaming_sealAll (f : Option Value → β) (a : Argument) (groups : List Group) :
    (lastNaming a (sealAll groups)).map (fun g => f g.value) =
      (lastNaming a groups).map fun g => f g.value := by
  have hmap : ∀ g : Option Group, g.map (fun g => f g.value) = (g.map Group.value).map f := by
    intro g
    cases g <;> rfl
  rw [hmap, hmap, lastNaming_value, lastNaming_value, sealAll_pairs]

theorem sealAll_bare (groups : List Group) :
    (sealAll groups).map Group.isBare = groups.map Group.isBare := by
  match groups with
  | [] => rfl
  | [g] => rfl
  | g :: next :: rest =>
    have hseal : (g.seal next).isBare = g.isBare := by
      unfold Group.seal
      split <;> rfl
    rw [sealAll, List.map_cons, List.map_cons, hseal, sealAll_bare (next :: rest)]

/-- The line has at most one group for an argument. -/
theorem lastNaming_groups {b : Bindings} (hq : b.query.WellMade)
    (hi : b.query.arguments[i]? = some a) : lastNaming a b.groups = b.groupAt? i a := by
  have hunique : ∀ g ∈ b.groups, g.argument.id = a.id → b.groupAt? i a = some g := by
    intro g hg hid
    obtain ⟨j, a', hj, hg'⟩ := Bindings.mem_groups.mp hg
    obtain ⟨rfl, _⟩ := Bindings.groupAt_argument hg'
    obtain rfl := hq.same_position hj hi hid
    obtain rfl := Option.some.inj (hi.symm.trans hj)
    exact hg'
  cases hlast : lastNaming a b.groups with
  | some g =>
    obtain ⟨hg, hid⟩ := lastNaming_some hlast
    exact (hunique g hg hid).symm
  | none =>
    cases hat : b.groupAt? i a with
    | none => rfl
    | some g =>
      have hg : g ∈ b.groups := Bindings.mem_groups.mpr ⟨i, a, hi, hat⟩
      have hnot := List.find?_eq_none.mp hlast g (List.mem_reverse.mpr hg)
      simp [(Bindings.groupAt_argument hat).1] at hnot

theorem countP_groups (b : Bindings) :
    b.groups.countP Group.isBare ≤ b.query.arguments.countP Argument.isPositional := by
  rw [← Bindings.positions_arguments, List.countP_map, Bindings.groups, List.countP_filterMap]
  refine List.countP_mono_left fun entry hm hbare => ?_
  obtain ⟨i, a⟩ := entry
  have hi := mem_positions.mp hm
  cases hg : b.groupAt? i a with
  | none => simp [hg] at hbare
  | some g =>
    have hflag := (Bindings.groupAt_argument hg).2
    simpa [hg, Group.isBare, hflag, Argument.isPositional] using hbare

theorem countP_sealAll (groups : List Group) :
    (sealAll groups).countP Group.isBare = groups.countP Group.isBare := by
  have h := congrArg (List.countP id) (sealAll_bare groups)
  rwa [List.countP_map, List.countP_map] at h

/-- A group of the line belongs to an argument that the environment does not supply. -/
theorem sealed_not_supplied {b : Bindings} (hg : g ∈ sealAll b.groups) :
    b.context.supplies g.argument = false := by
  have hpair : (g.argument, g.value) ∈ b.groups.map fun g => (g.argument, g.value) := by
    rw [← sealAll_pairs]
    exact List.mem_map.mpr ⟨g, hg, rfl⟩
  obtain ⟨g', hg', he⟩ := List.mem_map.mp hpair
  obtain ⟨i, a, hi, hat⟩ := Bindings.mem_groups.mp hg'
  have hown : g.argument = a := (congrArg Prod.fst he).symm.trans (Bindings.groupAt_argument hat).1
  rw [hown]
  exact (Bindings.groupAt_some hat).1

/-- After groups have been bound, an argument has what the last group that names it says. -/
theorem at_after_groups {b₀ : Bindings} {groups : List Group} (hq : q.WellMade)
    (hquery : b₀.query = q) (htaken : Taken q c groups)
    (hstart : ∀ (i : Nat) (a : Argument), q.arguments[i]? = some a → b₀.at? i = c.startOf a)
    (hi : q.arguments[i]? = some a) : (groups.foldl bindGroup b₀).at? i =
      ((lastNaming a groups).map fun g => Bindings.stored a g.value).or (c.startOf a) := by
  obtain ⟨hquery', _⟩ := foldl_frame b₀ groups
  have ha : a ∈ b₀.query.arguments := by
    rw [hquery]
    exact List.mem_iff_getElem?.mpr ⟨i, hi⟩
  have hafter := binding_after_groups (b := b₀) (hquery.symm ▸ hq) ha fun g hg => by
    rw [hquery]
    exact (htaken.mem g hg).1
  rwa [Bindings.binding_eq (by rw [hquery', hquery]; exact hq) (by rw [hquery', hquery]; exact hi),
    Bindings.binding_eq (hquery.symm ▸ hq) (hquery.symm ▸ hi), hstart i a hi] at hafter

/-- The parser binds what the groups of a line say, and leaves the other arguments as it starts. -/
theorem parse_groups {r : Registry} {p : Registered} {name line : String} {groups : List Group}
    (hr : r.Reachable) (hp : p ∈ r.queries)
    (hline : Token.ofLine line = .word name :: groups.flatMap Group.tokens)
    (hfind : r.find? (Text.lower name) = some p) (htaken : Taken p.toQuery c groups)
    (hcount : groups.countP Group.isBare ≤ 1)
    (hfree : ∀ g ∈ groups, g.isBare = true → c.supplies g.argument = false) :
    ∃ b, parse r c line = .ok b ∧ b.query = p.toQuery ∧ b.context = c ∧
      ∀ (i : Nat) (a : Argument), p.arguments[i]? = some a → b.at? i =
        ((lastNaming a groups).map fun g => Bindings.stored a g.value).or (c.startOf a) := by
  have hown : p.toQuery.WellMade := (hr.sound.offered hp (.inl rfl)).1
  obtain ⟨b₀, hb₀, hquery, hcontext, hstart⟩ := started hown c
  have hat : ∀ (i : Nat) (a : Argument), p.arguments[i]? = some a → b₀.binding? a = c.startOf a := by
    intro i a hi
    rw [Bindings.binding_eq (hquery.symm ▸ hown) (hquery.symm ▸ hi), hstart i a hi]
  have hbare : BareAllowed b₀ none groups := by
    refine ⟨hcount, fun g hg hgb => ?_⟩
    obtain ⟨hm, hpos⟩ := htaken.mem g hg
    obtain ⟨i, hi⟩ := List.mem_iff_getElem?.mp hm
    have hswitch : g.argument.isBoolean = false := by
      rw [← Bool.not_eq_true]
      intro hboolean
      rw [(hown.made _ hm).switch_flagged hboolean, hgb] at hpos
      cases hpos
    rw [Bindings.isBound, hat i _ hi]
    simp [Context.startOf, hswitch, hfree g hg hgb]
  have hall := bindAll_groups (b := b₀) (hquery.symm ▸ hown) (by rw [hquery, hcontext]; exact htaken)
    hbare
  have hparse : parse r c line = .ok (groups.foldl bindGroup b₀) := by
    unfold parse
    simp only [hline, hfind, begin, hr.sound.no_options hp]
    exact bind_ok.mpr ⟨_, rfl, bind_ok.mpr ⟨b₀, hb₀, by rw [hall]; rfl⟩⟩
  obtain ⟨hquery', hcontext'⟩ := foldl_frame b₀ groups
  exact ⟨_, hparse, hquery'.trans hquery, hcontext'.trans hcontext, fun i a hi =>
    at_after_groups hown hquery htaken hstart hi⟩

/-- The parser reads the line of bindings whose groups it can take: an argument gets the value that
its group says, and what it started with where it has no group. -/
theorem parse_line {r : Registry} {p : Registered} {b : Bindings} (hr : r.Reachable)
    (hp : p ∈ r.queries) (hq : p.Offers b.query) (hs : b.Speakable)
    (hascii : Text.isAscii b.query.identifier = true)
    (htaken : Taken p.toQuery b.context (sealAll b.groups)) :
    ∃ b', parse r b.context b.line = .ok b' ∧ b'.query = p.toQuery ∧ b'.context = b.context ∧
      ∀ i a, p.arguments[i]? = some a → b'.at? i =
        ((b.groupAt? i a).map fun g => Bindings.stored a g.value).or (b.context.startOf a) := by
  obtain ⟨hmade, hid, hargs⟩ := hr.sound.offered hp hq
  have hfind : r.find? (Text.lower b.query.identifier) = some p := by
    rw [hid] at hascii ⊢
    exact hr.sound.find_typed hp (hr.sound.lower_identifier hp hascii)
  have hcount : (sealAll b.groups).countP Group.isBare ≤ 1 := by
    rw [countP_sealAll]
    exact (countP_groups b).trans hmade.positional
  obtain ⟨b', hparse, hquery, hcontext, hat⟩ := parse_groups hr hp (Bindings.ofLine_line hs) hfind
    htaken hcount fun g hg _ => sealed_not_supplied hg
  refine ⟨b', hparse, hquery, hcontext, fun i a hi => ?_⟩
  rw [hat i a hi, ← lastNaming_groups hmade (hargs.symm ▸ hi), lastNaming_sealAll]

end HeapQuery
