import HeapQuery.Heap.Histogram
import HeapQuery.Proofs.ExecutionSteps
import HeapQuery.Proofs.FragmentGroups
import HeapQuery.Proofs.ParsedBindings
import HeapQuery.Proofs.StoredLists

namespace HeapQuery

open CommandLine Token Bindings

variable {q : Query} {c : Context} {a : Argument} {b b' : Bindings} {i : Nat} {d : Value}
  {r : Registry} {p : Registered}

/-! ## Groups for null -/

theorem CommandLine.ValueForm.null_of_mem {body : List Token} {value : Option Value}
    (h : ValueForm c a body value) (hm : a.isMultiple = false) (hnull : .null ∈ body) :
    value = none := by
  cases h with
  | null => rfl
  | word => simp at hnull
  | list hlist =>
    rw [hm] at hlist
    cases hlist

/-- A group with the null token binds null, where one value is expected. -/
theorem CommandLine.GroupForm.null_of_mem {g : Group} (h : GroupForm q c g)
    (hm : g.argument.isMultiple = false) (hnull : .null ∈ g.body) : g.value = none := by
  cases h with
  | switch => cases hnull
  | flagged _ _ _ hvalue | bare _ _ _ hvalue => exact hvalue.null_of_mem hm hnull

theorem lastNaming_of_all {groups : List Group} {value : Option Value}
    (hnamed : ∃ g ∈ groups, g.argument = a)
    (hall : ∀ g ∈ groups, g.argument.id = a.id → g.value = value) :
    (lastNaming a groups).map Group.value = some value := by
  cases hlast : lastNaming a groups with
  | none =>
    obtain ⟨g, hg, rfl⟩ := hnamed
    have hnot := List.find?_eq_none.mp hlast g (List.mem_reverse.mpr hg)
    simp at hnot
  | some g =>
    obtain ⟨hg, hid⟩ := lastNaming_some hlast
    rw [Option.map_some, hall g hg hid]

/-- Where null is all that a line says of an argument, that is what the groups for it bind. -/
theorem null_of_reads {fragments : List (Argument × List Token)} {groups : List Group}
    (hq : q.WellMade) (hp : ∀ type advice, c.parses type advice = false)
    (ht : Taken q c groups) (hone : groups.countP Group.isBare ≤ 1)
    (hreads : Reads [] fragments groups) (ha : a ∈ q.arguments) (hm : a.isMultiple = false)
    (hb : a.isBoolean = false) (hsaid : (a, a.nullTokens) ∈ fragments)
    (honly : ∀ f ∈ fragments, f.1 = a → f.2 = a.nullTokens) :
    (lastNaming a groups).map Group.value = some none := by
  have hform := ((taken_iff hp).mp ht).1
  cases hpos : a.isPositional with
  | false =>
    refine lastNaming_of_all (hreads.taken _ hsaid hpos) fun g hg hid => ?_
    obtain rfl := hq.same_argument (ht.mem g hg).1 ha hid
    obtain ⟨f, hf, hown, htokens⟩ := hreads.owned g hg ((ht.mem g hg).2.symm.trans hpos)
    rw [hown] at htokens
    have hnull := htokens hm hb
    rw [honly f hf hown] at hnull
    obtain ⟨flag, hflag⟩ : ∃ flag, g.argument.flag = some flag :=
      Option.isSome_iff_exists.mp (by simpa [Argument.isPositional] using hpos)
    obtain ⟨own, hown⟩ : ∃ own, g.flag = some own := by
      have hflagged : g.isBare = false := (ht.mem g hg).2.symm.trans hpos
      exact Option.isSome_iff_exists.mp (by simpa [Group.isBare] using hflagged)
    refine (hform g hg).null_of_mem hm ?_
    simp only [Group.tokens, hown, Argument.nullTokens, hflag] at hnull
    simp [(List.cons.inj hnull).2]
  | true =>
    have hnone : a.flag = none := by simpa [Argument.isPositional] using hpos
    have hnull : a.nullTokens = [.null] := by simp [Argument.nullTokens, hnone]
    obtain ⟨g, hg, hbare, hbody⟩ := hreads.bare _ hsaid hpos (by simp [hnull])
    have hunique : ∀ g' ∈ groups, g'.isBare = true → g' = g := fun g' hg' hbare' =>
      eq_of_countP_le_one hone hg' hg hbare' hbare
    have hown : g.argument = a :=
      hq.positional_unique (ht.mem g hg).1 ha ((ht.mem g hg).2.trans hbare) hpos
    refine lastNaming_of_all ⟨g, hg, hown⟩ fun g' hg' hid => ?_
    obtain rfl := hq.same_argument (ht.mem g' hg').1 ha hid
    obtain rfl := hunique g' hg' ((ht.mem g' hg').2.symm.trans hpos)
    refine (hform g' hg').null_of_mem hm (hbody.subset ?_)
    simp [hnull]

/-- No group names an argument of which a line says nothing, unless a bare group does. -/
theorem unnamed_of_reads {fragments : List (Argument × List Token)} {groups : List Group}
    (hq : q.WellMade) (ht : Taken q c groups) (hreads : Reads [] fragments groups)
    (ha : a ∈ q.arguments) (hpos : a.isPositional = false) (hsilent : ∀ f ∈ fragments, f.1 ≠ a) :
    lastNaming a groups = none := by
  rw [Option.eq_none_iff_forall_ne_some]
  intro g hlast
  obtain ⟨hg, hid⟩ := lastNaming_some hlast
  obtain rfl := hq.same_argument (ht.mem g hg).1 ha hid
  obtain ⟨f, hf, hown, _⟩ := hreads.owned g hg ((ht.mem g hg).2.symm.trans hpos)
  exact hsilent f hf hown

/-! ## The line -/

/-- The parser goes through a calm line group by group. -/
theorem parse_calm (hr : r.Reachable) (hp : p ∈ r.queries) (hq : p.Offers b.query)
    (hc : ∀ type advice, b.context.parses type advice = false)
    (hid : Token.isSimple b.query.identifier = true)
    (hflags : ∀ a ∈ b.query.arguments, a.SimpleFlag) (hcalm : b.Calm)
    (h : parse r b.context b.line = .ok b') :
    ∃ groups, Taken p.toQuery b.context groups ∧ groups.countP Group.isBare ≤ 1 ∧
      Reads [] b.said groups ∧ b'.query = p.toQuery ∧
      ∀ (i : Nat) (a : Argument), p.arguments[i]? = some a → b'.at? i =
        ((lastNaming a groups).map fun g => stored a g.value).or (b.context.startOf a) := by
  obtain ⟨_, hidentifier, hargs⟩ := hr.sound.offered hp hq
  have hne : b.query.identifier ≠ "" := by
    rw [hidentifier]
    exact hr.sound.identifier_ne hp
  obtain ⟨p', b₀, name, tokens, _, hline, hfind, _, hquery, hcontext, hstart, hall⟩ := parse_ok hr h
  rw [hcalm.ofLine_line hflags hid hne] at hline
  obtain ⟨hname, rfl⟩ := List.cons.inj hline
  obtain rfl : b.query.identifier = name := Token.word.inj hname
  obtain rfl : p = p' := by
    rw [hidentifier, hr.sound.find_lower hp] at hfind
    exact Option.some.inj hfind
  have hmade : p.toQuery.WellMade := (hr.sound.offered hp (.inl rfl)).1
  obtain ⟨groups, htokens, htaken, hbare, hfold⟩ :=
    groups_of_bindAll (hcontext ▸ within_of_no_parses hc) (hquery ▸ hmade) hall
  rw [hquery, hcontext] at htaken
  have hsets : ∀ f ∈ b.said, f.1 ∈ p.arguments ∧ f.1.SetBy f.2 := by
    intro f hf
    obtain ⟨i, text, hi, htext, htokens⟩ := mem_said.mp hf
    rw [← htokens]
    exact ⟨hargs ▸ List.mem_iff_getElem?.mpr ⟨i, hi⟩, (hcalm.fragment hflags hi htext).2.1⟩
  refine ⟨groups, htaken, hbare.1, ?_, ?_, fun i a hi => ?_⟩
  · exact reads_fragments hmade hc hsets htaken hbare.1 (by simp [Flagless]) htokens
  · rw [← hfold, (foldl_frame b₀ groups).1, hquery]
  · rw [← hfold]
    exact at_after_groups hmade hquery htaken hstart hi

/-- What a calm line says of an argument that is null in place of its default. -/
theorem said_of_null (hq : b.query.WellMade) (hflags : ∀ a ∈ b.query.arguments, a.SimpleFlag)
    (hcalm : b.Calm) (hi : b.query.arguments[i]? = some a) (hdefault : a.default = some d)
    (hsupplied : b.context.supplies a = false) (hnull : b.at? i = some none) :
    ((a, a.nullTokens) ∈ b.said ↔ a.isMultiple = false ∧ a.isBoolean = false) ∧
    ∀ f ∈ b.said, f.1 = a → f.2 = a.nullTokens := by
  have hfragment : b.fragment? i a = a.valueUsage none := by
    rw [fragment_shown hsupplied]
    simp only [shown?, hnull, hdefault, Option.bind_some]
  have htokens : ∀ text, b.fragment? i a = some text → ofLine text = a.nullTokens :=
    fun text htext => (hcalm.fragment hflags hi htext).2.2 hnull
  have hown : ∀ f ∈ b.said, f.1 = a → ∃ text, b.fragment? i a = some text ∧ ofLine text = f.2 := by
    rintro f hf rfl
    obtain ⟨j, text, hj, htext, he⟩ := mem_said.mp hf
    obtain rfl := hq.same_position hj hi rfl
    exact ⟨text, htext, he⟩
  refine ⟨⟨fun hm => ?_, fun hkind => ?_⟩, fun f hf hf' => ?_⟩
  · obtain ⟨text, htext, _⟩ := hown _ hm rfl
    rw [hfragment, Argument.valueUsage] at htext
    split at htext
    · cases htext
    · rename_i hkind
      simpa using hkind
  · obtain ⟨hm, hb⟩ := hkind
    have htext : b.fragment? i a = some (a.flagText ++ "\"\"") := by
      rw [hfragment]
      simp [Argument.valueUsage, hm, hb]
    exact mem_said.mpr ⟨i, _, hi, htext, htokens _ htext⟩
  · obtain ⟨text, htext, he⟩ := hown f hf hf'
    rw [← he, htokens text htext]

/-- A calm line that is parsed says null of an argument in place of its default exactly where one
value is expected that is no switch. There the argument is null again, and executing either bindings
gives the command null. A flagged argument of any other kind is as the parser starts it. -/
theorem null_survives_iff {supplied : List (Context.Slot × Value)} (hr : r.Reachable)
    (hp : p ∈ r.queries) (hq : p.Offers b.query) (hc : b.context = .ofSupplied supplied)
    (hid : Token.isSimple b.query.identifier = true)
    (hflags : ∀ a ∈ b.query.arguments, a.SimpleFlag) (hcalm : b.Calm)
    (hi : b.query.arguments[i]? = some a) (hoptional : a.mandatory = false)
    (hdefault : a.default = some d) (hsupplied : b.context.supplies a = false)
    (hnull : b.at? i = some none) (h : parse r b.context b.line = .ok b') :
    b.field? i a = .ok (some .null) ∧
    (b'.at? i = some none ↔ a.isMultiple = false ∧ a.isBoolean = false) ∧
    (b'.field? i a = .ok (some .null) ↔ a.isMultiple = false ∧ a.isBoolean = false) ∧
    (a.isPositional = false → a.isMultiple = true ∨ a.isBoolean = true →
      b'.at? i = b.context.startOf a) := by
  have hparses : ∀ type advice, b.context.parses type advice = false := by
    rw [hc]
    exact fun _ _ => rfl
  have hconverts : b.context.Converts := by
    rw [hc]
    rfl
  have hselects : b.context.Selects := hc ▸ Context.selects_supplied supplied
  obtain ⟨hmade, _, hargs⟩ := hr.sound.offered hp hq
  have hown : p.toQuery.WellMade := (hr.sound.offered hp (.inl rfl)).1
  have hi' : p.arguments[i]? = some a := hargs ▸ hi
  have ha : a ∈ p.arguments := List.mem_iff_getElem?.mpr ⟨i, hi'⟩
  obtain ⟨groups, htaken, hone, hreads, hquery, hat⟩ :=
    parse_calm hr hp hq hparses hid hflags hcalm h
  obtain ⟨hsaid, honly⟩ := said_of_null hmade hflags hcalm hi hdefault hsupplied hnull
  have hsurvives : a.isMultiple = false → a.isBoolean = false → b'.at? i = some none := by
    intro hm hb
    obtain ⟨g, hlast, hvalue⟩ := Option.map_eq_some_iff.mp
      (null_of_reads hown hparses htaken hone hreads ha hm hb (hsaid.mpr ⟨hm, hb⟩) honly)
    rw [hat i a hi', hlast, Option.map_some, hvalue, stored_single hm]
    rfl
  have hlost : b'.at? i = some none → a.isMultiple = false ∧ a.isBoolean = false := by
    intro hbound
    obtain ⟨_, _, _, hcontext, hholds, _⟩ := parsed_bindings hr hconverts hselects h
    obtain ⟨hm, hb, _⟩ :=
      hholds i a (by rw [hquery]; exact hi') (by rw [hcontext]; exact hsupplied) none hbound
    exact ⟨hm, hb⟩
  have hiff : b'.at? i = some none ↔ a.isMultiple = false ∧ a.isBoolean = false :=
    ⟨hlost, fun hkind => hsurvives hkind.1 hkind.2⟩
  refine ⟨field_null_iff.mpr ⟨hoptional, hnull⟩, hiff, ?_, ?_⟩
  · rw [field_null_iff, hiff]
    simp [hoptional]
  · intro hpos hkind
    have hunnamed : lastNaming a groups = none := by
      refine unnamed_of_reads hown htaken hreads ha hpos fun f hf hf' => ?_
      have hmem : (a, a.nullTokens) ∈ b.said := by
        rwa [← honly f hf hf', ← hf']
      obtain ⟨hm, hb⟩ := hsaid.mp hmem
      simp [hm, hb] at hkind
    rw [hat i a hi', hunnamed]
    rfl

/-! ## Two defaults -/

def pickQuery : QuerySpec where
  command := Heap.Histogram.command
  commandName := some "pick"
  arguments :=
    [{ name := "words", type := .string, multiplicity := .list,
        default := some (.list [.string "a"]) },
      { name := "limit", type := .long, default := some (.long 5) }]

def pickArguments : List Argument :=
  [⟨⟨0, 0⟩, "words", some "words", false, .list, .string, none, some (.list [.string "a"]), none⟩,
    ⟨⟨0, 1⟩, "limit", some "limit", false, .single, .long, none, some (.long 5), none⟩]

theorem pickQuery_built : ∃ p, pickQuery.build .empty 0 = .ok p ∧ p.identifier = "pick" ∧
    p.arguments = pickArguments :=
  ⟨_, rfl, rfl, rfl⟩

def nullPick (q : Query) : Bindings := ⟨q, .ofSupplied [], [(0, none), (1, none)]⟩

theorem nullPick_reached (hr : r.Reachable) (hp : p ∈ r.queries)
    (hargs : p.arguments = pickArguments) :
    (nullPick p.toQuery).Reached r (.ofSupplied []) := by
  have hmade := (hr.sound.offered hp (.inl rfl)).1
  obtain ⟨words, limit, hpick⟩ : ∃ words limit, pickArguments = [words, limit] := ⟨_, _, rfl⟩
  have hwords : p.arguments[0]? = some words := by rw [hargs, hpick]; rfl
  have hlimit : p.arguments[1]? = some limit := by rw [hargs, hpick]; rfl
  have hinitial : (Bindings.initial p.toQuery (.ofSupplied [])).entries = [] := by
    rw [Bindings.initial, Bindings.positions, hargs]
    rfl
  have hsame : ((Bindings.initial p.toQuery (.ofSupplied [])).bindAt 0 words none).bindAt 1 limit
      none = nullPick p.toQuery := by
    simp only [Bindings.bindAt, hinitial]
    rfl
  have hfirst : ((Bindings.initial p.toQuery (.ofSupplied [])).bindAt 0 words none).Reached r
      (.ofSupplied []) :=
    .set (.begin hp (.inl rfl) (hr.sound.begin_initial hp _))
      (List.mem_iff_getElem?.mpr ⟨0, hwords⟩) (Bindings.set_eq hmade hwords)
  rw [← hsame]
  exact hfirst.set (List.mem_iff_getElem?.mpr ⟨1, hlimit⟩) (Bindings.set_eq hmade hlimit)

theorem nullPick_calm (hargs : q.arguments = pickArguments) : (nullPick q).Calm := by
  refine calm_of_kept fun i a hi _ v hv => ?_
  have hnull : (nullPick q).at? i = some none := by
    rw [nullPick, hargs] at hi
    match i with
    | 0 | 1 => rfl
    | i + 2 => cases hi
  have hfree := shown_cases hv
  simp [hnull] at hfree

theorem nullPick_line (hid : q.identifier = "pick") (hargs : q.arguments = pickArguments) :
    (nullPick q).line = "pick -limit \"\"" := by
  rw [nullPick, Bindings.line, Bindings.positions, hargs, hid]
  rfl

theorem pickArguments_flags : ∀ a ∈ pickArguments, ∀ flag ∈ a.flag,
    Token.isSimple flag = true ∧ Text.isAscii flag = true := by
  intro a ha flag hflag
  simp only [pickArguments, List.mem_cons, List.not_mem_nil, or_false] at ha
  rcases ha with rfl | rfl <;> cases hflag <;> decide

/-- The line of these bindings is parsed, and the list is not bound by it. -/
theorem nullPick_parsed : ∃ (r : Registry) (p : Registered) (b' : Bindings), r.Reachable ∧
    p ∈ r.queries ∧ p.identifier = "pick" ∧ p.arguments = pickArguments ∧
    parse r (.ofSupplied []) (nullPick p.toQuery).line = .ok b' ∧ b'.at? 0 = none := by
  obtain ⟨p, hbuild, hid, hargs⟩ := pickQuery_built
  obtain ⟨r, hr, hp⟩ := Registry.reachable_alone hbuild
  have hfind : r.find? (Text.lower "pick") = some p := by
    rw [← hid, hr.sound.find_lower hp]
  have htaken : Taken p.toQuery (.ofSupplied [])
      [⟨⟨⟨0, 1⟩, "limit", some "limit", false, .single, .long, none, some (.long 5), none⟩,
        some "limit", [.null], none⟩] := by
    refine .cons ⟨by decide, ?_, rfl⟩ .nil
    rw [Query.argumentFlagged?, hargs]
    rfl
  have hline : ofLine (nullPick p.toQuery).line = .word "pick" :: [.word "-limit", .null] := by
    rw [nullPick_line hid hargs]
    decide
  obtain ⟨b', hparse, _, _, hat⟩ := parse_groups hr hp hline hfind htaken (by decide)
    (by simp [Group.isBare])
  refine ⟨r, p, b', hr, hp, hid, hargs, hparse, ?_⟩
  rw [hat 0 _ (by rw [hargs]; rfl)]
  rfl

/-- The number is null again. -/
theorem null_limit_survives : ∃ (r : Registry) (p : Registered) (b' : Bindings), r.Reachable ∧
    p ∈ r.queries ∧ (nullPick p.toQuery).Reached r (.ofSupplied []) ∧
    parse r (.ofSupplied []) (nullPick p.toQuery).line = .ok b' ∧ b'.at? 1 = some none ∧
    ∀ a, pickArguments[1]? = some a → b'.field? 1 a = .ok (some .null) := by
  obtain ⟨r, p, b', hr, hp, hid, hargs, hparse, _⟩ := nullPick_parsed
  obtain ⟨limit, hlimit, hoptional, hdefault, hkind⟩ : ∃ limit : Argument,
      pickArguments[1]? = some limit ∧ limit.mandatory = false ∧ limit.default = some (.long 5) ∧
      limit.isMultiple = false ∧ limit.isBoolean = false := ⟨_, rfl, rfl, rfl, rfl, rfl⟩
  have hflags : ∀ a ∈ p.arguments, a.SimpleFlag := fun a ha flag hflag =>
    (pickArguments_flags a (hargs ▸ ha) flag hflag).1
  obtain ⟨_, hat, hfield, _⟩ := null_survives_iff hr hp (.inl rfl) rfl
    (show Token.isSimple p.identifier = true by rw [hid]; decide) hflags (nullPick_calm hargs)
    (show p.arguments[1]? = some limit by rw [hargs, hlimit]) hoptional hdefault rfl rfl hparse
  refine ⟨r, p, b', hr, hp, nullPick_reached hr hp hargs, hparse, hat.mpr hkind, ?_⟩
  intro a ha
  obtain rfl := Option.some.inj (hlimit.symm.trans ha)
  exact hfield.mpr hkind

/-- The list is back at its default, though null was bound to it. -/
theorem null_list_forgotten :
    ¬ ∀ (r : Registry) (p : Registered) (supplied : List (Context.Slot × Value))
        (b b' : Bindings), r.Reachable → p ∈ r.queries → p.Offers b.query →
        b.Reached r (.ofSupplied supplied) →
        Token.isSimple b.query.identifier = true ∧ Text.isAscii b.query.identifier = true →
        b.query.PlainFlags → ∀ (i : Nat) (a : Argument) (d : Value),
        b.query.arguments[i]? = some a → a.mandatory = false → a.default = some d →
        (Context.ofSupplied supplied).supplies a = false → b.at? i = some none →
        parse r (.ofSupplied supplied) b.line = .ok b' →
        b'.at? i = some none ∧ b.field? i a = .ok (some .null) ∧
          b'.field? i a = .ok (some .null) := by
  intro h
  obtain ⟨r, p, b', hr, hp, hid, hargs, hparse, hat⟩ := nullPick_parsed
  obtain ⟨words, hwords, hoptional, hdefault⟩ : ∃ words : Argument,
      pickArguments[0]? = some words ∧ words.mandatory = false ∧
      words.default = some (.list [.string "a"]) := ⟨_, rfl, rfl, rfl⟩
  obtain ⟨hnull, _⟩ := h r p [] (nullPick p.toQuery) b' hr hp (.inl rfl)
    (nullPick_reached hr hp hargs)
    (show Token.isSimple p.identifier = true ∧ Text.isAscii p.identifier = true by
      rw [hid]; decide)
    (fun a ha => pickArguments_flags a (hargs ▸ ha)) 0 words _
    (show p.arguments[0]? = some words by rw [hargs, hwords]) hoptional hdefault rfl rfl hparse
  rw [hat] at hnull
  cases hnull

end HeapQuery
