import HeapQuery.Heap.ShowObjects
import HeapQuery.Proofs.AddressRuns
import HeapQuery.Proofs.LineReplay
import HeapQuery.Proofs.WellFormedSpecs

namespace HeapQuery

open CommandLine Heap

variable {c : Context} {a : Argument} {b b' : Bindings} {i : Nat} {p : Registered}
  {snapshot : Option Snapshot}

/-! ## The query -/

/-- The arguments of the query, whose help may have been translated. -/
theorem showObjects_arguments (h : showObjects.build t n = .ok p) :
    p.identifier = "show_objects" ∧ ∃ first second third, p.arguments =
      [⟨⟨n, 0⟩, "snapshot", some "snapshot", true, .single, snapshotType, none, none, first⟩,
        ⟨⟨n, 1⟩, "objects", none, true, .single, objectsType, some .heapObject, none, second⟩,
        ⟨⟨n, 2⟩, "min", some "min", false, .single, .long, none, some (.long 0), third⟩] := by
  obtain ⟨hid, harguments⟩ := QuerySpec.build_describes h
  rw [QuerySpec.translatedArguments_eq] at harguments
  generalize showObjects.translatedHelp t = help at harguments
  have hsnapshot : Text.lower "snapshot" = "snapshot" := by decide
  have hmin : Text.lower "min" = "min" := by decide
  simp only [QuerySpec.describedFrom, showObjects, snapshotArgument, List.map_cons, List.map_nil,
    List.mapIdx_cons, List.mapIdx_nil, ArgumentSpec.described, ArgumentSpec.chosenFlag, hsnapshot,
    hmin] at harguments
  exact ⟨hid.trans (by decide), _, _, _, harguments⟩

/-- Each argument is the snapshot, the selection or the smallest size. -/
theorem showObjects_cases (h : showObjects.build t n = .ok p) (ha : a ∈ p.arguments) :
    (a.name = "snapshot" ∧ a.flag = some "snapshot" ∧ a.type = snapshotType ∧ a.advice = none ∧
      a.default = none) ∨
    (a.name = "objects" ∧ a.flag = none ∧ a.type = objectsType ∧ a.advice = some .heapObject ∧
      a.default = none) ∨
    (a.name = "min" ∧ a.flag = some "min" ∧ a.type = .long ∧ a.isMultiple = false ∧
      a.default = some (.long 0)) := by
  obtain ⟨_, first, second, third, harguments⟩ := showObjects_arguments h
  rw [harguments] at ha
  simp only [List.mem_cons, List.not_mem_nil, or_false] at ha
  rcases ha with rfl | rfl | rfl
  · exact .inl ⟨rfl, rfl, rfl, rfl, rfl⟩
  · exact .inr (.inl ⟨rfl, rfl, rfl, rfl, rfl⟩)
  · exact .inr (.inr ⟨rfl, rfl, rfl, rfl, rfl⟩)

theorem showObjects_flags (h : showObjects.build t n = .ok p) : p.toQuery.PlainFlags := by
  intro a ha flag hflag
  rcases showObjects_cases h ha with ⟨_, hown, _⟩ | ⟨_, hown, _⟩ | ⟨_, hown, _⟩
  · obtain rfl := Option.some.inj (hown.symm.trans hflag)
    decide
  · rw [hown] at hflag
    cases hflag
  · obtain rfl := Option.some.inj (hown.symm.trans hflag)
    decide

theorem showObjects_defaults (h : showObjects.build t n = .ok p) (hquery : b.query = p.toQuery) :
    b.DefaultsWritten := by
  intro i a hi _ _ value hvalue
  have ha : a ∈ p.arguments := List.mem_iff_getElem?.mpr ⟨i, hquery ▸ hi⟩
  rcases showObjects_cases h ha with ⟨_, _, _, _, hnone⟩ | ⟨_, _, _, _, hnone⟩ |
    ⟨_, _, htype, hm, hdefault⟩
  · rw [hnone] at hvalue
    cases hvalue
  · rw [hnone] at hvalue
    cases hvalue
  · obtain rfl := Option.some.inj (hdefault.symm.trans hvalue)
    refine .inr fun part hpart => ?_
    obtain rfl : part = .long 0 := by simpa [Argument.parts, hm] using hpart
    exact ⟨rfl, (fun _ hpattern => by cases hpattern), trivial⟩

theorem showObjects_separated (h : showObjects.build t n = .ok p) (hquery : b.query = p.toQuery)
    (hmade : b.query.WellMade) (hc : b.context = environment snapshot) : b.Separated := by
  refine separated_of_positional hmade fun a ha hparses => ?_
  rw [hc] at hparses
  change isSelection a.type a.advice = true at hparses
  rcases showObjects_cases h (hquery ▸ ha) with ⟨_, _, htype, _⟩ | ⟨_, hflag, _⟩ | ⟨_, _, htype, _⟩
  · rw [htype] at hparses
    cases hparses
  · simp [Argument.isPositional, hflag]
  · rw [htype] at hparses
    cases hparses

/-! ## What is bound again -/

/-- The line binds again what it shows. -/
theorem at_again (hb : a.isBoolean = false) (hsupplied : b.context.supplies a = false)
    (hat : b'.at? i = ((b.groupAt? i a).map fun g => Bindings.stored a g.value).or
      (b.context.startOf a)) :
    b'.at? i = ((b.shown? i a).bind a.group?).map fun g => Bindings.stored a g.value := by
  have hstart : b.context.startOf a = none := by simp [Context.startOf, hb, hsupplied]
  rw [hat, hstart, Option.or_none, Bindings.groupAt?, if_neg (by simp [hsupplied])]

/-- The objects are not selected, or they are selected the same. -/
theorem objects_again (hparses : c.parses a.type a.advice = true) (hdefault : a.default = none)
    (hparsed : ∀ v, b.at? i = some v → a.Parsed c v)
    (hagain : b'.at? i = ((b.shown? i a).bind a.group?).map fun g => Bindings.stored a g.value) :
    (b.at? i = none ∧ b'.at? i = none) ∨ ∃ s : Selection, s.Readable ∧
      b.at? i = some (some s.value) ∧ b'.at? i = some (some s.value) := by
  cases hat : b.at? i with
  | none =>
    refine .inl ⟨rfl, ?_⟩
    simpa [Bindings.shown?, hat, hdefault] using hagain
  | some bound =>
    have hbound := hparsed bound hat
    cases bound with
    | none =>
      have hnot := hbound.2.2
      rw [hparses] at hnot
      cases hnot
    | some value =>
      simp only [Argument.Parsed, hparses, ↓reduceIte] at hbound
      obtain ⟨s, hs, rfl⟩ := hbound
      have hshown : b.shown? i a = some (some s.value) := by simp only [Bindings.shown?, hat]
      rw [hshown, Option.bind_some] at hagain
      exact .inr ⟨s, hs, rfl, selection_bound s hagain⟩

theorem rendered_long {value : Value} {n : Int64} (h : value.rendered = .long n) :
    value = .long n := by
  cases value with
  | long m => exact h
  | _ => cases h

/-- An argument of numbers resolves to a number. -/
theorem resolved_long {value : Value} (htype : a.type = .long) (hm : a.isMultiple = false)
    (hdefault : ∀ v ∈ a.default, ∃ n, v = .long n)
    (hparsed : ∀ v, b.at? i = some v → a.Parsed c v) (hp : c.parses a.type a.advice = false)
    (h : b.resolved i a = some value) : ∃ n, value = .long n := by
  unfold Bindings.resolved at h
  split at h
  · rename_i v hat
    have hbound := hparsed _ hat
    simp only [Argument.Parsed, hp, Argument.Legible, hm] at hbound
    obtain ⟨haccepts, hplain, _⟩ := hbound.1
    rw [htype] at haccepts
    cases h
    cases value with
    | long n => exact ⟨n, rfl⟩
    | deferred | host => cases hplain
    | _ => cases haccepts
  · split at h
    · exact hdefault _ h
    · cases h
  · exact hdefault _ h

/-- A number with a default resolves to the same number, and null hides the default again. -/
theorem number_again {n : Int64} (htype : a.type = .long) (hm : a.isMultiple = false)
    (hdefault : a.default = some (.long n)) (hp : c.parses a.type a.advice = false)
    (hshows : ∀ value, b.shown? i a = some value → a.Shows c value)
    (hparsed : ∀ v, b.at? i = some v → a.Parsed c v)
    (hagain : b'.at? i = ((b.shown? i a).bind a.group?).map fun g => Bindings.stored a g.value) :
    b'.resolved i a = b.resolved i a ∧ b'.field? i a = b.field? i a := by
  have hdefaults : ∀ v ∈ a.default, ∃ n, v = .long n := by
    intro v hv
    rw [hdefault] at hv
    cases hv
    exact ⟨n, rfl⟩
  obtain ⟨value, hshown⟩ : ∃ value, b.shown? i a = some value := by
    refine Option.ne_none_iff_exists'.mp fun hhidden => ?_
    rw [(resolved_of_hidden hhidden).2] at hdefault
    cases hdefault
  have hrendered : (b'.resolved i a).map Value.rendered = (b.resolved i a).map Value.rendered := by
    rw [hshown, Option.bind_some] at hagain
    have hswitch : a.isBoolean = false := by
      rw [Argument.isBoolean, htype]
      rfl
    have hkept := resolved_again hswitch hshown (hshows value hshown) hparsed hagain
    rwa [kept_single hm, Option.bind_fun_some] at hkept
  have hsame : b'.resolved i a = b.resolved i a := by
    cases hresolved : b.resolved i a with
    | none =>
      rw [hresolved] at hrendered
      exact Option.map_eq_none_iff.mp hrendered
    | some value =>
      obtain ⟨m, rfl⟩ := resolved_long htype hm hdefaults hparsed hp hresolved
      rw [hresolved] at hrendered
      obtain ⟨v, hv, hlong⟩ := Option.map_eq_some_iff.mp hrendered
      rw [hv, rendered_long hlong]
  have hnull : ∀ b : Bindings, b.resolved i a = none → b.at? i = some none := by
    intro b h
    unfold Bindings.resolved at h
    split at h
    · cases h
    · assumption
    · rw [hdefault] at h
      cases h
  refine ⟨hsame, ?_⟩
  rw [field_eq, field_eq, hsame]
  cases hresolved : b.resolved i a with
  | some value => rfl
  | none => simp [hnull b hresolved, hnull b' (hsame.trans hresolved)]

/-- The line of a parsed line selects the same objects, and the same smallest size. -/
theorem showObjects_again {r : Registry} {line : String} (hr : r.Reachable) (hp : p ∈ r.queries)
    (hbuild : showObjects.build t n = .ok p) (h : parse r (environment snapshot) line = .ok b)
    (hquery : b.query = p.toQuery) :
    ∃ b', parse r (environment snapshot) b.line = .ok b' ∧ b'.query = b.query ∧
      ∀ (i : Nat) (a : Argument), b.query.arguments[i]? = some a →
        (a.name = "objects" →
          (b.at? i = none ∧ b'.at? i = none) ∨ ∃ s : Selection, s.Readable ∧
            b.at? i = some (some s.value) ∧ b'.at? i = some (some s.value)) ∧
        (a.name = "min" → b'.resolved i a = b.resolved i a ∧ b'.field? i a = b.field? i a) := by
  have hknown : (environment snapshot).Known := .inr ⟨snapshot, rfl⟩
  obtain ⟨_, _, _, hcontext, hholds, _⟩ := parsed_bindings hr hknown.converts hknown.selects h
  have hmade : b.query.WellMade := hquery ▸ (hr.sound.offered hp (.inl rfl)).1
  have hid : Token.isSimple b.query.identifier = true ∧
      Text.isAscii b.query.identifier = true := by
    rw [hquery, (showObjects_arguments hbuild).1]
    decide
  have hdefaults := showObjects_defaults hbuild hquery
  obtain ⟨b', hparse, hquery', _, hat⟩ := line_parsed_again hr hknown h hid
    (hquery ▸ showObjects_flags hbuild) hdefaults
    (showObjects_separated hbuild hquery hmade hcontext)
  refine ⟨b', hparse, hquery', fun i a hi => ?_⟩
  have ha : a ∈ p.arguments := List.mem_iff_getElem?.mpr ⟨i, hquery ▸ hi⟩
  have hother : ∀ {name own : String}, a.name = own → own ≠ name → a.name ≠ name :=
    fun hown hne h => hne (hown.symm.trans h)
  have hat := hat i a hi
  rw [← hcontext] at hholds hat
  rcases showObjects_cases hbuild ha with ⟨hname, _⟩ | ⟨hname, _, htype, hadvice, hdefault⟩ |
    ⟨hname, _, htype, hm, hdefault⟩
  · exact ⟨fun h => absurd h (hother hname (by decide)),
      fun h => absurd h (hother hname (by decide))⟩
  · refine ⟨fun _ => ?_, fun h => absurd h (hother hname (by decide))⟩
    have hsupplied : b.context.supplies a = false := by
      rw [hcontext, Context.supplies, htype]
      exact Bool.and_false _
    have hparses : b.context.parses a.type a.advice = true := by
      rw [hcontext, htype, hadvice]
      rfl
    have hswitch : a.isBoolean = false := by
      rw [Argument.isBoolean, htype]
      rfl
    exact objects_again hparses hdefault (hholds i a hi hsupplied) (at_again hswitch hsupplied hat)
  · refine ⟨fun h => absurd h (hother hname (by decide)), fun _ => ?_⟩
    have hsupplied : b.context.supplies a = false := by
      rw [hcontext, Context.supplies, htype]
      exact Bool.and_false _
    have hparses : b.context.parses a.type a.advice = false := by
      rw [hcontext, htype]
      rfl
    have hswitch : a.isBoolean = false := by
      rw [Argument.isBoolean, htype]
      rfl
    have hshows := shows_of_parsed (hcontext ▸ hknown.selects) hmade hholds hdefaults i a hi hsupplied
    exact number_again htype hm hdefault hparses hshows (hholds i a hi hsupplied)
      (at_again hswitch hsupplied hat)

/-- A selection is read from the longest run of tokens that look like addresses, unless the run is
empty or a token of it holds no number, and it is read again from its own text. So a line that
selects objects is written as a line that selects the same objects, with the same smallest size. -/
theorem selection_survives_text :
    (∀ (tokens : List Token) (position : Nat),
      ((∃ e, (Selection.read (tokens.drop position)).1 = .error e) ↔
        addressRun (tokens.drop position) = [] ∨
          ∃ token ∈ addressRun (tokens.drop position), ∀ n, ¬ Holds token n) ∧
      ∀ (s : Selection) (taken : Nat), Selection.read (tokens.drop position) = (.ok s, taken) →
        taken = (addressRun (tokens.drop position)).length ∧
        List.Forall₂ Holds (addressRun (tokens.drop position)) s.ids ∧
        Selection.read (Token.ofLine s.usage) = (.ok s, (Token.ofLine s.usage).length)) ∧
    ∀ (r : Registry) (p : Registered) (t : Translations) (n : Nat) (snapshot : Option Snapshot)
        (line : String) (b : Bindings), r.Reachable → p ∈ r.queries →
        showObjects.build t n = .ok p → parse r (environment snapshot) line = .ok b →
        b.query = p.toQuery →
      ∃ b', parse r (environment snapshot) b.line = .ok b' ∧ b'.query = b.query ∧
        ∀ (i : Nat) (a : Argument), b.query.arguments[i]? = some a →
          (a.name = "objects" →
            (b.at? i = none ∧ b'.at? i = none) ∨ ∃ s : Selection, s.Readable ∧
              b.at? i = some (some s.value) ∧ b'.at? i = some (some s.value)) ∧
          (a.name = "min" → b'.resolved i a = b.resolved i a ∧ b'.field? i a = b.field? i a) := by
  refine ⟨fun tokens position => ⟨Selection.read_error, fun s taken h => ?_⟩, ?_⟩
  · obtain ⟨_, hholds, hlength⟩ := Selection.read_ok.mp h
    have hreadable : s.Readable := Selection.readable_of_read (congrArg Prod.fst h)
    have hagain : Selection.read (s.tokens ++ []) = (.ok s, s.tokens.length) :=
      Selection.read_tokens hreadable nofun
    rw [List.append_nil] at hagain
    refine ⟨hlength.symm, hholds, ?_⟩
    rw [Selection.ofLine_usage]
    exact hagain
  · intro r p t n snapshot line b hr hp hbuild h hquery
    exact showObjects_again hr hp hbuild h hquery

/-- The largest address and one in decimal digits, without a snapshot. -/
theorem largest_address_survives : ∃ (r : Registry) (p : Registered) (b b' : Bindings),
    r.Reachable ∧ p ∈ r.queries ∧ showObjects.build .empty 0 = .ok p ∧
    parse r (environment none) "show_objects 0xffffffffffffffff #21 -min 32" = .ok b ∧
    b.query = p.toQuery ∧ parse r (environment none) b.line = .ok b' ∧
    b'.at? 1 = some (some (Selection.value ⟨[18446744073709551615, 21]⟩)) := by
  obtain ⟨p, hbuild⟩ : ∃ p, showObjects.build .empty 0 = .ok p := ⟨_, rfl⟩
  obtain ⟨r, hr, hp⟩ := Registry.reachable_alone hbuild
  obtain ⟨hid, first, second, third, hargs⟩ := showObjects_arguments hbuild
  have hfind : r.find? (Text.lower "show_objects") = some p :=
    hr.sound.find_typed hp (by rw [hid]; decide)
  have hline : Token.ofLine "show_objects 0xffffffffffffffff #21 -min 32" =
      [.word "show_objects", .word "0xffffffffffffffff", .word "#21", .word "-min", .word "32"] := by
    decide
  have htaken : Taken p.toQuery (environment none)
      [⟨⟨⟨0, 1⟩, "objects", none, true, .single, objectsType, some .heapObject, none, second⟩, none,
          [.word "0xffffffffffffffff", .word "#21"],
          some (Selection.value ⟨[18446744073709551615, 21]⟩)⟩,
        ⟨⟨⟨0, 2⟩, "min", some "min", false, .single, .long, none, some (.long 0), third⟩, some "min",
          [.word "32"], some (.long 32)⟩] := by
    refine .cons ⟨by simp [hargs], rfl, ⟨_, _, rfl, by decide⟩, rfl⟩ (.cons ⟨by decide, ?_, rfl⟩ .nil)
    rw [Query.argumentFlagged?, hargs]
    rfl
  obtain ⟨b, hparse, hquery, _, hat⟩ := parse_groups hr hp hline hfind htaken (Nat.le_refl 1)
    fun _ _ _ => rfl
  have hbound : b.at? 1 = some (some (Selection.value ⟨[18446744073709551615, 21]⟩)) := by
    rw [hat 1 _ (by rw [hargs]; rfl)]
    rfl
  obtain ⟨b', hparse', _, hsame⟩ :=
    selection_survives_text.2 r p .empty 0 none _ b hr hp hbuild hparse hquery
  rcases (hsame 1 _ (by rw [hquery, hargs]; rfl)).1 rfl with ⟨hnone, _⟩ | ⟨s, _, hs, hs'⟩
  · rw [hbound] at hnone
    cases hnone
  · rw [← hs, hbound] at hs'
    exact ⟨r, p, b, b', hr, hp, hbuild, hparse, hquery, hparse', hs'⟩

end HeapQuery
