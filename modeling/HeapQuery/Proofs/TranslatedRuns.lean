import HeapQuery.Proofs.CatalogRuns
import HeapQuery.Proofs.ExecutionSteps
import HeapQuery.Proofs.Wordless

namespace HeapQuery

/-- Results that look alike are one error, or values that look alike. -/
theorem map_alike {x x' : Except ε α} {g : α → γ} (h : x.map g = x'.map g) :
    (∃ e, x = .error e ∧ x' = .error e) ∨ ∃ a a', x = .ok a ∧ x' = .ok a' ∧ g a = g a' := by
  cases x with
  | error e =>
    cases x' with
    | error e' =>
      cases h
      exact .inl ⟨e, rfl, rfl⟩
    | ok a' => cases h
  | ok a =>
    cases x' with
    | error e' => cases h
    | ok a' => exact .inr ⟨a, a', rfl, rfl, Except.ok.inj h⟩

/-- Two computations end alike when their first parts do and the rest does after alike results. -/
theorem bind_alike {x x' : Except ε α} {f f' : α → Except ε β} {g : α → γ} {g' : β → δ}
    (hx : x.map g = x'.map g) (hf : ∀ a a', g a = g a' → (f a).map g' = (f' a').map g') :
    (x >>= f).map g' = (x' >>= f').map g' := by
  obtain ⟨e, rfl, rfl⟩ | ⟨a, a', rfl, rfl, ha⟩ := map_alike hx
  · rfl
  · exact hf a a' ha

/-! ## Registration -/

def ArgumentSpec.wordless (spec : ArgumentSpec) : ArgumentSpec := { spec with help := none }

theorem ArgumentSpec.build_wordless (spec : ArgumentSpec) (query : String) (id : ArgumentId) :
    spec.wordless.build query id = (spec.build query id).map Argument.wordless := by
  have hflag : spec.wordless.flag? = spec.flag? := rfl
  have hname : spec.wordless.hasEmptyName = spec.hasEmptyName := rfl
  have hfault : spec.wordless.adviceFault? = spec.adviceFault? := rfl
  have hdefault : spec.wordless.default? = spec.default? := rfl
  have htype : spec.wordless.type = spec.type := rfl
  unfold build
  rw [hname, hflag, hfault, hdefault, htype]
  split
  · rfl
  · split
    · rfl
    · split
      · rfl
      · split <;> rfl

namespace QuerySpec

theorem buildArguments_wordless (query : String) (registration position : Nat)
    (specs : List ArgumentSpec) :
    buildArguments query registration position (specs.map ArgumentSpec.wordless) =
      (buildArguments query registration position specs).map (List.map Argument.wordless) := by
  induction specs generalizing position with
  | nil => rfl
  | cons spec rest ih =>
    rw [List.map_cons, buildArguments, buildArguments, ArgumentSpec.build_wordless, ih]
    cases spec.build query ⟨registration, position⟩ with
    | error e => rfl
    | ok a => cases buildArguments query registration (position + 1) rest <;> rfl

/-- Translation changes the help of an argument and nothing else. -/
theorem translatedArguments_wordless (spec : QuerySpec) (t : Translations) :
    (spec.translatedArguments t).map ArgumentSpec.wordless =
      spec.arguments.map ArgumentSpec.wordless := by
  rw [translatedArguments, List.map_map]
  refine List.map_congr_left fun a _ => ?_
  simp only [Function.comp_apply]
  split <;> rfl

theorem checkDistinct_wordless (query : String) (names flags : List String)
    (arguments : List Argument) :
    checkDistinct query names flags (arguments.map Argument.wordless) =
      checkDistinct query names flags arguments := by
  induction arguments generalizing names flags with
  | nil => rfl
  | cons a rest ih =>
    have hname : a.wordless.name = a.name := rfl
    have hflag : a.wordless.flag = a.flag := rfl
    simp only [List.map_cons, checkDistinct, ih, hname, hflag]

theorem checkPositional_wordless (query : String) (arguments : List Argument) :
    checkPositional query (arguments.map Argument.wordless) = checkPositional query arguments := by
  unfold checkPositional
  rw [List.countP_map]
  rfl

theorem query_wordless (spec : QuerySpec) (t t' : Translations)
    {arguments arguments' : List Argument}
    (h : arguments.map Argument.wordless = arguments'.map Argument.wordless) :
    (spec.query t arguments).wordless = (spec.query t' arguments').wordless := by
  simp only [query, Query.wordless, h]

theorem presets_wordless (spec : QuerySpec) (t t' : Translations) {q q' : Query}
    (h : q.wordless = q'.wordless) :
    (spec.presets.mapIdx (preset q spec.key t)).map Query.wordless =
      (spec.presets.mapIdx (preset q' spec.key t')).map Query.wordless := by
  refine List.ext_getElem? fun i => ?_
  simp only [List.getElem?_map, List.getElem?_mapIdx, Option.map_map]
  congr 1
  funext p
  simp only [Query.wordless, Query.mk.injEq] at h
  simp [preset, Query.wordless, h]

theorem buildArguments_translated (spec : QuerySpec) (t t' : Translations) (registration : Nat) :
    (buildArguments spec.identifier registration 0 (spec.translatedArguments t)).map
        (List.map Argument.wordless) =
      (buildArguments spec.identifier registration 0 (spec.translatedArguments t')).map
        (List.map Argument.wordless) := by
  rw [← buildArguments_wordless, ← buildArguments_wordless, translatedArguments_wordless,
    translatedArguments_wordless]

/-- A query is registered or refused whatever its texts are translated to, and what is registered
differs in texts only. -/
theorem build_wordless (spec : QuerySpec) (t t' : Translations) (registration : Nat) :
    (spec.build t registration).map Registered.wordless =
      (spec.build t' registration).map Registered.wordless := by
  unfold build
  simp only []
  split
  · rfl
  · refine bind_alike (spec.buildArguments_translated t t' registration) ?_
    intro arguments arguments' hsame
    have hdistinct := checkDistinct_wordless spec.identifier [] [] arguments
    have hpositional := checkPositional_wordless spec.identifier arguments
    rw [hsame, checkDistinct_wordless] at hdistinct
    rw [hsame, checkPositional_wordless] at hpositional
    have hquery := spec.query_wordless t t' hsame
    have hpresets := spec.presets_wordless t t' hquery
    rw [hdistinct, hpositional]
    cases checkDistinct spec.identifier [] [] arguments with
    | error e => rfl
    | ok _ =>
      cases checkPositional spec.identifier arguments with
      | error e => rfl
      | ok _ =>
        refine congrArg Except.ok ?_
        simp only [Registered.wordless, hquery, hpresets]

end QuerySpec

/-! ## Calls -/

namespace Registry

/-- What an answer says apart from texts. Menus are texts throughout. -/
def Answer.wordless : Answer → Answer
  | registered q => registered q.wordless
  | refused e => refused e
  | removed q => removed (q.map Registered.wordless)
  | removedType qs => removedType (qs.map Registered.wordless)
  | menu _ => menu (.ofRegistered [])

def wordlessOutcome (outcome : List Answer × Registry) : List Answer × Registry :=
  (outcome.1.map Answer.wordless, outcome.2.wordless)

variable {r r' : Registry}

theorem same_fields (h : r.wordless = r'.wordless) :
    r.queries.map Registered.wordless = r'.queries.map Registered.wordless ∧
      r.byType = r'.byType ∧ r.next = r'.next := by
  simpa [wordless] using h

theorem identified?_same (h : r.wordless = r'.wordless) (identifier : String) :
    (r.identified? identifier).map Registered.wordless =
      (r'.identified? identifier).map Registered.wordless := by
  rw [← identified?_wordless, h, identified?_wordless]

theorem same_query {q q' : Registered} (h : q.wordless = q'.wordless) :
    q.identifier = q'.identifier ∧ q.command = q'.command := by
  have hidentifier : q.wordless.identifier = q'.wordless.identifier := by rw [h]
  have hcommand : q.wordless.command = q'.wordless.command := by rw [h]
  exact ⟨hidentifier, hcommand⟩

/-- A query is admitted to both catalogs or refused by both. -/
theorem register_same (h : r.wordless = r'.wordless) (spec : QuerySpec) :
    (r.register spec).map (fun (q, r) => (q.wordless, r.wordless)) =
      (r'.register spec).map fun (q, r) => (q.wordless, r.wordless) := by
  obtain ⟨hqueries, htypes, hnext⟩ := same_fields h
  unfold register
  rw [← hnext]
  refine bind_alike (spec.build_wordless r.translations r'.translations r.next) ?_
  intro q q' hq
  obtain ⟨hidentifier, hcommand⟩ := same_query hq
  have howner := identified?_same h q.identifier
  rw [← hidentifier, ← hcommand]
  cases hfound : r.identified? q.identifier with
  | none =>
    rw [hfound] at howner
    rw [Option.map_eq_none_iff.mp howner.symm]
    simp only [pure, Except.pure, Except.map, wordless, List.map_append, List.map_cons,
      List.map_nil, hq, hqueries, htypes]
  | some owner =>
    rw [hfound] at howner
    obtain ⟨owner', hfound', hsame⟩ := Option.map_eq_some_iff.mp howner.symm
    rw [hfound']
    obtain ⟨_, howner⟩ := same_query hsame
    simp only [howner]

theorem attempt_same (h : r.wordless = r'.wordless) (spec : QuerySpec) :
    (r.attempt spec).1.wordless = (r'.attempt spec).1.wordless ∧
      (r.attempt spec).2.wordless = (r'.attempt spec).2.wordless := by
  unfold attempt
  obtain ⟨e, hr, hr'⟩ | ⟨result, result', hr, hr', hsame⟩ := map_alike (register_same h spec)
  · rw [hr, hr']
    exact ⟨rfl, h⟩
  · obtain ⟨hq, hnext⟩ := Prod.mk.inj hsame
    rw [hr, hr']
    exact ⟨congrArg Answer.registered hq, hnext⟩

theorem attempts_same (h : r.wordless = r'.wordless) (specs : List QuerySpec) :
    wordlessOutcome (r.attempts specs) = wordlessOutcome (r'.attempts specs) := by
  induction specs generalizing r r' with
  | nil => exact congrArg (Prod.mk []) h
  | cons spec rest ih =>
    obtain ⟨hanswer, hnext⟩ := attempt_same h spec
    obtain ⟨hanswers, hlast⟩ := Prod.mk.inj (ih hnext)
    simp only [wordlessOutcome, attempts, List.map_cons, hanswer, hanswers, hlast]

theorem remove_wordless (r : Registry) (identifier : String) :
    r.wordless.remove identifier =
      ((r.remove identifier).1.map Registered.wordless, (r.remove identifier).2.wordless) := by
  unfold remove
  rw [identified?_wordless]
  cases r.identified? identifier with
  | none => rfl
  | some q =>
    simp only [Option.map_some, wordless, List.filter_map]
    rfl

theorem removeType_wordless (r : Registry) (typeName : String) :
    r.wordless.removeType typeName =
      ((r.removeType typeName).1.map Registered.wordless,
        (r.removeType typeName).2.wordless) := by
  have hfilter : ∀ p : String → Bool,
      r.wordless.queries.filter (fun q => p q.command.typeName) =
        (r.queries.filter fun q => p q.command.typeName).map Registered.wordless := by
    intro p
    simp only [wordless, List.filter_map]
    rfl
  have hremoved := hfilter (· == typeName)
  have hkept := hfilter fun name => !(name == typeName)
  simp only [removeType, List.partition_eq_filter_filter, Function.comp_def] at hremoved hkept ⊢
  rw [hremoved, hkept, List.isEmpty_map]
  split <;> rfl

theorem menu_wordless (r : Registry) : r.menu.2.wordless = r.wordless := by
  unfold menu
  split <;> rfl

/-- One call leaves catalogs that differ in texts only, with answers that do. -/
theorem perform_same (h : r.wordless = r'.wordless) (call : Call) :
    wordlessOutcome (r.perform call) = wordlessOutcome (r'.perform call) := by
  cases call with
  | register spec =>
    obtain ⟨hanswer, hnext⟩ := attempt_same h spec
    simp only [wordlessOutcome, perform, List.map_cons, List.map_nil, hanswer, hnext]
  | registerAll specs =>
    have hall := attempts_same h specs
    simpa only [wordlessOutcome, perform, registerAll_eq] using hall
  | remove identifier =>
    obtain ⟨hq, hnext⟩ := Prod.mk.inj
      ((remove_wordless r identifier).symm.trans (h ▸ remove_wordless r' identifier))
    simp only [wordlessOutcome, perform, List.map_cons, List.map_nil, Answer.wordless, hq, hnext]
  | removeType typeName =>
    obtain ⟨hqs, hnext⟩ := Prod.mk.inj
      ((removeType_wordless r typeName).symm.trans (h ▸ removeType_wordless r' typeName))
    simp only [wordlessOutcome, perform, List.map_cons, List.map_nil, Answer.wordless, hqs, hnext]
  | menu =>
    simp only [wordlessOutcome, perform, List.map_cons, List.map_nil, Answer.wordless,
      menu_wordless, h]

/-- So do all calls together. -/
theorem run_same (h : r.wordless = r'.wordless) (calls : List Call) :
    wordlessOutcome (r.run calls) = wordlessOutcome (r'.run calls) := by
  induction calls generalizing r r' with
  | nil => exact congrArg (Prod.mk []) h
  | cons call rest ih =>
    obtain ⟨hanswers, hnext⟩ := Prod.mk.inj (perform_same h call)
    obtain ⟨hrest, hlast⟩ := Prod.mk.inj (ih hnext)
    simp only [wordlessOutcome, run, List.map_append, hanswers, hrest, hlast]

end Registry

/-! ## Values given to the command -/

def Given.wordless (g : Given) : Given := (g.1.wordless, g.2)

def Stop.wordless : Stop → Stop
  | missing a => missing a.wordless
  | unbuilt a e => unbuilt a.wordless e
  | refused a e => refused a.wordless e

/-- After the same calls, texts apart, the command answers one call differently in the two cases,
though that call too is the same. The calls come after those accepted `before`. -/
def Command.TellsApart (c : Command) (before before' calls calls' : List Given) : Prop :=
  ∃ (done done' : List Given) (g g' : Given), done ++ [g] <+: calls ∧ done' ++ [g'] <+: calls' ∧
    done.map Given.wordless = done'.map Given.wordless ∧ g.wordless = g'.wordless ∧
    c.accept (before ++ done) g ≠ c.accept (before' ++ done') g'

/-- A command that answers the next call differently tells the walks apart. -/
theorem Command.tellsApart_now {c : Command} {before before' calls calls' : List Given}
    {g g' : Given} (hg : g.wordless = g'.wordless)
    (hne : c.accept before g ≠ c.accept before' g') :
    c.TellsApart before before' (g :: calls) (g' :: calls') :=
  ⟨[], [], g, g', ⟨calls, rfl⟩, ⟨calls', rfl⟩, rfl, hg, by simpa using hne⟩

theorem Command.tellsApart_later {c : Command} {before before' calls calls' : List Given}
    {g g' : Given} (hg : g.wordless = g'.wordless)
    (h : c.TellsApart (before ++ [g]) (before' ++ [g']) calls calls') :
    c.TellsApart before before' (g :: calls) (g' :: calls') := by
  obtain ⟨done, done', last, last', hcalls, hcalls', hdone, hlast, hne⟩ := h
  refine ⟨g :: done, g' :: done', last, last', List.cons_prefix_cons.mpr ⟨rfl, hcalls⟩,
    List.cons_prefix_cons.mpr ⟨rfl, hcalls'⟩, ?_, hlast, ?_⟩
  · rw [List.map_cons, List.map_cons, hg, hdone]
  · simpa using hne

/-- Walks in which the command refuses one call end alike, or it refuses them with other errors. -/
theorem Command.refused_same {c : Command} {before before' : List Given} {g g' : Given}
    (hg : g.wordless = g'.wordless) (h : c.accept before g = .error e)
    (h' : c.accept before' g' = .error e') :
    ([g].map Given.wordless = [g'].map Given.wordless ∧
      (some (Stop.refused g.1 e)).map Stop.wordless =
        (some (Stop.refused g'.1 e')).map Stop.wordless) ∨
    c.TellsApart before before' [g] [g'] := by
  by_cases he : e = e'
  · have ha : g.1.wordless = g'.1.wordless := congrArg Prod.fst hg
    refine .inl ⟨congrArg (fun g => [g]) hg, ?_⟩
    simp only [Option.map_some, Stop.wordless, ha, he]
  · refine .inr (tellsApart_now hg ?_)
    rw [h, h']
    simpa using he

/-- Whatever the value puts off is built alike for both arguments. -/
def Value.BuiltAlike (v : Value) (a a' : Argument) : Prop :=
  ∀ serial text product, .deferred serial text product ∈ v.elements →
    product a.view = product a'.view

namespace Argument

variable {a a' : Argument} {v item : Value} {r : Except QueryError Field}

/-- Arguments that differ in texts only differ in their help. -/
theorem same_but_help (h : a.wordless = a'.wordless) : a' = { a with help := a'.help } := by
  obtain ⟨⟩ := a
  obtain ⟨⟩ := a'
  simp only [wordless, mk.injEq] at h
  simp [h]

theorem Resolves.helped {binding : Option (Option Value)} {resolution : Argument.Resolution}
    (help : Option String) (h : a.Resolves binding resolution) :
    ({ a with help := help } : Argument).Resolves binding resolution := by
  cases h with
  | bound v => exact .bound v
  | null hm => exact .null hm
  | nullDefault hm hd => exact .nullDefault hm hd
  | nullMissing hm hd => exact .nullMissing hm hd
  | unsetDefault hd => exact .unsetDefault hd
  | unset hm hd => exact .unset hm hd
  | unsetMissing hm hd => exact .unsetMissing hm hd

theorem Resolves.alike {binding : Option (Option Value)} {resolution : Argument.Resolution}
    (ha : a.wordless = a'.wordless) (h : a.Resolves binding resolution) :
    a'.Resolves binding resolution := by
  rw [same_but_help ha]
  exact h.helped _

theorem force_alike (h : ∀ serial text product, item = .deferred serial text product →
    product a.view = product a'.view) : a.force item = a'.force item := by
  cases item with
  | deferred serial text product => exact h serial text product rfl
  | _ => rfl

theorem field_alike (ha : a.wordless = a'.wordless) (hv : v.BuiltAlike a a') :
    a.field v = a'.field v := by
  have hshape : a'.shape = a.shape := by
    rw [same_but_help ha]
    rfl
  have hm : a'.multiplicity = a.multiplicity := by
    rw [same_but_help ha]
  cases hkept : v.isDeferred with
  | true =>
    rw [field_whole (.inl hkept), field_whole (.inl hkept), hshape]
    congr 1
    refine force_alike fun serial text product hdeferred => hv serial text product ?_
    rw [hdeferred]
    exact List.mem_singleton_self _
  | false =>
    have hitems : v.elements.mapM a.force = v.elements.mapM a'.force := by
      refine mapM_congr fun item hitem => force_alike fun serial text product hdeferred => ?_
      exact hv serial text product (hdeferred ▸ hitem)
    rw [field_kept hkept, field_kept hkept, hm, hshape, hitems]

end Argument

namespace Bindings

variable {b b' : Bindings} {i : Nat} {a a' : Argument} {r r' : Except Stop (Option Field)}

/-- The entries are of one argument, help apart, and what it gets is built alike for both. -/
structure AlikeAt (b : Bindings) (entry entry' : Nat × Argument) : Prop where
  position : entry.1 = entry'.1
  words : entry.2.wordless = entry'.2.wordless
  built : ∀ v, b.at? entry.1 = some (some v) ∨ entry.2.default = some v →
    v.BuiltAlike entry.2 entry'.2

theorem resolved_of_value {v : Value} (h : a.Resolves (b.at? i) (.value v)) :
    b.at? i = some (some v) ∨ a.default = some v := by
  generalize b.at? i = binding at h ⊢
  cases h with
  | bound => exact .inl rfl
  | nullDefault _ hd | unsetDefault hd => exact .inr hd

/-- What an argument gives, it gives with another help too. -/
theorem Gives.alike (hat : b.at? i = b'.at? i) (halike : b.AlikeAt (i, a) (i, a'))
    (h : b.Gives i a r) :
    ∃ r', b'.Gives i a' r' ∧ r.mapError Stop.wordless = r'.mapError Stop.wordless := by
  have ha : a.wordless = a'.wordless := halike.words
  have hresolves : ∀ {resolution}, a.Resolves (b.at? i) resolution →
      a'.Resolves (b'.at? i) resolution := fun hr => hat ▸ hr.alike ha
  have hshapes : ∀ {v result}, a.Resolves (b.at? i) (.value v) → a.Shapes v result →
      a'.Shapes v result := by
    intro v result hr hs
    rw [Argument.shapes_iff] at hs ⊢
    rw [← Argument.field_alike ha (halike.built v (resolved_of_value hr)), hs]
  cases h with
  | value hr hs => exact ⟨_, .value (hresolves hr) (hshapes hr hs), rfl⟩
  | unbuilt hr hs =>
    refine ⟨_, .unbuilt (hresolves hr) (hshapes hr hs), ?_⟩
    simp only [Except.mapError, Stop.wordless, ha]
  | null hr => exact ⟨_, .null (hresolves hr), rfl⟩
  | nothing hr => exact ⟨_, .nothing (hresolves hr), rfl⟩
  | missing hr =>
    refine ⟨_, .missing (hresolves hr), ?_⟩
    simp only [Except.mapError, Stop.wordless, ha]

/-- An argument gives the same in bindings that differ in texts only. -/
theorem Gives.same {i' : Nat} (hat : ∀ i, b.at? i = b'.at? i)
    (halike : b.AlikeAt (i, a) (i', a')) (h : b.Gives i a r) (h' : b'.Gives i' a' r') :
    r.mapError Stop.wordless = r'.mapError Stop.wordless := by
  obtain rfl : i = i' := halike.position
  obtain ⟨r'', hgives, hsame⟩ := h.alike (hat i) halike
  rw [hsame, hgives.unique h']

/-- So does a field that the command is given. -/
theorem Gives.same_given {i' : Nat} {field field' : Field} (hat : ∀ i, b.at? i = b'.at? i)
    (halike : b.AlikeAt (i, a) (i', a')) (h : b.Gives i a (.ok (some field)))
    (h' : b'.Gives i' a' (.ok (some field'))) :
    Given.wordless (a, field) = Given.wordless (a', field') := by
  cases h.same hat halike h'
  exact congrArg (fun a => (a, field)) halike.words

/-- Walks that differ in texts only make the same calls and stop for the same reason, as long as the
command does not tell them apart. -/
theorem Walk.same {before before' calls calls' : List Given} {rest rest' : List (Nat × Argument)}
    {stop stop' : Option Stop} (hat : ∀ i, b.at? i = b'.at? i)
    (hcommand : b.query.command = b'.query.command)
    (hrest : List.Forall₂ b.AlikeAt rest rest')
    (h : b.Walk before rest calls stop) (h' : b'.Walk before' rest' calls' stop') :
    (calls.map Given.wordless = calls'.map Given.wordless ∧
      stop.map Stop.wordless = stop'.map Stop.wordless) ∨
    b.query.command.TellsApart before before' calls calls' := by
  induction h generalizing before' rest' calls' stop' with
  | done =>
    cases hrest
    cases h'
    exact .inl ⟨rfl, rfl⟩
  | passed hr _ ih =>
    obtain _ | ⟨halike, hrest⟩ := hrest
    cases h' with
    | passed hr' hwalk' => exact ih hrest hwalk'
    | stopped hr' | refused hr' | bound hr' => cases hr.same hat halike hr'
  | stopped hr =>
    obtain _ | ⟨halike, hrest⟩ := hrest
    cases h' with
    | stopped hr' => exact .inl ⟨rfl, congrArg some (Except.error.inj (hr.same hat halike hr'))⟩
    | passed hr' | refused hr' | bound hr' => cases hr.same hat halike hr'
  | refused hr haccept =>
    obtain _ | ⟨halike, hrest⟩ := hrest
    cases h' with
    | passed hr' | stopped hr' => cases hr.same hat halike hr'
    | refused hr' haccept' =>
      rw [← hcommand] at haccept'
      exact Command.refused_same (hr.same_given hat halike hr') haccept haccept'
    | bound hr' haccept' =>
      have hg := hr.same_given hat halike hr'
      rw [← hcommand] at haccept'
      exact .inr (Command.tellsApart_now hg (by simp [haccept, haccept']))
  | bound hr haccept _ ih =>
    obtain _ | ⟨halike, hrest⟩ := hrest
    cases h' with
    | passed hr' | stopped hr' => cases hr.same hat halike hr'
    | refused hr' haccept' =>
      have hg := hr.same_given hat halike hr'
      rw [← hcommand] at haccept'
      exact .inr (Command.tellsApart_now hg (by simp [haccept, haccept']))
    | bound hr' haccept' hwalk' =>
      have hg := hr.same_given hat halike hr'
      rcases ih hrest hwalk' with ⟨hcalls, hstop⟩ | hapart
      · refine .inl ⟨?_, hstop⟩
        rw [List.map_cons, List.map_cons, hg, hcalls]
      · exact .inr (Command.tellsApart_later hg hapart)

/-- No value of an argument, bound or by default, goes by the help of the argument when it is
built. -/
def BuildAlike (b b' : Bindings) : Prop :=
  ∀ (i : Nat) (a a' : Argument), b.query.arguments[i]? = some a →
    b'.query.arguments[i]? = some a' → ∀ v, b.at? i = some (some v) ∨ a.default = some v →
      v.BuiltAlike a a'

/-- Bindings that differ in the texts of the query only: the same values are bound, the same line is
written, and the command is given the same values as long as they are built alike. Only a command
that itself goes by the help of an argument, and so accepts a value in one case and refuses it in
the other, is given the values after that one in one case only. -/
structure SameButTexts (b b' : Bindings) : Prop where
  query : b.query.wordless = b'.query.wordless
  context : b.context = b'.context
  entries : b.entries = b'.entries
  line : b.line = b'.line
  fields : b.BuildAlike b' → (positions b.query).map (fun (i, a) => b.field? i a) =
    (positions b'.query).map fun (i, a) => b'.field? i a
  calls : b.BuildAlike b' → ∀ {calls calls' : List Given} {stop stop' : Option Stop},
    b.Walk [] (positions b.query) calls stop → b'.Walk [] (positions b'.query) calls' stop' →
    (calls.map Given.wordless = calls'.map Given.wordless ∧
      stop.map Stop.wordless = stop'.map Stop.wordless) ∨
    b.query.command.TellsApart [] [] calls calls'

theorem positions_alike (hquery : b.query.wordless = b'.query.wordless)
    (hbuild : b.BuildAlike b') :
    List.Forall₂ b.AlikeAt (positions b.query) (positions b'.query) := by
  have harguments : b.query.arguments.map Argument.wordless =
      b'.query.arguments.map Argument.wordless := congrArg Query.arguments hquery
  have hlength : b.query.arguments.length = b'.query.arguments.length := by
    simpa using congrArg List.length harguments
  refine List.forall₂_iff_get.mpr ⟨by simp [positions, hlength], fun i hi hi' => ?_⟩
  simp only [positions, List.length_mapIdx] at hi hi'
  have hwords := congrArg (·[i]?) harguments
  simp only [List.getElem?_map, List.getElem?_eq_getElem hi, List.getElem?_eq_getElem hi',
    Option.map_some, Option.some.injEq] at hwords
  simp only [positions, List.get_eq_getElem, List.getElem_mapIdx]
  exact ⟨rfl, hwords, hbuild i _ _ (List.getElem?_eq_getElem hi) (List.getElem?_eq_getElem hi')⟩

theorem field_same {entry entry' : Nat × Argument} (hat : ∀ i, b.at? i = b'.at? i)
    (halike : b.AlikeAt entry entry') :
    b.field? entry.1 entry.2 = b'.field? entry'.1 entry'.2 := by
  obtain ⟨r, hr⟩ := Gives.total b entry.1 entry.2
  obtain ⟨r', hr'⟩ := Gives.total b' entry'.1 entry'.2
  have hsame := hr.same hat halike hr'
  have herror : ∀ stop : Stop, stop.wordless.error = stop.error := fun stop => by
    cases stop <;> rfl
  have herrors : ∀ r : Except Stop (Option Field),
      (r.mapError Stop.wordless).mapError Stop.error = r.mapError Stop.error := by
    intro r
    cases r with
    | ok => rfl
    | error stop => exact congrArg Except.error (herror stop)
  rw [hr.field, hr'.field, ← herrors, hsame, herrors]

theorem sameButTexts (h : b.wordless = b'.wordless) : b.SameButTexts b' := by
  have hquery : b.query.wordless = b'.query.wordless := congrArg Bindings.query h
  have hcontext : b.wordless.context = b'.wordless.context := by rw [h]
  have hentries : b.wordless.entries = b'.wordless.entries := by rw [h]
  have hcommand : b.query.wordless.command = b'.query.wordless.command := by rw [hquery]
  have hat : ∀ i, b.at? i = b'.at? i := fun i => congrArg (List.lookup i) hentries
  constructor
  case query => exact hquery
  case context => exact hcontext
  case entries => exact hentries
  case line => rw [← line_wordless, h, line_wordless]
  case fields =>
    intro hbuild
    rw [← List.forall₂_eq_eq_eq, List.forall₂_map_left_iff, List.forall₂_map_right_iff]
    exact (positions_alike hquery hbuild).imp fun entry entry' halike => field_same hat halike
  case calls =>
    exact fun hbuild _ _ _ _ hwalk hwalk' =>
      hwalk.same hat hcommand (positions_alike hquery hbuild) hwalk'

end Bindings

/-! ## Whole runs -/

inductive SameOutcome : Except QueryError Bindings → Except QueryError Bindings → Prop where
  | refused (e : QueryError) : SameOutcome (.error e) (.error e)
  | bound {b b' : Bindings} : b.SameButTexts b' → SameOutcome (.ok b) (.ok b')

theorem sameOutcome {x x' : Except QueryError Bindings}
    (h : x.map Bindings.wordless = x'.map Bindings.wordless) : SameOutcome x x' := by
  obtain ⟨e, rfl, rfl⟩ | ⟨b, b', rfl, rfl, hb⟩ := map_alike h
  · exact .refused e
  · exact .bound (Bindings.sameButTexts hb)

namespace Registry

/-- Two runs of a catalog: answers and queries differ in texts only, and lines are read alike. -/
structure SameRuns (run run' : List Answer × Registry) : Prop where
  answers : run.1.map Answer.wordless = run'.1.map Answer.wordless
  queries : run.2.queries.map Registered.wordless = run'.2.queries.map Registered.wordless
  usages : ∀ c, run.2.queries.map (fun q => q.usage c) = run'.2.queries.map fun q => q.usage c
  parsed : ∀ c line, SameOutcome (CommandLine.parse run.2 c line) (CommandLine.parse run'.2 c line)

/-- Translations change texts only. Catalogs that differ in the table alone answer all calls alike,
hold queries that differ in texts only and read every command line alike. -/
theorem translations_change_texts (r : Registry) (t : Translations) (calls : List Call) :
    SameRuns (r.run calls) (({ r with translations := t } : Registry).run calls) := by
  have hstart : r.wordless = ({ r with translations := t } : Registry).wordless := rfl
  obtain ⟨hanswers, hlast⟩ := Prod.mk.inj (run_same hstart calls)
  obtain ⟨hqueries, _, _⟩ := same_fields hlast
  have husages : ∀ (c : Context) (qs : List Registered), qs.map (fun q => q.usage c) =
      (qs.map Registered.wordless).map fun q => q.usage c := by
    intro c qs
    rw [List.map_map]
    exact List.map_congr_left fun q _ => (q.toQuery.usage_wordless c).symm
  constructor
  case answers => exact hanswers
  case queries => exact hqueries
  case usages =>
    intro c
    rw [husages, hqueries, ← husages]
  case parsed =>
    intro c line
    refine sameOutcome ?_
    rw [← CommandLine.parse_wordless, hlast, CommandLine.parse_wordless]

end Registry

end HeapQuery
