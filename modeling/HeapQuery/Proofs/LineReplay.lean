import HeapQuery.Bindings.Execution
import HeapQuery.Proofs.LineRoundTrip
import HeapQuery.Proofs.ParsedBindings

namespace HeapQuery

open CommandLine

variable {q : Query} {c : Context} {a : Argument} {b b' : Bindings} {i : Nat} {value : Value}

/-! ## What a run is given -/

/-- The value that stands for an argument when the query runs: the default stands in for a missing
value, and for null where the argument is mandatory. -/
def Bindings.resolved (b : Bindings) (position : Nat) (a : Argument) : Option Value :=
  match b.at? position with
  | some (some value) => some value
  | some none => if a.mandatory then a.default else none
  | none => a.default

/-- What the command is given is decided by the value that stands for the argument. -/
theorem field_eq (b : Bindings) (i : Nat) (a : Argument) :
    b.field? i a = match b.resolved i a with
      | some value => do return some (← a.field value)
      | none =>
        if a.mandatory then .error (.missingMandatoryArgument a.name)
        else if (b.at? i).isSome then .ok (some .null)
        else .ok none := rfl

def Value.rendered : Value → Value
  | .list items => .list (items.map written)
  | value => value.written

/-- What the line keeps of a value that stands for the argument. Elements without a text are left
out, and an empty list is as good as no binding. -/
def Argument.kept (a : Argument) (value : Value) : Option Value :=
  if a.isMultiple && !value.isDeferred then
    match value.elements.filter (a.canWrite true) with
    | [] => a.default
    | items => some (.list items)
  else some value

/-! ## What the line shows -/

/-- A default that the line can show: a selection that the environment reads, or parts that neither
have to be built nor would be rewritten when they are read. -/
def Argument.DefaultWritten (c : Context) (a : Argument) : Prop :=
  ∀ value ∈ a.default,
    (c.parses a.type a.advice = true ∧ ∃ s : Heap.Selection, s.Readable ∧ value = s.value) ∨
    ∀ part ∈ a.parts value,
      part.isPlain = true ∧ ValueType.Settled a.advice part ∧ part.Representable

/-- What the line may show of an argument: a selection where the environment reads one, and a
legible value elsewhere. Only a default without elements is legible where a selection is read. -/
def Argument.Shows (c : Context) (a : Argument) : Option Value → Prop
  | none => c.parses a.type a.advice = false
  | some value =>
    (c.parses a.type a.advice = true ∧ ∃ s : Heap.Selection, s.Readable ∧ value = s.value) ∨
    (a.Legible value ∧ (c.parses a.type a.advice = true → a.isMultiple = true ∧ value = .list []))

theorem Argument.Parsed.shows {value : Option Value} (h : a.Parsed c value) : a.Shows c value := by
  cases value with
  | none => exact h.2.2
  | some value =>
    cases hp : c.parses a.type a.advice with
    | true =>
      simp only [Parsed, hp, ↓reduceIte] at h
      exact .inl ⟨hp, h⟩
    | false =>
      simp only [Parsed, hp] at h
      exact .inr ⟨h.1, by simp [hp]⟩

theorem legible_default (hmade : a.WellMade) (hdefault : a.default = some value)
    (hparts : ∀ part ∈ a.parts value,
      part.isPlain = true ∧ ValueType.Settled a.advice part ∧ part.Representable) :
    a.Legible value := by
  obtain ⟨hlist, haccepts⟩ := hmade.default_parts hdefault
    (Argument.not_deferred_of_parts fun part hm => (hparts part hm).1)
  refine Argument.legible_of_parts hlist fun part hm => ?_
  obtain ⟨hplain, hsettled, hrepresentable⟩ := hparts part hm
  exact ValueType.legible_of_settled (haccepts part hm) hplain hsettled hrepresentable

/-- Values of a host type are never legible. -/
theorem not_legible_objects (h : Heap.objectsType.Legible advice value) : False := by
  obtain ⟨haccepts, hplain, _⟩ := h
  cases value with
  | deferred | host => cases hplain
  | _ => cases haccepts

theorem legible_where_selected (hs : c.Selects) (hp : c.parses a.type a.advice = true)
    (h : a.Legible value) : a.isMultiple = true ∧ value = .list [] := by
  have htype := (hs _ _ hp).1
  unfold Argument.Legible at h
  rw [htype] at h
  split at h
  · rename_i hm
    obtain ⟨items, rfl, hitems⟩ := h
    cases items with
    | nil => exact ⟨hm, rfl⟩
    | cons item items => exact (not_legible_objects (hitems item List.mem_cons_self)).elim
  · exact (not_legible_objects h).elim

/-- All that the line shows of parsed bindings can be read again. -/
theorem shown_shows {value : Option Value} (hs : c.Selects) (hmade : a.WellMade)
    (hw : b.at? i = none → a.DefaultWritten c) (hb : ∀ value, b.at? i = some value → a.Parsed c value)
    (h : b.shown? i a = some value) : a.Shows c value := by
  unfold Bindings.shown? at h
  split at h
  · rename_i hat
    cases h
    exact (hb _ hat).shows
  · rename_i hat hdefault
    cases h
    rcases hw hat _ hdefault with hselection | hparts
    · exact .inl hselection
    · have hlegible := legible_default hmade hdefault hparts
      exact .inr ⟨hlegible, fun hp => legible_where_selected hs hp hlegible⟩
  · rename_i hat _
    cases h
    exact (hb _ hat).shows
  all_goals cases h

theorem Argument.Shows.spelled (h : a.Shows c (some value)) : Argument.Spelled value := by
  rcases h with ⟨_, s, hs, rfl⟩ | ⟨h, _⟩
  · exact Heap.Selection.value_spelled hs.1
  · exact h.spelled

/-! ## Reading the line -/

/-- No positional text comes right after a selection that would go on with it: the selection is not
closed by a semicolon, and the text is no address. -/
def Bindings.Separated (b : Bindings) : Prop :=
  b.groups.IsChain fun g next =>
    b.context.parses g.argument.type g.argument.advice = true → next.isBare = true →
      g.argument.isMultiple = false ∧ Heap.Selection.EndsBefore next.tokens

theorem takeValue_selection {s : Heap.Selection} {rest : List Token} (hs : c.Selects)
    (hp : c.parses a.type a.advice = true) (h : s.Readable)
    (hrest : Heap.Selection.EndsBefore rest) :
    takeValue c a (s.tokens ++ rest) = .ok (some s.value, s.tokens.length) := by
  have hread := Heap.Selection.read_tokens h hrest
  unfold takeValue
  rw [if_pos hp, (hs _ _ hp).2]
  simp [Heap.readSelection, hread, Except.map]

/-- The group of a selection is taken where no address follows. -/
theorem selection_taken {s : Heap.Selection} {rest : List Token} (hq : q.WellMade)
    (hflags : q.PlainFlags) (ha : a ∈ q.arguments) (hs : c.Selects)
    (hp : c.parses a.type a.advice = true) (h : s.Readable)
    (hrest : Heap.Selection.EndsBefore rest) :
    Group.TakenBefore q c ⟨a, a.flag, s.tokens, some s.value⟩ rest := by
  have htake := takeValue_selection hs hp h hrest
  have hb : a.isBoolean = false := by
    rw [← Bool.not_eq_true]
    intro hb
    rw [hs.boolean hb] at hp
    cases hp
  cases hflag : a.flag with
  | some flag =>
    have hne : flag ≠ "" := by
      rintro rfl
      exact (hq.made a ha).flag_ne hflag
    refine ⟨hne, hq.flagged hflags ha hflag, ?_⟩
    simpa [takeFlagged, hb] using htake
  | none =>
    have hpos : a.isPositional = true := by simp [Argument.isPositional, hflag]
    exact ⟨ha, hpos, Heap.Selection.tokens_head h.1, htake⟩

theorem selection_group (s : Heap.Selection) :
    a.group? (some s.value) = some ⟨a, a.flag, s.tokens, some s.value⟩ := by
  simp only [Heap.Selection.value, Argument.group?, Heap.Selection.ofLine_usage]

theorem empty_group (hb : a.isBoolean = false) (hm : a.isMultiple = true) :
    a.group? (some (.list [])) = none := by
  simp [Argument.group?, hb, hm, Value.elements]

theorem endsBefore_append {tokens rest : List Token} (hne : tokens ≠ [])
    (h : Heap.Selection.EndsBefore tokens) : Heap.Selection.EndsBefore (tokens ++ rest) := by
  intro word hhead
  rw [List.head?_append_of_ne_nil _ hne] at hhead
  exact h word hhead

/-- A group of the line is taken where a flag or nothing comes next, and before a positional value
where the two are kept apart. -/
theorem shown_taken {value : Option Value} {g : Group} (hq : q.WellMade) (hflags : q.PlainFlags)
    (ha : a ∈ q.arguments) (hc : c.Converts) (hs : c.Selects) (hv : a.Shows c value)
    (hg : a.group? value = some g) :
    (∀ rest, StartsFlag rest → g.TakenBefore q c rest) ∧
    ∀ next rest, next.argument.isPositional = true →
      (c.parses a.type a.advice = true → a.isMultiple = false ∧ Heap.Selection.EndsBefore rest) →
      (g.seal next).TakenBefore q c rest := by
  cases hp : c.parses a.type a.advice with
  | false =>
    have hlegible : ∀ v ∈ value, a.Legible v := by
      intro v hm
      rw [Option.mem_def.mp hm] at hv
      rcases hv with ⟨hparses, _⟩ | ⟨h, _⟩
      · rw [hp] at hparses
        cases hparses
      · exact h
    obtain ⟨hflag, hbare⟩ := group_taken hq hflags ha hc hp hlegible hg
    exact ⟨hflag, fun next rest hnext _ => hbare next rest hnext⟩
  | true =>
    have hb : a.isBoolean = false := by
      rw [← Bool.not_eq_true]
      intro hb
      rw [hs.boolean hb] at hp
      cases hp
    cases value with
    | none =>
      have hnot : c.parses a.type a.advice = false := hv
      rw [hp] at hnot
      cases hnot
    | some value =>
      rcases hv with ⟨_, s, hreadable, rfl⟩ | ⟨_, hempty⟩
      · rw [selection_group, Option.some.injEq] at hg
        subst hg
        refine ⟨fun rest hrest => selection_taken hq hflags ha hs hp hreadable
          (Heap.Selection.endsBefore_flag hrest), fun next rest _ hapart => ?_⟩
        obtain ⟨hm, hrest⟩ := hapart rfl
        have hseal : Group.seal ⟨a, a.flag, s.tokens, some s.value⟩ next =
            ⟨a, a.flag, s.tokens, some s.value⟩ := by
          simp [Group.seal, hm]
        rw [hseal]
        exact selection_taken hq hflags ha hs hp hreadable hrest
      · obtain ⟨hm, rfl⟩ := hempty hp
        rw [empty_group hb hm] at hg
        cases hg

/-- The parser goes through the groups of the line. -/
theorem taken_of_shown (hq : q.WellMade) (hflags : q.PlainFlags)
    (hargs : b.query.arguments = q.arguments) (hc : b.context.Converts) (hs : b.context.Selects)
    (hv : ∀ (i : Nat) (a : Argument), q.arguments[i]? = some a → b.context.supplies a = false →
      ∀ value, b.shown? i a = some value → a.Shows b.context value)
    (hapart : b.Separated) : Taken q b.context (sealAll b.groups) := by
  have htaken : ∀ g ∈ b.groups, (∀ rest, StartsFlag rest → g.TakenBefore q b.context rest) ∧
      ∀ next rest, next.argument.isPositional = true →
        (b.context.parses g.argument.type g.argument.advice = true →
          g.argument.isMultiple = false ∧ Heap.Selection.EndsBefore rest) →
        (g.seal next).TakenBefore q b.context rest := by
    intro g hg
    obtain ⟨i, a, hi, hat⟩ := Bindings.mem_groups.mp hg
    rw [hargs] at hi
    obtain ⟨hsupplied, value, hshown, hgroup⟩ := Bindings.groupAt_some hat
    have hshows := hv i a hi hsupplied value hshown
    have hown := (Argument.group_argument hgroup).1
    rw [hown]
    exact shown_taken hq hflags (List.mem_iff_getElem?.mpr ⟨i, hi⟩) hc hs hshows hgroup
  refine taken_sealAll (fun g hg => (htaken g hg).1) ?_
  refine List.IsChain.imp_of_mem_imp (fun g next hg hnext hkeep hbare rest => ?_) hapart
  have hmem := ((htaken next hnext).1 [] (by simp [StartsFlag])).mem.2
  have hne : next.tokens ≠ [] := by
    have hfirst := (htaken next hnext).1 [] (by simp [StartsFlag])
    rw [Group.isBare, Option.isNone_iff_eq_none] at hbare
    simp only [Group.TakenBefore, hbare] at hfirst
    obtain ⟨_, _, ⟨token, others, hbody, _⟩, _⟩ := hfirst
    simp [Group.tokens, hbare, hbody]
  refine (htaken g hg).2 next _ (hmem.trans hbare) fun hparses => ?_
  obtain ⟨hm, hends⟩ := hkeep hparses hbare
  exact ⟨hm, endsBefore_append hne hends⟩

/-! ## What is resolved again -/

theorem rendered_written (value : Value) : value.written.rendered = value.rendered := by
  cases value with
  | file path => exact written_written (.file path)
  | _ => rfl

theorem rendered_items (items : List Value) :
    (Value.list (items.map Value.written)).rendered = (Value.list items).rendered := by
  simp only [Value.rendered, List.map_map, Value.list.injEq]
  exact List.map_congr_left fun item _ => written_written item

theorem resolved_of_shown {value : Value} (h : b.shown? i a = some (some value)) :
    b.resolved i a = some value := by
  unfold Bindings.resolved
  rcases Bindings.shown_cases h with hat | ⟨hat, hdefault⟩
  · rw [hat]
  · rw [hat]
    exact hdefault

/-- Nothing is resolved where the line has nothing to show. -/
theorem resolved_of_hidden (h : b.shown? i a = none) : b.resolved i a = none ∧ a.default = none := by
  unfold Bindings.shown? at h
  split at h
  all_goals first | (cases h; done) | skip
  · rename_i hat hdefault
    simp [Bindings.resolved, hat, hdefault]
  · rename_i hat hdefault
    simp [Bindings.resolved, hat, hdefault]

theorem kept_single (hm : a.isMultiple = false) : a.kept = some := by
  funext value
  simp [Argument.kept, hm]

/-- A list is bound again without the elements that have no text, if any are left. -/
theorem list_again (hb : a.isBoolean = false) (hm : a.isMultiple = true) (h : a.Legible value)
    (hagain : b'.at? i = (a.group? (some value)).map fun g => Bindings.stored a g.value) :
    (b'.resolved i a).map Value.rendered = (a.kept value).map Value.rendered := by
  rw [group_of_legible hb h] at hagain
  simp only [hm, ↓reduceIte] at hagain
  simp only [Argument.kept, hm, h.not_deferred, Bool.not_false, Bool.and_self, ↓reduceIte]
  cases hitems : value.elements.filter (a.canWrite true) with
  | nil =>
    rw [hitems] at hagain
    simp [Bindings.resolved, hagain]
  | cons item items =>
    rw [hitems] at hagain
    simp only [Bindings.resolved, hagain, Option.map_some, rendered_items]

/-- A single value is bound again, unless it is a default without a text. -/
theorem single_again (hb : a.isBoolean = false) (hm : a.isMultiple = false) (h : a.Legible value)
    (hwrite : a.canWrite false value = false → a.default = some value)
    (hagain : b'.at? i = (a.group? (some value)).map fun g => Bindings.stored a g.value) :
    (b'.resolved i a).map Value.rendered = some value.rendered := by
  rw [group_of_legible hb h] at hagain
  simp only [hm, Bool.false_eq_true, ↓reduceIte] at hagain
  split at hagain
  · simp [Bindings.resolved, hagain, rendered_written]
  · rename_i hnot
    simp [Bindings.resolved, hagain, hwrite (by simpa using hnot)]

/-- A selection is bound again as it is. -/
theorem selection_bound (s : Heap.Selection)
    (hagain : b'.at? i = (a.group? (some s.value)).map fun g => Bindings.stored a g.value) :
    b'.at? i = some (some s.value) := by
  rw [hagain, selection_group]
  simp [Bindings.stored, Heap.Selection.value, Value.isDeferred]

theorem selection_again (s : Heap.Selection)
    (hagain : b'.at? i = (a.group? (some s.value)).map fun g => Bindings.stored a g.value) :
    b'.resolved i a = a.kept s.value := by
  simp [Bindings.resolved, selection_bound s hagain, Argument.kept, Heap.Selection.value,
    Value.isDeferred]

/-- A null that hides a default hides it again. -/
theorem null_again (hb : a.isBoolean = false) (hm : a.isMultiple = false)
    (hat : b.at? i = some none)
    (hagain : b'.at? i = (a.group? none).map fun g => Bindings.stored a g.value) :
    b'.resolved i a = b.resolved i a := by
  have hsame : b'.at? i = some none := by
    rw [hagain]
    simp [Argument.group?, hm, hb, Bindings.stored]
  simp [Bindings.resolved, hat, hsame]

/-- An argument resolves to the value that the line shows of it, as far as that can be written, and
to the default where there is nothing to write. -/
theorem resolved_again {value : Option Value} (hb : a.isBoolean = false)
    (hshown : b.shown? i a = some value) (hv : a.Shows c value)
    (hparsed : ∀ v, b.at? i = some v → a.Parsed c v)
    (hagain : b'.at? i = (a.group? value).map fun g => Bindings.stored a g.value) :
    (b'.resolved i a).map Value.rendered =
      ((b.resolved i a).bind a.kept).map Value.rendered := by
  cases value with
  | none =>
    have hat := Bindings.shown_null hshown
    have hm := (hparsed none hat).1
    rw [null_again hb hm hat hagain, kept_single hm, Option.bind_fun_some]
  | some value =>
    rw [resolved_of_shown hshown, Option.bind_some]
    rcases hv with ⟨_, s, _, rfl⟩ | ⟨hlegible, _⟩
    · rw [selection_again s hagain]
    cases hm : a.isMultiple with
    | true => exact list_again hb hm hlegible hagain
    | false =>
      rw [kept_single hm]
      refine single_again hb hm hlegible (fun hwrite => ?_) hagain
      rcases Bindings.shown_cases hshown with hat | ⟨_, hdefault⟩
      · have hbound := hparsed _ hat
        simp only [Argument.Parsed] at hbound
        split at hbound
        · obtain ⟨s, _, rfl⟩ := hbound
          cases hlegible.not_deferred
        · rw [hbound.2 hm] at hwrite
          cases hwrite
      · exact hdefault

/-- A switch is as it was: the line names it where it is on. -/
theorem switch_again (hmade : a.WellMade) (hs : c.Selects) (hb : a.isBoolean = true)
    (hm : a.isMultiple = false) (hbound : b.at? i ≠ none)
    (hparsed : ∀ v, b.at? i = some v → a.Parsed c v)
    (hagain : b'.at? i = (((b.shown? i a).bind a.group?).map fun g => Bindings.stored a g.value).or
      (some (some (.boolean false)))) :
    (b'.resolved i a).map Value.rendered =
      ((b.resolved i a).bind a.kept).map Value.rendered := by
  obtain ⟨bound, hat⟩ := Option.ne_none_iff_exists'.mp hbound
  have hbind := hparsed bound hat
  cases bound with
  | none =>
    have hnot := hbind.2.1
    rw [hb] at hnot
    cases hnot
  | some value =>
    simp only [Argument.Parsed, hs.boolean hb, Bool.false_eq_true, ↓reduceIte] at hbind
    obtain ⟨flag, on, _, rfl, hgroup⟩ := group_of_legible_switch hmade hb hm hbind.1
    have hshown : b.shown? i a = some (some (.boolean on)) := by
      simp only [Bindings.shown?, hat]
    have hsame : b'.at? i = some (some (.boolean on)) := by
      rw [hagain, hshown, Option.bind_some, hgroup]
      cases on <;> simp [stored_single hm]
    simp [Bindings.resolved, hat, hsame, Argument.kept, hm]

/-! ## The line of a parsed line -/

/-- The environments of queries: one that supplies given values, and the one of a snapshot. -/
def Context.Known (c : Context) : Prop :=
  (∃ supplied, c = ofSupplied supplied) ∨ ∃ snapshot, c = Heap.environment snapshot

theorem Context.Known.converts (h : c.Known) : c.Converts := by
  rcases h with ⟨_, rfl⟩ | ⟨_, rfl⟩ <;> rfl

theorem Context.Known.selects (h : c.Known) : c.Selects := by
  rcases h with ⟨supplied, rfl⟩ | ⟨snapshot, rfl⟩
  · exact selects_supplied supplied
  · exact selects_environment snapshot

/-- Every default that the line shows can be written. -/
def Bindings.DefaultsWritten (b : Bindings) : Prop :=
  ∀ (i : Nat) (a : Argument), b.query.arguments[i]? = some a → b.context.supplies a = false →
    b.at? i = none → a.DefaultWritten b.context

theorem shows_of_parsed (hs : b.context.Selects) (hq : b.query.WellMade)
    (hb : b.Holds (Argument.Parsed b.context)) (hdefaults : b.DefaultsWritten) :
    ∀ (i : Nat) (a : Argument), b.query.arguments[i]? = some a → b.context.supplies a = false →
      ∀ value, b.shown? i a = some value → a.Shows b.context value := by
  intro i a hi hsupplied value hshown
  exact shown_shows hs (hq.made a (List.mem_iff_getElem?.mpr ⟨i, hi⟩)) (hdefaults i a hi hsupplied)
    (hb i a hi hsupplied) hshown

/-- The line that parsed bindings make is parsed in the same environment, and its groups say what is
bound. -/
theorem line_parsed_again {r : Registry} {line : String} (hr : r.Reachable) (hc : c.Known)
    (h : parse r c line = .ok b)
    (hid : Token.isSimple b.query.identifier = true ∧ Text.isAscii b.query.identifier = true)
    (hflags : b.query.PlainFlags) (hdefaults : b.DefaultsWritten) (hapart : b.Separated) :
    ∃ b', parse r c b.line = .ok b' ∧ b'.query = b.query ∧ b'.context = c ∧
      ∀ (i : Nat) (a : Argument), b.query.arguments[i]? = some a → b'.at? i =
        ((b.groupAt? i a).map fun g => Bindings.stored a g.value).or (c.startOf a) := by
  obtain ⟨p, hp, hquery, rfl, hholds, _⟩ := parsed_bindings hr hc.converts hc.selects h
  have hmade : b.query.WellMade := hquery ▸ (hr.sound.offered hp (.inl rfl)).1
  have hshows := shows_of_parsed hc.selects hmade hholds hdefaults
  have hspeakable : b.Speakable := by
    refine ⟨⟨?_, hid.1⟩, fun a ha flag hflag => (hflags a ha flag hflag).1, ?_⟩
    · rw [hquery]
      exact hr.sound.identifier_ne hp
    · intro i a hi hsupplied value hvalue
      exact (hshows i a hi hsupplied _ hvalue).spelled
  have htaken : Taken b.query b.context (sealAll b.groups) :=
    taken_of_shown hmade hflags rfl hc.converts hc.selects hshows hapart
  obtain ⟨b', hparse, hquery', hcontext', hat⟩ := parse_line hr hp (.inl hquery) hspeakable hid.2
    (hquery ▸ htaken)
  refine ⟨b', hparse, hquery'.trans hquery.symm, hcontext', fun i a hi => ?_⟩
  exact hat i a (hquery ▸ hi)

/-- The line that parsed bindings make is parsed in the same environment. An argument that the
environment supplies starts anew, and any other argument resolves to what the line keeps of its
value. -/
theorem parsed_line_replayed {r : Registry} {line : String} (hr : r.Reachable) (hc : c.Known)
    (h : parse r c line = .ok b)
    (hid : Token.isSimple b.query.identifier = true ∧ Text.isAscii b.query.identifier = true)
    (hflags : b.query.PlainFlags) (hdefaults : b.DefaultsWritten) (hapart : b.Separated) :
    ∃ b', parse r c b.line = .ok b' ∧ b'.query = b.query ∧ b'.context = c ∧
      ∀ (i : Nat) (a : Argument), b.query.arguments[i]? = some a →
        (c.supplies a = true → b'.at? i = c.startOf a) ∧
        (c.supplies a = false → (a.isBoolean = true → a.isMultiple = false) →
          (b'.resolved i a).map Value.rendered =
            ((b.resolved i a).bind a.kept).map Value.rendered) := by
  obtain ⟨b', hparse, hquery', hcontext', hat⟩ :=
    line_parsed_again hr hc h hid hflags hdefaults hapart
  obtain ⟨p, hp, hquery, rfl, hholds, hbound⟩ := parsed_bindings hr hc.converts hc.selects h
  have hmade : b.query.WellMade := hquery ▸ (hr.sound.offered hp (.inl rfl)).1
  refine ⟨b', hparse, hquery', hcontext', fun i a hi => ⟨?_, ?_⟩⟩
  · intro hsupplied
    rw [hat i a hi, Bindings.groupAt?, if_pos hsupplied]
    rfl
  intro hsupplied hswitch
  have hparsed := hholds i a hi hsupplied
  have hagain := hat i a hi
  rw [Bindings.groupAt?, if_neg (by simp [hsupplied]), Context.startOf] at hagain
  cases hb : a.isBoolean with
  | true =>
    rw [if_pos hb, stored_single (hswitch hb)] at hagain
    exact switch_again (hmade.made a (List.mem_iff_getElem?.mpr ⟨i, hi⟩)) hc.selects hb (hswitch hb)
      (hbound i a hi hb) hparsed hagain
  | false =>
    rw [if_neg (by simp [hb]), if_neg (by simp [hsupplied]), Option.or_none] at hagain
    cases hshown : b.shown? i a with
    | none =>
      obtain ⟨hresolved, hdefault⟩ := resolved_of_hidden hshown
      rw [hshown, Option.bind_none, Option.map_none] at hagain
      rw [hresolved, Bindings.resolved, hagain, hdefault]
      rfl
    | some value =>
      rw [hshown, Option.bind_some] at hagain
      have hshows := shows_of_parsed hc.selects hmade hholds hdefaults i a hi hsupplied value hshown
      exact resolved_again hb hshown hshows hparsed hagain

/-! ## A search -/

/-- The defaults of a plain query can be written. -/
theorem Query.Plain.defaults_written (h : b.query.Plain) : b.DefaultsWritten := by
  intro i a hi _ _ value hvalue
  have ha : a ∈ b.query.arguments := List.mem_iff_getElem?.mpr ⟨i, hi⟩
  refine .inr fun part hm => ?_
  obtain ⟨haccepts, hplain, hsettled⟩ := h.defaults a ha value hvalue part hm
  exact ⟨hplain, hsettled, ValueType.representable_of_exact (h.types a ha) haccepts⟩

/-- Texts of the line are apart where selections are read for the positional argument only. -/
theorem separated_of_positional (hq : b.query.WellMade) (h : ∀ a ∈ b.query.arguments,
    b.context.parses a.type a.advice = true → a.isPositional = true) : b.Separated := by
  have hapart : (Bindings.positions b.query).Pairwise fun entry other =>
      entry.2.Apart other.2 := by
    rw [← List.pairwise_map (f := Prod.snd), Bindings.positions_arguments]
    exact hq.apart
  refine List.Pairwise.isChain (List.pairwise_filterMap.mpr (hapart.imp_of_mem ?_))
  intro (i, a) (j, a') hi hj hdiffer g hg next hnext hparses hbare
  have ha : a ∈ b.query.arguments := List.mem_iff_getElem?.mpr ⟨i, mem_positions.mp hi⟩
  have ha' : a' ∈ b.query.arguments := List.mem_iff_getElem?.mpr ⟨j, mem_positions.mp hj⟩
  obtain ⟨rfl, _⟩ := Bindings.groupAt_argument hg
  have hpositional : a'.isPositional = true := by
    rw [Argument.isPositional, ← (Bindings.groupAt_argument hnext).2]
    exact hbare
  exact absurd rfl (hq.positional_unique ha ha' (h _ ha hparses) hpositional ▸ hdiffer).1

theorem separated_of_no_parses (h : ∀ type advice, b.context.parses type advice = false) :
    b.Separated := by
  unfold Bindings.Separated
  rw [List.isChain_iff_forall_rel_of_append_cons_cons]
  intro g next _ _ _ hparses
  rw [h] at hparses
  cases hparses

/-- A search for a word that ends in a semicolon. -/
theorem search_parsed : ∃ (r : Registry) (b : Bindings), r.Reachable ∧
    parse r (Context.ofSupplied []) "search -words a;;" = .ok b ∧ b.query.Plain ∧
    b.query.arguments = searchArguments ∧ b.context = Context.ofSupplied [] ∧
    b.at? 0 = some (some (.list [.string "a;"])) := by
  obtain ⟨p, hbuild, hid, hargs⟩ := searchQuery_built
  obtain ⟨r, hr, hp⟩ := Registry.reachable_alone hbuild
  have hfind : r.find? (Text.lower "search") = some p := hr.sound.find_typed hp (by rw [hid]; decide)
  have htaken : Taken p.toQuery (Context.ofSupplied [])
      [⟨⟨⟨0, 0⟩, "words", some "words", false, .list, .string, none, none, none⟩, some "words",
        [.word "a;;"], some (.list [.string "a;"])⟩] := by
    refine .cons ⟨by decide, ?_, rfl⟩ .nil
    rw [Query.argumentFlagged?, hargs]
    rfl
  have hline : Token.ofLine "search -words a;;" = .word "search" :: [.word "-words", .word "a;;"] := by
    decide
  obtain ⟨b, hparse, hquery, hcontext, hat⟩ := parse_groups hr hp hline hfind htaken (by decide)
    (by simp [Group.isBare])
  refine ⟨r, b, hr, hparse, hquery ▸ searchQuery_plain hid hargs, by rw [hquery, hargs], hcontext, ?_⟩
  rw [hat 0 _ (by rw [hargs]; rfl)]
  rfl

/-- The search is parsed again, and its limit is the default once more. -/
theorem search_line_replayed : ∃ (r : Registry) (b b' : Bindings),
    r.Reachable ∧ parse r (Context.ofSupplied []) "search -words a;;" = .ok b ∧
    parse r (Context.ofSupplied []) b.line = .ok b' ∧
    ∀ (i : Nat) (a : Argument), searchArguments[i]? = some a →
      (b'.resolved i a).map Value.rendered = ((b.resolved i a).bind a.kept).map Value.rendered := by
  obtain ⟨r, b, hr, hparse, hplain, hargs, hcontext, _⟩ := search_parsed
  obtain ⟨b', hparse', _, _, hsame⟩ := parsed_line_replayed hr (.inl ⟨[], rfl⟩) hparse
    hplain.identifier hplain.flags hplain.defaults_written
    (separated_of_no_parses fun _ _ => by rw [hcontext]; rfl)
  refine ⟨r, b, b', hr, hparse, hparse', fun i a hi => ?_⟩
  have hswitch := hplain.switches a (List.mem_iff_getElem?.mpr ⟨i, hargs ▸ hi⟩)
  exact (hsame i a (hargs ▸ hi)).2 rfl hswitch

/-- The word of the search is left out of its line. -/
theorem semicolon_word_not_replayed :
    ¬ ∀ (r : Registry) (c : Context) (line : String) (b : Bindings), r.Reachable → c.Known →
        parse r c line = .ok b →
        Token.isSimple b.query.identifier = true ∧ Text.isAscii b.query.identifier = true →
        b.query.PlainFlags →
        ∃ b', parse r c b.line = .ok b' ∧
          ∀ (i : Nat) (a : Argument), b.query.arguments[i]? = some a →
            (b'.resolved i a).map Value.rendered = (b.resolved i a).map Value.rendered := by
  intro h
  obtain ⟨r, b, hr, hparse, hplain, hargs, hcontext, hword⟩ := search_parsed
  have hknown : (Context.ofSupplied []).Known := .inl ⟨[], rfl⟩
  obtain ⟨b', hparse', hsame⟩ := h r _ _ b hr hknown hparse hplain.identifier hplain.flags
  obtain ⟨b'', hparse'', _, _, hat⟩ := line_parsed_again hr hknown hparse hplain.identifier
    hplain.flags hplain.defaults_written (separated_of_no_parses fun _ _ => by rw [hcontext]; rfl)
  obtain rfl : b' = b'' := Except.ok.inj (hparse'.symm.trans hparse'')
  obtain ⟨a, hi, hgroup, hstart, hdefault⟩ : ∃ a : Argument, searchArguments[0]? = some a ∧
      a.group? (some (.list [.string "a;"])) = none ∧
      (Context.ofSupplied []).startOf a = none ∧ a.default = none := ⟨_, rfl, rfl, rfl, rfl⟩
  have hnone : b'.at? 0 = none := by
    have hshown : b.shown? 0 a = some (some (.list [.string "a;"])) := by
      simp only [Bindings.shown?, hword]
    rw [hat 0 a (hargs ▸ hi), Bindings.groupAt?, hshown, Option.bind_some, hgroup, hstart]
    simp
  have hlost := hsame 0 a (hargs ▸ hi)
  simp [Bindings.resolved, hnone, hword, hdefault] at hlost

end HeapQuery
