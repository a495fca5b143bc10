import HeapQuery.Proofs.BoundArguments

namespace HeapQuery

namespace Argument

/-- What execution makes of the binding of an argument. -/
inductive Resolution
  | value (v : Value)
  | null
  | nothing
  | missing

/-- A bound value stands. Null stands unless the argument is mandatory. Everywhere else the default
stands in, and without one only an argument that is not mandatory may be left out. -/
inductive Resolves (a : Argument) : Option (Option Value) → Resolution → Prop where
  | bound (v : Value) : a.Resolves (some (some v)) (.value v)
  | null : a.mandatory = false → a.Resolves (some none) .null
  | nullDefault {v : Value} : a.mandatory = true → a.default = some v →
      a.Resolves (some none) (.value v)
  | nullMissing : a.mandatory = true → a.default = none → a.Resolves (some none) .missing
  | unsetDefault {v : Value} : a.default = some v → a.Resolves none (.value v)
  | unset : a.mandatory = false → a.default = none → a.Resolves none .nothing
  | unsetMissing : a.mandatory = true → a.default = none → a.Resolves none .missing

/-- The values that a value stands for where several are taken. -/
inductive Elements : Value → List Value → Prop where
  | list (items : List Value) : Elements (.list items) items
  | alone {v : Value} : (∀ items, v ≠ .list items) → Elements v [v]

inductive Holds (a : Argument) (v : Value) : Field → Prop where
  | single : a.multiplicity = .single → a.Holds v (.scalar v)
  | array : a.multiplicity = .array → Elements v items → a.Holds v (.array items)
  | list : a.multiplicity = .list → Elements v items → a.Holds v (.list items)

/-- A value that was put off becomes what is built for the argument, or fails as building it does.
Any other value stays as it is. -/
inductive Becomes (a : Argument) : Value → Except QueryError Value → Prop where
  | built (serial : Nat) (text : String) (product : ArgumentView → Except QueryError Value) :
      a.Becomes (.deferred serial text product)
        (product ⟨a.id, a.name, a.flag, a.mandatory, a.multiplicity, a.type, a.advice,
          a.default.map Value.seen, a.help⟩)
  | kept {v : Value} : v.isDeferred = false → a.Becomes v (.ok v)

/-- The field that a value makes, or the error of what cannot be built. A value that was put off as
a whole is built, and so is every element of a list that was put off, the first one first. -/
inductive Shapes (a : Argument) : Value → Except QueryError Field → Prop where
  | whole {v w : Value} {field : Field} : v.isDeferred = true ∨ a.multiplicity ≠ .list →
      a.Becomes v (.ok w) → a.Holds w field → a.Shapes v (.ok field)
  | unbuilt {v : Value} : a.Becomes v (.error e) → a.Shapes v (.error e)
  | list {v : Value} : v.isDeferred = false → a.multiplicity = .list → Elements v items →
      List.Forall₂ (fun item made => a.Becomes item (.ok made)) items made →
      a.Shapes v (.ok (.list made))
  | unbuiltItem {v : Value} : v.isDeferred = false → a.multiplicity = .list →
      Elements v (front ++ item :: back) → (∀ x ∈ front, ∃ made, a.Becomes x (.ok made)) →
      a.Becomes item (.error e) → a.Shapes v (.error e)

end Argument

/-- Why an execution ends before the command runs: a mandatory argument has no value, a value cannot
be built, or the command does not accept a field. -/
inductive Stop
  | missing (a : Argument)
  | unbuilt (a : Argument) (e : QueryError)
  | refused (a : Argument) (e : QueryError)

def Stop.error : Stop → QueryError
  | missing a => .missingMandatoryArgument a.name
  | unbuilt _ e | refused _ e => e

namespace Bindings

/-- What the binding of an argument gives for the command: a field, nothing, or a reason to stop. -/
inductive Gives (b : Bindings) (i : Nat) (a : Argument) : Except Stop (Option Field) → Prop where
  | value {v : Value} : a.Resolves (b.at? i) (.value v) → a.Shapes v (.ok field) →
      b.Gives i a (.ok (some field))
  | unbuilt {v : Value} : a.Resolves (b.at? i) (.value v) → a.Shapes v (.error e) →
      b.Gives i a (.error (.unbuilt a e))
  | null : a.Resolves (b.at? i) .null → b.Gives i a (.ok (some .null))
  | nothing : a.Resolves (b.at? i) .nothing → b.Gives i a (.ok none)
  | missing : a.Resolves (b.at? i) .missing → b.Gives i a (.error (.missing a))

/-- The walk over the arguments that are left, after the fields accepted `before`: the fields that
the command is asked to accept, one after the other, and why the walk stops, if it does. -/
inductive Walk (b : Bindings) :
    List Given → List (Nat × Argument) → List Given → Option Stop → Prop where
  | done {before : List Given} : b.Walk before [] [] none
  | passed {before calls : List Given} {a : Argument} : b.Gives i a (.ok none) →
      b.Walk before rest calls stop → b.Walk before ((i, a) :: rest) calls stop
  | stopped {before : List Given} {a : Argument} : b.Gives i a (.error stop) →
      b.Walk before ((i, a) :: rest) [] (some stop)
  | refused {before : List Given} {a : Argument} : b.Gives i a (.ok (some field)) →
      b.query.command.accept before (a, field) = .error e →
      b.Walk before ((i, a) :: rest) [(a, field)] (some (.refused a e))
  | bound {before calls : List Given} {a : Argument} : b.Gives i a (.ok (some field)) →
      b.query.command.accept before (a, field) = .ok () →
      b.Walk (before ++ [(a, field)]) rest calls stop →
      b.Walk before ((i, a) :: rest) ((a, field) :: calls) stop

end Bindings

variable {a : Argument} {b : Bindings} {i : Nat} {v : Value}

/-! ## One argument -/

namespace Argument

theorem Resolves.unique {binding : Option (Option Value)} {r r' : Resolution}
    (h : a.Resolves binding r) (h' : a.Resolves binding r') : r = r' := by
  cases h <;> cases h' <;> simp_all

theorem Resolves.total (a : Argument) (binding : Option (Option Value)) :
    ∃ r, a.Resolves binding r := by
  match binding with
  | some (some v) => exact ⟨_, .bound v⟩
  | some none =>
    cases hm : a.mandatory with
    | false => exact ⟨_, .null hm⟩
    | true =>
      cases hd : a.default with
      | none => exact ⟨_, .nullMissing hm hd⟩
      | some v => exact ⟨_, .nullDefault hm hd⟩
  | none =>
    cases hd : a.default with
    | some v => exact ⟨_, .unsetDefault hd⟩
    | none =>
      cases hm : a.mandatory with
      | false => exact ⟨_, .unset hm hd⟩
      | true => exact ⟨_, .unsetMissing hm hd⟩

theorem resolves_missing {binding : Option (Option Value)} :
    a.Resolves binding .missing ↔
      a.mandatory = true ∧ a.default = none ∧ binding.join = none := by
  constructor
  · intro h
    cases h with
    | nullMissing hm hd => exact ⟨hm, hd, rfl⟩
    | unsetMissing hm hd => exact ⟨hm, hd, rfl⟩
  · intro ⟨hm, hd, hnone⟩
    match binding with
    | some (some v) => cases hnone
    | some none => exact .nullMissing hm hd
    | none => exact .unsetMissing hm hd

theorem elements_iff {items : List Value} : Elements v items ↔ v.elements = items := by
  constructor
  · intro h
    cases h with
    | list => rfl
    | alone hother =>
      cases v with
      | list items => exact absurd rfl (hother items)
      | _ => rfl
  · rintro rfl
    cases v with
    | list items => exact .list items
    | _ => exact .alone fun _ h => by cases h

theorem holds_iff {field : Field} : a.Holds v field ↔ a.shape v = field := by
  constructor
  · intro h
    cases h with
    | single hm => rw [shape, hm]
    | array hm hitems | list hm hitems => rw [shape, hm, elements_iff.mp hitems]
  · rintro rfl
    rw [shape]
    cases hm : a.multiplicity with
    | single => exact .single hm
    | array => exact .array hm (elements_iff.mpr rfl)
    | list => exact .list hm (elements_iff.mpr rfl)

theorem becomes_iff {r : Except QueryError Value} : a.Becomes v r ↔ a.force v = r := by
  constructor
  · intro h
    cases h with
    | built => rfl
    | kept hkept =>
      cases v with
      | deferred => cases hkept
      | _ => rfl
  · rintro rfl
    cases v with
    | deferred serial text product => exact .built serial text product
    | _ => exact .kept rfl

theorem field_kept (h : v.isDeferred = false) :
    a.field v = match a.multiplicity with
      | .list => (v.elements.mapM a.force).map .list
      | _ => .ok (a.shape v) := by
  rw [← bind_return]
  cases v with
  | deferred => cases h
  | _ => rfl

theorem field_whole (h : v.isDeferred = true ∨ a.multiplicity ≠ .list) :
    a.field v = (a.force v).map a.shape := by
  cases hkept : v.isDeferred with
  | true =>
    cases v with
    | deferred serial text product => exact bind_return (a.build product) a.shape
    | _ => cases hkept
  | false =>
    rw [field_kept hkept, becomes_iff.mp (.kept hkept)]
    cases hm : a.multiplicity with
    | list => simp [hkept, hm] at h
    | _ => rfl

theorem shapes_iff {r : Except QueryError Field} : a.Shapes v r ↔ a.field v = r := by
  constructor
  · intro h
    cases h with
    | whole hwhole hbecomes hholds =>
      rw [field_whole hwhole, becomes_iff.mp hbecomes, ← holds_iff.mp hholds, Except.map]
    | unbuilt hbecomes =>
      have hforce := becomes_iff.mp hbecomes
      have hdeferred : v.isDeferred = true := by
        cases v with
        | deferred => rfl
        | _ => cases hforce
      rw [field_whole (.inl hdeferred), hforce, Except.map]
    | list hkept hm hitems hmade =>
      simp only [becomes_iff] at hmade
      rw [field_kept hkept, hm, elements_iff.mp hitems, mapM_ok.mpr hmade]
      rfl
    | unbuiltItem hkept hm hitems hfront hitem =>
      simp only [becomes_iff] at hfront hitem
      rw [field_kept hkept, hm,
        mapM_error.mpr ⟨_, _, _, elements_iff.mp hitems, hfront, hitem⟩]
      rfl
  · rintro rfl
    by_cases hwhole : v.isDeferred = true ∨ a.multiplicity ≠ .list
    · rw [field_whole hwhole]
      cases hforce : a.force v with
      | ok w => exact .whole hwhole (becomes_iff.mpr hforce) (holds_iff.mpr rfl)
      | error e => exact .unbuilt (becomes_iff.mpr hforce)
    · obtain ⟨hkept, hm⟩ : v.isDeferred = false ∧ a.multiplicity = .list := by
        simpa using hwhole
      rw [field_kept hkept, hm]
      cases hitems : v.elements.mapM a.force with
      | ok made =>
        refine .list hkept hm (elements_iff.mpr rfl) ?_
        simpa only [becomes_iff] using mapM_ok.mp hitems
      | error e =>
        obtain ⟨front, item, back, hsplit, hfront, hitem⟩ := mapM_error.mp hitems
        refine .unbuiltItem hkept hm (elements_iff.mpr hsplit) ?_ (becomes_iff.mpr hitem)
        simpa only [becomes_iff] using hfront

theorem Shapes.unique {r r' : Except QueryError Field} (h : a.Shapes v r) (h' : a.Shapes v r') :
    r = r' :=
  (shapes_iff.mp h).symm.trans (shapes_iff.mp h')

theorem not_shapes_null : ¬ a.Shapes v (.ok .null) := by
  intro h
  cases h with
  | whole _ _ hholds => cases hholds

end Argument

namespace Bindings

theorem Gives.unique {r r' : Except Stop (Option Field)} (h : b.Gives i a r)
    (h' : b.Gives i a r') : r = r' := by
  cases h with
  | value hr hs =>
    cases h' with
    | value hr' hs' =>
      cases hr.unique hr'
      cases hs.unique hs'
      rfl
    | unbuilt hr' hs' =>
      cases hr.unique hr'
      cases hs.unique hs'
    | null hr' | nothing hr' | missing hr' => cases hr.unique hr'
  | unbuilt hr hs =>
    cases h' with
    | value hr' hs' =>
      cases hr.unique hr'
      cases hs.unique hs'
    | unbuilt hr' hs' =>
      cases hr.unique hr'
      cases hs.unique hs'
      rfl
    | null hr' | nothing hr' | missing hr' => cases hr.unique hr'
  | null hr =>
    cases h' with
    | null => rfl
    | value hr' | unbuilt hr' | nothing hr' | missing hr' => cases hr.unique hr'
  | nothing hr =>
    cases h' with
    | nothing => rfl
    | value hr' | unbuilt hr' | null hr' | missing hr' => cases hr.unique hr'
  | missing hr =>
    cases h' with
    | missing => rfl
    | value hr' | unbuilt hr' | null hr' | nothing hr' => cases hr.unique hr'

theorem Gives.total (b : Bindings) (i : Nat) (a : Argument) : ∃ r, b.Gives i a r := by
  obtain ⟨resolution, hr⟩ := Argument.Resolves.total a (b.at? i)
  cases resolution with
  | value v =>
    cases hfield : a.field v with
    | ok field => exact ⟨_, .value hr (Argument.shapes_iff.mpr hfield)⟩
    | error e => exact ⟨_, .unbuilt hr (Argument.shapes_iff.mpr hfield)⟩
  | null => exact ⟨_, .null hr⟩
  | nothing => exact ⟨_, .nothing hr⟩
  | missing => exact ⟨_, .missing hr⟩

/-- The value that an argument resolves to is what its field is made of. -/
theorem field_of_value (h : a.Resolves (b.at? i) (.value v)) :
    b.field? i a = (a.field v).map some := by
  unfold field?
  generalize b.at? i = binding at h
  cases h with
  | bound => exact bind_return (a.field v) some
  | nullDefault hm hd =>
    simp only [hm, hd, ↓reduceIte]
    exact bind_return (a.field v) some
  | unsetDefault hd =>
    simp only [hd]
    exact bind_return (a.field v) some

/-- Executing resolves an argument as the table of resolutions says. -/
theorem Gives.field {r : Except Stop (Option Field)} (h : b.Gives i a r) :
    b.field? i a = r.mapError Stop.error := by
  cases h with
  | value hr hs =>
    rw [field_of_value hr, Argument.shapes_iff.mp hs]
    rfl
  | unbuilt hr hs =>
    rw [field_of_value hr, Argument.shapes_iff.mp hs]
    rfl
  | null hr =>
    unfold field?
    generalize b.at? i = binding at hr
    cases hr with
    | null hm => simp [hm, Except.mapError]
  | nothing hr =>
    unfold field?
    generalize b.at? i = binding at hr
    cases hr with
    | unset hm hd => simp [hm, hd, Except.mapError]
  | missing hr =>
    unfold field?
    generalize b.at? i = binding at hr
    cases hr with
    | nullMissing hm hd | unsetMissing hm hd => simp [hm, hd, Except.mapError, Stop.error]

/-- The field is null just where null is bound and no default may stand in for it. -/
theorem field_null_iff : b.field? i a = .ok (some .null) ↔
    a.mandatory = false ∧ b.at? i = some none := by
  constructor
  · intro h
    obtain ⟨r, hr⟩ := Gives.total b i a
    rw [hr.field] at h
    cases hr with
    | value _ hshapes =>
      cases h
      exact absurd hshapes Argument.not_shapes_null
    | null hresolves =>
      generalize b.at? i = binding at hresolves
      cases hresolves with
      | null hm => exact ⟨hm, rfl⟩
    | unbuilt | nothing | missing => cases h
  · rintro ⟨hm, hat⟩
    have hgives : b.Gives i a (.ok (some .null)) := .null (by rw [hat]; exact .null hm)
    exact hgives.field

/-! ## All arguments -/

variable {before calls calls' : List Given} {rest : List (Nat × Argument)}
  {stop stop' : Option Stop}

theorem Walk.total (b : Bindings) (before : List Given) (rest : List (Nat × Argument)) :
    ∃ calls stop, b.Walk before rest calls stop := by
  induction rest generalizing before with
  | nil => exact ⟨_, _, .done⟩
  | cons entry rest ih =>
    obtain ⟨i, a⟩ := entry
    obtain ⟨r, hr⟩ := Gives.total b i a
    match r with
    | .error stop => exact ⟨_, _, .stopped hr⟩
    | .ok none =>
      obtain ⟨calls, stop, hwalk⟩ := ih before
      exact ⟨_, _, .passed hr hwalk⟩
    | .ok (some field) =>
      cases haccept : b.query.command.accept before (a, field) with
      | error e => exact ⟨_, _, .refused hr haccept⟩
      | ok _ =>
        obtain ⟨calls, stop, hwalk⟩ := ih (before ++ [(a, field)])
        exact ⟨_, _, .bound hr haccept hwalk⟩

theorem Walk.unique (h : b.Walk before rest calls stop) (h' : b.Walk before rest calls' stop') :
    calls' = calls ∧ stop' = stop := by
  induction h generalizing calls' stop' with
  | done =>
    cases h'
    exact ⟨rfl, rfl⟩
  | passed hr _ ih =>
    cases h' with
    | passed _ hwalk => exact ih hwalk
    | stopped hr' | refused hr' | bound hr' => cases hr.unique hr'
  | stopped hr =>
    cases h' with
    | stopped hr' =>
      cases hr.unique hr'
      exact ⟨rfl, rfl⟩
    | passed hr' | refused hr' | bound hr' => cases hr.unique hr'
  | refused hr haccept =>
    cases h' with
    | passed hr' | stopped hr' => cases hr.unique hr'
    | refused hr' haccept' =>
      cases hr.unique hr'
      cases haccept.symm.trans haccept'
      exact ⟨rfl, rfl⟩
    | bound hr' haccept' =>
      cases hr.unique hr'
      cases haccept.symm.trans haccept'
  | bound hr haccept _ ih =>
    cases h' with
    | passed hr' | stopped hr' => cases hr.unique hr'
    | refused hr' haccept' =>
      cases hr.unique hr'
      cases haccept.symm.trans haccept'
    | bound hr' haccept' hwalk =>
      cases hr.unique hr'
      obtain ⟨rfl, rfl⟩ := ih hwalk
      exact ⟨rfl, rfl⟩

/-- Execution goes the way of the walk. -/
theorem Walk.giveFrom (h : b.Walk before rest calls stop) :
    b.giveFrom before rest = stop.elim (.ok (before ++ calls)) fun s => .error s.error := by
  induction h with
  | done => simp [Bindings.giveFrom]
  | passed hr _ ih =>
    simp only [Bindings.giveFrom, hr.field, Except.mapError, bind, Except.bind]
    exact ih
  | stopped hr =>
    simp only [Bindings.giveFrom, hr.field, Except.mapError, bind, Except.bind]
    rfl
  | refused hr haccept =>
    simp only [Bindings.giveFrom, hr.field, Except.mapError, bind, Except.bind, haccept]
    rfl
  | bound hr haccept _ ih =>
    simp only [Bindings.giveFrom, hr.field, Except.mapError, bind, Except.bind, haccept, ih,
      List.append_assoc, List.singleton_append]

/-- No argument is given twice or out of order. -/
theorem Walk.sublist (h : b.Walk before rest calls stop) :
    (calls.map Prod.fst).Sublist (rest.map Prod.snd) := by
  induction h with
  | done => exact .slnil
  | passed _ _ ih => exact ih.cons _
  | stopped _ => exact List.nil_sublist _
  | refused _ _ => exact (List.nil_sublist _).cons_cons _
  | bound _ _ _ ih => exact ih.cons_cons _

/-- A walk that goes through to the end finds a value for every mandatory argument. -/
theorem Walk.nothing_missing (h : b.Walk before rest calls none) :
    ∀ entry ∈ rest, ¬ entry.2.Resolves (b.at? entry.1) .missing := by
  generalize hstop : (none : Option Stop) = stop at h
  induction h with
  | done => simp
  | passed hr _ ih =>
    refine List.forall_mem_cons.mpr ⟨?_, ih hstop⟩
    intro hmissing
    cases hr.unique (.missing hmissing)
  | stopped _ => cases hstop
  | refused _ _ => cases hstop
  | bound hr _ _ ih =>
    refine List.forall_mem_cons.mpr ⟨?_, ih hstop⟩
    intro hmissing
    cases hr.unique (.missing hmissing)

/-- A walk that stops for want of a value does so at an argument that has none. -/
theorem Walk.missing (h : b.Walk before rest calls (some (.missing a))) :
    ∃ entry ∈ rest, entry.2 = a ∧ a.Resolves (b.at? entry.1) .missing := by
  generalize hstop : some (Stop.missing a) = stop at h
  induction h with
  | done => cases hstop
  | passed _ _ ih =>
    obtain ⟨entry, hm, hentry⟩ := ih hstop
    exact ⟨entry, List.mem_cons_of_mem _ hm, hentry⟩
  | @stopped i rest stop before a' hr =>
    cases hstop
    cases hr with
    | missing hmissing => exact ⟨_, List.mem_cons_self, rfl, hmissing⟩
  | refused _ _ => cases hstop
  | bound _ _ _ ih =>
    obtain ⟨entry, hm, hentry⟩ := ih hstop
    exact ⟨entry, List.mem_cons_of_mem _ hm, hentry⟩

/-- Bindings are executable when no argument is left without the value that it needs. -/
theorem isExecutable_iff : b.isExecutable = true ↔
    ∀ entry ∈ positions b.query, ¬ entry.2.Resolves (b.at? entry.1) .missing := by
  unfold isExecutable
  rw [List.all_eq_true]
  refine forall_congr' fun entry => imp_congr_right fun _ => ?_
  rw [Argument.resolves_missing]
  cases hm : entry.2.mandatory <;> cases hd : entry.2.default <;>
    cases hv : (b.at? entry.1).join <;> simp [hm, hd, hv]

/-- An execution is a walk over the arguments in the order of declaration. Where the walk stops, the
error is that of the stop, and nothing has run. Where it goes through to the end, the command runs
once with all fields that it has accepted, and the execution ends as the run does: an error of the
query comes back as it is, and any other failure is named as its cause. Whether bindings are
executable says just whether a mandatory argument is left without the value that it needs. -/
theorem execution_walks (b : Bindings) (listener : Listener) :
    ∃ calls stop, b.Walk [] (positions b.query) calls stop ∧
      (∀ calls' stop', b.Walk [] (positions b.query) calls' stop' →
        calls' = calls ∧ stop' = stop) ∧
      (calls.map Prod.fst).Sublist b.query.arguments ∧
      (∀ s, stop = some s → b.execute listener = (.error s.error, Progress.none)) ∧
      (∀ output progress, stop = none →
        (b.query.command.run calls).start listener = (.ok output, progress) →
        b.execute listener = (.ok ⟨b.query, b.line, output⟩, progress)) ∧
      (∀ e progress, stop = none →
        (b.query.command.run calls).start listener = (.error (.query e), progress) →
        b.execute listener = (.error e, progress)) ∧
      (∀ cause progress, stop = none →
        (b.query.command.run calls).start listener = (.error (.other cause), progress) →
        b.execute listener = (.error (.execution b.query.identifier cause), progress)) ∧
      (b.isExecutable = true ↔ ∀ (i : Nat) (a : Argument), b.query.arguments[i]? = some a →
        ¬ a.Resolves (b.at? i) .missing) ∧
      (stop = none → b.isExecutable = true) ∧
      (∀ a, stop = some (.missing a) → b.isExecutable = false) := by
  obtain ⟨calls, stop, hwalk⟩ := Walk.total b [] (positions b.query)
  have hgiven : b.given = stop.elim (.ok calls) fun s => .error s.error := hwalk.giveFrom
  refine ⟨calls, stop, hwalk, fun _ _ h => hwalk.unique h, ?_, ?_, ?_, ?_, ?_, ?_, ?_, ?_⟩
  · have hsublist := hwalk.sublist
    rwa [positions_arguments] at hsublist
  · intro s hstop
    rw [hstop, Option.elim_some] at hgiven
    simp only [execute, hgiven]
  · intro output progress hstop hrun
    rw [hstop, Option.elim_none] at hgiven
    simp only [execute, hgiven, hrun]
  · intro e progress hstop hrun
    rw [hstop, Option.elim_none] at hgiven
    simp only [execute, hgiven, hrun, Failure.rethrow]
  · intro cause progress hstop hrun
    rw [hstop, Option.elim_none] at hgiven
    simp only [execute, hgiven, hrun, Failure.rethrow]
  · rw [isExecutable_iff]
    constructor
    · intro h i a hi
      exact h (i, a) (mem_positions.mpr hi)
    · intro h entry hm
      exact h entry.1 entry.2 (mem_positions.mp hm)
  · intro hstop
    rw [hstop] at hwalk
    exact isExecutable_iff.mpr hwalk.nothing_missing
  · intro a hstop
    rw [hstop] at hwalk
    obtain ⟨entry, hm, rfl, hmissing⟩ := hwalk.missing
    rw [← Bool.not_eq_true, isExecutable_iff]
    intro hall
    exact hall entry hm hmissing

end Bindings

end HeapQuery
