import HeapQuery.Proofs.ExecutionSteps
import HeapQuery.Proofs.RunTraces
import HeapQuery.Proofs.WellFormedSpecs

namespace HeapQuery

theorem QuerySpec.offers_command {spec : QuerySpec} {p : Registered} {q : Query}
    (h : spec.build t n = .ok p) (hquery : p.Offers q) : q.command = spec.command := by
  rw [(offers_same h hquery).2.2]
  obtain ⟨_, _, _, _, _, _, rfl⟩ := build_ok h
  rfl

namespace Field

variable {a : Argument} {v : Value} {extract : Value → Option α}

theorem optionalAs_some {part : α} (h : extract v = some part) :
    (scalar v).optionalAs a extract = .ok (some part) := by
  simp [optionalAs, isNull, scalarAs, scalar?, h, Except.map]

theorem optionalAs_none (h : extract v = none) :
    (scalar v).optionalAs a extract = .error (a.illegal (.scalar v)) := by
  simp [optionalAs, isNull, scalarAs, scalar?, h, Except.map]

end Field

namespace Bindings

def named? (b : Bindings) (name : String) : Option (Option Value) :=
  (b.query.argumentNamed? name).bind b.binding?

/-- Binds the fields of the arguments to a state. -/
def settle {σ : Type} (b : Bindings) (bind : σ → Given → Except QueryError σ) (state : σ) :
    List (Nat × Argument) → Except QueryError σ
  | [] => .ok state
  | (i, a) :: rest => do
    match ← b.field? i a with
    | none => b.settle bind state rest
    | some field => b.settle bind (← bind state (a, field)) rest

def report (b : Bindings) :
    Except Failure (Option Json) × Progress → Except QueryError Outcome × Progress
  | (.ok output, progress) => (.ok ⟨b.query, b.line, output⟩, progress)
  | (.error failure, progress) => (.error (failure.rethrow b.query.identifier), progress)

variable {σ : Type} {b : Bindings} {typeName : String} {initial state : σ}
  {bind : σ → Given → Except QueryError σ} {run : σ → Run (Option Json)} {a : Argument} {i : Nat}

/-! ## Settling -/

section Steps

variable {before : List Given} {rest : List (Nat × Argument)} {field : Field} {next : σ}
  {e : QueryError}

theorem settle_stopped (h : b.field? i a = .error e) :
    b.settle bind state ((i, a) :: rest) = .error e := by
  rw [settle, h]
  rfl

theorem settle_passed (h : b.field? i a = .ok none) :
    b.settle bind state ((i, a) :: rest) = b.settle bind state rest := by
  rw [settle, h]
  rfl

theorem settle_given (h : b.field? i a = .ok (some field)) :
    b.settle bind state ((i, a) :: rest) =
      (do b.settle bind (← bind state (a, field)) rest) := by
  rw [settle, h]
  rfl

theorem settle_bound (h : b.field? i a = .ok (some field))
    (hbind : bind state (a, field) = .ok next) :
    b.settle bind state ((i, a) :: rest) = b.settle bind next rest := by
  rw [settle_given h, hbind]
  rfl

theorem settle_refused (h : b.field? i a = .ok (some field))
    (hbind : bind state (a, field) = .error e) :
    b.settle bind state ((i, a) :: rest) = .error e := by
  rw [settle_given h, hbind]
  rfl

/-- A step of settling passes over an argument or binds a field of it. -/
theorem settle_step {final : σ} (h : b.settle bind state ((i, a) :: rest) = .ok final) :
    ∃ next, b.settle bind next rest = .ok final ∧
      (next = state ∨ ∃ field, bind state (a, field) = .ok next) := by
  cases hfield : b.field? i a with
  | error e =>
    rw [settle_stopped hfield] at h
    cases h
  | ok found =>
    cases found with
    | none => exact ⟨state, settle_passed hfield ▸ h, .inl rfl⟩
    | some field =>
      rw [settle_given hfield] at h
      obtain ⟨next, hnext, h⟩ := bind_ok.mp h
      exact ⟨next, h, .inr ⟨field, hnext⟩⟩

/-- What binding keeps for these arguments holds of the state that is settled. -/
theorem settle_keeps {P : σ → Prop} {final : σ}
    (hkeeps : ∀ entry ∈ rest, ∀ field state next, P state →
      bind state (entry.2, field) = .ok next → P next)
    (hstate : P state) (h : b.settle bind state rest = .ok final) : P final := by
  induction rest generalizing state with
  | nil =>
    cases h
    exact hstate
  | cons entry rest ih =>
    obtain ⟨next, h, hnext⟩ := settle_step h
    refine ih (fun entry hentry => hkeeps entry (List.mem_cons_of_mem _ hentry)) ?_ h
    rcases hnext with rfl | ⟨field, hbind⟩
    · exact hstate
    · exact hkeeps entry List.mem_cons_self field state next hstate hbind

theorem settle_append (front rest : List (Nat × Argument)) :
    b.settle bind state (front ++ rest) =
      (do b.settle bind (← b.settle bind state front) rest) := by
  induction front generalizing state with
  | nil => rfl
  | cons entry front ih =>
    obtain ⟨i, a⟩ := entry
    rw [List.cons_append]
    cases hfield : b.field? i a with
    | error e =>
      rw [settle_stopped hfield, settle_stopped hfield]
      rfl
    | ok found =>
      cases found with
      | none =>
        rw [settle_passed hfield, settle_passed hfield]
        exact ih
      | some field =>
        rw [settle_given hfield, settle_given hfield]
        cases bind state (a, field) with
        | error e => rfl
        | ok next => exact ih

/-- What one argument decides stays as it is where no other argument changes it. -/
theorem settled_part {τ : Type} {part : σ → τ} {v : τ} {final : σ} (hq : b.query.WellMade)
    (hi : b.query.arguments[i]? = some a) (hgiven : b.field? i a ≠ .ok none)
    (hdecides : ∀ field state next, b.field? i a = .ok (some field) →
      bind state (a, field) = .ok next → part next = v)
    (hkeeps : ∀ other field state next, other.name ≠ a.name → bind state (other, field) = .ok next →
      part next = part state)
    (h : b.settle bind initial (positions b.query) = .ok final) : part final = v := by
  obtain ⟨front, back, hsplit⟩ := List.append_of_mem (mem_positions.mpr hi)
  have hothers : ∀ entry ∈ back, entry.2.name ≠ a.name := by
    have hapart := hq.apart
    rw [← positions_arguments, List.pairwise_map, hsplit, List.pairwise_append] at hapart
    exact fun entry hentry => Ne.symm ((List.pairwise_cons.mp hapart.2.1).1 entry hentry).1
  rw [hsplit, settle_append] at h
  obtain ⟨middle, _, h⟩ := bind_ok.mp h
  cases hfield : b.field? i a with
  | error e =>
    rw [settle_stopped hfield] at h
    cases h
  | ok found =>
    obtain ⟨field, rfl⟩ := Option.ne_none_iff_exists'.mp fun hnone => hgiven (hnone ▸ hfield)
    rw [settle_given hfield] at h
    obtain ⟨next, hnext, h⟩ := bind_ok.mp h
    refine settle_keeps (P := fun state => part state = v) ?_
      (hdecides field middle next hfield hnext) h
    intro entry hentry other state next hstate hbind
    rw [hkeeps entry.2 other state next (hothers entry hentry) hbind, hstate]

theorem giveFrom_given (h : b.field? i a = .ok (some field)) :
    b.giveFrom before ((i, a) :: rest) = (do
      b.query.command.accept before (a, field)
      b.giveFrom (before ++ [(a, field)]) rest) := by
  rw [giveFrom, h]
  rfl

theorem accept_stateful (hbefore : before.foldlM bind initial = .ok state) (given : Given) :
    (Command.stateful typeName initial bind run).accept before given =
      (bind state given).map fun _ => () := by
  change (do let state ← before.foldlM bind initial; discard (bind state given)) = _
  rw [hbefore]
  exact bind_return _ _

end Steps

/-- The fields that the command accepts are those that settle its state. -/
theorem giveFrom_settle {before : List Given} (rest : List (Nat × Argument))
    (hcommand : b.query.command = .stateful typeName initial bind run)
    (hbefore : before.foldlM bind initial = .ok state) :
    (∀ e, b.settle bind state rest = .error e → b.giveFrom before rest = .error e) ∧
    ∀ final, b.settle bind state rest = .ok final →
      ∃ given, b.giveFrom before rest = .ok given ∧ given.foldlM bind initial = .ok final := by
  induction rest generalizing before state with
  | nil =>
    constructor
    · intro e h
      cases h
    · intro final h
      cases h
      exact ⟨before, rfl, hbefore⟩
  | cons entry rest ih =>
    obtain ⟨i, a⟩ := entry
    cases hfield : b.field? i a with
    | error e =>
      rw [settle_stopped hfield, giveFrom, hfield]
      constructor
      · intro _ h
        cases h
        rfl
      · intro _ h
        cases h
    | ok found =>
      cases found with
      | none =>
        rw [settle_passed hfield, giveFrom, hfield]
        exact ih hbefore
      | some field =>
        rw [settle_given hfield, giveFrom_given hfield, hcommand, accept_stateful hbefore]
        cases hbind : bind state (a, field) with
        | error e =>
          constructor
          · intro _ h
            cases h
            rfl
          · intro _ h
            cases h
        | ok next =>
          refine ih ?_
          rw [List.foldlM_append, hbefore]
          exact (bind_pure _).trans hbind

/-- An execution settles the state of the command and runs it. -/
theorem execute_stateful (hcommand : b.query.command = .stateful typeName initial bind run)
    (listener : Listener) :
    (∀ e, b.settle bind initial (positions b.query) = .error e →
      b.execute listener = (.error e, Progress.none)) ∧
    ∀ final, b.settle bind initial (positions b.query) = .ok final →
      b.execute listener = b.report ((run final).start listener) := by
  have hnone : ([] : List Given).foldlM bind initial = .ok initial := rfl
  obtain ⟨hstopped, hsettled⟩ := giveFrom_settle (positions b.query) hcommand hnone
  constructor
  · intro e h
    have hgiven : b.given = .error e := hstopped e h
    rw [execute, hgiven]
  · intro final h
    obtain ⟨given, hgiven, hfold⟩ := hsettled final h
    have hgiven : b.given = .ok given := hgiven
    have hrun : b.query.command.run given = run final := by
      rw [hcommand, Command.stateful]
      simp only [hfold]
    rw [execute, hgiven]
    simp only [hrun]
    rcases (run final).start listener with ⟨_ | _, progress⟩ <;> rfl

theorem report_progress (b : Bindings) (outcome : Except Failure (Option Json) × Progress) :
    (b.report outcome).2 = outcome.2 := by
  obtain ⟨_ | _, progress⟩ := outcome <;> rfl

/-- What an execution comes to that is not canceled. -/
theorem execute_traced {final : σ} {events : List Event} {result : Except Failure (Option Json)}
    {listener : Listener} (hcommand : b.query.command = .stateful typeName initial bind run)
    (hsettled : b.settle bind initial (positions b.query) = .ok final)
    (htraces : (run final).Traces events result)
    (hspared : listener.Spares (b.execute listener).2) :
    b.execute listener = b.report (result, Progress.none.after events) := by
  have hexecute := (execute_stateful hcommand listener).2 final hsettled
  rw [hexecute, report_progress] at hspared
  rw [hexecute, htraces.start_spared hspared]

/-! ## Fields -/

theorem field_forced {v : Value} (h : b.at? i = some (some v)) (hm : a.multiplicity = .single) :
    b.field? i a = (a.force v).map fun w => some (.scalar w) := by
  rw [field_of_value (v := v) (by rw [h]; exact .bound v), Argument.field_whole (by simp [hm])]
  cases a.force v with
  | error => rfl
  | ok w => simp only [Except.map, Argument.shape, hm]

theorem force_kept {v : Value} (h : v.isDeferred = false) : a.force v = .ok v := by
  cases v with
  | deferred => cases h
  | _ => rfl

theorem field_single {v : Value} (h : b.at? i = some (some v)) (hkept : v.isDeferred = false)
    (hm : a.multiplicity = .single) : b.field? i a = .ok (some (.scalar v)) := by
  rw [field_forced h hm, force_kept hkept]
  rfl

theorem field_default {v : Value} (h : b.at? i = none) (hdefault : a.default = some v)
    (hkept : v.isDeferred = false) (hm : a.multiplicity = .single) :
    b.field? i a = .ok (some (.scalar v)) := by
  have hgives : b.Gives i a (.ok (some (.scalar v))) :=
    .value (by rw [h]; exact .unsetDefault hdefault)
      (.whole (by simp [hm]) (.kept hkept) (.single hm))
  exact hgives.field

theorem field_null (h : b.at? i = some none) (hm : a.mandatory = false) :
    b.field? i a = .ok (some .null) := field_null_iff.mpr ⟨hm, h⟩

theorem field_unset (h : b.at? i = none) (hm : a.mandatory = false) (hdefault : a.default = none) :
    b.field? i a = .ok none := by
  have hgives : b.Gives i a (.ok none) := .nothing (by rw [h]; exact .unset hm hdefault)
  exact hgives.field

theorem field_list {items : List Value} (h : b.at? i = some (some (.list items)))
    (hkept : ∀ item ∈ items, item.isDeferred = false) (hm : a.multiplicity = .list) :
    b.field? i a = .ok (some (.list items)) := by
  have hmade : List.Forall₂ (fun item made => a.Becomes item (.ok made)) items items :=
    List.forall₂_same.mpr fun item hitem => .kept (hkept item hitem)
  have hshapes : a.Shapes (.list items) (.ok (.list items)) := .list rfl hm (.list items) hmade
  have hgives : b.Gives i a (.ok (some (.list items))) :=
    .value (by rw [h]; exact .bound _) hshapes
  exact hgives.field

/-- The binding of an argument is found by the name of the argument. -/
theorem named_offered {spec : QuerySpec} {p : Registered} (h : spec.build t n = .ok p)
    (hquery : p.Offers b.query) (hi : p.arguments[i]? = some a) : b.named? a.name = b.at? i := by
  have hmade : b.query.WellMade := QuerySpec.offers_wellMade h hquery
  have hi : b.query.arguments[i]? = some a := by
    rw [(QuerySpec.offers_same h hquery).2.1]
    exact hi
  rw [named?, hmade.finds_name (List.mem_iff_getElem?.mpr ⟨i, hi⟩), Option.bind_some,
    binding_eq hmade hi]

/-- An argument that has the name of one that was built is this one. -/
theorem eq_offered {spec : QuerySpec} {p : Registered} {a' : Argument}
    (h : spec.build t n = .ok p) (hquery : p.Offers b.query) (ha : a ∈ b.query.arguments)
    (hi : p.arguments[i]? = some a') (hname : a.name = a'.name) : a = a' := by
  have hmade : b.query.WellMade := QuerySpec.offers_wellMade h hquery
  have ha' : a' ∈ b.query.arguments := by
    rw [(QuerySpec.offers_same h hquery).2.1]
    exact List.mem_of_getElem? hi
  have hfound := hmade.finds_name ha
  rw [hname, hmade.finds_name ha'] at hfound
  exact (Option.some.inj hfound).symm

end Bindings

end HeapQuery
