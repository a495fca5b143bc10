import HeapQuery.Heap.Queries
import HeapQuery.Proofs.StatefulCommands

namespace HeapQuery

def Bindings.On (b : Bindings) (s : Heap.Snapshot) : Prop :=
  ∃ serial, b.named? "snapshot" = some (some (.host serial (.snapshot s)))

namespace Heap

open Run

variable {s : Snapshot} {front back : List Event} {id : Nat}

/-- The size of what an object keeps alive; where it is not known, the object itself. -/
def keptBy (o : Object) : Nat :=
  match o.retained? with
  | some size => size
  | none => o.shallow

theorem retained_eq : Object.retained = keptBy := by
  funext o
  cases h : o.retained? <;> simp [Object.retained, keptBy, h]

/-! ## Counting objects -/

def countEvents (index : Nat) : Nat → List Event
  | 0 => []
  | n + 1 =>
    if index % pollInterval == 0 then .polled :: .worked 1 :: countEvents (index + 1) n
    else .worked 1 :: countEvents (index + 1) n

theorem traces_pollAt (index : Nat) :
    (pollAt index).Traces (if index % pollInterval == 0 then [.polled] else []) (.ok ()) := by
  unfold pollAt
  split
  · exact traces_checkCanceled
  · exact traces_pure ()

theorem traces_countAll (index : Nat) (objects : List Object) :
    (Histogram.countAll index objects).Traces (countEvents index objects.length) (.ok ()) := by
  induction objects generalizing index with
  | nil => exact traces_pure ()
  | cons o rest ih =>
    have hstep : (Histogram.countAll index (o :: rest)).Traces
        ((if index % pollInterval == 0 then [.polled] else []) ++
          ([.worked 1] ++ countEvents (index + 1) rest.length)) (.ok ()) :=
      (traces_pollAt index).then ((traces_worked 1).then (ih (index + 1)))
    rw [List.length_cons, countEvents]
    split at hstep <;> simpa [*] using hstep

theorem countEvents_work (index n : Nat) : workOf (countEvents index n) = n := by
  induction n generalizing index with
  | zero => rfl
  | succ n ih =>
    rw [countEvents]
    split <;> simp [ih, Event.amount, Nat.add_comm]

theorem countEvents_tasks (index n : Nat) : (countEvents index n).filterMap Event.task? = [] := by
  induction n generalizing index with
  | zero => rfl
  | succ n ih =>
    rw [countEvents]
    split <;> simp [ih, Event.task?, List.filterMap_cons]

theorem countEvents_done (index n : Nat) : (countEvents index n).count .done = 0 := by
  induction n generalizing index with
  | zero => rfl
  | succ n ih =>
    rw [countEvents]
    split <;> simp [ih]

/-- There is a poll at every multiple of the interval. -/
theorem countEvents_polls (index n : Nat) :
    (countEvents index n).count .polled + (index + 1023) / 1024 = (index + n + 1023) / 1024 := by
  induction n generalizing index with
  | zero => simp [countEvents]
  | succ n ih =>
    have hrest := ih (index + 1)
    rw [countEvents]
    split
    · rename_i hpoll
      simp only [pollInterval, beq_iff_eq] at hpoll
      simp only [List.count_cons_self, List.count_cons_of_ne, ne_eq, reduceCtorEq,
        not_false_eq_true]
      omega
    · rename_i hpoll
      simp only [pollInterval, beq_iff_eq] at hpoll
      simp only [List.count_cons_of_ne, ne_eq, reduceCtorEq, not_false_eq_true]
      omega

/-- As many objects have been counted before a poll as the intervals before it hold. -/
theorem countEvents_paced {index n : Nat} (h : countEvents index n = front ++ .polled :: back) :
    workOf front + index = 1024 * (front.count .polled + (index + 1023) / 1024) := by
  induction n generalizing index front with
  | zero => simp [countEvents] at h
  | succ n ih =>
    rw [countEvents] at h
    split at h
    · rename_i hpoll
      simp only [pollInterval, beq_iff_eq] at hpoll
      rcases front with _ | ⟨first, _ | ⟨second, front⟩⟩
      · simp only [workOf_nil, List.count_nil]
        omega
      · simp at h
      · simp only [List.cons_append, List.cons.injEq] at h
        obtain ⟨rfl, rfl, h⟩ := h
        have hrest := ih h
        simp only [workOf_cons, Event.amount, List.count_cons_self, List.count_cons_of_ne, ne_eq,
          reduceCtorEq, not_false_eq_true]
        omega
    · rename_i hpoll
      simp only [pollInterval, beq_iff_eq] at hpoll
      rcases front with _ | ⟨first, front⟩
      · simp at h
      · simp only [List.cons_append, List.cons.injEq] at h
        obtain ⟨rfl, h⟩ := h
        have hrest := ih h
        simp only [workOf_cons, Event.amount, List.count_cons_of_ne, ne_eq, reduceCtorEq,
          not_false_eq_true]
        omega

/-! ## Resolving addresses -/

def resolveEvents (s : Snapshot) : List Nat → List Event
  | [] => []
  | id :: rest =>
    match s.object? id with
    | none => [.polled]
    | some _ => .polled :: .worked 1 :: resolveEvents s rest

/-- The objects at the addresses that are large enough, or the first address without an object. -/
def resolved (s : Snapshot) (least : Nat) (ids : List Nat) : Except Failure (List Object) :=
  match ids.find? fun id => (s.object? id).isNone with
  | some id => .error (.other s!"no object {address id} in {s.path}")
  | none => .ok ((ids.filterMap s.object?).filter fun o => least ≤ o.shallow)

theorem resolved_missing (h : s.object? id = none) (least : Nat) (rest : List Nat) :
    resolved s least (id :: rest) = .error (.other s!"no object {address id} in {s.path}") := by
  simp [resolved, h]

theorem resolved_found {o : Object} (h : s.object? id = some o) (least : Nat) (rest : List Nat) :
    resolved s least (id :: rest) =
      (resolved s least rest).map fun others =>
        if least ≤ o.shallow then o :: others else others := by
  simp only [resolved, List.find?_cons, h, Option.isNone_some, List.filterMap_cons,
    List.filter_cons, decide_eq_true_eq]
  cases rest.find? fun id => (s.object? id).isNone <;> rfl

theorem traces_resolve (s : Snapshot) (least : Nat) (ids : List Nat) :
    (ShowObjects.resolve s least ids).Traces (resolveEvents s ids) (resolved s least ids) := by
  induction ids with
  | nil => exact traces_pure []
  | cons id rest ih =>
    rw [ShowObjects.resolve, resolveEvents]
    cases hfound : s.object? id with
    | none =>
      rw [resolved_missing hfound]
      exact traces_checkCanceled.then (traces_fail _)
    | some o =>
      rw [resolved_found hfound]
      exact traces_checkCanceled.then ((traces_worked 1).then (ih.map _))

theorem resolveEvents_tasks (s : Snapshot) (ids : List Nat) :
    (resolveEvents s ids).filterMap Event.task? = [] := by
  induction ids with
  | nil => rfl
  | cons id rest ih =>
    rw [resolveEvents]
    split <;> simp [ih, Event.task?, List.filterMap_cons]

theorem resolveEvents_done (s : Snapshot) (ids : List Nat) :
    (resolveEvents s ids).count .done = 0 := by
  induction ids with
  | nil => rfl
  | cons id rest ih =>
    rw [resolveEvents]
    split <;> simp [ih]

/-- Where every address has an object, each is asked about once and worked on once. -/
theorem resolveEvents_found {ids : List Nat} (h : ∀ id ∈ ids, s.object? id ≠ none) :
    workOf (resolveEvents s ids) = ids.length ∧
      (resolveEvents s ids).count .polled = ids.length := by
  induction ids with
  | nil => exact ⟨rfl, rfl⟩
  | cons id rest ih =>
    obtain ⟨hid, hrest⟩ := List.forall_mem_cons.mp h
    obtain ⟨o, ho⟩ := Option.ne_none_iff_exists'.mp hid
    obtain ⟨hwork, hpolls⟩ := ih hrest
    simp [resolveEvents, ho, hwork, hpolls, Event.amount, Nat.add_comm]

/-- As many addresses have been resolved before a poll as there were polls. -/
theorem resolveEvents_paced {ids : List Nat} (h : resolveEvents s ids = front ++ .polled :: back) :
    workOf front = front.count .polled := by
  induction ids generalizing front with
  | nil => simp [resolveEvents] at h
  | cons id rest ih =>
    rw [resolveEvents] at h
    split at h
    · rcases front with _ | ⟨first, front⟩
      · rfl
      · simp at h
    · rcases front with _ | ⟨first, _ | ⟨second, front⟩⟩
      · rfl
      · simp at h
      · simp only [List.cons_append, List.cons.injEq] at h
        obtain ⟨rfl, rfl, h⟩ := h
        have hrest := ih h
        simp only [workOf_cons, Event.amount, List.count_cons_self, List.count_cons_of_ne, ne_eq,
          reduceCtorEq, not_false_eq_true]
        omega

theorem resolved_ok {least : Nat} {ids : List Nat} {objects : List Object} :
    resolved s least ids = .ok objects ↔ (∀ id ∈ ids, s.object? id ≠ none) ∧
      objects = (ids.filterMap s.object?).filter fun o => least ≤ o.shallow := by
  unfold resolved
  split
  · rename_i id hfind
    have hnone := List.find?_some hfind
    have hm := List.mem_of_find?_eq_some hfind
    constructor
    · intro h
      cases h
    · rintro ⟨hall, _⟩
      exact absurd (Option.isNone_iff_eq_none.mp hnone) (hall id hm)
  · rename_i hfind
    have hall : ∀ id ∈ ids, s.object? id ≠ none := by
      intro id hm hid
      simpa [hid] using List.find?_eq_none.mp hfind id hm
    rw [Except.ok.injEq, and_iff_right hall, eq_comm]

theorem resolved_error {least : Nat} {ids : List Nat} {f : Failure}
    (h : resolved s least ids = .error f) :
    ∃ id ∈ ids, s.object? id = none ∧ f = .other s!"no object {address id} in {s.path}" := by
  unfold resolved at h
  split at h
  · rename_i id hfind
    cases h
    exact ⟨id, List.mem_of_find?_eq_some hfind,
      Option.isNone_iff_eq_none.mp (by simpa using List.find?_some hfind), rfl⟩
  · cases h

/-! ## The queries -/

def countingEvents (task : String) (s : Snapshot) : List Event :=
  .began task s.objects.length :: (countEvents 0 s.objects.length ++ [.done])

theorem traces_counting (task : String) (s : Snapshot) (output : Option Json) :
    (do
      Run.beginTask task s.objects.length
      Histogram.countAll 0 s.objects
      Run.done
      return output : Run (Option Json)).Traces (countingEvents task s) (.ok output) :=
  (traces_beginTask task s.objects.length).then
    ((traces_countAll 0 s.objects).then (traces_done.then (traces_pure output)))

theorem Histogram.traces_run {settings : Settings} (h : settings.snapshot = some s) :
    (run settings).Traces (countingEvents "Counting objects" s)
      (.ok (some (.array ((settings.rows s.objects).map Row.json)))) := by
  have hrun := traces_counting "Counting objects" s
    (some (.array ((settings.rows s.objects).map Row.json)))
  unfold run
  rw [h]
  exact hrun

theorem TopConsumers.traces_run {settings : Settings} (h : settings.snapshot = some s) :
    (run settings).Traces (countingEvents "Summing retained sizes" s)
      (.ok (some (.record [("total_retained", .nat s.totalRetained),
        ("threshold", .nat settings.percent),
        ("consumers", .array ((settings.consumers s).map (row s.totalRetained)))]))) := by
  have hrun := traces_counting "Summing retained sizes" s (some (.record
    [("total_retained", .nat s.totalRetained), ("threshold", .nat settings.percent),
      ("consumers", .array ((settings.consumers s).map (row s.totalRetained)))]))
  unfold run
  rw [h]
  exact hrun

def showingEvents (s : Snapshot) (ids : List Nat) : List Event :=
  .began "Resolving objects" ids.length ::
    (resolveEvents s ids ++ if ∀ id ∈ ids, s.object? id ≠ none then [.done] else [])

def shown (objects : List Object) : Option Json :=
  some (.array ((objects.mergeSort ShowObjects.comesBefore).map ShowObjects.row))

theorem ShowObjects.traces_run {settings : Settings} (h : settings.snapshot = some s) :
    (run settings).Traces (showingEvents s settings.ids)
      ((resolved s settings.least settings.ids).map shown) := by
  have hresolve := traces_resolve s settings.least settings.ids
  have hbegin := traces_beginTask "Resolving objects" settings.ids.length
  unfold run showingEvents
  rw [h]
  cases hresolved : resolved s settings.least settings.ids with
  | error e =>
    have hmissing : ¬ ∀ id ∈ settings.ids, s.object? id ≠ none := by
      intro hall
      rw [resolved_ok.mpr ⟨hall, rfl⟩] at hresolved
      cases hresolved
    rw [hresolved] at hresolve
    rw [if_neg hmissing, List.append_nil]
    exact hbegin.then (hresolve.bind_error _)
  | ok objects =>
    rw [hresolved] at hresolve
    rw [if_pos (resolved_ok.mp hresolved).1]
    exact hbegin.then (hresolve.bind (traces_done.then (traces_pure _)))

end Heap

end HeapQuery
