import HeapQuery.Proofs.LargestConsumers
import HeapQuery.Proofs.ShownObjects

namespace HeapQuery

open Heap Run

variable {interval steps : Nat} {events front back : List Event} {s : Snapshot} {p : Registered}
  {b : Bindings}

/-! ## Events in step -/

/-- Before each poll as much has been worked as the intervals between the polls hold, and nothing
was done with. -/
def Paced (interval : Nat) (events : List Event) : Prop :=
  ∀ front back, events = front ++ .polled :: back →
    workOf front = interval * front.count .polled ∧ front.count .done = 0

/-- One task of so many steps has begun, has been worked on as a whole and is done. -/
structure Completed (interval steps : Nat) (events : List Event) : Prop where
  tasks : ∃ name, events.filterMap Event.task? = [(name, steps)]
  work : workOf events = steps
  done : events.count .done = 1
  polls : events.count .polled = (steps + interval - 1) / interval

theorem Paced.began (h : Paced interval events) (name : String) (total : Nat) :
    Paced interval (.began name total :: events) := by
  rintro (_ | ⟨first, front⟩) back hsplit
  · cases hsplit
  · rw [List.cons_append, List.cons.injEq] at hsplit
    obtain ⟨rfl, hsplit⟩ := hsplit
    obtain ⟨hwork, hdone⟩ := h front back hsplit
    simp [hwork, hdone, Event.amount]

/-- What stands before a poll stands before what comes behind the last poll. -/
theorem Paced.finished (h : Paced interval events) : Paced interval (events ++ [.done]) := by
  intro front back hsplit
  rcases List.append_eq_append_iff.mp hsplit with ⟨more, rfl, hlast⟩ | ⟨more, hevents, hrest⟩
  · match more, hlast with
    | [], hlast => cases hlast
    | _ :: more, hlast => simp at hlast
  · match more, hrest with
    | [], hrest => cases hrest
    | first :: more, hrest =>
      rw [List.cons_append, List.cons.injEq] at hrest
      obtain ⟨rfl, _⟩ := hrest
      exact h front more hevents

theorem countEvents_in_step (n : Nat) : Paced 1024 (countEvents 0 n) := by
  intro front back hsplit
  have hdone := countEvents_done 0 n
  rw [hsplit, List.count_append] at hdone
  exact ⟨by simpa using countEvents_paced hsplit, Nat.eq_zero_of_add_eq_zero_right hdone⟩

theorem resolveEvents_in_step (s : Snapshot) (ids : List Nat) : Paced 1 (resolveEvents s ids) := by
  intro front back hsplit
  have hdone := resolveEvents_done s ids
  rw [hsplit, List.count_append] at hdone
  exact ⟨by simpa using resolveEvents_paced hsplit, Nat.eq_zero_of_add_eq_zero_right hdone⟩

theorem countingEvents_paced (task : String) (s : Snapshot) : Paced 1024 (countingEvents task s) :=
  (countEvents_in_step _).finished.began task _

theorem countingEvents_completed (task : String) (s : Snapshot) :
    Completed 1024 s.objects.length (countingEvents task s) := by
  have hpolls := countEvents_polls 0 s.objects.length
  refine ⟨⟨task, ?_⟩, ?_, ?_, ?_⟩
  · simp [countingEvents, Event.task?, countEvents_tasks, List.filterMap_cons]
  · simp [countingEvents, Event.amount, countEvents_work]
  · simp [countingEvents, countEvents_done]
  · simp [countingEvents]
    omega

theorem showingEvents_paced (s : Snapshot) (ids : List Nat) : Paced 1 (showingEvents s ids) := by
  unfold showingEvents
  split
  · exact (resolveEvents_in_step s ids).finished.began _ _
  · rw [List.append_nil]
    exact (resolveEvents_in_step s ids).began _ _

theorem showingEvents_completed {ids : List Nat} (h : ∀ id ∈ ids, s.object? id ≠ none) :
    Completed 1 ids.length (showingEvents s ids) := by
  obtain ⟨hwork, hpolls⟩ := resolveEvents_found h
  unfold showingEvents
  rw [if_pos h]
  refine ⟨⟨"Resolving objects", ?_⟩, ?_, ?_, ?_⟩
  · simp [Event.task?, resolveEvents_tasks, List.filterMap_cons]
  · simp [Event.amount, hwork]
  · simp [resolveEvents_done]
  · simp [hpolls]

/-! ## Runs in step -/

/-- The polls of the run keep pace with its work, and a run that succeeds completes so many steps. -/
def Run.Regular {α : Type} (interval steps : Nat) (r : Run α) : Prop :=
  ∃ events result, r.Traces events result ∧ Paced interval events ∧
    ∀ a, result = .ok a → Completed interval steps events

theorem regular_failed {α : Type} {r : Run α} {f : Failure} (h : r.Traces [] (.error f)) :
    r.Regular interval steps := by
  refine ⟨[], .error f, h, ?_, nofun⟩
  rintro (_ | _) back hsplit <;> cases hsplit

/-- Without a snapshot a run fails before it reports anything. -/
theorem traces_unbound {α : Type} (next : Snapshot → Run α) :
    (needSnapshot none >>= next).Traces [] (.error (.other "no snapshot bound")) :=
  (traces_fail _).bind_error next

structure Counts {σ : Type} (snapshot : σ → Option Snapshot) (run : σ → Run (Option Json)) :
    Prop where
  bound : ∀ settings s, snapshot settings = some s →
    ∃ task output, (run settings).Traces (countingEvents task s) (.ok output)
  unbound : ∀ settings, snapshot settings = none → ∃ f, (run settings).Traces [] (.error f)

theorem Histogram.counts : Counts Histogram.Settings.snapshot Histogram.run := by
  refine ⟨fun settings s hsnapshot => ⟨_, _, Histogram.traces_run hsnapshot⟩,
    fun settings hsnapshot => ⟨.other "no snapshot bound", ?_⟩⟩
  unfold Histogram.run
  rw [hsnapshot]
  exact traces_unbound _

theorem TopConsumers.counts : Counts TopConsumers.Settings.snapshot TopConsumers.run := by
  refine ⟨fun settings s hsnapshot => ⟨_, _, TopConsumers.traces_run hsnapshot⟩,
    fun settings hsnapshot => ⟨.other "no snapshot bound", ?_⟩⟩
  unfold TopConsumers.run
  rw [hsnapshot]
  exact traces_unbound _

theorem Counts.regular {σ : Type} {snapshot : σ → Option Snapshot} {run : σ → Run (Option Json)}
    (h : Counts snapshot run) (settings : σ) :
    (run settings).Regular 1024 (((snapshot settings).map fun s => s.objects.length).getD 0) := by
  cases hsnapshot : snapshot settings with
  | none =>
    obtain ⟨f, htraces⟩ := h.unbound settings hsnapshot
    exact regular_failed htraces
  | some s =>
    obtain ⟨task, output, htraces⟩ := h.bound settings s hsnapshot
    exact ⟨_, _, htraces, countingEvents_paced task s, fun _ _ => countingEvents_completed task s⟩

theorem ShowObjects.regular (settings : ShowObjects.Settings) :
    (ShowObjects.run settings).Regular 1 settings.ids.length := by
  cases hsnapshot : settings.snapshot with
  | none =>
    unfold ShowObjects.run
    rw [hsnapshot]
    exact regular_failed (traces_unbound _)
  | some s =>
    refine ⟨_, _, ShowObjects.traces_run hsnapshot, showingEvents_paced s _, fun a ha => ?_⟩
    obtain ⟨objects, hresolved, _⟩ := map_ok.mp ha
    exact showingEvents_completed (resolved_ok.mp hresolved).1

/-! ## Executions in step -/

/-- An execution that is canceled from a poll on ends at that poll, with the work of the intervals
before it and nothing done with; one that does not get to the poll goes its own way. An execution
that succeeds has completed one task. -/
structure Bindings.KeepsPace (b : Bindings) (interval steps : Nat) : Prop where
  canceled : ∀ n, 1 ≤ n → n ≤ (b.execute .silent).2.polls →
    (b.execute (.canceledFrom n)).1 = .error .canceled ∧
    (b.execute (.canceledFrom n)).2.polls = n ∧
    (b.execute (.canceledFrom n)).2.worked = interval * (n - 1) ∧
    (b.execute (.canceledFrom n)).2.done = 0
  uncanceled : ∀ n, (b.execute .silent).2.polls < n →
    b.execute (.canceledFrom n) = b.execute .silent
  completed : ∀ listener outcome, (b.execute listener).1 = .ok outcome →
    ∃ name, (b.execute listener).2 = ⟨[(name, steps)], steps, 1, (steps + interval - 1) / interval⟩

/-- An execution that is refused before its run does not poll. -/
theorem keepsPace_of_refused {e : QueryError}
    (h : ∀ listener, b.execute listener = (.error e, Progress.none)) :
    b.KeepsPace interval steps := by
  refine ⟨fun n hn hle => ?_, fun n _ => by rw [h, h], fun listener outcome hok => ?_⟩
  · rw [h] at hle
    exact absurd hle (Nat.not_le.mpr hn)
  · rw [h] at hok
    cases hok

theorem Run.Regular.keepsPace {r : Run (Option Json)} (hr : r.Regular interval steps)
    (h : ∀ listener, b.execute listener = b.report (r.start listener)) :
    b.KeepsPace interval steps := by
  obtain ⟨events, result, htraces, hpaced, hcompleted⟩ := hr
  have hsilent : r.start .silent = (result, Progress.none.after events) :=
    htraces.start_spared (Listener.silent_spares _)
  have hpolls : (b.execute .silent).2.polls = events.count .polled := by
    rw [h, Bindings.report_progress, hsilent, Progress.after_eq]
    exact Nat.zero_add _
  refine ⟨fun n hn hle => ?_, fun n hlt => ?_, fun listener outcome hok => ?_⟩
  · rw [hpolls] at hle
    obtain ⟨front, back, hsplit, hcount, hcut⟩ := htraces.start_canceled hn hle
    obtain ⟨hwork, hdone⟩ := hpaced front back hsplit
    rw [h, hcut]
    refine ⟨rfl, ?_, ?_, ?_⟩
    · simp [Bindings.report, Progress.after_eq, Progress.none, hcount]
    · simp [Bindings.report, Progress.after_eq, Progress.none, Event.amount, hwork, ← hcount]
    · simp [Bindings.report, Progress.after_eq, Progress.none, hdone]
  · rw [hpolls] at hlt
    rw [h, h, htraces.start_not_canceled hlt, hsilent]
  · cases houtcome : r.start listener with
    | mk outcome' progress =>
      rw [h, houtcome] at hok ⊢
      cases outcome' with
      | error f => cases hok
      | ok output =>
        obtain ⟨hresult, rfl⟩ := htraces.start_ok houtcome
        obtain ⟨⟨name, htasks⟩, hwork, hdone, hpolled⟩ := hcompleted _ hresult
        refine ⟨name, ?_⟩
        simp [Bindings.report, Progress.after_eq, Progress.none, htasks, hwork, hdone, hpolled]

theorem keepsPace_of_settled {σ : Type} {typeName : String} {initial : σ}
    {bind : σ → Given → Except QueryError σ} {run : σ → Run (Option Json)}
    (hcommand : b.query.command = .stateful typeName initial bind run)
    (h : ∀ final, b.settle bind initial (Bindings.positions b.query) = .ok final →
      (run final).Regular interval steps) : b.KeepsPace interval steps := by
  cases hsettled : b.settle bind initial (Bindings.positions b.query) with
  | error e =>
    exact keepsPace_of_refused fun listener =>
      (Bindings.execute_stateful hcommand listener).1 e hsettled
  | ok final =>
    exact (h final hsettled).keepsPace fun listener =>
      (Bindings.execute_stateful hcommand listener).2 final hsettled

theorem keepsPace_some {σ : Type} {typeName : String} {initial : σ}
    {bind : σ → Given → Except QueryError σ} {run : σ → Run (Option Json)}
    (hcommand : b.query.command = .stateful typeName initial bind run)
    (h : ∀ settings, ∃ steps, (run settings).Regular interval steps) :
    ∃ steps, b.KeepsPace interval steps := by
  cases hsettled : b.settle bind initial (Bindings.positions b.query) with
  | error e =>
    exact ⟨0, keepsPace_of_settled hcommand fun final hfinal => by cases hsettled.symm.trans hfinal⟩
  | ok final =>
    obtain ⟨steps, hregular⟩ := h final
    refine ⟨steps, keepsPace_of_settled hcommand fun other hother => ?_⟩
    cases hsettled.symm.trans hother
    exact hregular

/-! ## What the bindings decide -/

/-- Binding the snapshot puts it into the state, where binding another argument leaves it. -/
structure BindsSnapshot {σ : Type} (snapshot : σ → Option Snapshot)
    (bind : σ → Given → Except QueryError σ) : Prop where
  own : ∀ a serial s state next, a.name = "snapshot" →
    bind state (a, .scalar (.host serial (.snapshot s))) = .ok next → snapshot next = some s
  other : ∀ a field state next, a.name ≠ "snapshot" → bind state (a, field) = .ok next →
    snapshot next = snapshot state

theorem Histogram.bindsSnapshot : BindsSnapshot Histogram.Settings.snapshot Histogram.bind := by
  constructor
  · intro a serial s state next hname h
    simp only [Histogram.bind, hname] at h
    cases h
    rfl
  · intro a field state next hname h
    simp only [Histogram.bind] at h
    split at h
    · exact absurd ‹_› hname
    · obtain ⟨_, _, h⟩ := bind_ok.mp h
      cases h
      rfl
    · obtain ⟨_, _, h⟩ := bind_ok.mp h
      cases h
      rfl
    · cases h

theorem TopConsumers.bindsSnapshot :
    BindsSnapshot TopConsumers.Settings.snapshot TopConsumers.bind := by
  constructor
  · intro a serial s state next hname h
    simp only [TopConsumers.bind, hname] at h
    cases h
    rfl
  · intro a field state next hname h
    simp only [TopConsumers.bind] at h
    split at h
    · exact absurd ‹_› hname
    · obtain ⟨_, _, h⟩ := bind_ok.mp h
      split at h
      · cases h
        rfl
      · cases h
    · obtain ⟨_, _, h⟩ := bind_ok.mp h
      cases h
      rfl
    · cases h

/-- The state has the snapshot that the first argument is bound to. -/
theorem BindsSnapshot.settled {σ : Type} {snapshot : σ → Option Snapshot} {initial final : σ}
    {bind : σ → Given → Except QueryError σ} (hbinds : BindsSnapshot snapshot bind)
    {spec : QuerySpec} {rest : List Argument} (h : spec.build t n = .ok p)
    (hquery : p.Offers b.query) (hon : b.On s)
    (hown : p.arguments = ⟨⟨n, 0⟩, "snapshot", some "snapshot", true, .single, snapshotType, none,
      none, help⟩ :: rest)
    (hsettled : b.settle bind initial (Bindings.positions b.query) = .ok final) :
    snapshot final = some s := by
  obtain ⟨serial, hsnapshot⟩ := hon
  have hnamed := Bindings.named_offered h hquery (i := 0) (by rw [hown]; rfl)
  have hfirst : b.query.arguments[0]? = some ⟨⟨n, 0⟩, "snapshot", some "snapshot", true, .single,
      snapshotType, none, none, help⟩ := by
    rw [(QuerySpec.offers_same h hquery).2.1, hown]
    rfl
  have hfield : b.field? 0 ⟨⟨n, 0⟩, "snapshot", some "snapshot", true, .single, snapshotType, none,
      none, help⟩ = .ok (some (.scalar (.host serial (.snapshot s)))) :=
    Bindings.field_single (hnamed.symm.trans hsnapshot) rfl rfl
  refine Bindings.settled_part (QuerySpec.offers_wellMade h hquery) hfirst (by simp [hfield])
    (fun field state next hbound hbind => ?_) hbinds.other hsettled
  cases hfield.symm.trans hbound
  exact hbinds.own _ serial s state next rfl hbind

theorem ShowObjects.bind_keeps {a : Argument} {field : Field} {state next : ShowObjects.Settings}
    (hname : a.name ≠ "objects") (h : ShowObjects.bind state (a, field) = .ok next) :
    next.ids = state.ids := by
  simp only [ShowObjects.bind] at h
  split at h
  · obtain ⟨_, _, h⟩ := bind_ok.mp h
    cases h
    rfl
  · exact absurd ‹_› hname
  · obtain ⟨_, _, h⟩ := bind_ok.mp h
    split at h <;> cases h <;> rfl
  · cases h

theorem ShowObjects.settled_ids {ids : List Nat} {final : ShowObjects.Settings}
    (h : showObjects.build t n = .ok p) (hquery : p.Offers b.query)
    (hobjects : b.named? "objects" = some (some (Selection.value ⟨ids⟩)))
    (hsettled : b.settle ShowObjects.bind {} (Bindings.positions b.query) = .ok final) :
    final.ids = ids := by
  obtain ⟨a, hi, hname, hm, hat⟩ : ∃ a, b.query.arguments[1]? = some a ∧ a.name = "objects" ∧
      a.multiplicity = .single ∧ b.at? 1 = some (some (Selection.value ⟨ids⟩)) := by
    obtain ⟨_, first, second, third, hown⟩ := showObjects_arguments h
    have hnamed := Bindings.named_offered h hquery (i := 1) (by rw [hown]; rfl)
    exact ⟨_, by rw [(QuerySpec.offers_same h hquery).2.1, hown]; rfl, rfl, rfl,
      hnamed.symm.trans hobjects⟩
  obtain ⟨hwithin, hbeyond⟩ := ShowObjects.field_objects hname hm hat
  have hbuilt : ∀ found, b.field? 1 a = .ok found → (∀ id ∈ ids, id < 2 ^ 63) ∧
      found = some (.scalar (.list (ids.map fun id => .long (Int64.ofNat id)))) := by
    intro found hfound
    by_cases hids : ∃ id ∈ ids, 2 ^ 63 ≤ id
    · obtain ⟨shown, herror⟩ := hbeyond hids
      cases hfound.symm.trans herror
    · have hsmall : ∀ id ∈ ids, id < 2 ^ 63 := fun id hm =>
        Nat.lt_of_not_le fun hle => hids ⟨id, hm, hle⟩
      exact ⟨hsmall, Except.ok.inj (hfound.symm.trans (hwithin hsmall))⟩
  refine Bindings.settled_part (QuerySpec.offers_wellMade h hquery) hi
    (fun hnone => by cases (hbuilt _ hnone).2) (fun field state next hown hbind => ?_)
    (fun other field state next hother => ShowObjects.bind_keeps (hname ▸ hother)) hsettled
  obtain ⟨hsmall, hfield⟩ := hbuilt _ hown
  cases hfield
  rw [ShowObjects.bind_objects hname hsmall] at hbind
  cases hbind
  rfl

/-! ## The queries in step -/

section Counting

variable {σ : Type} {typeName : String} {initial : σ} {bind : σ → Given → Except QueryError σ}
  {run : σ → Run (Option Json)} {snapshot : σ → Option Snapshot}

theorem Counts.keepsPace_on (h : Counts snapshot run)
    (hcommand : b.query.command = .stateful typeName initial bind run)
    (hsettled : ∀ final, b.settle bind initial (Bindings.positions b.query) = .ok final →
      snapshot final = some s) : b.KeepsPace 1024 s.objects.length := by
  refine keepsPace_of_settled hcommand fun final hfinal => ?_
  have hregular := h.regular final
  rwa [hsettled final hfinal] at hregular

/-- Where the fields are accepted, the run counts the objects. -/
theorem Counts.polls_on (h : Counts snapshot run)
    (hcommand : b.query.command = .stateful typeName initial bind run)
    (hsettled : ∀ final, b.settle bind initial (Bindings.positions b.query) = .ok final →
      snapshot final = some s) (hgiven : ∃ given, b.given = .ok given) :
    (b.execute .silent).2.polls = (s.objects.length + 1023) / 1024 := by
  obtain ⟨given, hgiven⟩ := hgiven
  cases hfinal : b.settle bind initial (Bindings.positions b.query) with
  | error e =>
    have hrefused : b.given = .error e := (Bindings.giveFrom_settle _ hcommand rfl).1 e hfinal
    cases hgiven.symm.trans hrefused
  | ok final =>
    obtain ⟨task, output, htraces⟩ := h.bound final s (hsettled final hfinal)
    have hexecute := Bindings.execute_traced hcommand hfinal htraces (Listener.silent_spares _)
    obtain ⟨name, hprogress⟩ := (h.keepsPace_on hcommand hsettled).completed .silent _
      (congrArg Prod.fst hexecute)
    rw [hprogress]
    rfl

/-- A query that counts objects polls once for 1024 of those of the snapshot that is bound. -/
theorem Counts.keepsPace (h : Counts snapshot run) (hbinds : BindsSnapshot snapshot bind)
    {spec : QuerySpec} {rest : List Argument} (hbuild : spec.build t n = .ok p)
    (hquery : p.Offers b.query) (hspec : spec.command = .stateful typeName initial bind run)
    (hown : p.arguments = ⟨⟨n, 0⟩, "snapshot", some "snapshot", true, .single, snapshotType, none,
      none, help⟩ :: rest) :
    (∃ steps, b.KeepsPace 1024 steps) ∧
    ∀ s, b.On s → b.KeepsPace 1024 s.objects.length ∧
      ((∃ given, b.given = .ok given) →
        (b.execute .silent).2.polls = (s.objects.length + 1023) / 1024) := by
  have hcommand := (QuerySpec.offers_command hbuild hquery).trans hspec
  refine ⟨keepsPace_some hcommand fun settings => ⟨_, h.regular settings⟩, fun s hon => ?_⟩
  have hsettled : ∀ final, b.settle bind initial (Bindings.positions b.query) = .ok final →
      snapshot final = some s := fun _ => hbinds.settled hbuild hquery hon hown
  exact ⟨h.keepsPace_on hcommand hsettled, h.polls_on hcommand hsettled⟩

end Counting

/-- Every query that counts objects polls once for 1024 of them, and the query for selected objects
once for each address: a run that is canceled from a poll on fails there, with the work done that
the polls before stand for, and a run that succeeds has completed its one task. -/
theorem heap_queries_keep_pace :
    (∀ (t : Translations) (n : Nat) (p : Registered) (b : Bindings),
      histogram.build t n = .ok p ∨ topConsumers.build t n = .ok p → p.Offers b.query →
        (∃ steps, b.KeepsPace 1024 steps) ∧
        ∀ s, b.On s → b.KeepsPace 1024 s.objects.length ∧
          ((∃ given, b.given = .ok given) →
            (b.execute .silent).2.polls = (s.objects.length + 1023) / 1024)) ∧
    ∀ (t : Translations) (n : Nat) (p : Registered) (b : Bindings),
      showObjects.build t n = .ok p → p.Offers b.query →
        (∃ steps, b.KeepsPace 1 steps) ∧
        ∀ ids, b.named? "objects" = some (some (Selection.value ⟨ids⟩)) →
          b.KeepsPace 1 ids.length := by
  refine ⟨fun t n p b hbuild hquery => ?_, fun t n p b h hquery => ?_⟩
  · rcases hbuild with h | h
    · obtain ⟨_, _, _, hown⟩ := histogram_arguments h
      exact Histogram.counts.keepsPace Histogram.bindsSnapshot h hquery rfl hown
    · obtain ⟨_, _, _, hown⟩ := topConsumers_arguments h
      exact TopConsumers.counts.keepsPace TopConsumers.bindsSnapshot h hquery rfl hown
  · have hcommand := QuerySpec.offers_command h hquery
    refine ⟨keepsPace_some hcommand fun settings => ⟨_, ShowObjects.regular settings⟩,
      fun ids hobjects => keepsPace_of_settled hcommand fun final hfinal => ?_⟩
    rw [← ShowObjects.settled_ids h hquery hobjects hfinal]
    exact ShowObjects.regular final

/-- Of two selected objects, a run that is canceled at the second poll has worked on one. -/
theorem second_poll_cancels : ∃ (p : Registered) (b : Bindings),
    showObjects.build .empty 0 = .ok p ∧ b.query = p.toQuery ∧ (b.execute .silent).2.polls = 2 ∧
    (b.execute (.canceledFrom 2)).1 = .error .canceled ∧
    (b.execute (.canceledFrom 2)).2.worked = 1 ∧ (b.execute (.canceledFrom 2)).2.done = 0 := by
  obtain ⟨p, hbuild⟩ : ∃ p, showObjects.build .empty 0 = .ok p := ⟨_, rfl⟩
  let s : Snapshot := ⟨"heap.json", [⟨16, "a.X", 8, none⟩, ⟨32, "b.Y", 8, none⟩], by decide⟩
  let b : Bindings := ⟨p.toQuery, environment (some s),
    [(0, some (.host 0 (.snapshot s))), (1, some (Selection.value ⟨[16, 32]⟩))]⟩
  obtain ⟨_, first, second, third, hown⟩ := showObjects_arguments hbuild
  have hnamed := fun i a => Bindings.named_offered (b := b) hbuild (.inl rfl) (i := i) (a := a)
  rw [hown] at hnamed
  have hselected : b.named? "objects" = some (some (Selection.value ⟨[16, 32]⟩)) := hnamed 1 _ rfl
  have hasks : b.Asks s [16, 32] 0 := ⟨⟨0, hnamed 0 _ rfl⟩, hselected, fun _ _ _ => by
    rw [show b.named? "min" = _ from hnamed 2 _ rfl]
    exact .unset⟩
  have hpace := (heap_queries_keep_pace.2 .empty 0 p b hbuild (.inl rfl)).2 [16, 32] hselected
  obtain ⟨outcome, hok⟩ := (ShowObjects.answered hbuild (.inl rfl) hasks
    (Listener.silent_spares _)).succeeds_iff.mpr ⟨by decide, by decide⟩
  obtain ⟨name, hprogress⟩ := hpace.completed .silent outcome hok
  have hpolls : (b.execute .silent).2.polls = 2 := by
    rw [hprogress]
    rfl
  obtain ⟨hcanceled, _, hworked, hdone⟩ := hpace.canceled 2 (by decide) (by rw [hpolls])
  exact ⟨p, b, hbuild, rfl, hpolls, hcanceled, hworked, hdone⟩

end HeapQuery
