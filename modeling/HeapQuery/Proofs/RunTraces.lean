import HeapQuery.Run
import Mathlib.Algebra.BigOperators.Group.List.Basic
import Mathlib.Algebra.GroupWithZero.Nat
import Mathlib.Data.List.Count

namespace HeapQuery

inductive Event
  | began (name : String) (total : Nat)
  | worked (amount : Nat)
  | done
  | polled
  deriving DecidableEq, Repr

namespace Event

def task? : Event → Option (String × Nat)
  | began name total => some (name, total)
  | _ => none

def amount : Event → Nat
  | worked amount => amount
  | _ => 0

end Event

def workOf (events : List Event) : Nat := (events.map Event.amount).sum

@[simp] theorem workOf_nil : workOf [] = 0 := rfl

@[simp] theorem workOf_cons (event : Event) (events : List Event) :
    workOf (event :: events) = event.amount + workOf events := List.sum_cons

@[simp] theorem workOf_append (front back : List Event) :
    workOf (front ++ back) = workOf front + workOf back := by simp [workOf]

namespace Progress

def note (p : Progress) : Event → Progress
  | .began name total => { p with tasks := p.tasks ++ [(name, total)] }
  | .worked amount => { p with worked := p.worked + amount }
  | .done => { p with done := p.done + 1 }
  | .polled => { p with polls := p.polls + 1 }

def after (p : Progress) (events : List Event) : Progress := events.foldl note p

theorem after_eq (p : Progress) (events : List Event) : p.after events =
    ⟨p.tasks ++ events.filterMap Event.task?, p.worked + workOf events,
      p.done + events.count .done, p.polls + events.count .polled⟩ := by
  induction events generalizing p with
  | nil => simp [after]
  | cons event rest ih =>
    have hstep : p.after (event :: rest) = (p.note event).after rest := rfl
    rw [hstep, ih]
    cases event <;>
      simp [note, Event.task?, Event.amount, List.filterMap_cons, Nat.add_assoc, Nat.add_comm 1]

end Progress

namespace Listener

/-- Where a run with these events and this result ends: at its end, or at the first poll at which
the listener cancels it. -/
def follow (listener : Listener) (result : Except Failure α) (p : Progress) :
    List Event → Except Failure α × Progress
  | [] => (result, p)
  | event :: rest =>
    let p := p.note event
    if event = .polled ∧ listener p.polls then (.error (.query .canceled), p)
    else listener.follow result p rest

/-- The listener cancels at none of the polls among the events. -/
def Lets (listener : Listener) (p : Progress) (events : List Event) : Prop :=
  ∀ k, p.polls < k → k ≤ p.polls + events.count .polled → listener k = false

def canceledFrom (n : Nat) : Listener := fun k => decide (n ≤ k)

/-- The listener did not cancel at any of the polls that have been reported. -/
def Spares (listener : Listener) (p : Progress) : Prop :=
  ∀ k, 1 ≤ k → k ≤ p.polls → listener k = false

variable {listener : Listener} {p : Progress} {event : Event} {events : List Event}

theorem silent_spares (p : Progress) : silent.Spares p := fun _ _ _ => rfl

theorem note_polls (p : Progress) (event : Event) (rest : List Event) :
    (p.note event).polls + rest.count .polled = p.polls + (event :: rest).count .polled := by
  cases event <;> simp [Progress.note, Nat.add_assoc, Nat.add_comm 1]

theorem Lets.tail (h : listener.Lets p (event :: events)) :
    listener.Lets (p.note event) events := by
  intro k hlow hhigh
  rw [note_polls] at hhigh
  refine h k ?_ hhigh
  cases event <;> simp only [Progress.note] at hlow <;> omega

theorem Lets.head (h : listener.Lets p (event :: events)) :
    ¬ (event = .polled ∧ listener (p.note event).polls) := by
  rintro ⟨rfl, hcanceled⟩
  have hsilent := h (p.polls + 1) (Nat.lt_succ_self _) (by simp)
  rw [show (p.note .polled).polls = p.polls + 1 from rfl, hsilent] at hcanceled
  cases hcanceled

theorem Lets.cons (hhead : ¬ (event = .polled ∧ listener (p.note event).polls))
    (htail : listener.Lets (p.note event) events) : listener.Lets p (event :: events) := by
  intro k hlow hhigh
  rw [← note_polls] at hhigh
  by_cases hlater : (p.note event).polls < k
  · exact htail k hlater hhigh
  · -- No poll lies between the progress and the next event but the event itself.
    cases event with
    | polled =>
      obtain rfl : k = p.polls + 1 := by
        simp only [Progress.note] at hlater
        omega
      simpa [Progress.note] using hhead
    | began | worked | done => exact absurd hlow hlater

/-- A listener that cancels at no poll lets the run get to its end. -/
theorem follow_lets (h : listener.Lets p events) (result : Except Failure α) :
    listener.follow result p events = (result, p.after events) := by
  induction events generalizing p with
  | nil => rfl
  | cons event rest ih =>
    rw [follow, if_neg h.head, ih h.tail]
    rfl

/-- A run gets to its end, or it is canceled at a poll before which it was not. -/
theorem follow_cases (listener : Listener) (p : Progress) (events : List Event)
    (result : Except Failure α) : listener.Lets p events ∨ ∃ front back,
      events = front ++ .polled :: back ∧ listener.Lets p front ∧
      listener (p.polls + front.count .polled + 1) = true ∧
      listener.follow result p events =
        (.error (.query .canceled), p.after (front ++ [.polled])) := by
  induction events generalizing p with
  | nil => exact .inl fun k hlow hhigh => absurd hhigh (Nat.not_le.mpr hlow)
  | cons event rest ih =>
    by_cases hhead : event = .polled ∧ listener (p.note event).polls
    · obtain ⟨rfl, hcanceled⟩ := hhead
      refine .inr ⟨[], rest, rfl, ?_, hcanceled, ?_⟩
      · exact fun k hlow hhigh => absurd hhigh (Nat.not_le.mpr hlow)
      · rw [follow, if_pos ⟨rfl, hcanceled⟩]
        rfl
    · rcases ih (p.note event) with htail | ⟨front, back, hsplit, hfront, hcanceled, hfollow⟩
      · exact .inl (.cons hhead htail)
      · refine .inr ⟨event :: front, back, by rw [hsplit, List.cons_append], .cons hhead hfront,
          ?_, ?_⟩
        · rwa [note_polls] at hcanceled
        · rw [follow, if_neg hhead, hfollow]
          rfl

end Listener

namespace Run

variable {α β : Type} {r : Run α} {f : α → Run β} {a : α} {events later : List Event}
  {result : Except Failure α} {listener : Listener} {p : Progress}

def resume (r : Run α) (listener : Listener) (p : Progress) : Except Failure α × Progress :=
  (r.run listener).run.run p

/-- The run has these events, and this result unless it is canceled. -/
def Traces (r : Run α) (events : List Event) (result : Except Failure α) : Prop :=
  ∀ listener p, r.resume listener p = listener.follow result p events

def goOn (f : α → Run β) (listener : Listener) :
    Except Failure α × Progress → Except Failure β × Progress
  | (.ok a, p) => (f a).resume listener p
  | (.error e, p) => (.error e, p)

theorem resume_bind (r : Run α) (f : α → Run β) (listener : Listener) (p : Progress) :
    (r >>= f).resume listener p = goOn f listener (r.resume listener p) := by
  have hstep : (r >>= f).resume listener p = match r.resume listener p with
      | (x, q) => (ExceptT.bindCont (fun a => f a listener) x).run q := rfl
  rw [hstep]
  rcases r.resume listener p with ⟨_ | _, q⟩ <;> rfl

/-- What goes on from the end of a trace is traced behind it. -/
theorem goOn_follow {x : Except Failure α} {y : Except Failure β}
    (hnext : ∀ q, goOn f listener (x, q) = listener.follow y q later) (p : Progress) :
    goOn f listener (listener.follow x p events) = listener.follow y p (events ++ later) := by
  induction events generalizing p with
  | nil => exact hnext p
  | cons event rest ih =>
    rw [List.cons_append, Listener.follow, Listener.follow]
    split
    · rfl
    · exact ih _

/-! ## Traces of composed runs -/

theorem traces_pure (a : α) : (pure a : Run α).Traces [] (.ok a) := fun _ _ => rfl

theorem traces_fail (e : Failure) : (fail e : Run α).Traces [] (.error e) := fun _ _ => rfl

theorem traces_beginTask (name : String) (total : Nat) :
    (beginTask name total).Traces [.began name total] (.ok ()) := fun _ _ => rfl

theorem traces_worked (amount : Nat) : (Run.worked amount).Traces [.worked amount] (.ok ()) :=
  fun _ _ => rfl

theorem traces_done : Run.done.Traces [.done] (.ok ()) := fun _ _ => rfl

theorem traces_checkCanceled : checkCanceled.Traces [.polled] (.ok ()) := by
  intro listener p
  have hresume : checkCanceled.resume listener p =
      (if listener (p.polls + 1) then throw (.query .canceled) else pure () : Run Unit).resume
        listener (p.note .polled) := rfl
  rw [hresume, Listener.follow, show (p.note .polled).polls = p.polls + 1 from rfl]
  cases listener (p.polls + 1) <;> rfl

theorem Traces.bind {result : Except Failure β} (h : r.Traces events (.ok a))
    (hf : (f a).Traces later result) : (r >>= f).Traces (events ++ later) result := by
  intro listener p
  rw [resume_bind, h]
  refine goOn_follow (fun q => ?_) p
  exact hf listener q

theorem Traces.bind_error {e : Failure} (h : r.Traces events (.error e)) (f : α → Run β) :
    (r >>= f).Traces events (.error e) := by
  intro listener p
  rw [resume_bind, h]
  conv_rhs => rw [← List.append_nil events]
  refine goOn_follow (fun q => ?_) p
  rfl

/-- A run that goes on with another one whatever its result is. -/
theorem Traces.then {r : Run Unit} {next : Run β} {result : Except Failure β}
    (h : r.Traces events (.ok ())) (hnext : next.Traces later result) :
    (do r; next).Traces (events ++ later) result :=
  h.bind hnext

theorem Traces.map (h : r.Traces events result) (f : α → β) :
    (do return f (← r)).Traces events (result.map f) := by
  cases result with
  | error e => exact h.bind_error _
  | ok a =>
    rw [← List.append_nil events]
    exact h.bind (traces_pure (f a))

/-! ## Whole runs -/

theorem Traces.start (h : r.Traces events result) (listener : Listener) :
    r.start listener = listener.follow result Progress.none events := h listener Progress.none

/-- A run that no poll cancels ends as its trace does. -/
theorem Traces.start_lets (h : r.Traces events result)
    (hlets : listener.Lets Progress.none events) :
    r.start listener = (result, Progress.none.after events) := by
  rw [h.start, Listener.follow_lets hlets]

/-- A run that was not canceled has got to its end. -/
theorem Traces.start_spared (h : r.Traces events result)
    (hspared : listener.Spares (r.start listener).2) :
    r.start listener = (result, Progress.none.after events) := by
  rcases listener.follow_cases Progress.none events result with hlets |
    ⟨front, back, _, _, hcanceled, hfollow⟩
  · exact h.start_lets hlets
  · -- The last poll that the run has reported is the one at which it was canceled.
    rw [h.start, hfollow] at hspared
    have hlast := hspared (Progress.none.polls + front.count .polled + 1) (Nat.le_add_left 1 _)
      (by simp [Progress.after_eq, Nat.add_assoc])
    rw [hcanceled] at hlast
    cases hlast

/-- A run that succeeds was not canceled. -/
theorem Traces.start_ok (h : r.Traces events result) (hok : r.start listener = (.ok a, p)) :
    result = .ok a ∧ p = Progress.none.after events := by
  rcases listener.follow_cases Progress.none events result with hlets |
    ⟨_, _, _, _, _, hcanceled⟩
  · rw [h.start_lets hlets] at hok
    exact ⟨congrArg Prod.fst hok, (congrArg Prod.snd hok).symm⟩
  · rw [h.start, hcanceled] at hok
    cases hok

/-- A run under a listener that cancels from the poll number `n` on ends at that poll, if it gets
there. -/
theorem Traces.start_canceled {n : Nat} (h : r.Traces events result) (hn : 1 ≤ n)
    (hle : n ≤ events.count .polled) : ∃ front back, events = front ++ .polled :: back ∧
      front.count .polled + 1 = n ∧ r.start (.canceledFrom n) =
        (.error (.query .canceled), Progress.none.after (front ++ [.polled])) := by
  rcases (Listener.canceledFrom n).follow_cases Progress.none events result with hlets |
    ⟨front, back, hsplit, hfront, hcanceled, hfollow⟩
  · have hsilent := hlets n hn (by simpa [Progress.none] using hle)
    simp [Listener.canceledFrom] at hsilent
  · refine ⟨front, back, hsplit, ?_, (h.start _).trans hfollow⟩
    have hlow : n ≤ front.count .polled + 1 := by
      simpa [Progress.none] using of_decide_eq_true hcanceled
    have hhigh : ¬ n ≤ front.count .polled := by
      intro hreached
      have hsilent := hfront n hn (by simpa [Progress.none] using hreached)
      simp [Listener.canceledFrom] at hsilent
    omega

theorem Traces.start_not_canceled {n : Nat} (h : r.Traces events result)
    (hlt : events.count .polled < n) :
    r.start (.canceledFrom n) = (result, Progress.none.after events) := by
  refine h.start_lets fun k _ hhigh => decide_eq_false ?_
  simp only [Progress.none] at hhigh
  omega

end Run

end HeapQuery
