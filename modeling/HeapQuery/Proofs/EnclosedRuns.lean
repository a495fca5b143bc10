import HeapQuery.Proofs.GroupTails

namespace HeapQuery.Regex.Reader

open Reading (left leave)

variable {s s' : State} {base : List Frame} {cs rest tail : List Char} {fuel : Nat}

def State.inside (s : State) (base : List Frame) : State := { s with stack := s.stack ++ base }

def Enclosing (base : List Frame) : Prop :=
  base = [] ∨ ∃ before change verbose outer, base = .group before change verbose :: outer

@[simp] theorem inside_verbose (s : State) (base : List Frame) :
    (s.inside base).verbose = s.verbose := rfl

@[simp] theorem inside_rest (s : State) (base : List Frame) : (s.inside base).rest = s.rest := rfl

theorem openNamed_inside (s : State) (base : List Frame) (cs : List Char) :
    (s.inside base).openNamed cs = (s.openNamed cs).map (·.inside base) := by
  unfold State.openNamed
  cases readName cs with
  | none => rfl
  | some r =>
    change (if s.names.contains r.1 then _ else _) =
      Option.map _ (if s.names.contains r.1 then _ else _)
    cases s.names.contains r.1 <;> rfl

theorem openFlags_inside (s : State) (base : List Frame) (cs : List Char) :
    (s.inside base).openFlags cs = (s.openFlags cs).map (·.inside base) := by
  unfold State.openFlags
  cases readFlags cs false false [] with
  | none => rfl
  | some r =>
    simp only [Option.bind_eq_bind, Option.bind_some]
    cases r.2.1 == ':' with
    | true => rfl
    | false => cases r.1.isEmpty <;> rfl

theorem stepOpen_inside (s : State) (base : List Frame) (cs : List Char) :
    stepOpen (s.inside base) cs = (stepOpen s cs).map (·.inside base) := by
  fun_cases stepOpen s cs
  all_goals simp only [stepOpen, inside_verbose, *]
  case case5 => exact openNamed_inside s base _
  case case6 => exact openNamed_inside s base _
  case case7 => exact openFlags_inside s base _
  all_goals rfl

theorem stepClose_inside (h : stepClose s rest = some s') :
    stepClose (s.inside base) rest = some (s'.inside base) := by
  unfold stepClose at h ⊢
  split at h
  · rename_i hstack
    cases h
    simp only [State.inside, hstack, List.cons_append]
    rfl
  · rename_i hstack
    cases h
    simp only [State.inside, hstack, List.cons_append]
    rfl
  · cases h

theorem stepBranch_inside (hbase : Enclosing base) (s : State) (rest : List Char) :
    stepBranch (s.inside base) rest = (stepBranch s rest).inside base := by
  cases hstack : s.stack with
  | nil =>
    obtain rfl | ⟨before, change, verbose, outer, rfl⟩ := hbase
    · simp only [stepBranch, State.inside, hstack]
      rfl
    · simp only [stepBranch, State.inside, hstack]
      rfl
  | cons frame stack =>
    cases frame <;> simp only [stepBranch, State.inside, hstack, List.cons_append] <;> rfl

theorem repeatLast_inside (s : State) (base : List Frame) (least : Nat) (most : Option Nat)
    (rest : List Char) : (s.inside base).repeatLast least most rest =
      (s.repeatLast least most rest).map (·.inside base) := by
  cases hparts : s.parts with
  | nil => simp only [State.repeatLast, State.inside, hparts, Option.map_none]
  | cons part parts =>
    simp only [State.repeatLast, State.inside, hparts]
    cases part.isRepeatable <;> rfl

/-- A step does the same inside other groups, of which it closes none. -/
theorem step_inside (hbase : Enclosing base) (h : step s = some s') :
    step (s.inside base) = some (s'.inside base) := by
  have hrepeat {least : Nat} {most : Option Nat} {rest : List Char}
      (h : s.repeatLast least most rest = some s') :
      (s.inside base).repeatLast least most rest = some (s'.inside base) := by
    rw [repeatLast_inside, h, Option.map_some]
  fun_cases step s
  all_goals simp only [step, inside_rest, inside_verbose, *] at h ⊢
  case case1 => cases h
  case case2 => rw [stepOpen_inside, h, Option.map_some]
  case case3 => exact stepClose_inside h
  case case4 =>
    cases h
    rw [stepBranch_inside hbase]
  case case5 =>
    obtain ⟨r, hopen, h⟩ := Option.bind_eq_some_iff.mp h
    obtain ⟨r', hclass, h⟩ := Option.bind_eq_some_iff.mp h
    cases h
    exact Option.bind_eq_some_iff.mpr ⟨r, hopen, Option.bind_eq_some_iff.mpr ⟨r', hclass, rfl⟩⟩
  case case6 => exact hrepeat h
  case case7 => exact hrepeat h
  case case8 => exact hrepeat h
  case case9 =>
    obtain ⟨r, hbounds, h⟩ := Option.bind_eq_some_iff.mp h
    exact Option.bind_eq_some_iff.mpr ⟨r, hbounds, hrepeat h⟩
  case case10 =>
    obtain ⟨r, hescape, h⟩ := Option.bind_eq_some_iff.mp h
    cases h
    exact Option.bind_eq_some_iff.mpr ⟨r, hescape, rfl⟩
  all_goals
    cases h
    rfl

def State.within (s : State) (base : List Frame) (rest : List Char) : State :=
  { s with stack := s.stack ++ base, rest := rest }

theorem StableAt.with_tail {f : List Char → Option β} [Reading β] {b : β} (h : StableAt f cs)
    (hb : f cs = some b) : left b <:+ cs ∧ ∃ lost, MayLose lost cs (left b) ∧
      ∀ tail, tail = [] ∨ Closes tail →
        f (cs ++ tail) = some (leave b (leftover lost (left b) tail)) := by
  obtain ⟨hsuffix, lost, hlost, htail⟩ := h b hb
  refine ⟨hsuffix, lost, hlost, ?_⟩
  rintro tail (rfl | hclose)
  · have hleft : leftover lost (left b) [] = left b := by
      cases lost with
      | true => exact (hlost rfl).1.symm
      | false => exact List.append_nil _
    rw [List.append_nil, hb, hleft, Reading.leave_left]
  · exact htail tail hclose

theorem step_within (h : step s = some s') : s'.rest <:+ s.rest ∧
    ∃ lost, MayLose lost s.rest s'.rest ∧ ∀ base, Enclosing base → ∀ tail, tail = [] ∨ Closes tail →
      step (s.within base (s.rest ++ tail)) =
        some (s'.within base (leftover lost s'.rest tail)) := by
  obtain ⟨hsuffix, lost, hlost, htail⟩ := (stable_step s s.rest).with_tail h
  exact ⟨hsuffix, lost, hlost, fun base hbase tail hend => step_inside hbase (htail tail hend)⟩

theorem run_skip (fuel : Nat) (s : State) :
    run fuel { s with rest := skip s.verbose s.rest } = run fuel s := by
  cases fuel with
  | zero => rfl
  | succ fuel => simp only [run, skip_skip]

theorem run_blank (hrest : skip s.verbose s.rest = []) :
    run (fuel + 1) s = some { s with rest := [] } := by
  simp [run, hrest]

theorem run_succ (hrest : skip s.verbose s.rest ≠ []) : run (fuel + 1) s =
    (step { s with rest := skip s.verbose s.rest }).bind (run fuel) := by
  have hempty : (skip s.verbose s.rest).isEmpty = false := by simpa using hrest
  simp only [run, hempty, Bool.false_eq_true, ↓reduceIte]
  cases step { s with rest := skip s.verbose s.rest } <;> rfl

/-- The first step does not come to the tail. -/
theorem run_succ_within (hrest : skip s.verbose s.rest ≠ [])
    (hstep : step (s.within base (skip s.verbose s.rest ++ tail)) = some s') :
    run (fuel + 1) (s.within base (s.rest ++ tail)) = run fuel s' := by
  have hskip : skip s.verbose (s.rest ++ tail) = skip s.verbose s.rest ++ tail := by
    obtain ⟨c, rest, hcons⟩ := List.exists_cons_of_ne_nil hrest
    rw [skip_of_cons hcons, hcons, List.cons_append]
  have hne : skip s.verbose (s.rest ++ tail) ≠ [] := by
    rw [hskip]
    exact List.append_ne_nil_of_left_ne_nil hrest tail
  have hrun : run (fuel + 1) (s.within base (s.rest ++ tail)) =
      (step (s.within base (skip s.verbose (s.rest ++ tail)))).bind (run fuel) := run_succ hne
  rw [hrun, hskip, hstep, Option.bind_some]

/-- What is read to its end is read to its end inside other groups, and then the tail is left. -/
theorem run_within (h : run fuel s = some s') : s'.rest = [] ∧
    ∃ lost, (lost = true → '#' ∈ s.rest) ∧ ∀ base, Enclosing base →
      ∀ tail, tail = [] ∨ Closes tail → ∀ n, ∃ m > n,
        run (fuel + n) (s.within base (s.rest ++ tail)) =
          run m (s'.within base (leftover lost [] tail)) := by
  induction fuel generalizing s with
  | zero => cases h
  | succ fuel ih =>
    by_cases hrest : skip s.verbose s.rest = []
    · obtain ⟨_, lost, hlost, htail⟩ := (stable_skip s.verbose s.rest).with_tail rfl
      simp only [left_text, leave_text, hrest, Option.some.injEq] at hlost htail
      rw [run_blank hrest] at h
      cases h
      refine ⟨rfl, lost, fun hl => (hlost hl).2, fun base _ tail hend n =>
        ⟨fuel + 1 + n, by omega, ?_⟩⟩
      rw [← run_skip]
      exact congrArg (fun rest => run (fuel + 1 + n) (s.within base rest)) (htail tail hend)
    rw [run_succ hrest] at h
    obtain ⟨next, hstep, h⟩ := Option.bind_eq_some_iff.mp h
    obtain ⟨hsuffix, lost, hlost, hnext⟩ := step_within hstep
    obtain ⟨hnil, lost', hlost', hmore⟩ := ih h
    have hskip := skip_suffix s.verbose s.rest
    refine ⟨hnil, lost || lost', ?_, fun base hbase tail hend n => ?_⟩
    · intro hl
      cases lost with
      | true => exact hskip.mem (hlost rfl).2
      | false => exact hskip.mem (hsuffix.mem (hlost' hl))
    rw [Nat.add_right_comm, run_succ_within hrest (hnext base hbase tail hend)]
    cases lost with
    | false => exact hmore base hbase tail hend n
    | true =>
      -- Once the tail is lost, the run goes on as one without a tail.
      obtain ⟨hend, -⟩ := hlost rfl
      obtain ⟨m, hm, hrun⟩ := hmore base hbase [] (.inl rfl) n
      refine ⟨m, hm, ?_⟩
      rw [List.append_nil, hend] at hrun
      refine hrun.trans ?_
      cases lost' <;> rfl

/-- A closing parenthesis comes to the innermost group that encloses the text. -/
theorem close_within {e : Expr} {before : List Expr} {change : FlagChange} {verbose : Bool}
    {outer : List Frame} (h : s.finish? = some e) :
    stepClose (s.within (.group before change verbose :: outer) cs) rest =
      some ⟨verbose, s.names, outer, .group change e :: before, rest⟩ := by
  unfold State.finish? at h
  split at h
  · rename_i hstack
    cases h
    simp only [stepClose, State.within, hstack]
    rfl
  · rename_i hstack
    cases h
    simp only [stepClose, State.within, hstack]
    rfl
  · cases h

/-- Where no group is open, a closing parenthesis closes none. -/
theorem close_outside {e : Expr} (h : s.finish? = some e) :
    stepClose (s.within [] cs) rest = none := by
  unfold State.finish? at h
  split at h
  · rename_i hstack
    simp only [stepClose, State.within, hstack]
    rfl
  · rename_i hstack
    simp only [stepClose, State.within, hstack]
    rfl
  · cases h

theorem finish_within (s : State) (before : List Expr) (change : FlagChange) (verbose : Bool) :
    (s.within [.group before change verbose] rest).finish? = none := by
  rcases hstack : s.stack with _ | ⟨frame, _ | ⟨frame', stack⟩⟩ <;>
    simp [State.finish?, State.within, hstack]

theorem run_end (fuel : Nat) (s : State) (base : List Frame) :
    run (fuel + 1) (s.within base []) = some (s.within base []) :=
  run_blank (by cases (s.within base []).verbose <;> rfl)

end HeapQuery.Regex.Reader
