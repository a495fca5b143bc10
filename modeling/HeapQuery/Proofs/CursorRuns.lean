import HeapQuery.Heap.ShowObjects
import HeapQuery.Proofs.AddressRuns
import HeapQuery.Proofs.LineReplay

namespace HeapQuery.CommandLine

/-- Where the loop of the parser stands: what has been bound, the argument that took a value without
a flag, and the number of tokens before the next pass. -/
structure Cursor where
  bindings : Bindings
  positional : Option Argument
  position : Nat

/-- How the loop stopped. `overrun` is a pass that asked for a token where there is none, and
`unfinished` is a loop that was cut off. -/
inductive Ending
  | finished
  | failed (e : QueryError)
  | overrun
  | unfinished

def Ending.error? : Ending → Option QueryError
  | failed e => some e
  | _ => none

/-- What the loop has done when it stops: the positions at which it asked for a token, one for each
pass, and where it stopped. A pass that fails does not move the cursor. -/
structure Course where
  asked : List Nat
  last : Cursor
  ending : Ending

namespace Cursor

/-- One pass of the loop; `none` where no token stands at the cursor. -/
def pass? (s : Cursor) (tokens : List Token) : Option (Except QueryError Cursor) :=
  tokens[s.position]?.map fun token =>
    match token.flag? with
    | some flag => do
      let (b, taken) ← bindFlag s.bindings flag (tokens.drop (s.position + 1))
      return ⟨b, s.positional, s.position + 1 + taken⟩
    | none =>
      match s.positional with
      | some bound => .error (.assignmentFailed token.shown bound.name)
      | none => do
        let (b, a, taken) ← bindPositional s.bindings token (tokens.drop s.position)
        return ⟨b, some a, s.position + taken⟩

/-- The loop, which goes on while the cursor is before the end of the tokens. It is cut off after
the given number of passes. -/
def loop (tokens : List Token) (passes : Nat) (s : Cursor) : Course :=
  if s.position < tokens.length then
    match passes with
    | 0 => ⟨[], s, .unfinished⟩
    | left + 1 =>
      match s.pass? tokens with
      | none => ⟨[s.position], s, .overrun⟩
      | some (.error e) => ⟨[s.position], s, .failed e⟩
      | some (.ok next) =>
        let rest := loop tokens left next
        { rest with asked := s.position :: rest.asked }
  else ⟨[], s, .finished⟩

end Cursor

/-- The loop asked only for tokens that are there, from a position on and each time farther on, and
no more often than there are tokens left. Then it was at the end of the tokens, or a pass failed. -/
structure Course.Orderly (course : Course) (start : Nat) (tokens : List Token) : Prop where
  rising : course.asked.Pairwise (· < ·)
  present : ∀ position ∈ course.asked, start ≤ position ∧ position < tokens.length
  few : course.asked.length ≤ tokens.length - start
  ended : (course.ending = .finished ∧ course.last.position = tokens.length) ∨
    ∃ e, course.ending = .failed e

variable {c : Context} {a : Argument} {tokens rest : List Token} {token : Token}
  {value : Option Value} {s next : Cursor} {e : QueryError} {i taken : Nat}

/-! ## One value -/

/-- A value without a flag takes a token at least, also where the environment reads it: a selection
has an address. -/
theorem takeValue_pos (hc : c.Selects) (hflag : token.flag? = none)
    (h : takeValue c a (token :: rest) = .ok (value, taken)) : 0 < taken := by
  rw [Nat.pos_iff_ne_zero]
  rintro rfl
  cases hp : c.parses a.type a.advice with
  | false => exact takeValue_ne_zero hp hflag h
  | true =>
    rw [takeValue, if_pos hp, (hc _ _ hp).2] at h
    obtain ⟨_, hresult, hpair⟩ := map_ok.mp h
    obtain ⟨selection, hread, _⟩ := map_ok.mp hresult
    obtain ⟨hrun, _, hlength⟩ := Heap.Selection.read_ok.mp (Prod.ext hread rfl)
    have htaken : (Heap.Selection.read (token :: rest)).2 = 0 := congrArg Prod.snd hpair
    exact hrun (List.length_eq_zero_iff.mp (hlength.trans htaken))

/-! ## One pass -/

namespace Cursor

theorem drop_at (h : tokens[i]? = some token) : tokens.drop i = token :: tokens.drop (i + 1) := by
  rw [List.drop_eq_getElem?_toList_append, h]
  rfl

theorem pass_none : s.pass? tokens = none ↔ tokens.length ≤ s.position := by
  rw [pass?, Option.map_eq_none_iff, List.getElem?_eq_none_iff]

theorem before_of_pass {result : Except QueryError Cursor} (h : s.pass? tokens = some result) :
    s.position < tokens.length := by
  rw [← Nat.not_le, ← pass_none, h]
  simp

/-- A pass that succeeds has bound the argument of a flag or the positional argument. -/
theorem pass_ok (h : s.pass? tokens = some (.ok next)) :
    ∃ token, tokens[s.position]? = some token ∧
      ((∃ flag taken, token.flag? = some flag ∧
          bindFlag s.bindings flag (tokens.drop (s.position + 1)) = .ok (next.bindings, taken) ∧
          next.positional = s.positional ∧ next.position = s.position + 1 + taken) ∨
        ∃ a taken, token.flag? = none ∧ s.positional = none ∧
          bindPositional s.bindings token (tokens.drop s.position) =
            .ok (next.bindings, a, taken) ∧
          next.positional = some a ∧ next.position = s.position + taken) := by
  obtain ⟨token, htoken, h⟩ := Option.map_eq_some_iff.mp h
  refine ⟨token, htoken, ?_⟩
  split at h
  · rename_i flag hflag
    obtain ⟨⟨b, taken⟩, hbind, hnext⟩ := bind_ok.mp h
    cases hnext
    exact .inl ⟨flag, taken, hflag, hbind, rfl, rfl⟩
  · rename_i hflag
    split at h
    · cases h
    · rename_i hfree
      obtain ⟨⟨b, a, taken⟩, hbind, hnext⟩ := bind_ok.mp h
      cases hnext
      exact .inr ⟨a, taken, hflag, hfree, hbind, rfl, rfl⟩

theorem pass_frame (h : s.pass? tokens = some (.ok next)) :
    next.bindings.query = s.bindings.query ∧ next.bindings.context = s.bindings.context := by
  obtain ⟨token, _, ⟨flag, taken, _, hbind, _⟩ | ⟨a, taken, _, _, hbind, _⟩⟩ := pass_ok h
  · obtain ⟨_, _, _, _, hset⟩ := bindFlag_ok.mp hbind
    exact set_frame hset
  · obtain ⟨_, _, _, hset⟩ := bindPositional_ok.mp hbind
    exact set_frame hset

/-- A pass that succeeds goes forward, and not past the tokens. -/
theorem pass_forward (hc : s.bindings.context.Selects) (h : s.pass? tokens = some (.ok next)) :
    s.position < next.position ∧ next.position ≤ tokens.length := by
  obtain ⟨token, htoken, hbound⟩ := pass_ok h
  obtain ⟨hbefore, _⟩ := List.getElem?_eq_some_iff.mp htoken
  rcases hbound with ⟨flag, taken, _, hbind, _, hposition⟩ |
    ⟨a, taken, hflag, _, hbind, _, hposition⟩
  · -- The flag itself has been passed, whatever its value took.
    obtain ⟨_, _, _, htake, _⟩ := bindFlag_ok.mp hbind
    have hle := takeFlagged_le hc.within htake
    rw [List.length_drop] at hle
    omega
  · obtain ⟨_, _, htake, _⟩ := bindPositional_ok.mp hbind
    have hle := takeValue_le hc.within htake
    rw [drop_at htoken] at htake
    have hpos := takeValue_pos hc hflag htake
    rw [List.length_drop] at hle
    omega

/-- The parser does one pass and then goes on behind it, unless the pass fails. -/
theorem bindAll_pass (s : Cursor) (tokens : List Token) :
    bindAll s.bindings s.positional (tokens.drop s.position) =
      match s.pass? tokens with
      | none => (s.bindings, none)
      | some (.error e) => (s.bindings, some e)
      | some (.ok next) =>
        bindAll next.bindings next.positional (tokens.drop next.position) := by
  cases htoken : tokens[s.position]? with
  | none =>
    rw [List.drop_eq_nil_of_le (List.getElem?_eq_none_iff.mp htoken), bindAll.eq_1]
    simp only [pass?, htoken, Option.map_none]
  | some token =>
    have hdrop := drop_at htoken
    rw [hdrop, bindAll.eq_def]
    simp only [pass?, htoken, Option.map_some]
    cases token.flag? with
    | some flag =>
      dsimp only
      cases bindFlag s.bindings flag (tokens.drop (s.position + 1)) with
      | error e => rfl
      | ok bound =>
        simp only [List.drop_drop]
        rfl
    | none =>
      cases s.positional with
      | some bound => rfl
      | none =>
        rw [← hdrop]
        dsimp only
        cases bindPositional s.bindings token (tokens.drop s.position) with
        | error e => rfl
        | ok bound =>
          simp only [List.drop_drop]
          rfl

end Cursor

/-! ## The loop -/

theorem Course.Orderly.at_end (h : s.position = tokens.length) :
    Course.Orderly ⟨[], s, .finished⟩ s.position tokens :=
  ⟨.nil, nofun, Nat.zero_le _, .inl ⟨rfl, h⟩⟩

/-- What began in order behind another pass stays in order when that pass is counted in. -/
theorem Course.Orderly.behind {course : Course} {start first : Nat} (h : course.Orderly first tokens)
    (hforward : start < first) (hwithin : first ≤ tokens.length) :
    { course with asked := start :: course.asked : Course }.Orderly start tokens where
  rising := List.pairwise_cons.mpr
    ⟨fun position hm => Nat.lt_of_lt_of_le hforward (h.present position hm).1, h.rising⟩
  present := by
    intro position hm
    rcases List.mem_cons.mp hm with rfl | hm
    · exact ⟨Nat.le_refl _, Nat.lt_of_lt_of_le hforward hwithin⟩
    · obtain ⟨hfirst, hlast⟩ := h.present position hm
      exact ⟨Nat.le_trans (Nat.le_of_lt hforward) hfirst, hlast⟩
  few := by
    have hfew := h.few
    rw [List.length_cons]
    omega
  ended := h.ended

namespace Cursor

theorem loop_at_end (h : tokens.length ≤ s.position) (passes : Nat) :
    s.loop tokens passes = ⟨[], s, .finished⟩ := by
  rw [loop.eq_def, if_neg (Nat.not_lt.mpr h)]

theorem loop_failed (h : s.pass? tokens = some (.error e)) (left : Nat) :
    s.loop tokens (left + 1) = ⟨[s.position], s, .failed e⟩ := by
  rw [loop, if_pos (before_of_pass h), h]

theorem loop_pass (h : s.pass? tokens = some (.ok next)) (left : Nat) :
    s.loop tokens (left + 1) =
      { next.loop tokens left with asked := s.position :: (next.loop tokens left).asked } := by
  rw [loop, if_pos (before_of_pass h), h]

/-- Whatever the environment, a loop that is not cut off does what the parser does. -/
theorem loop_binds {passes : Nat} (h : (s.loop tokens passes).ending ≠ .unfinished) :
    ((s.loop tokens passes).last.bindings, (s.loop tokens passes).ending.error?) =
      bindAll s.bindings s.positional (tokens.drop s.position) := by
  rw [bindAll_pass]
  induction passes generalizing s with
  | zero =>
    -- Before the end of the tokens, a loop without a pass left is cut off.
    have hend : tokens.length ≤ s.position := by
      by_contra hbefore
      rw [loop, if_pos (Nat.not_le.mp hbefore)] at h
      exact h rfl
    rw [loop_at_end hend, pass_none.mpr hend]
    rfl
  | succ left ih =>
    cases hpass : s.pass? tokens with
    | none =>
      rw [loop_at_end (pass_none.mp hpass)]
      rfl
    | some result =>
      cases result with
      | error e =>
        rw [loop_failed hpass]
        rfl
      | ok next =>
        rw [loop_pass hpass] at h ⊢
        dsimp only
        rw [bindAll_pass]
        exact ih h

/-- A loop that may make as many passes as there are tokens left is not cut off. -/
theorem loop_orderly (hc : s.bindings.context.Selects) (hs : s.position ≤ tokens.length)
    {passes : Nat} (hpasses : tokens.length - s.position ≤ passes) :
    (s.loop tokens passes).Orderly s.position tokens := by
  -- A pass uses up one of the passes that are left, and one token at least.
  induction passes generalizing s with
  | zero =>
    have hend : s.position = tokens.length := by omega
    rw [loop_at_end (Nat.le_of_eq hend.symm)]
    exact .at_end hend
  | succ left ih =>
    cases hpass : s.pass? tokens with
    | none =>
      have hend := pass_none.mp hpass
      rw [loop_at_end hend]
      exact .at_end (Nat.le_antisymm hs hend)
    | some result =>
      cases result with
      | error e =>
        have hbefore := before_of_pass hpass
        rw [loop_failed hpass]
        refine ⟨List.pairwise_singleton _ _, ?_, ?_, .inr ⟨e, rfl⟩⟩
        · simp [hbefore]
        · rw [List.length_singleton]
          omega
      | ok next =>
        obtain ⟨hforward, hwithin⟩ := pass_forward hc hpass
        rw [loop_pass hpass]
        exact (ih ((pass_frame hpass).2 ▸ hc) hwithin (by omega)).behind hforward hwithin

end Cursor

/-- From any cursor in an environment of queries, a pass that succeeds goes forward and stays within
the tokens. So the loop stops after at most as many passes as there are tokens left, asks only for
tokens that are there, and is at the end of the tokens when it succeeds. It binds what the parser
binds, and fails as the parser does. -/
theorem passes_go_forward (hc : s.bindings.context.Known) (hs : s.position ≤ tokens.length) :
    (∀ next, s.pass? tokens = some (.ok next) →
      s.position < next.position ∧ next.position ≤ tokens.length) ∧
    ∀ passes, tokens.length - s.position ≤ passes →
      (s.loop tokens passes).Orderly s.position tokens ∧
      ((s.loop tokens passes).last.bindings, (s.loop tokens passes).ending.error?) =
        bindAll s.bindings s.positional (tokens.drop s.position) := by
  refine ⟨fun next hpass => Cursor.pass_forward hc.selects hpass, fun passes hpasses => ?_⟩
  have horderly := Cursor.loop_orderly hc.selects hs hpasses
  refine ⟨horderly, Cursor.loop_binds ?_⟩
  rcases horderly.ended with ⟨hfinished, _⟩ | ⟨e, hfailed⟩
  · simp [hfinished]
  · simp [hfailed]

/-- A flag with its value and a selection of two objects are two passes. -/
theorem selection_passed : ∃ (p : Registered) (s : Cursor) (tokens : List Token),
    Heap.showObjects.build .empty 0 = .ok p ∧
    s = ⟨Bindings.initial p.toQuery (Heap.environment none), none, 0⟩ ∧
    tokens = [.word "-min", .word "32", .word "0x10", .word "#21"] ∧
    s.bindings.context.Known ∧ s.position ≤ tokens.length ∧
    (∃ next, s.pass? tokens = some (.ok next) ∧ next.position = 2) ∧
    (s.loop tokens 4).asked = [0, 2] ∧ (s.loop tokens 4).last.position = 4 ∧
    (bindAll s.bindings none tokens).2 = none := by
  let tokens : List Token := [.word "-min", .word "32", .word "0x10", .word "#21"]
  obtain ⟨p, hbuild, s, hs, hpass, hasked, hfinished⟩ :
      ∃ p, Heap.showObjects.build .empty 0 = .ok p ∧ ∃ s : Cursor,
        s = ⟨Bindings.initial p.toQuery (Heap.environment none), none, 0⟩ ∧
        (∃ next, s.pass? tokens = some (.ok next) ∧ next.position = 2) ∧
        (s.loop tokens 4).asked = [0, 2] ∧ (s.loop tokens 4).ending = .finished :=
    ⟨_, rfl, _, rfl, ⟨_, rfl, rfl⟩, rfl, rfl⟩
  have hknown : s.bindings.context.Known := hs ▸ .inr ⟨none, rfl⟩
  have hstart : s.position = 0 ∧ s.positional = none := hs ▸ ⟨rfl, rfl⟩
  have hwithin : s.position ≤ tokens.length := hstart.1 ▸ Nat.zero_le _
  obtain ⟨horderly, hbinds⟩ := (passes_go_forward hknown hwithin).2 4 (Nat.sub_le _ _)
  rw [hfinished, hstart.1, hstart.2] at hbinds
  refine ⟨p, s, tokens, hbuild, hs, rfl, hknown, hwithin, hpass, hasked, ?_,
    (congrArg Prod.snd hbinds).symm⟩
  rcases horderly.ended with ⟨_, hlast⟩ | ⟨e, hfailed⟩
  · exact hlast
  · rw [hfinished] at hfailed
    cases hfailed

end HeapQuery.CommandLine
