import HeapQuery.Proofs.DocumentedLibraries
import HeapQuery.Proofs.EnclosedRuns
import HeapQuery.Proofs.Spans

namespace HeapQuery.Regex

open Reader

/-! ## Plain parts -/

namespace Part

def expr : Part → Expr
  | start => .assertion .lineStart
  | stop => .assertion .lineEnd
  | dot => .dot
  | many => .repetition .dot 0 none
  | char c => .literal ⟨c, false⟩
  | group source => .group [] ((Expr.read? source).getD .empty)

def Plain : Part → Prop
  | char c => c.isAlphanum = true ∨ c = '_' ∨ c ∈ marks
  | group _ => False
  | _ => True

variable {p : Part}

/-- No part is spelled like the mark of a lazy repetition. -/
theorem Plain.head_not_lazy (h : p.Plain) (rest : List Char) :
    (p.text ++ rest).head? ≠ some '?' := by
  cases p with
  | start => exact nofun
  | stop => exact nofun
  | dot => exact nofun
  | many => exact nofun
  | group => exact nofun
  | char c =>
    by_cases hmark : c ∈ marks
    · simp [text, hmark]
    · simp only [text, hmark, ↓reduceIte, List.singleton_append, List.head?_cons, ne_eq,
        Option.some.injEq]
      rintro rfl
      exact hmark (by decide)

theorem Plain.no_break (h : p.Plain) : '\n' ∉ p.text := by
  cases p with
  | start => exact of_decide_eq_true rfl
  | stop => exact of_decide_eq_true rfl
  | dot => exact of_decide_eq_true rfl
  | many => exact of_decide_eq_true rfl
  | group => exact h.elim
  | char c =>
    have hne : '\n' ≠ c := by
      rintro rfl
      rcases h with h | h | h
      · cases h
      · cases h
      · exact absurd h (by decide)
    by_cases hmark : c ∈ marks <;> simp [text, hmark, hne]

end Part

variable {rest : List Char} {row : Row} {s : State}

theorem step_literal {c : Char} (h : c ∉ Part.marks) :
    step { s with rest := c :: rest } = some (s.push (.literal ⟨c, false⟩) rest) := by
  unfold step
  split
  case h_14 hcons =>
    obtain ⟨rfl, rfl⟩ := List.cons.inj hcons
    rfl
  case h_1 hcons => cases hcons
  all_goals
    rename_i hcons
    obtain ⟨rfl, rfl⟩ := List.cons.inj hcons
    exact absurd (by decide) h

theorem mark_escapable {c : Char} (h : c ∈ Part.marks) :
    isEscapable c = true ∧ controlEscape? c = none := by
  have hmarks : (Part.marks.all fun c => isEscapable c && (controlEscape? c).isNone) = true := by
    decide
  simpa using List.all_eq_true.mp hmarks c h

theorem readEscape_mark {c : Char} (h : c ∈ Part.marks) (verbose : Bool) (rest : List Char) :
    readEscape verbose (c :: rest) = some (.literal ⟨c, false⟩, rest) := by
  obtain ⟨hescapable, hcontrol⟩ := mark_escapable h
  unfold readEscape
  split
  case h_19 hcons =>
    obtain ⟨rfl, rfl⟩ := List.cons.inj hcons
    simp only [hcontrol, hescapable, ↓reduceIte]
  case h_1 hcons => cases hcons
  all_goals
    rename_i hcons
    obtain ⟨rfl, rfl⟩ := List.cons.inj hcons
    exact absurd h (by decide)

theorem step_escaped {c : Char} (h : c ∈ Part.marks) :
    step { s with rest := '\\' :: c :: rest } = some (s.push (.literal ⟨c, false⟩) rest) := by
  change (readEscape s.verbose (c :: rest)).bind _ = _
  rw [readEscape_mark h]
  rfl

/-- A step of reading where nothing is skipped before it. -/
theorem run_plain {fuel : Nat} {s s' : State} {c : Char} (hverbose : s.verbose = false)
    (h : step { s with rest := c :: rest } = some s') :
    run (fuel + 1) { s with rest := c :: rest } = run fuel s' := by
  have hskip : skip s.verbose (c :: rest) = c :: rest := by rw [hverbose]; rfl
  have hrun : run (fuel + 1) { s with rest := c :: rest } = _ := run_succ (by simp [hskip])
  simp only [hskip, h] at hrun
  exact hrun

/-- A plain part is read in at most as many steps as it has characters. -/
theorem run_part {p : Part} (hp : p.Plain) (hverbose : s.verbose = false)
    (hrest : rest.head? ≠ some '?') (fuel : Nat) : ∃ m ≥ fuel,
      run (fuel + p.text.length) { s with rest := p.text ++ rest } =
        run m (s.push p.expr rest) := by
  cases p with
  | start => exact ⟨fuel, Nat.le_refl _, run_plain hverbose rfl⟩
  | stop => exact ⟨fuel, Nat.le_refl _, run_plain hverbose rfl⟩
  | dot => exact ⟨fuel, Nat.le_refl _, run_plain hverbose rfl⟩
  | group => exact hp.elim
  | many =>
    have hlazy : dropLazyMark rest = rest := by
      unfold dropLazyMark
      split
      · exact absurd rfl hrest
      · rfl
    have hdot : step { s with rest := '.' :: '*' :: rest } = some (s.push .dot ('*' :: rest)) := rfl
    have hstar : step (s.push .dot ('*' :: rest)) =
        some (s.push (.repetition .dot 0 none) rest) := by
      change some { s with
        parts := .repetition .dot 0 none :: s.parts, rest := dropLazyMark rest } = _
      rw [hlazy]
      rfl
    refine ⟨fuel, Nat.le_refl _, (run_plain hverbose hdot).trans ?_⟩
    exact run_plain (s := s.push .dot []) hverbose hstar
  | char c =>
    by_cases hmark : c ∈ Part.marks
    · simp only [Part.text, hmark, ↓reduceIte]
      exact ⟨fuel + 1, Nat.le_succ _, run_plain hverbose (step_escaped hmark)⟩
    · simp only [Part.text, hmark, ↓reduceIte]
      exact ⟨fuel, Nat.le_refl _, run_plain hverbose (step_literal hmark)⟩

theorem run_row (s : State) (rest : List Char) (hplain : ∀ p ∈ row, p.Plain)
    (hverbose : s.verbose = false) (hrest : rest.head? ≠ some '?') (n : Nat) : ∃ m ≥ n,
      run (n + row.text.length) { s with rest := row.text ++ rest } =
        run m { s with parts := (row.map Part.expr).reverse ++ s.parts, rest := rest } := by
  induction row generalizing s n with
  | nil => exact ⟨n, Nat.le_refl _, rfl⟩
  | cons p row ih =>
    obtain ⟨hp, hrow⟩ := List.forall_mem_cons.mp hplain
    have hhead : (Row.text row ++ rest).head? ≠ some '?' := by
      cases row with
      | nil => exact hrest
      | cons q row =>
        rw [Row.text, List.flatMap_cons, List.append_assoc]
        exact (hrow q List.mem_cons_self).head_not_lazy _
    obtain ⟨m, hm, hrun⟩ := run_part hp hverbose hhead (n + (Row.text row).length)
    obtain ⟨k, rfl⟩ := Nat.exists_eq_add_of_le' hm
    obtain ⟨m, hm, hmore⟩ := ih (s.push p.expr []) hrow hverbose (k + n)
    refine ⟨m, by omega, ?_⟩
    have htext : Row.text (p :: row) = p.text ++ Row.text row := List.flatMap_cons
    rw [htext, List.length_append, Nat.add_comm p.text.length, ← Nat.add_assoc, List.append_assoc,
      hrun, ← Nat.add_assoc]
    simpa [State.push] using hmore

/-! ## Sources between parentheses -/

variable {source : String} {e : Expr} {r : Regex}

def Expr.ofState? (s : State) : Option Expr :=
  s.finish?.bind fun e => if e.depth ≤ 250 then some e else none

theorem read_eq (source : String) : Expr.read? source =
    (run (source.toList.length + 1) ⟨false, [], [], [], source.toList⟩).bind Expr.ofState? := rfl

theorem ofState?_eq_some (h : Expr.ofState? s = some e) : s.finish? = some e ∧ e.depth ≤ 250 := by
  obtain ⟨e', hfinish, hdepth⟩ := Option.bind_eq_some_iff.mp h
  split at hdepth
  · cases hdepth
    exact ⟨hfinish, ‹_›⟩
  · cases hdepth

/-- A source that is read to its end is read so inside a group too, and then what stands behind it
is left, unless a remark at its end takes that in. -/
structure ReadWithin (source : String) (e : Expr) (s : State) (lost : Bool) : Prop where
  finish : s.finish? = some e
  depth : e.depth ≤ 250
  remark : lost = true → '#' ∈ source.toList
  run : ∀ base, Enclosing base → ∀ tail, tail = [] ∨ Closes tail → ∀ n, ∃ m > n,
    Reader.run (source.toList.length + 1 + n)
      (State.within ⟨false, [], [], [], source.toList⟩ base (source.toList ++ tail)) =
        Reader.run m (s.within base (leftover lost [] tail))

theorem reads_within (h : Expr.read? source = some e) : ∃ s lost, ReadWithin source e s lost := by
  obtain ⟨s, hrun, hexpr⟩ := Option.bind_eq_some_iff.mp ((read_eq source).symm.trans h)
  obtain ⟨hfinish, hdepth⟩ := ofState?_eq_some hexpr
  obtain ⟨_, lost, hlost, hwithin⟩ := run_within hrun
  exact ⟨s, lost, hfinish, hdepth, hlost, hwithin⟩

/-- A parenthesis can be read behind a source exactly where a remark takes it in. -/
theorem ReadWithin.read_parenthesis {lost : Bool} (h : ReadWithin source e s lost) :
    Expr.read? (source ++ ")") = if lost then some e else none := by
  obtain ⟨m, hm, hrun⟩ := h.run [] (.inl rfl) [')'] (.inr ⟨[], rfl, by decide⟩) 1
  obtain ⟨m, rfl⟩ : ∃ k, m = k + 1 := ⟨m - 1, by omega⟩
  have hread : Expr.read? (source ++ ")") = (Reader.run (source.toList.length + 1 + 1)
      (State.within ⟨false, [], [], [], source.toList⟩ [] (source.toList ++ [')']))).bind
        Expr.ofState? := by
    rw [read_eq, String.toList_append, show ")".toList = [')'] from rfl, List.length_append]
    rfl
  rw [hread, hrun]
  cases lost with
  | true =>
    have hfinish : (s.within [] []).finish? = some e := by
      rw [← h.finish, State.within, List.append_nil]
      rfl
    rw [leftover, if_pos rfl, run_end, Option.bind_some, Expr.ofState?, hfinish, Option.bind_some,
      if_pos h.depth, if_pos rfl]
  | false =>
    have hskip : skip s.verbose [')'] = [')'] := by cases s.verbose <;> rfl
    have hopen : step (s.within [] (skip s.verbose [')'])) = none := by
      rw [hskip]
      exact close_outside h.finish
    have hstuck : Reader.run (m + 1) (s.within [] [')']) = none :=
      (run_succ (show skip s.verbose [')'] ≠ [] by simp [hskip])).trans
        (congrArg (·.bind (Reader.run m)) hopen)
    simp only [leftover, Bool.false_eq_true, ↓reduceIte, List.nil_append, hstuck, Option.bind_none]

theorem endsInRemark_iff {lost : Bool} (hread : Expr.read? source = some e)
    (hmeaning : e.meaning? = some r) (h : ReadWithin source e s lost) :
    standard.EndsInRemark source ↔ lost = true := by
  have hparse : parse? source = some r := by rw [parse?, hread]; exact hmeaning
  cases lost with
  | true =>
    have hbehind : parse? (source ++ ")") = some r := by
      rw [parse?, h.read_parenthesis]
      exact hmeaning
    simp [Library.EndsInRemark, hparse, hbehind]
  | false =>
    have hbehind : parse? (source ++ ")") = none := by
      rw [parse?, h.read_parenthesis]
      rfl
    simp [Library.EndsInRemark, hbehind]

theorem expr_group (h : Expr.read? source = some e) : (Part.group source).expr = .group [] e := by
  rw [Part.expr, h, Option.getD_some]

/-- The two characters behind the opening parenthesis are read with it. -/
theorem run_open (fuel : Nat) (names : List String) (parts : List Expr) (text : List Char) :
    run (fuel + 1) ⟨false, names, [], parts, "(?:".toList ++ text⟩ =
      run fuel ⟨false, names, [.group parts [] false], [], text⟩ := rfl

/-- A group is read as one part. -/
theorem run_group (hread : Expr.read? source = some e) {s' : State}
    (h : ReadWithin source e s' false) (hrest : '\n' ∉ rest) (parts : List Expr) (n : Nat) :
    ∃ m ≥ n, ∃ names, run (n + (Part.group source).text.length)
      ⟨false, [], [], parts, (Part.group source).text ++ rest⟩ =
        run m ⟨false, names, [], (Part.group source).expr :: parts, rest⟩ := by
  have hend : Closes (')' :: rest) := ⟨rest, rfl, by simpa using hrest⟩
  obtain ⟨m, hm, hrun⟩ := h.run [.group parts [] false] (.inr ⟨_, _, _, _, rfl⟩) _ (.inr hend)
    (n + 2)
  obtain ⟨m, rfl⟩ : ∃ k, m = k + 1 := ⟨m - 1, by omega⟩
  refine ⟨m, by omega, s'.names, ?_⟩
  have htext : (Part.group source).text ++ rest =
      "(?:".toList ++ (source.toList ++ ')' :: rest) := by
    simp [Part.text]
  have hlength : n + (Part.group source).text.length =
      source.toList.length + 1 + (n + 2) + 1 := by
    simp only [Part.text, List.length_cons, List.length_append, List.length_nil]
    omega
  have hskip : skip s'.verbose (')' :: rest) = ')' :: rest := by
    cases s'.verbose <;> rfl
  rw [htext, hlength, run_open, expr_group hread]
  refine hrun.trans ?_
  have hclose : step (s'.within [.group parts [] false] (skip s'.verbose (')' :: rest))) =
      some ⟨false, s'.names, [], .group [] e :: parts, rest⟩ := by
    rw [hskip]
    exact close_within h.finish
  have hne : skip s'.verbose (')' :: rest) ≠ [] := by simp [hskip]
  have hrun : run (m + 1) (s'.within [.group parts [] false] (')' :: rest)) =
      (step (s'.within _ (skip s'.verbose (')' :: rest)))).bind (run m) := run_succ hne
  rw [leftover, if_neg Bool.false_ne_true, List.nil_append, hrun, hclose]
  rfl

/-- Where no parenthesis follows, the group stays open. -/
theorem run_unclosed {lost : Bool} {s' : State} (h : ReadWithin source e s' lost)
    (parts : List Expr) {tail : List Char} (htail : tail = [] ∨ lost = true ∧ Closes tail)
    (n : Nat) :
    (run (source.toList.length + 2 + (n + 1))
      ⟨false, [], [], parts, "(?:".toList ++ source.toList ++ tail⟩).bind Expr.ofState? = none := by
  have htails : tail = [] ∨ Closes tail := htail.imp_right And.right
  obtain ⟨m, hm, hrun⟩ := h.run [.group parts [] false] (.inr ⟨_, _, _, _, rfl⟩) _ htails (n + 1)
  obtain ⟨m, rfl⟩ : ∃ k, m = k + 1 := ⟨m - 1, by omega⟩
  have hleft : leftover lost [] tail = [] := by
    rcases htail with rfl | ⟨rfl, _⟩
    · cases lost <;> rfl
    · rfl
  have hlength : source.toList.length + 2 + (n + 1) = source.toList.length + 1 + (n + 1) + 1 := by
    omega
  rw [hlength, List.append_assoc, run_open]
  refine (congrArg (·.bind Expr.ofState?) hrun).trans ?_
  rw [hleft, run_end, Option.bind_some, Expr.ofState?, finish_within, Option.bind_none]

/-! ## Rows -/

theorem plain_of_legible {L : Library} (h : L.Legible row) (hnone : row.countP Part.isGroup = 0) :
    ∀ p ∈ row, p.Plain := by
  intro p hp
  cases p with
  | char c => exact h.chars c hp
  | group source => exact absurd rfl (List.countP_eq_zero.mp hnone _ hp)
  | _ => trivial

/-- A legible row is plain but for one group. -/
theorem plain_around {L : Library} (h : L.Legible row) : (∀ p ∈ row, p.Plain) ∨
    ∃ before source after, row = before ++ .group source :: after ∧
      (∀ p ∈ before, p.Plain) ∧ ∀ p ∈ after, p.Plain := by
  by_cases hnone : row.countP Part.isGroup = 0
  · exact .inl (plain_of_legible h hnone)
  obtain ⟨p, hp, hgroup⟩ := List.countP_pos_iff.mp (Nat.pos_of_ne_zero hnone)
  obtain ⟨source, rfl⟩ : ∃ source, p = .group source := by
    cases p with
    | group source => exact ⟨source, rfl⟩
    | _ => cases hgroup
  obtain ⟨before, after, rfl⟩ := List.append_of_mem hp
  have hcount := h.one_group
  rw [List.countP_append, List.countP_cons_of_pos hgroup] at hcount
  have hpart {part : Row} (hsub : part ⊆ before ++ .group source :: after)
      (hzero : part.countP Part.isGroup = 0) : ∀ p ∈ part, p.Plain := by
    refine plain_of_legible (L := L) ⟨fun c hc => h.chars c (hsub hc), ?_, by omega⟩ hzero
    exact fun s hs => h.groups s (hsub hs)
  refine .inr ⟨before, source, after, rfl, hpart (by simp) (by omega), hpart ?_ (by omega)⟩
  exact fun p hp => List.mem_append_right _ (List.mem_cons_of_mem _ hp)

theorem row_no_break (h : ∀ p ∈ row, p.Plain) : '\n' ∉ row.text := by
  simp only [Row.text, List.mem_flatMap, not_exists, not_and]
  exact fun p hp => (h p hp).no_break

theorem text_append (before after : Row) :
    Row.text (before ++ after) = before.text ++ after.text := List.flatMap_append

/-- What a compiled source is read as. -/
theorem read_of_compile (h : (standard.compile? source).isSome = true) :
    ∃ e r, Expr.read? source = some e ∧ e.meaning? = some r := by
  obtain ⟨r, hr⟩ := Option.isSome_iff_exists.mp h
  obtain ⟨e, hread, hmeaning⟩ := Option.bind_eq_some_iff.mp hr
  exact ⟨e, r, hread, hmeaning⟩

/-- A legible row is read as its parts. -/
theorem run_legible (h : standard.Legible row) : ∃ m ≥ 1, ∃ names,
    run (row.text.length + 1) ⟨false, [], [], [], row.text⟩ =
      run m ⟨false, names, [], (row.map Part.expr).reverse, []⟩ := by
  rcases plain_around h with hplain | ⟨before, source, after, rfl, hbefore, hafter⟩
  · obtain ⟨m, hm, hrun⟩ := run_row ⟨false, [], [], [], []⟩ [] hplain rfl nofun 1
    refine ⟨m, hm, [], ?_⟩
    simpa [Nat.add_comm] using hrun
  obtain ⟨hcompile, hends⟩ := h.groups source (by simp)
  obtain ⟨e, r, hread, hmeaning⟩ := read_of_compile hcompile
  obtain ⟨s, lost, hwithin⟩ := reads_within hread
  obtain rfl : lost = false :=
    Bool.eq_false_iff.mpr fun hlost => hends ((endsInRemark_iff hread hmeaning hwithin).mpr hlost)
  obtain ⟨m₁, hm₁, hrun₁⟩ := run_row ⟨false, [], [], [], []⟩
    ((Part.group source).text ++ Row.text after) hbefore rfl nofun
    (1 + (Row.text after).length + (Part.group source).text.length)
  obtain ⟨k₁, rfl⟩ := Nat.exists_eq_add_of_le' hm₁
  obtain ⟨m₂, hm₂, names, hrun₂⟩ := run_group hread hwithin (row_no_break hafter)
    ((before.map Part.expr).reverse) (k₁ + 1 + (Row.text after).length)
  obtain ⟨k₂, rfl⟩ := Nat.exists_eq_add_of_le' hm₂
  obtain ⟨m₃, hm₃, hrun₃⟩ := run_row
    ⟨false, names, [], (Part.group source).expr :: (before.map Part.expr).reverse, []⟩ [] hafter rfl
    nofun (k₂ + k₁ + 1)
  refine ⟨m₃, by omega, names, ?_⟩
  have htext : Row.text (before ++ .group source :: after) =
      Row.text before ++ ((Part.group source).text ++ Row.text after) := by
    rw [text_append]
    rfl
  have hlength : (Row.text before ++ ((Part.group source).text ++ Row.text after)).length + 1 =
      1 + (Row.text after).length + (Part.group source).text.length + (Row.text before).length := by
    simp only [List.length_append]
    omega
  have hparts : ((before ++ .group source :: after).map Part.expr).reverse =
      (after.map Part.expr).reverse ++
        (Part.group source).expr :: (before.map Part.expr).reverse := by simp
  have hmiddle : k₁ + (1 + (Row.text after).length + (Part.group source).text.length) =
      k₁ + 1 + (Row.text after).length + (Part.group source).text.length := by omega
  have hend : k₂ + (k₁ + 1 + (Row.text after).length) = k₂ + k₁ + 1 + (Row.text after).length := by
    omega
  rw [List.append_nil, hmiddle] at hrun₁
  rw [hend] at hrun₂
  rw [List.append_nil] at hrun₃
  rw [htext, hlength, hparts]
  exact hrun₁.trans (hrun₂.trans hrun₃)

theorem read_row (h : standard.Legible row) : Expr.read? row.source =
    if (Expr.ofParts (row.map Part.expr)).depth ≤ 250 then some (Expr.ofParts (row.map Part.expr))
    else none := by
  obtain ⟨m, hm, names, hrun⟩ := run_legible h
  obtain ⟨m, rfl⟩ : ∃ k, m = k + 1 := ⟨m - 1, by omega⟩
  rw [read_eq, Row.source, String.toList_ofList, hrun]
  simp [run, skip, Expr.ofState?, State.finish?, State.branch]

/-! ## What rows mean -/

def Part.regex : Part → Regex
  | start => .look .textStart
  | stop => .look .textEnd
  | dot => .set (.complement (.single '\n'))
  | many => .repeated (.set (.complement (.single '\n'))) 0 none
  | char c => .set (.single c)
  | group source => (parse? source).getD .empty

def rowRegex : Row → Regex
  | [] => .empty
  | p :: row => .seq p.regex (rowRegex row)

theorem meaning_part {p : Part}
    (hp : ∀ source, p = .group source → (standard.compile? source).isSome = true) :
    Meaning.expr .initial p.expr = some (p.regex, .initial) := by
  cases p with
  | group source =>
    obtain ⟨e, r, hread, hmeaning⟩ := read_of_compile (hp source rfl)
    obtain ⟨⟨r, f⟩, hexpr, rfl⟩ := Option.map_eq_some_iff.mp hmeaning
    have hparse : parse? source = some r := by rw [parse?, hread]; exact hmeaning
    have hgroup : Meaning.expr (Flags.initial.apply []) e = some (r, f) := hexpr
    simp [expr_group hread, Meaning.expr, hgroup, Part.regex, hparse]
  | _ => rfl

theorem meaning_row (hrow : ∀ source, .group source ∈ row →
    (standard.compile? source).isSome = true) :
    Meaning.concat .initial (row.map Part.expr) = some (rowRegex row, .initial) := by
  induction row with
  | nil => rfl
  | cons p row ih =>
    have hp := meaning_part (p := p) fun source he => hrow source (he ▸ List.mem_cons_self)
    have hmore := ih fun source hs => hrow source (List.mem_cons_of_mem _ hs)
    simp [Meaning.concat, hp, hmore, rowRegex]

/-- One part needs no row, but means the same. -/
theorem meaning_parts (hrow : ∀ source, .group source ∈ row →
    (standard.compile? source).isSome = true) : ∃ r,
      (Expr.ofParts (row.map Part.expr)).meaning? = some r ∧
        ∀ text i j, r.Spans text i j ↔ (rowRegex row).Spans text i j := by
  rcases row with _ | ⟨p, _ | ⟨q, row⟩⟩
  · exact ⟨.empty, rfl, fun _ _ _ => Iff.rfl⟩
  · have hp := meaning_part (p := p) fun source he => hrow source (he ▸ List.mem_cons_self)
    refine ⟨p.regex, by simp [Expr.ofParts, Expr.meaning?, hp], fun text i j => ?_⟩
    simp [rowRegex, Spans]
  · refine ⟨rowRegex (p :: q :: row), ?_, fun _ _ _ => Iff.rfl⟩
    change (Meaning.concat .initial ((p :: q :: row).map Part.expr)).map (·.1) = _
    rw [meaning_row hrow]
    rfl

theorem contains_single (c d : Char) : (CharSet.single c).contains d = true ↔ d = c := by
  simp only [CharSet.single, CharSet.contains, Bool.and_eq_true, decide_eq_true_eq]
  constructor
  · exact fun ⟨hle, hge⟩ => Char.le_antisymm hge hle
  · rintro rfl
    exact ⟨Char.le_refl _, Char.le_refl _⟩

theorem spans_dot {text : List Char} {i j : Nat} :
    Spans text (.set (.complement (.single '\n'))) i j ↔
      j = i + 1 ∧ ∃ c, text[i]? = some c ∧ c ≠ '\n' := by
  simp [Spans, CharSet.contains, ← contains_single]

/-- Steps over characters of a line. -/
theorem steps_dot {text : List Char} {i j n : Nat} :
    Steps (Spans text (.set (.complement (.single '\n')))) n i j ↔
      j = i + n ∧ ∀ k, i ≤ k → k < j → ∃ c, text[k]? = some c ∧ c ≠ '\n' := by
  induction n generalizing j with
  | zero =>
    simp only [Steps]
    constructor
    · rintro rfl
      exact ⟨rfl, fun k _ _ => by omega⟩
    · exact fun h => h.1.symm
  | succ n ih =>
    simp only [Steps, ih, spans_dot]
    constructor
    · rintro ⟨k, ⟨rfl, hall⟩, rfl, hc⟩
      refine ⟨rfl, fun k hi hk => ?_⟩
      rcases Nat.lt_succ_iff_lt_or_eq.mp hk with hk | rfl
      · exact hall k hi hk
      · exact hc
    · rintro ⟨rfl, hall⟩
      exact ⟨i + n, ⟨rfl, fun k hi hk => hall k hi (by omega)⟩, rfl, hall _ (by omega) (by omega)⟩

/-! ## The documentation -/

/-- What expressions match, and how deep they nest once they are read. -/
def semantics : standard.Semantics where
  Spans e text i j := Regex.Spans text e i j
  depth source := ((Expr.read? source).map Expr.depth).getD 0

theorem part_spans {p : Part} {text : List Char} {i j : Nat} (hi : i ≤ text.length)
    (hp : ∀ source, p = .group source → (standard.compile? source).isSome = true) :
    p.regex.Spans text i j ↔ semantics.partSpans text p i j := by
  cases p with
  | start =>
    change (i = j ∧ (charBefore text i).isNone = true) ↔ i = 0 ∧ j = 0
    cases i with
    | zero => simp [charBefore, eq_comm]
    | succ i => simp [charBefore, Nat.lt_of_succ_le hi]
  | stop =>
    change (i = j ∧ text[i]?.isNone = true) ↔ i = text.length ∧ j = text.length
    rw [Option.isNone_iff_eq_none, List.getElem?_eq_none_iff]
    omega
  | dot => exact spans_dot
  | many =>
    change (∃ more, (∀ m ∈ (none : Option Nat), more ≤ m - 0) ∧
      Steps (Spans text (.set (.complement (.single '\n')))) (0 + more) i j) ↔ _
    simp only [steps_dot, Option.not_mem_none, false_implies, implies_true, true_and, Nat.zero_add]
    constructor
    · rintro ⟨n, rfl, hall⟩
      exact ⟨Nat.le_add_right i n, hall⟩
    · rintro ⟨hle, hall⟩
      exact ⟨j - i, (Nat.add_sub_of_le hle).symm, hall⟩
  | char c => simp [Part.regex, Spans, contains_single, Library.Semantics.partSpans]
  | group source =>
    obtain ⟨r, hr⟩ := Option.isSome_iff_exists.mp (hp source rfl)
    have hparse : parse? source = some r := hr
    simp [Part.regex, Library.Semantics.partSpans, hparse, semantics]

theorem row_spans {text : List Char} {i j : Nat} (hi : i ≤ text.length)
    (hrow : ∀ source, .group source ∈ row → (standard.compile? source).isSome = true) :
    (rowRegex row).Spans text i j ↔ semantics.rowSpans text row i j := by
  induction row generalizing i with
  | nil => rfl
  | cons p row ih =>
    have hp (i j : Nat) (hi : i ≤ text.length) :=
      part_spans (p := p) (j := j) hi fun source he => hrow source (he ▸ List.mem_cons_self)
    have hmore (k : Nat) (hk : k ≤ text.length) :=
      ih hk fun source hs => hrow source (List.mem_cons_of_mem _ hs)
    constructor
    · rintro ⟨k, hpart, hrest⟩
      exact ⟨k, (hp i k hi).mp hpart, (hmore k (hpart.le_length hi)).mp hrest⟩
    · rintro ⟨k, hpart, hrest⟩
      have hpart := (hp i k hi).mpr hpart
      exact ⟨k, hpart, (hmore k (hpart.le_length hi)).mpr hrest⟩

theorem depth_part (p : Part) : semantics.partDepth p = p.expr.depth := by
  cases p with
  | group source =>
    simp only [Library.Semantics.partDepth, Part.expr, Expr.depth, semantics]
    cases Expr.read? source <;> rfl
  | _ => rfl

theorem depth_row (row : Row) :
    semantics.rowDepth row = (Expr.ofParts (row.map Part.expr)).depth := by
  have hparts (row : Row) : (row.map semantics.partDepth).foldr max 0 =
      partsDepth (row.map Part.expr) := by
    induction row with
    | nil => rfl
    | cons p row ih =>
      rw [List.map_cons, List.foldr_cons, ih, depth_part, List.map_cons, partsDepth]
  rcases row with _ | ⟨p, _ | ⟨q, row⟩⟩
  · rfl
  · exact depth_part p
  · exact congrArg (· + 1) (hparts (p :: q :: row))

/-- Text is refused where a group in it stays open to its end. -/
theorem read_unclosed {before : Row} {lost : Bool} {tail : List Char}
    (hbefore : ∀ p ∈ before, p.Plain) (h : ReadWithin source e s lost)
    (htail : tail = [] ∨ lost = true ∧ Closes tail) :
    Expr.read? (String.ofList (before.text ++ "(?:".toList ++ source.toList ++ tail)) = none := by
  have htext : before.text ++ "(?:".toList ++ source.toList ++ tail =
      before.text ++ ("(?:".toList ++ source.toList ++ tail) := by
    simp only [List.append_assoc]
  obtain ⟨m, hm, hrun⟩ := run_row ⟨false, [], [], [], []⟩
    ("(?:".toList ++ source.toList ++ tail) hbefore rfl nofun
    (source.toList.length + tail.length + 4)
  obtain ⟨n, rfl⟩ : ∃ n, m = source.toList.length + 2 + (n + 1) :=
    ⟨m - (source.toList.length + 3), by omega⟩
  have hlength : (before.text ++ ("(?:".toList ++ source.toList ++ tail)).length + 1 =
      source.toList.length + tail.length + 4 + before.text.length := by
    simp only [List.length_append, show "(?:".toList.length = 3 from rfl]
    omega
  rw [read_eq, String.toList_ofList, htext, hlength]
  exact (congrArg (·.bind Expr.ofState?) hrun).trans (run_unclosed h _ htail n)

/-- The library that queries run with does what the documentation says. -/
theorem documented : semantics.Documented where
  isMatch_iff := isMatch_iff
  row_compiles {row} h := by
    obtain ⟨r, hmeaning, _⟩ := meaning_parts fun source hs => (h.groups source hs).1
    change ((Expr.read? row.source).bind Expr.meaning?).isSome = true ↔ _
    rw [read_row h, depth_row]
    by_cases hdepth : (Expr.ofParts (row.map Part.expr)).depth ≤ 250 <;> simp [hdepth, hmeaning]
  row_spans {row e i text j} h hcompile hi := by
    obtain ⟨r, hmeaning, hspans⟩ := meaning_parts fun source hs => (h.groups source hs).1
    obtain ⟨e', hread, hmeaning'⟩ := Option.bind_eq_some_iff.mp hcompile
    obtain rfl : Expr.ofParts (row.map Part.expr) = e' := by
      rw [read_row h] at hread
      split at hread
      · exact Option.some.inj hread
      · cases hread
    obtain rfl : e = r := Option.some.inj (hmeaning'.symm.trans hmeaning)
    exact (hspans text i j).trans (row_spans hi fun source hs => (h.groups source hs).1)
  row_depth {row} h hcompile := by
    obtain ⟨e, r, hread, _⟩ := read_of_compile hcompile
    rw [depth_row]
    change ((Expr.read? row.source).map Expr.depth).getD 0 = _
    rw [read_row h] at hread ⊢
    split at hread
    · rw [if_pos ‹_›, Option.map_some, Option.getD_some]
    · cases hread
  remark_begins {source} h := by
    obtain ⟨e, r, hread, hmeaning⟩ := read_of_compile h.1
    obtain ⟨s, lost, hwithin⟩ := reads_within hread
    exact hwithin.remark ((endsInRemark_iff hread hmeaning hwithin).mp h)
  remark_goes_on {source before rest} h hbefore hnone hline := by
    obtain ⟨e, r, hread, hmeaning⟩ := read_of_compile h.1
    obtain ⟨s, lost, hwithin⟩ := reads_within hread
    have hlost := (endsInRemark_iff hread hmeaning hwithin).mp h
    have hend : Closes (')' :: rest) := ⟨rest, rfl, by simpa using hline⟩
    have hplain := plain_of_legible hbefore hnone
    have hopen := read_unclosed hplain hwithin (.inl rfl)
    rw [List.append_nil] at hopen
    change Option.bind _ _ = Option.bind _ _
    rw [read_unclosed hplain hwithin (.inr ⟨hlost, hend⟩), hopen]
  group_closes {source before} h hbefore hnone := by
    obtain ⟨e, r, hread, hmeaning⟩ := read_of_compile h
    obtain ⟨s, lost, hwithin⟩ := reads_within hread
    have hopen := read_unclosed (plain_of_legible hbefore hnone) hwithin (.inl rfl)
    rw [List.append_nil] at hopen
    change Option.bind _ _ = none
    rw [hopen, Option.bind_none]

end HeapQuery.Regex
