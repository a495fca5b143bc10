import HeapQuery.Proofs.Grammar

namespace HeapQuery.CommandLine

/-- What keeps tokens from starting with a value, with the error that reports it. -/
inductive ValueFault (c : Context) (a : Argument) : List Token → QueryError → Prop where
  | missing : a.isMultiple = false → ValueFault c a [] (missingValue a)
  | unreadable : a.isMultiple = false → c.read a.type a.advice text = .error e →
      ValueFault c a (.word text :: rest) e
  | wordless : a.isMultiple = true → a.mandatory = true → WordRun run [] →
      (endsInSemicolon run = false → StartsFlag rest) →
      ValueFault c a (run ++ rest) (missingValue a)
  | unreadableWord : a.isMultiple = true → WordRun run (front ++ word :: back) →
      (endsInSemicolon run = false → StartsFlag rest) →
      (∀ w ∈ front, ∃ value, c.read a.type a.advice w = .ok value) →
      c.read a.type a.advice word = .error e → ValueFault c a (run ++ rest) e

/-- What keeps tokens from starting with a group, where `bound` is the argument of a bare group
before them. -/
inductive GroupFault (b : Bindings) (bound : Option Argument) : List Token → QueryError → Prop where
  | unknownFlag : flag ≠ "" → b.query.argumentFlagged? flag = none →
      GroupFault b bound (.word ("-" ++ flag) :: rest)
        (.unknownFlag b.query.identifier (Text.lower flag))
  | flagged : flag ≠ "" → b.query.argumentFlagged? flag = some a → a.isBoolean = false →
      ValueFault b.context a rest e → GroupFault b bound (.word ("-" ++ flag) :: rest) e
  | secondBare : token.flag? = none → bound = some a →
      GroupFault b bound (token :: rest) (.assignmentFailed token.shown a.name)
  | noneFree : token.flag? = none → bound = none →
      (∀ a ∈ b.query.arguments, a.isPositional = true → b.isBound a = true) →
      GroupFault b bound (token :: rest) (.noUnflaggedArguments token.shown)
  | bare : token.flag? = none → bound = none → a ∈ b.query.arguments → a.isPositional = true →
      b.isBound a = false → ValueFault b.context a (token :: rest) e →
      GroupFault b bound (token :: rest) e

/-- The tokens start with groups that are in order, and at `rest` something is wrong. -/
structure BreaksAfter (b : Bindings) (tokens : List Token) (groups : List Group)
    (rest : List Token) (e : QueryError) : Prop where
  covers : groups.flatMap Group.tokens ++ rest = tokens
  splits : Splits b (groups.flatMap Group.tokens) groups
  ended : ∀ g ∈ groups.getLast?, g.isClosed = true ∨ StartsFlag rest
  fault : GroupFault b (bareArgument groups) rest e

variable {b b' : Bindings} {c : Context} {a : Argument} {e : QueryError} {tokens rest : List Token}
  {bound : Option Argument} {groups : List Group}

/-! ## One value -/

theorem takeSingle_error (hs : a.isMultiple = false) :
    takeSingle c a tokens = .error e ↔ ValueFault c a tokens e := by
  constructor
  · intro h
    unfold takeSingle at h
    split at h
    · cases h
      exact .missing hs
    · cases h
    · rcases bind_error.mp h with hread | ⟨_, _, hpair⟩
      · exact .unreadable hs hread
      · cases hpair
  · intro h
    cases h with
    | missing => rfl
    | unreadable _ hread => exact bind_error.mpr (.inl hread)
    | wordless hm | unreadableWord hm =>
      rw [hs] at hm
      cases hm

theorem takeMultiple_error (hm : a.isMultiple = true) :
    takeMultiple c a tokens = .error e ↔ ValueFault c a tokens e := by
  have hsingle : ¬ a.isMultiple = false := by simp [hm]
  constructor
  · intro h
    obtain ⟨hrun, hlongest⟩ := takeWords_run tokens
    have htokens := List.take_append_drop (takeWords tokens).2 tokens
    simp only [takeMultiple] at h
    split at h
    · rename_i hnone
      rw [Bool.and_eq_true, List.isEmpty_iff] at hnone
      cases h
      rw [hnone.2] at hrun
      rw [← htokens]
      exact .wordless hm hnone.1 hrun hlongest
    · rcases bind_error.mp h with hwords | ⟨_, _, hpair⟩
      · obtain ⟨front, word, back, hsplit, hfront, hword⟩ := mapM_error.mp hwords
        rw [hsplit] at hrun
        rw [← htokens]
        exact .unreadableWord hm hrun hlongest hfront hword
      · cases hpair
  · intro h
    cases h with
    | missing hs | unreadable hs => exact absurd hs hsingle
    | wordless _ hmandatory hrun hlongest =>
      simp only [takeMultiple, hrun.takeWords hlongest, hmandatory]
      rfl
    | unreadableWord _ hrun hlongest hfront hword =>
      simp only [takeMultiple, hrun.takeWords hlongest]
      rw [if_neg (by simp)]
      exact bind_error.mpr (.inl (mapM_error.mpr ⟨_, _, _, rfl, hfront, hword⟩))

theorem takeValue_error (hp : ∀ type advice, c.parses type advice = false) :
    takeValue c a tokens = .error e ↔ ValueFault c a tokens e := by
  simp only [takeValue, hp, Bool.false_eq_true, ↓reduceIte]
  cases hm : a.isMultiple with
  | true => exact takeMultiple_error hm
  | false => exact takeSingle_error hm

theorem takeFlagged_error (hp : ∀ type advice, c.parses type advice = false) :
    takeFlagged c a tokens = .error e ↔ a.isBoolean = false ∧ ValueFault c a tokens e := by
  rw [← takeValue_error hp, takeFlagged]
  cases a.isBoolean <;> simp

/-! ## One group -/

theorem bindFlag_error (hq : b.query.WellMade) :
    bindFlag b flag tokens = .error e ↔
      (b.query.argumentFlagged? flag = none ∧
        e = .unknownFlag b.query.identifier (Text.lower flag)) ∨
      ∃ a, b.query.argumentFlagged? flag = some a ∧ takeFlagged b.context a tokens = .error e := by
  unfold bindFlag
  cases hfind : b.query.argumentFlagged? flag with
  | none => simp [eq_comm]
  | some a =>
    simp only [bind_error, reduceCtorEq, false_and, Option.some.injEq, exists_eq_left', false_or]
    refine or_iff_left ?_
    rintro ⟨⟨value, n⟩, _, hfail | ⟨_, _, hpair⟩⟩
    · obtain ⟨b', hset, _⟩ := Bindings.set_spec hq (argumentFlagged_mem hfind).1 value
      rw [hset] at hfail
      cases hfail
    · cases hpair

theorem openArgument_none : openArgument? b = none ↔
    ∀ a ∈ b.query.arguments, a.isPositional = true → b.isBound a = true := by
  simp [openArgument?, List.find?_eq_none]

theorem bindPositional_error {token : Token} (hq : b.query.WellMade) :
    bindPositional b token tokens = .error e ↔
      (openArgument? b = none ∧ e = .noUnflaggedArguments token.shown) ∨
      ∃ a, openArgument? b = some a ∧ takeValue b.context a tokens = .error e := by
  unfold bindPositional
  cases hopen : openArgument? b with
  | none => simp [eq_comm]
  | some a =>
    simp only [bind_error, reduceCtorEq, false_and, Option.some.injEq, exists_eq_left', false_or]
    refine or_iff_left ?_
    rintro ⟨⟨value, n⟩, _, hfail | ⟨_, _, hpair⟩⟩
    · obtain ⟨b', hset, _⟩ := Bindings.set_spec hq ((openArgument_eq hq).mp hopen).1 value
      rw [hset] at hfail
      cases hfail
    · cases hpair

/-- A group is at fault where the parser fails to bind its first token. -/
theorem groupFault_iff {token : Token} (hq : b.query.WellMade)
    (hp : ∀ type advice, b.context.parses type advice = false) :
    GroupFault b bound (token :: rest) e ↔
      (∃ flag, token.flag? = some flag ∧ bindFlag b flag rest = .error e) ∨
      (token.flag? = none ∧ ∃ a, bound = some a ∧ e = .assignmentFailed token.shown a.name) ∨
      (token.flag? = none ∧ bound = none ∧ bindPositional b token (token :: rest) = .error e) := by
  simp only [bindFlag_error hq, bindPositional_error hq, takeFlagged_error hp, takeValue_error hp,
    openArgument_none, openArgument_eq hq]
  constructor
  · intro h
    cases h with
    | unknownFlag hne hfind => exact .inl ⟨_, flag_of_dash hne, .inl ⟨hfind, rfl⟩⟩
    | flagged hne hfind hswitch hvalue =>
      exact .inl ⟨_, flag_of_dash hne, .inr ⟨_, hfind, hswitch, hvalue⟩⟩
    | secondBare hflag hbound => exact .inr (.inl ⟨hflag, _, hbound, rfl⟩)
    | noneFree hflag hbound hall => exact .inr (.inr ⟨hflag, hbound, .inl ⟨hall, rfl⟩⟩)
    | bare hflag hbound hm hpos hfree hvalue =>
      exact .inr (.inr ⟨hflag, hbound, .inr ⟨_, ⟨hm, hpos, hfree⟩, hvalue⟩⟩)
  · rintro (⟨flag, hflag, ⟨hfind, rfl⟩ | ⟨a, hfind, hswitch, hvalue⟩⟩ | ⟨hflag, a, hbound, rfl⟩ |
      ⟨hflag, hbound, ⟨hall, rfl⟩ | ⟨a, ⟨hm, hpos, hfree⟩, hvalue⟩⟩)
    · obtain ⟨rfl, hne⟩ := flag_eq_some hflag
      exact .unknownFlag hne hfind
    · obtain ⟨rfl, hne⟩ := flag_eq_some hflag
      exact .flagged hne hfind hswitch hvalue
    · exact .secondBare hflag hbound
    · exact .noneFree hflag hbound hall
    · exact .bare hflag hbound hm hpos hfree hvalue

theorem GroupFault.bindAll (hq : b.query.WellMade)
    (hp : ∀ type advice, b.context.parses type advice = false) (h : GroupFault b bound rest e) :
    CommandLine.bindAll b bound rest = (b, some e) := by
  cases rest with
  | nil => cases h
  | cons token rest =>
    rw [bindAll.eq_def]
    rcases (groupFault_iff hq hp).mp h with
      ⟨flag, hflag, hfail⟩ | ⟨hflag, a, rfl, rfl⟩ | ⟨hflag, rfl, hfail⟩
    · simp [hflag, hfail]
    · simp [hflag]
    · simp [hflag, hfail]

/-- Where something is wrong, no group is taken. -/
theorem GroupFault.not_taken {g : Group} {more : List Group} (hq : b.query.WellMade)
    (hp : ∀ type advice, b.context.parses type advice = false)
    (h : GroupFault b bound (g.tokens ++ rest) e) (hg : g.TakenBefore b.query b.context rest) :
    ¬ BareAllowed b bound (g :: more) := by
  intro hallowed
  obtain ⟨b', hset, _⟩ := Bindings.set_spec hq hg.mem.1 g.value
  cases hflag : g.flag with
  | some flag =>
    simp only [Group.TakenBefore, hflag] at hg
    obtain ⟨hne, hfind, htake⟩ := hg
    simp only [Group.tokens, hflag, List.cons_append, groupFault_iff hq hp, flag_of_dash hne,
      Option.some.injEq, exists_eq_left', reduceCtorEq, false_and, or_false] at h
    rw [bindFlag_ok.mpr ⟨_, _, hfind, htake, hset⟩] at h
    cases h
  | none =>
    simp only [Group.TakenBefore, hflag] at hg
    obtain ⟨hm, hpos, ⟨token, others, hbody, htoken⟩, htake⟩ := hg
    obtain ⟨rfl, hfree, _⟩ := (bareAllowed_bare (by simp [Group.isBare, hflag])).mp hallowed
    rw [hbody, List.cons_append] at htake
    simp only [Group.tokens, hflag, hbody, List.cons_append, groupFault_iff hq hp, htoken,
      reduceCtorEq, false_and, exists_false, and_false, true_and, false_or] at h
    rw [bindPositional_ok.mpr ⟨(openArgument_eq hq).mpr ⟨hm, hpos, hfree⟩, _, htake, hset⟩] at h
    cases h

/-- Bindings that leave the same positional arguments free have the same faults. -/
theorem GroupFault.congr (hquery : b'.query = b.query) (hcontext : b'.context = b.context)
    (hfree : bound = none → ∀ a ∈ b.query.arguments, a.isPositional = true →
      b'.isBound a = b.isBound a) (h : GroupFault b bound rest e) : GroupFault b' bound rest e := by
  cases h with
  | unknownFlag hne hfind =>
    rw [← hquery] at hfind ⊢
    exact .unknownFlag hne hfind
  | flagged hne hfind hswitch hvalue =>
    exact .flagged hne (hquery ▸ hfind) hswitch (hcontext ▸ hvalue)
  | secondBare hflag hbound => exact .secondBare hflag hbound
  | noneFree hflag hbound hall =>
    refine .noneFree hflag hbound fun a ha hpos => ?_
    rw [hquery] at ha
    rw [hfree hbound a ha hpos]
    exact hall a ha hpos
  | bare hflag hbound hm hpos hopen hvalue =>
    refine .bare hflag hbound (hquery ▸ hm) hpos ?_ (hcontext ▸ hvalue)
    rw [hfree hbound _ hm hpos]
    exact hopen

/-! ## A whole line -/

theorem bareArgument_none (h : bareArgument groups = none) : ∀ g ∈ groups, g.isBare = false := by
  simpa [bareArgument] using h

/-- Groups with a flag leave the positional arguments as they were. -/
theorem bound_after_groups (hq : b.query.WellMade) (hnone : bareArgument groups = none)
    (hm : ∀ g ∈ groups, g.argument ∈ b.query.arguments ∧ g.argument.isPositional = g.isBare)
    (ha : a ∈ b.query.arguments) (hpos : a.isPositional = true) :
    (groups.foldl bindGroup b).isBound a = b.isBound a := by
  have hunnamed : lastNaming a groups = none := by
    rw [Option.eq_none_iff_forall_ne_some]
    intro g hlast
    obtain ⟨hg, hid⟩ := lastNaming_some hlast
    obtain ⟨hmem, hbare⟩ := hm g hg
    rw [hq.same_argument hmem ha hid, hpos, bareArgument_none hnone g hg] at hbare
    cases hbare
  rw [Bindings.isBound, binding_after_groups hq ha fun g hg => (hm g hg).1, hunnamed]
  rfl

theorem groupFault_after (hq : b.query.WellMade)
    (hm : ∀ g ∈ groups, g.argument ∈ b.query.arguments ∧ g.argument.isPositional = g.isBare) :
    GroupFault (groups.foldl bindGroup b) (bareArgument groups) rest e ↔
      GroupFault b (bareArgument groups) rest e := by
  obtain ⟨hquery, hcontext⟩ := foldl_frame b groups
  constructor
  · refine .congr hquery.symm hcontext.symm fun hnone a ha hpos => ?_
    exact (bound_after_groups hq hnone hm (hquery ▸ ha) hpos).symm
  · exact .congr hquery hcontext fun hnone a ha hpos => bound_after_groups hq hnone hm ha hpos

theorem breaksAfter_iff (hq : b.query.WellMade)
    (hp : ∀ type advice, b.context.parses type advice = false) :
    BreaksAfter b tokens groups rest e ↔ groups.flatMap Group.tokens ++ rest = tokens ∧
      TakenUpTo b.query b.context rest groups ∧ BareAllowed b none groups ∧
      GroupFault (groups.foldl bindGroup b) (bareArgument groups) rest e := by
  constructor
  · intro h
    obtain ⟨_, htaken, hbare⟩ := (splits_iff hp).mp h.splits
    refine ⟨h.covers, (takenUpTo_iff hp).mpr ⟨(taken_iff hp).mp htaken, h.ended⟩, hbare, ?_⟩
    exact (groupFault_after hq htaken.mem).mpr h.fault
  · rintro ⟨hcovers, htaken, hbare, hfault⟩
    obtain ⟨hformed, hended⟩ := (takenUpTo_iff hp).mp htaken
    exact ⟨hcovers, (splits_iff hp).mpr ⟨rfl, (taken_iff hp).mpr hformed, hbare⟩, hended,
      (groupFault_after hq htaken.mem).mp hfault⟩

/-- Where the parser fails, it has gone through groups, and no group starts with what is left. -/
theorem breaks_of_bindAll {positional : Option Argument}
    (hp : ∀ type advice, b.context.parses type advice = false) (hq : b.query.WellMade)
    (h : bindAll b positional tokens = (b', some e)) :
    ∃ groups rest, groups.flatMap Group.tokens ++ rest = tokens ∧
      TakenUpTo b.query b.context rest groups ∧ BareAllowed b positional groups ∧
      groups.foldl bindGroup b = b' ∧ GroupFault b' (positional.or (bareArgument groups)) rest e := by
  have hnone : ∀ (b : Bindings) positional, BareAllowed b positional [] :=
    fun _ _ => ⟨by simp, by simp⟩
  induction b, positional, tokens using bindAll.induct with
  | case1 b positional =>
    rw [bindAll.eq_1] at h
    cases h
  | case2 b positional token rest flag hflag e' hbind =>
    rw [bindAll.eq_def] at h
    simp only [hflag, hbind, Prod.mk.injEq, Option.some.injEq] at h
    obtain ⟨rfl, rfl⟩ := h
    refine ⟨[], token :: rest, rfl, .nil, hnone b _, rfl, ?_⟩
    exact (groupFault_iff hq hp).mpr (.inl ⟨flag, hflag, hbind⟩)
  | case3 b positional token rest flag hflag b₁ taken hbind ih =>
    rw [bindAll.eq_def] at h
    simp only [hflag, hbind] at h
    obtain ⟨g, hbare, hcover, hg, hset⟩ :=
      group_of_bindFlag (within_of_no_parses hp) hflag hbind
    obtain ⟨hquery, hcontext⟩ := set_frame hset
    obtain ⟨groups, left, htokens, htaken, hbares, hfold, hfault⟩ :=
      ih (hcontext ▸ hp) (hquery ▸ hq) h
    rw [hquery, hcontext] at htaken
    obtain ⟨hm, hpos⟩ := hg.mem
    refine ⟨g :: groups, left, ?_, .cons (htokens ▸ hg) htaken, ?_, ?_, ?_⟩
    · rw [List.flatMap_cons, List.append_assoc, htokens, hcover]
    · exact (bareAllowed_flagged hq hm (hpos.trans hbare) hbare hset htaken.mem).mpr hbares
    · rw [List.foldl_cons, bindGroup_of_set hset, hfold]
    · rwa [bareArgument_flagged hbare]
  | case4 b token rest hflag bound =>
    rw [bindAll.eq_def] at h
    simp only [hflag, Prod.mk.injEq, Option.some.injEq] at h
    obtain ⟨rfl, rfl⟩ := h
    exact ⟨[], token :: rest, rfl, .nil, hnone b _, rfl, .secondBare hflag rfl⟩
  | case5 b token rest hflag e' hbind =>
    rw [bindAll.eq_def] at h
    simp only [hflag, hbind, Prod.mk.injEq, Option.some.injEq] at h
    obtain ⟨rfl, rfl⟩ := h
    refine ⟨[], token :: rest, rfl, .nil, hnone b _, rfl, ?_⟩
    exact (groupFault_iff hq hp).mpr (.inr (.inr ⟨hflag, rfl, hbind⟩))
  | case6 b token rest hflag b₁ a taken hbind ih =>
    rw [bindAll.eq_def] at h
    simp only [hflag, hbind] at h
    have hsome : taken ≠ 0 := by
      rintro rfl
      obtain ⟨_, value, htake, _⟩ := bindPositional_ok.mp hbind
      exact takeValue_ne_zero (hp _ _) hflag htake
    obtain ⟨g, hbare, rfl, hfree, hcover, hg, hset⟩ :=
      group_of_bindPositional (within_of_no_parses hp) hq hflag hbind hsome
    obtain ⟨hquery, hcontext⟩ := set_frame hset
    obtain ⟨groups, left, htokens, htaken, hbares, hfold, hfault⟩ :=
      ih (hcontext ▸ hp) (hquery ▸ hq) h
    rw [hquery, hcontext] at htaken
    refine ⟨g :: groups, left, ?_, .cons (htokens ▸ hg) htaken, ?_, ?_, ?_⟩
    · rw [List.flatMap_cons, List.append_assoc, htokens, hcover]
    · exact (bareAllowed_bare hbare).mpr ⟨rfl, hfree, bareAllowed_bound.mp hbares⟩
    · rw [List.foldl_cons, bindGroup_of_set hset, hfold]
    · rwa [bareArgument_bare hbare]

theorem exists_breaksAfter_iff (hq : b.query.WellMade)
    (hp : ∀ type advice, b.context.parses type advice = false) :
    (∃ groups rest, BreaksAfter b tokens groups rest e ∧ groups.foldl bindGroup b = b') ↔
      bindAll b none tokens = (b', some e) := by
  constructor
  · rintro ⟨groups, rest, h, rfl⟩
    obtain ⟨rfl, htaken, hbare, hfault⟩ := (breaksAfter_iff hq hp).mp h
    obtain ⟨hquery, hcontext⟩ := foldl_frame b groups
    rw [bindAll_groups_append hq htaken hbare, Option.none_or]
    exact hfault.bindAll (hquery ▸ hq) (hcontext ▸ hp)
  · intro h
    obtain ⟨groups, rest, hcovers, htaken, hbare, rfl, hfault⟩ := breaks_of_bindAll hp hq h
    exact ⟨groups, rest, (breaksAfter_iff hq hp).mpr ⟨hcovers, htaken, hbare, hfault⟩, rfl⟩

/-- What is left of the bare groups behind the first groups of a line. -/
theorem bareAllowed_behind {more : List Group} (h : BareAllowed b none (groups ++ more)) :
    BareAllowed b (bareArgument groups) more := by
  obtain ⟨hcount, hfree⟩ := h
  refine ⟨?_, fun g hg => hfree g (List.mem_append_right _ hg)⟩
  rw [List.countP_append] at hcount
  cases hbare : bareArgument groups with
  | none => exact Nat.le_trans (Nat.le_add_left _ _) hcount
  | some a =>
    obtain ⟨g, hfind, _⟩ := Option.map_eq_some_iff.mp hbare
    have hpositive : 0 < groups.countP Group.isBare :=
      List.countP_pos_iff.mpr ⟨g, List.mem_of_find?_eq_some hfind, List.find?_some hfind⟩
    simp only [slack] at hcount ⊢
    omega

/-- Tokens break in one place only. -/
theorem BreaksAfter.unique {groups' : List Group} {rest' : List Token} {e' : QueryError}
    (hq : b.query.WellMade) (hp : ∀ type advice, b.context.parses type advice = false)
    (h : BreaksAfter b tokens groups rest e) (h' : BreaksAfter b tokens groups' rest' e') :
    groups' = groups ∧ rest' = rest := by
  -- The fault behind the shorter list of groups leaves no group for the longer one.
  have hlonger : ∀ {groups more : List Group} {rest rest' : List Token} {e e' : QueryError},
      BreaksAfter b tokens groups rest e → BreaksAfter b tokens (groups ++ more) rest' e' →
      TakenUpTo b.query b.context rest' more → rest = more.flatMap Group.tokens ++ rest' →
      more = [] := by
    intro groups more rest rest' e e' h h' htaken hrest
    cases htaken with
    | nil => rfl
    | cons hg =>
      have hfault := h.fault
      rw [hrest, List.flatMap_cons, List.append_assoc] at hfault
      have hbare : BareAllowed b none _ := ⟨h'.splits.oneBare, h'.splits.free⟩
      exact absurd (bareAllowed_behind hbare) (hfault.not_taken hq hp hg)
  obtain ⟨hcovers, htaken, _⟩ := (breaksAfter_iff hq hp).mp h
  obtain ⟨hcovers', htaken', _⟩ := (breaksAfter_iff hq hp).mp h'
  rcases htaken.comparable hq htaken' (hcovers.trans hcovers'.symm) with
    ⟨more, rfl, hmore, hrest⟩ | ⟨more, rfl, hmore, hrest⟩
  · obtain rfl := hlonger h h' hmore hrest
    simp [hrest]
  · obtain rfl := hlonger h' h hmore hrest
    simp [hrest]

/-- Where the environment only supplies values, the parser fails on the lines without tokens and on
those that break after some groups. It breaks in one place only, reports what is wrong there, and
leaves each argument with what the last of the groups before says about it, and where none does,
with what it had before. -/
theorem broken_line_keeps_groups {r : Registry} {p : Registered} {b : Bindings}
    (hr : r.Reachable) (hp : p ∈ r.queries) (hq : p.Offers b.query)
    (hc : b.context = Context.ofSupplied supplied) (line : String) :
    ((fillIn b line).2 ≠ none ↔ Token.ofLine line = [] ∨
      ∃ groups rest e, BreaksAfter b (Token.ofLine line) groups rest e) ∧
    (Token.ofLine line = [] → fillIn b line = (b, some (.invalidCommand line))) ∧
    ∀ groups rest e, BreaksAfter b (Token.ofLine line) groups rest e →
      (fillIn b line).2 = some e ∧
      (∀ groups' rest' e', BreaksAfter b (Token.ofLine line) groups' rest' e' →
        groups' = groups ∧ rest' = rest ∧ e' = e) ∧
      (fillIn b line).1.query = b.query ∧ (fillIn b line).1.context = b.context ∧
      ∀ a ∈ b.query.arguments, (fillIn b line).1.binding? a =
        ((lastNaming a groups).map fun g => Bindings.stored a g.value).or (b.binding? a) := by
  have hmade : b.query.WellMade := (hr.sound.offered hp hq).1
  have hparses : ∀ type advice, b.context.parses type advice = false := by
    intro type advice
    rw [hc]
    rfl
  have hempty : Token.ofLine line = [] → fillIn b line = (b, some (.invalidCommand line)) := by
    intro h
    rw [fillIn, h]
  have hfill : Token.ofLine line ≠ [] → fillIn b line = bindAll b none (Token.ofLine line) := by
    intro h
    unfold fillIn
    split
    · contradiction
    · rfl
  have hbreaks : ∀ groups rest e, BreaksAfter b (Token.ofLine line) groups rest e →
      fillIn b line = (groups.foldl bindGroup b, some e) := by
    intro groups rest e h
    have hne : Token.ofLine line ≠ [] := by
      intro hnil
      have hrest := (List.append_eq_nil_iff.mp (h.covers.trans hnil)).2
      have hfault := h.fault
      rw [hrest] at hfault
      cases hfault
    rw [hfill hne, (exists_breaksAfter_iff hmade hparses).mp ⟨groups, rest, h, rfl⟩]
  refine ⟨⟨fun hfail => ?_, ?_⟩, hempty, fun groups rest e h => ?_⟩
  · by_cases hnil : Token.ofLine line = []
    · exact .inl hnil
    · obtain ⟨e, he⟩ := Option.ne_none_iff_exists'.mp hfail
      rw [hfill hnil] at he
      obtain ⟨groups, rest, h, _⟩ :=
        (exists_breaksAfter_iff hmade hparses).mpr (Prod.ext rfl he)
      exact .inr ⟨groups, rest, e, h⟩
  · rintro (hnil | ⟨groups, rest, e, h⟩)
    · simp [hempty hnil]
    · simp [hbreaks groups rest e h]
  · have hrun := hbreaks groups rest e h
    refine ⟨by rw [hrun], fun groups' rest' e' h' => ?_, ?_⟩
    · obtain ⟨rfl, rfl⟩ := h.unique hmade hparses h'
      rw [hbreaks _ _ _ h', Prod.mk.injEq, Option.some.injEq] at hrun
      exact ⟨rfl, rfl, hrun.2⟩
    · have hm := ((splits_iff hparses).mp h.splits).2.1.mem
      rw [hrun]
      exact ⟨(foldl_frame b groups).1, (foldl_frame b groups).2,
        fun a ha => binding_after_groups hmade ha fun g hg => (hm g hg).1⟩

/-- A flag that the histogram query does not have, behind one that it has. -/
theorem histogram_keeps_grouping : ∃ (r : Registry) (p : Registered) (b : Bindings) (a : Argument),
    r.Reachable ∧ p ∈ r.queries ∧ p.Offers b.query ∧ b.context = Context.ofSupplied [] ∧
    (fillIn b "-groupby BY_PACKAGE -nope").2 = some (.unknownFlag "histogram" "nope") ∧
    a ∈ b.query.arguments ∧ a.name = "groupby" ∧ b.binding? a = none ∧
    (fillIn b "-groupby BY_PACKAGE -nope").1.binding? a =
      some (some (.constant "BY_PACKAGE")) := by
  obtain ⟨q, hbuild, hid, hunknown, a, hname, hfind, hswitch, hsingle, hread, hunset⟩ :
      ∃ q, Heap.histogram.build .empty 0 = .ok q ∧ q.identifier = "histogram" ∧
        q.argumentFlagged? "nope" = none ∧ ∃ a, a.name = "groupby" ∧
        q.argumentFlagged? "groupby" = some a ∧ a.isBoolean = false ∧ a.isMultiple = false ∧
        (Context.ofSupplied []).read a.type a.advice "BY_PACKAGE" = .ok (.constant "BY_PACKAGE") ∧
        (Bindings.initial q.toQuery (Context.ofSupplied [])).binding? a = none :=
    ⟨_, rfl, rfl, rfl, _, rfl, rfl, rfl, rfl, rfl, rfl⟩
  obtain ⟨r, hr, hq⟩ := Registry.reachable_alone hbuild
  have hline : Token.ofLine "-groupby BY_PACKAGE -nope" =
      [.word "-groupby", .word "BY_PACKAGE", .word "-nope"] := by decide
  have hlower : Text.lower "nope" = "nope" := by decide
  let g : Group := ⟨a, some "groupby", [.word "BY_PACKAGE"], some (.constant "BY_PACKAGE")⟩
  have hbreaks : BreaksAfter (Bindings.initial q.toQuery (Context.ofSupplied []))
      (Token.ofLine "-groupby BY_PACKAGE -nope") [g] [.word "-nope"]
      (.unknownFlag "histogram" "nope") := by
    have hform : GroupForm q.toQuery (Context.ofSupplied []) g :=
      .flagged (by decide) hfind hswitch (.word hsingle hread)
    have hfault : GroupFault (Bindings.initial q.toQuery (Context.ofSupplied [])) none
        [.word ("-" ++ "nope")] (.unknownFlag q.identifier (Text.lower "nope")) :=
      .unknownFlag (by decide) hunknown
    have hsplits : Splits (Bindings.initial q.toQuery (Context.ofSupplied []))
        ([g].flatMap Group.tokens) [g] :=
      ⟨rfl, List.forall_mem_singleton.mpr hform, .singleton _, by simp [g, Group.isBare],
        by simp [g, Group.isBare]⟩
    refine ⟨hline ▸ rfl, hsplits, by simp [g, Group.isClosed, hsingle], ?_⟩
    rw [← hid, ← hlower]
    exact hfault
  obtain ⟨_, _, hbroken⟩ := broken_line_keeps_groups
    (b := Bindings.initial q.toQuery (Context.ofSupplied [])) hr hq (.inl rfl) rfl
    "-groupby BY_PACKAGE -nope"
  obtain ⟨hfail, _, _, _, hbinding⟩ := hbroken _ _ _ hbreaks
  have ha : a ∈ q.arguments := (argumentFlagged_mem hfind).1
  have hlast : lastNaming a [g] = some g := by simp [lastNaming, g]
  refine ⟨r, q, _, a, hr, hq, .inl rfl, rfl, hfail, ha, hname, hunset, ?_⟩
  rw [hbinding a ha, hlast]
  simp [g, Bindings.stored, hsingle]

end HeapQuery.CommandLine
