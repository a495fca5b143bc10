import HeapQuery.Heap.Histogram
import HeapQuery.Proofs.ArgumentGroups

namespace HeapQuery.CommandLine

/-- The tokens of a value, after a flag or without one. -/
inductive ValueForm (c : Context) (a : Argument) : List Token → Option Value → Prop where
  | null : a.isMultiple = false → ValueForm c a [.null] none
  | word : a.isMultiple = false → c.read a.type a.advice text = .ok value →
      ValueForm c a [.word text] (some value)
  | list : a.isMultiple = true → WordRun run words → (a.mandatory = true → words ≠ []) →
      List.Forall₂ (fun word value => c.read a.type a.advice word = .ok value) words values →
      ValueForm c a run (some (.list values))

/-- The forms of a group. The flag of a switch stands alone. -/
inductive GroupForm (q : Query) (c : Context) : Group → Prop where
  | switch : flag ≠ "" → q.argumentFlagged? flag = some a → a.isBoolean = true →
      GroupForm q c ⟨a, some flag, [], some (.boolean true)⟩
  | flagged : flag ≠ "" → q.argumentFlagged? flag = some a → a.isBoolean = false →
      ValueForm c a body value → GroupForm q c ⟨a, some flag, body, value⟩
  | bare : a ∈ q.arguments → a.isPositional = true → token.flag? = none →
      ValueForm c a (token :: body) value → GroupForm q c ⟨a, none, token :: body, value⟩

/-- The group ends by itself. A list without a semicolon goes on to the next flag. -/
def Group.isClosed (g : Group) : Bool :=
  !g.argument.isMultiple || (g.flag.isSome && g.argument.isBoolean) || endsInSemicolon g.body

/-- A split of tokens into groups, by which they can be bound: a list takes all it can, at most one
group is bare, and its argument was free. -/
structure Splits (b : Bindings) (tokens : List Token) (groups : List Group) : Prop where
  covers : groups.flatMap Group.tokens = tokens
  formed : ∀ g ∈ groups, GroupForm b.query b.context g
  longest : groups.IsChain fun g next => g.isClosed = true ∨ next.isBare = false
  oneBare : groups.countP Group.isBare ≤ 1
  free : ∀ g ∈ groups, g.isBare = true → b.isBound g.argument = false

variable {q : Query} {c : Context} {a : Argument}

/-! ## One value -/

theorem ValueForm.takeValue (hp : c.parses a.type a.advice = false) (h : ValueForm c a body value)
    (hrest : a.isMultiple = true → endsInSemicolon body = false → StartsFlag rest) :
    CommandLine.takeValue c a (body ++ rest) = .ok (value, body.length) := by
  unfold CommandLine.takeValue
  cases h with
  | null hs => simp [hp, hs, takeSingle]
  | word hs hread =>
    simp only [hp, hs, Bool.false_eq_true, ↓reduceIte, List.singleton_append, takeSingle]
    exact bind_ok.mpr ⟨_, hread, rfl⟩
  | list hm hrun hmandatory hvalues =>
    rename_i words values
    simp only [hp, hm, Bool.false_eq_true, ↓reduceIte, takeMultiple, hrun.takeWords (hrest hm)]
    rw [if_neg]
    · exact bind_ok.mpr ⟨values, mapM_ok.mpr hvalues, rfl⟩
    · simp only [Bool.and_eq_true, List.isEmpty_iff, not_and]
      exact hmandatory

theorem valueForm_of_takeValue {tokens : List Token} {taken : Nat}
    (hp : c.parses a.type a.advice = false) (h : takeValue c a tokens = .ok (value, taken)) :
    ValueForm c a (tokens.take taken) value ∧
    (a.isMultiple = true → endsInSemicolon (tokens.take taken) = false →
      StartsFlag (tokens.drop taken)) := by
  unfold takeValue at h
  simp only [hp, Bool.false_eq_true, ↓reduceIte] at h
  split at h
  · rename_i hm
    simp only [takeMultiple] at h
    split at h
    · cases h
    rename_i hmandatory
    obtain ⟨values, hvalues, hpair⟩ := bind_ok.mp h
    cases hpair
    obtain ⟨hrun, hlongest⟩ := takeWords_run tokens
    refine ⟨.list hm hrun ?_ (mapM_ok.mp hvalues), fun _ => hlongest⟩
    simpa only [Bool.and_eq_true, List.isEmpty_iff, not_and] using hmandatory
  · rename_i hs
    rw [Bool.not_eq_true] at hs
    unfold takeSingle at h
    split at h
    · cases h
    · cases h
      exact ⟨.null hs, by simp [hs]⟩
    · obtain ⟨v, hread, hpair⟩ := bind_ok.mp h
      cases hpair
      exact ⟨.word hs hread, by simp [hs]⟩

/-- A value that starts where no flag does takes a token at least. -/
theorem takeValue_ne_zero {token : Token} (hp : c.parses a.type a.advice = false)
    (hflag : token.flag? = none) : takeValue c a (token :: rest) ≠ .ok (value, 0) := by
  intro h
  obtain ⟨hform, hlongest⟩ := valueForm_of_takeValue hp h
  rw [List.take_zero] at hform hlongest
  cases hform with
  | list hm hrun =>
    have hstarts := hlongest hm rfl token rfl
    rw [hflag] at hstarts
    cases hstarts

/-! ## One group -/

/-- The parser takes a group where the grammar has one, provided that it is the longest there. -/
theorem takenBefore_iff {g : Group} {rest : List Token}
    (hp : ∀ type advice, c.parses type advice = false) :
    g.TakenBefore q c rest ↔
      GroupForm q c g ∧ (g.isClosed = false → StartsFlag rest) := by
  obtain ⟨a, flag, body, value⟩ := g
  constructor
  · intro h
    cases flag with
    | some flag =>
      obtain ⟨hne, hfind, htake⟩ := h
      simp only [takeFlagged] at htake
      split at htake
      · rename_i hboolean
        simp only [Except.ok.injEq, Prod.mk.injEq] at htake
        obtain ⟨rfl, hlength⟩ := htake
        obtain rfl := List.length_eq_zero_iff.mp hlength.symm
        exact ⟨.switch hne hfind hboolean, by simp [Group.isClosed, hboolean]⟩
      · rename_i hboolean
        rw [Bool.not_eq_true] at hboolean
        obtain ⟨hform, hlongest⟩ := valueForm_of_takeValue (hp _ _) htake
        rw [List.take_left] at hform hlongest
        rw [List.drop_left] at hlongest
        refine ⟨.flagged hne hfind hboolean hform, fun hopen => ?_⟩
        simp only [Group.isClosed, Bool.or_eq_false_iff, Bool.not_eq_false'] at hopen
        exact hlongest hopen.1.1 hopen.2
    | none =>
      obtain ⟨hm, hpos, ⟨token, others, hbody, htoken⟩, htake⟩ := h
      obtain ⟨hform, hlongest⟩ := valueForm_of_takeValue (hp _ _) htake
      rw [List.take_left] at hform hlongest
      rw [List.drop_left] at hlongest
      subst hbody
      refine ⟨.bare hm hpos htoken hform, fun hopen => ?_⟩
      simp only [Group.isClosed, Bool.or_eq_false_iff, Bool.not_eq_false'] at hopen
      exact hlongest hopen.1.1 hopen.2
  · rintro ⟨hform, hlongest⟩
    cases hform with
    | switch hne hfind hboolean => exact ⟨hne, hfind, by simp [takeFlagged, hboolean]⟩
    | flagged hne hfind hboolean hvalue =>
      refine ⟨hne, hfind, ?_⟩
      simp only [takeFlagged, hboolean, Bool.false_eq_true, ↓reduceIte]
      refine hvalue.takeValue (hp _ _) fun hm hend => hlongest ?_
      simp [Group.isClosed, hm, hboolean, hend]
    | bare hm hpos htoken hvalue =>
      refine ⟨hm, hpos, ⟨_, _, rfl, htoken⟩, ?_⟩
      exact hvalue.takeValue (hp _ _) fun hmul hend => hlongest (by simp [Group.isClosed, hmul, hend])

theorem GroupForm.startsFlag {g : Group} (h : GroupForm q c g) :
    StartsFlag (g.tokens ++ rest) ↔ g.isBare = false := by
  cases h with
  | switch hne | flagged hne =>
    simp [StartsFlag, Group.tokens, Group.isBare, flag_of_dash hne]
  | bare _ _ htoken => simp [StartsFlag, Group.tokens, Group.isBare, htoken]

/-! ## All groups -/

theorem takenUpTo_cons {g : Group} {groups : List Group} : TakenUpTo q c rest (g :: groups) ↔
    g.TakenBefore q c (groups.flatMap Group.tokens ++ rest) ∧ TakenUpTo q c rest groups :=
  ⟨fun h => by cases h with | cons hg hgs => exact ⟨hg, hgs⟩, fun h => .cons h.1 h.2⟩

/-- The groups before some tokens are those of the grammar. A list is the longest where it is
followed by another group, and where the tokens follow it. -/
theorem takenUpTo_iff {groups : List Group} (hp : ∀ type advice, c.parses type advice = false) :
    TakenUpTo q c rest groups ↔ ((∀ g ∈ groups, GroupForm q c g) ∧
      groups.IsChain fun g next => g.isClosed = true ∨ next.isBare = false) ∧
      ∀ g ∈ groups.getLast?, g.isClosed = true ∨ StartsFlag rest := by
  induction groups with
  | nil => exact ⟨fun _ => ⟨⟨by simp, .nil⟩, by simp⟩, fun _ => .nil⟩
  | cons g groups ih =>
    have hlonger : ∀ P : Prop, (g.isClosed = false → P) ↔ (g.isClosed = true ∨ P) := by
      intro P
      cases g.isClosed <;> simp
    rw [takenUpTo_cons, takenBefore_iff hp, hlonger, ih]
    cases groups with
    | nil => simp
    | cons next groups =>
      simp only [List.forall_mem_cons, List.isChain_cons_cons, List.flatMap_cons,
        List.getLast?_cons_cons, List.append_assoc]
      constructor
      · rintro ⟨⟨hg, hlongest⟩, ⟨⟨hnext, hforms⟩, hchain⟩, hlast⟩
        rw [hnext.startsFlag] at hlongest
        exact ⟨⟨⟨hg, hnext, hforms⟩, hlongest, hchain⟩, hlast⟩
      · rintro ⟨⟨⟨hg, hnext, hforms⟩, hlongest, hchain⟩, hlast⟩
        rw [hnext.startsFlag]
        exact ⟨⟨hg, hlongest⟩, ⟨⟨hnext, hforms⟩, hchain⟩, hlast⟩

theorem taken_iff {groups : List Group} (hp : ∀ type advice, c.parses type advice = false) :
    Taken q c groups ↔ (∀ g ∈ groups, GroupForm q c g) ∧
      groups.IsChain fun g next => g.isClosed = true ∨ next.isBare = false := by
  have hend : StartsFlag [] := by simp [StartsFlag]
  rw [← takenUpTo_nil, takenUpTo_iff hp, and_iff_left fun _ _ => .inr hend]

theorem splits_iff {b : Bindings} {groups : List Group} {tokens : List Token}
    (hp : ∀ type advice, b.context.parses type advice = false) :
    Splits b tokens groups ↔ groups.flatMap Group.tokens = tokens ∧
      Taken b.query b.context groups ∧ BareAllowed b none groups := by
  rw [taken_iff hp]
  constructor
  · intro h
    exact ⟨h.covers, ⟨h.formed, h.longest⟩, h.oneBare, h.free⟩
  · rintro ⟨hcovers, ⟨hformed, hlongest⟩, hone, hfree⟩
    exact ⟨hcovers, hformed, hlongest, hone, hfree⟩

/-- The first group of a line can be told from the tokens of the line. -/
theorem Group.TakenBefore.unique {g g' : Group} {rest rest' : List Token} (hq : q.WellMade)
    (h : g.TakenBefore q c rest) (h' : g'.TakenBefore q c rest')
    (htokens : g.tokens ++ rest = g'.tokens ++ rest') : g = g' ∧ rest = rest' := by
  obtain ⟨a, flag, body, value⟩ := g
  obtain ⟨a', flag', body', value'⟩ := g'
  cases flag with
  | some flag =>
    obtain ⟨hne, hfind, htake⟩ := h
    cases flag' with
    | some flag' =>
      obtain ⟨_, hfind', htake'⟩ := h'
      simp only [Group.tokens, List.cons_append, List.cons.injEq, Token.word.injEq] at htokens
      obtain ⟨hflag, hrest⟩ := htokens
      obtain rfl : flag = flag' := by
        have := congrArg String.toList hflag
        exact String.toList_inj.mp (by simpa using this)
      obtain rfl : a = a' := Option.some.inj (hfind.symm.trans hfind')
      rw [← hrest, htake] at htake'
      simp only [Except.ok.injEq, Prod.mk.injEq] at htake'
      obtain ⟨rfl, hlength⟩ := htake'
      obtain ⟨rfl, rfl⟩ := List.append_inj hrest hlength
      exact ⟨rfl, rfl⟩
    | none =>
      obtain ⟨_, _, ⟨token, others, hbody, htoken⟩, _⟩ := h'
      subst hbody
      simp only [Group.tokens, List.cons_append, List.cons.injEq] at htokens
      rw [← htokens.1, flag_of_dash hne] at htoken
      cases htoken
  | none =>
    obtain ⟨hm, hpos, ⟨token, others, hbody, htoken⟩, htake⟩ := h
    subst hbody
    cases flag' with
    | some flag' =>
      obtain ⟨hne, _, _⟩ := h'
      simp only [Group.tokens, List.cons_append, List.cons.injEq] at htokens
      rw [htokens.1, flag_of_dash hne] at htoken
      cases htoken
    | none =>
      obtain ⟨hm', hpos', _, htake'⟩ := h'
      obtain rfl : a = a' := hq.positional_unique hm hm' hpos hpos'
      simp only [Group.tokens] at htokens
      rw [← htokens, htake] at htake'
      simp only [Except.ok.injEq, Prod.mk.injEq] at htake'
      obtain ⟨rfl, hlength⟩ := htake'
      obtain ⟨rfl, rfl⟩ := List.append_inj htokens hlength
      exact ⟨rfl, rfl⟩

theorem Group.TakenBefore.tokens_ne {g : Group} {rest : List Token} (h : g.TakenBefore q c rest) :
    g.tokens ≠ [] := by
  unfold TakenBefore at h
  unfold tokens
  split at h
  · simp [*]
  · obtain ⟨_, _, ⟨token, others, hbody, _⟩, _⟩ := h
    simp [*]

/-- Of two ways to take the start of a line apart, the one that goes further starts with the
other. -/
theorem TakenUpTo.comparable {groups groups' : List Group} {rest rest' : List Token}
    (hq : q.WellMade) (h : TakenUpTo q c rest groups) (h' : TakenUpTo q c rest' groups')
    (htokens : groups.flatMap Group.tokens ++ rest = groups'.flatMap Group.tokens ++ rest') :
    (∃ more, groups' = groups ++ more ∧ TakenUpTo q c rest' more ∧
      rest = more.flatMap Group.tokens ++ rest') ∨
    ∃ more, groups = groups' ++ more ∧ TakenUpTo q c rest more ∧
      rest' = more.flatMap Group.tokens ++ rest := by
  induction h generalizing groups' with
  | nil => exact .inl ⟨groups', rfl, h', htokens⟩
  | cons hg hgs ih =>
    cases h' with
    | nil => exact .inr ⟨_, rfl, .cons hg hgs, htokens.symm⟩
    | cons hg' hgs' =>
      rw [List.flatMap_cons, List.flatMap_cons, List.append_assoc, List.append_assoc] at htokens
      obtain ⟨rfl, hbehind⟩ := hg.unique hq hg' htokens
      rcases ih hgs' hbehind with ⟨more, rfl, hmore⟩ | ⟨more, rfl, hmore⟩
      · exact .inl ⟨more, rfl, hmore⟩
      · exact .inr ⟨more, rfl, hmore⟩

/-- Groups that are taken up to the end of the tokens leave none for others. -/
theorem TakenUpTo.of_nil {groups : List Group} (h : TakenUpTo q c rest groups)
    (htokens : groups.flatMap Group.tokens ++ rest = []) : groups = [] := by
  cases h with
  | nil => rfl
  | cons hg =>
    have := hg.tokens_ne
    simp_all

/-- There is one way only to take a line apart. -/
theorem Taken.unique {groups groups' : List Group} (hq : q.WellMade) (h : Taken q c groups)
    (h' : Taken q c groups')
    (htokens : groups.flatMap Group.tokens = groups'.flatMap Group.tokens) : groups = groups' := by
  rcases (takenUpTo_nil.mpr h).comparable hq (takenUpTo_nil.mpr h') (by simpa using htokens) with
    ⟨more, rfl, hmore, hrest⟩ | ⟨more, rfl, hmore, hrest⟩
  · rw [hmore.of_nil hrest.symm, List.append_nil]
  · rw [hmore.of_nil hrest.symm, List.append_nil]

theorem exists_splits_iff {b : Bindings} {tokens : List Token} (hq : b.query.WellMade)
    (hp : ∀ type advice, b.context.parses type advice = false) :
    (∃ groups, Splits b tokens groups) ↔ ∃ b', bindAll b none tokens = (b', none) := by
  constructor
  · rintro ⟨groups, hsplit⟩
    obtain ⟨hcovers, htaken, hbare⟩ := (splits_iff hp).mp hsplit
    exact ⟨_, (bindAll_ok (within_of_no_parses hp) hq).mpr ⟨groups, hcovers, htaken, hbare, rfl⟩⟩
  · rintro ⟨b', hall⟩
    obtain ⟨groups, hcovers, htaken, hbare, _⟩ := (bindAll_ok (within_of_no_parses hp) hq).mp hall
    exact ⟨groups, (splits_iff hp).mpr ⟨hcovers, htaken, hbare⟩⟩

/-- Where the environment only supplies values, the parser accepts the tokens that split into
groups, and no others. The split is the only one, and the last group that names an argument decides
about its value. Arguments that no group names stay as they were. -/
theorem accepted_iff_splits {r : Registry} {p : Registered} {b : Bindings} (hr : r.Reachable)
    (hp : p ∈ r.queries) (hq : p.Offers b.query) (hc : b.context = Context.ofSupplied supplied)
    (tokens : List Token) :
    ((bindAll b none tokens).2 = none ↔ ∃ groups, Splits b tokens groups) ∧
    ∀ groups, Splits b tokens groups →
      (∀ others, Splits b tokens others → others = groups) ∧
      (bindAll b none tokens).1.query = b.query ∧ (bindAll b none tokens).1.context = b.context ∧
      ∀ a ∈ b.query.arguments, (bindAll b none tokens).1.binding? a =
        ((lastNaming a groups).map fun g => Bindings.stored a g.value).or (b.binding? a) := by
  have hmade : b.query.WellMade := (hr.sound.offered hp hq).1
  have hparses : ∀ type advice, b.context.parses type advice = false := by
    intro type advice
    rw [hc]
    rfl
  have hwithin := within_of_no_parses hparses
  have hrun : ∀ groups, Splits b tokens groups →
      bindAll b none tokens = (groups.foldl bindGroup b, none) := by
    intro groups h
    obtain ⟨hcovers, htaken, hbare⟩ := (splits_iff hparses).mp h
    rw [← hcovers]
    exact bindAll_groups hmade htaken hbare
  refine ⟨⟨fun h => ?_, fun ⟨groups, h⟩ => ?_⟩, fun groups h => ?_⟩
  · have hall : bindAll b none tokens = ((bindAll b none tokens).1, none) := Prod.ext rfl h
    obtain ⟨groups, hcovers, htaken, hbare, _⟩ := groups_of_bindAll hwithin hmade hall
    exact ⟨groups, (splits_iff hparses).mpr ⟨hcovers, htaken, hbare⟩⟩
  · rw [hrun groups h]
  · obtain ⟨hcovers, htaken, _⟩ := (splits_iff hparses).mp h
    refine ⟨fun others ho => ?_, ?_⟩
    · obtain ⟨hcovers', htaken', _⟩ := (splits_iff hparses).mp ho
      exact htaken'.unique hmade htaken (hcovers'.trans hcovers.symm)
    · rw [hrun groups h]
      have hm := fun g hg => (htaken.mem g hg).1
      exact ⟨(foldl_frame b groups).1, (foldl_frame b groups).2,
        fun a ha => binding_after_groups hmade ha hm⟩

/-- The histogram query in an environment that supplies nothing. -/
theorem histogram_accepted_iff_splits : ∃ (r : Registry) (p : Registered) (b : Bindings),
    r.Reachable ∧ p ∈ r.queries ∧ p.Offers b.query ∧ b.context = Context.ofSupplied [] ∧
    ((bindAll b none [.word "-groupby", .word "BY_CLASS"]).2 = none ↔
      ∃ groups, Splits b [.word "-groupby", .word "BY_CLASS"] groups) := by
  obtain ⟨q, hbuild⟩ : ∃ q, Heap.histogram.build .empty 0 = .ok q := ⟨_, rfl⟩
  obtain ⟨r, hr, hq⟩ := Registry.reachable_alone hbuild
  exact ⟨r, q, Bindings.initial q.toQuery (Context.ofSupplied []), hr, hq, .inl rfl, rfl,
    (accepted_iff_splits hr hq (.inl rfl) rfl _).1⟩

def switchList : QuerySpec where
  command := Heap.Histogram.command
  commandName := some "mark"
  arguments := [{ name := "v", type := .boolean, mandatory := true, multiplicity := .list }]

/-- A mandatory argument with several values may be given without words: its flag is enough where
it is a switch. -/
theorem mandatory_switch_accepted_without_words :
    ¬ ∀ (r : Registry) (p : Registered) (b : Bindings) (supplied : List (Context.Slot × Value))
        (tokens : List Token), r.Reachable → p ∈ r.queries → p.Offers b.query →
        b.context = Context.ofSupplied supplied →
        ((bindAll b none tokens).2 = none ↔ ∃ groups, Splits b tokens groups ∧
          ∀ g ∈ groups, g.argument.mandatory = true → g.argument.isMultiple = true →
            wordsOf g.body ≠ []) := by
  intro h
  obtain ⟨q, hbuild⟩ : ∃ q, switchList.build .empty 0 = .ok q := ⟨_, rfl⟩
  obtain ⟨r, hr, hq⟩ := Registry.reachable_alone hbuild
  have hmade := (hr.sound.offered hq (.inl rfl)).1
  obtain ⟨a, hfind, hboolean, hmandatory, hmultiple⟩ : ∃ a, q.argumentFlagged? "v" = some a ∧
      a.isBoolean = true ∧ a.mandatory = true ∧ a.isMultiple = true := by
    obtain rfl := Except.ok.inj hbuild
    exact ⟨_, rfl, rfl, rfl, rfl⟩
  have hparses : ∀ type advice, (Context.ofSupplied []).parses type advice = false :=
    fun _ _ => rfl
  have htaken : Taken q.toQuery (Context.ofSupplied [])
      [⟨a, some "v", [], some (.boolean true)⟩] :=
    .cons ⟨by decide, hfind, by simp [takeFlagged, hboolean]⟩ .nil
  have hbare : BareAllowed (Bindings.initial q.toQuery (Context.ofSupplied [])) none
      [⟨a, some "v", [], some (.boolean true)⟩] := by
    simp [BareAllowed, Group.isBare, slack]
  have hall := bindAll_groups hmade htaken hbare
  obtain ⟨groups, hsplit, hwords⟩ := (h r q (Bindings.initial q.toQuery (Context.ofSupplied [])) []
    [.word "-v"] hr hq (.inl rfl) rfl).mp (congrArg Prod.snd hall)
  obtain ⟨hcovers, htaken', _⟩ := (splits_iff hparses).mp hsplit
  obtain rfl := htaken'.unique hmade htaken hcovers
  exact hwords _ List.mem_cons_self hmandatory hmultiple rfl

end HeapQuery.CommandLine
