import Mathlib.Data.List.Induction
import HeapQuery.Proofs.BoundArguments
import HeapQuery.Proofs.WordRuns

namespace HeapQuery.CommandLine

/-- What a line says about one argument: its flag, unless there is none, the tokens after the flag,
and the value that they stand for. -/
structure Group where
  argument : Argument
  flag : Option String
  body : List Token
  value : Option Value

namespace Group

def tokens (g : Group) : List Token :=
  match g.flag with
  | some flag => .word ("-" ++ flag) :: g.body
  | none => g.body

def isBare (g : Group) : Bool := g.flag.isNone

/-- The parser takes just this group off the tokens that start with it and go on with `rest`. -/
def TakenBefore (q : Query) (c : Context) (g : Group) (rest : List Token) : Prop :=
  match g.flag with
  | some flag => flag ≠ "" ∧ q.argumentFlagged? flag = some g.argument ∧
      takeFlagged c g.argument (g.body ++ rest) = .ok (g.value, g.body.length)
  | none => g.argument ∈ q.arguments ∧ g.argument.isPositional = true ∧
      (∃ token others, g.body = token :: others ∧ token.flag? = none) ∧
      takeValue c g.argument (g.body ++ rest) = .ok (g.value, g.body.length)

end Group

/-- Groups that the parser takes one after the other. -/
inductive Taken (q : Query) (c : Context) : List Group → Prop where
  | nil : Taken q c []
  | cons : g.TakenBefore q c (groups.flatMap Group.tokens) → Taken q c groups →
      Taken q c (g :: groups)

/-- Groups that the parser takes one after the other, before it goes on with `rest`. -/
inductive TakenUpTo (q : Query) (c : Context) (rest : List Token) : List Group → Prop where
  | nil : TakenUpTo q c rest []
  | cons : g.TakenBefore q c (groups.flatMap Group.tokens ++ rest) → TakenUpTo q c rest groups →
      TakenUpTo q c rest (g :: groups)

def bareArgument (groups : List Group) : Option Argument :=
  (groups.find? Group.isBare).map Group.argument

/-- Bare groups may bind where `positional` has been bound by one: only the first of them, and only
an argument that nothing is bound to. -/
def BareAllowed (b : Bindings) (positional : Option Argument) (groups : List Group) : Prop :=
  groups.countP Group.isBare ≤ slack positional ∧
  ∀ g ∈ groups, g.isBare = true → b.isBound g.argument = false

def bindGroup (b : Bindings) (g : Group) : Bindings :=
  match b.set g.argument g.value with
  | .ok b' => b'
  | .error _ => b

variable {b b' : Bindings} {q : Query} {c : Context} {a : Argument} {flag : String}

/-! ## One group -/

theorem argumentFlagged_mem (h : q.argumentFlagged? flag = some a) :
    a ∈ q.arguments ∧ a.isPositional = false := by
  refine ⟨List.mem_of_find?_eq_some h, ?_⟩
  have := List.find?_some h
  cases hflag : a.flag with
  | none => simp [hflag] at this
  | some f => simp [Argument.isPositional, hflag]

theorem flag_eq_some {token : Token} (h : token.flag? = some flag) :
    token = .word ("-" ++ flag) ∧ flag ≠ "" := by
  cases token with
  | null => cases h
  | word text =>
    simp only [Token.flag?] at h
    split at h
    · rename_i d cs htext
      rw [Option.some.injEq] at h
      subst h
      refine ⟨congrArg Token.word (String.toList_inj.mp ?_), ?_⟩
      · simp [htext]
      · intro he
        have := congrArg String.toList he
        simp at this
    · cases h

theorem flag_of_dash (h : flag ≠ "") : (Token.word ("-" ++ flag)).flag? = some flag := by
  obtain ⟨d, cs, hd⟩ := List.exists_cons_of_ne_nil (show flag.toList ≠ [] by simpa using h)
  have htext : ("-" ++ flag).toList = '-' :: d :: cs := by simp [hd]
  simp only [Token.flag?]
  rw [htext]
  change some (String.ofList (d :: cs)) = some flag
  rw [← hd, String.ofList_toList]

theorem flag_none_of_head (h : text.toList.head? ≠ some '-') : (Token.word text).flag? = none := by
  rw [Option.eq_none_iff_forall_ne_some]
  intro flag hflag
  obtain ⟨he, _⟩ := flag_eq_some hflag
  rw [Token.word.inj he, String.toList_append] at h
  exact h rfl

theorem head_of_flag_none (h : (Token.word text).flag? = none) (hne : text ≠ "-") :
    text.toList.head? ≠ some '-' := by
  intro hhead
  obtain ⟨rest, hrest⟩ := List.head?_eq_some_iff.mp hhead
  cases rest with
  | nil => exact hne (String.toList_inj.mp hrest)
  | cons c rest =>
    simp only [Token.flag?] at h
    rw [hrest] at h
    cases h

theorem bindFlag_ok {tokens : List Token} {taken : Nat} :
    bindFlag b flag tokens = .ok (b', taken) ↔ ∃ a value,
      b.query.argumentFlagged? flag = some a ∧
      takeFlagged b.context a tokens = .ok (value, taken) ∧ b.set a value = .ok b' := by
  unfold bindFlag
  cases hflag : b.query.argumentFlagged? flag with
  | none => simp
  | some a =>
    simp only [bind_ok, Option.some.injEq]
    constructor
    · rintro ⟨⟨value, n⟩, htake, b₁, hset, he⟩
      cases he
      exact ⟨a, value, rfl, htake, hset⟩
    · rintro ⟨_, value, rfl, htake, hset⟩
      exact ⟨(value, taken), htake, b', hset, rfl⟩

theorem bindPositional_ok {first : Token} {tokens : List Token} {taken : Nat} :
    bindPositional b first tokens = .ok (b', a, taken) ↔ openArgument? b = some a ∧ ∃ value,
      takeValue b.context a tokens = .ok (value, taken) ∧ b.set a value = .ok b' := by
  unfold bindPositional
  cases hopen : openArgument? b with
  | none => simp
  | some p =>
    simp only [bind_ok, Option.some.injEq]
    constructor
    · rintro ⟨⟨value, n⟩, htake, b₁, hset, he⟩
      cases he
      exact ⟨rfl, value, htake, hset⟩
    · rintro ⟨rfl, value, htake, hset⟩
      exact ⟨(value, taken), htake, b', hset, rfl⟩

/-- There is no choice between positional arguments, since a query has at most one. -/
theorem openArgument_eq (hq : b.query.WellMade) :
    openArgument? b = some a ↔
      a ∈ b.query.arguments ∧ a.isPositional = true ∧ b.isBound a = false := by
  unfold openArgument?
  constructor
  · intro h
    have := List.find?_some h
    simp only [Bool.and_eq_true, Bool.not_eq_true'] at this
    exact ⟨List.mem_of_find?_eq_some h, this.1, this.2⟩
  · rintro ⟨hm, hp, hb⟩
    cases hfind : b.query.arguments.find? (fun a => a.isPositional && !b.isBound a) with
    | none =>
      have := List.find?_eq_none.mp hfind a hm
      simp [hp, hb] at this
    | some p =>
      have hpos := List.find?_some hfind
      simp only [Bool.and_eq_true, Bool.not_eq_true'] at hpos
      rw [hq.positional_unique (List.mem_of_find?_eq_some hfind) hm hpos.1 hp]

theorem Group.TakenBefore.mem {g : Group} {rest : List Token} (h : g.TakenBefore q c rest) :
    g.argument ∈ q.arguments ∧ g.argument.isPositional = g.isBare := by
  unfold TakenBefore at h
  split at h
  · rename_i flag hflag
    obtain ⟨hm, hp⟩ := argumentFlagged_mem h.2.1
    exact ⟨hm, by simp [hp, isBare, hflag]⟩
  · rename_i hflag
    exact ⟨h.1, by simp [h.2.1, isBare, hflag]⟩

theorem TakenUpTo.mem {rest : List Token} {groups : List Group} (h : TakenUpTo q c rest groups) :
    ∀ g ∈ groups, g.argument ∈ q.arguments ∧ g.argument.isPositional = g.isBare := by
  induction h with
  | nil => simp
  | cons hg _ ih =>
    intro g hm
    rcases List.mem_cons.mp hm with rfl | hm
    · exact hg.mem
    · exact ih g hm

/-- The end of the line is nothing to go on with. -/
theorem takenUpTo_nil {groups : List Group} : TakenUpTo q c [] groups ↔ Taken q c groups := by
  constructor
  · intro h
    induction h with
    | nil => exact .nil
    | cons hg _ ih => exact .cons (by rwa [List.append_nil] at hg) ih
  · intro h
    induction h with
    | nil => exact .nil
    | cons hg _ ih => exact .cons (by rwa [List.append_nil]) ih

theorem Taken.mem {groups : List Group} (h : Taken q c groups) :
    ∀ g ∈ groups, g.argument ∈ q.arguments ∧ g.argument.isPositional = g.isBare :=
  (takenUpTo_nil.mpr h).mem

/-- Binding a flagged group leaves every bare group as free as it was. -/
theorem bound_after_flagged (hq : b.query.WellMade) (ha : a ∈ b.query.arguments)
    (hp : a.isPositional = false) (hset : b.set a value = .ok b')
    {p : Argument} (hm : p ∈ b.query.arguments) (hpp : p.isPositional = true) :
    b'.isBound p = b.isBound p := by
  obtain ⟨b₁, hb₁, _, _, _, hother⟩ := Bindings.set_spec hq ha value
  rw [hset, Except.ok.injEq] at hb₁
  subst hb₁
  have hne : p.id ≠ a.id := by
    intro he
    rw [hq.same_argument hm ha he, hp] at hpp
    cases hpp
  simp [Bindings.isBound, hother p hm hne]

/-- After a bare group there is none. -/
theorem bareAllowed_bound {groups : List Group} :
    BareAllowed b (some a) groups ↔ groups.countP Group.isBare = 0 := by
  constructor
  · intro h
    exact Nat.le_zero.mp h.1
  · intro h
    exact ⟨Nat.le_of_eq h, fun g hg hbare => absurd hbare (List.countP_eq_zero.mp h g hg)⟩

theorem bareAllowed_bare {g : Group} {groups : List Group} {positional : Option Argument}
    (hg : g.isBare = true) : BareAllowed b positional (g :: groups) ↔
      positional = none ∧ b.isBound g.argument = false ∧ groups.countP Group.isBare = 0 := by
  unfold BareAllowed
  rw [List.countP_cons_of_pos hg]
  cases positional with
  | some p => simp [slack]
  | none =>
    simp only [slack, true_and]
    constructor
    · rintro ⟨hcount, hfree⟩
      exact ⟨hfree g List.mem_cons_self hg, by omega⟩
    · rintro ⟨hfree, hnone⟩
      refine ⟨by omega, fun p hp hbare => ?_⟩
      rcases List.mem_cons.mp hp with rfl | hp
      · exact hfree
      · exact absurd hbare (List.countP_eq_zero.mp hnone p hp)

/-- A flagged group changes nothing for the bare groups behind it. -/
theorem bareAllowed_flagged {g : Group} {groups : List Group} {positional : Option Argument}
    (hq : b.query.WellMade) (hm : g.argument ∈ b.query.arguments)
    (hp : g.argument.isPositional = false) (hg : g.isBare = false)
    (hset : b.set g.argument g.value = .ok b')
    (hgs : ∀ p ∈ groups, p.argument ∈ b.query.arguments ∧ p.argument.isPositional = p.isBare) :
    BareAllowed b positional (g :: groups) ↔ BareAllowed b' positional groups := by
  have hsame : ∀ p ∈ groups, p.isBare = true → b'.isBound p.argument = b.isBound p.argument := by
    intro p hp' hbare
    obtain ⟨hmem, hpos⟩ := hgs p hp'
    exact bound_after_flagged hq hm hp hset hmem (hpos.trans hbare)
  unfold BareAllowed
  rw [List.countP_cons_of_neg (by simp [hg])]
  refine and_congr_right fun _ => ?_
  constructor
  · intro h p hp' hbare
    rw [hsame p hp' hbare]
    exact h p (List.mem_cons_of_mem _ hp') hbare
  · intro h p hp' hbare
    rcases List.mem_cons.mp hp' with rfl | hp'
    · rw [hg] at hbare
      cases hbare
    · rw [← hsame p hp' hbare]
      exact h p hp' hbare

/-! ## All groups -/

theorem set_frame (hset : b.set a value = .ok b') : b'.query = b.query ∧ b'.context = b.context := by
  unfold Bindings.set at hset
  split at hset
  · cases hset
    exact ⟨rfl, rfl⟩
  · cases hset

theorem bindGroup_of_set {g : Group} (hset : b.set g.argument g.value = .ok b') :
    bindGroup b g = b' := by
  simp [bindGroup, hset]

theorem bindGroup_frame (b : Bindings) (g : Group) :
    (bindGroup b g).query = b.query ∧ (bindGroup b g).context = b.context := by
  unfold bindGroup
  split
  · rename_i b' hset
    exact set_frame hset
  · exact ⟨rfl, rfl⟩

theorem foldl_frame (b : Bindings) (groups : List Group) :
    (groups.foldl bindGroup b).query = b.query ∧
    (groups.foldl bindGroup b).context = b.context := by
  induction groups generalizing b with
  | nil => exact ⟨rfl, rfl⟩
  | cons g groups ih =>
    rw [List.foldl_cons, (ih _).1, (ih _).2]
    exact bindGroup_frame b g

theorem bareArgument_bare {g : Group} (h : g.isBare = true) (groups : List Group) :
    bareArgument (g :: groups) = some g.argument := by
  simp [bareArgument, h]

theorem bareArgument_flagged {g : Group} (h : g.isBare = false) (groups : List Group) :
    bareArgument (g :: groups) = bareArgument groups := by
  simp [bareArgument, h]

/-- The parser goes through groups that it can take, binds them in their order, and goes on with the
tokens behind them. -/
theorem bindAll_groups_append {positional : Option Argument} {groups : List Group}
    {rest : List Token} (hq : b.query.WellMade) (ht : TakenUpTo b.query b.context rest groups)
    (hb : BareAllowed b positional groups) :
    bindAll b positional (groups.flatMap Group.tokens ++ rest) =
      bindAll (groups.foldl bindGroup b) (positional.or (bareArgument groups)) rest := by
  induction groups generalizing b positional with
  | nil => simp [bareArgument]
  | cons g groups ih =>
    cases ht with
    | cons hg hgs =>
    obtain ⟨hm, hbare⟩ := hg.mem
    obtain ⟨b', hset, hquery, hcontext, _⟩ := Bindings.set_spec hq hm g.value
    rw [List.flatMap_cons, List.append_assoc, List.foldl_cons, bindGroup_of_set hset]
    rw [← hquery, ← hcontext] at hgs
    cases hflag : g.flag with
    | some flag =>
      simp only [Group.TakenBefore, hflag] at hg
      obtain ⟨hne, hfind, htake⟩ := hg
      have hbind : bindFlag b flag (g.body ++ (groups.flatMap Group.tokens ++ rest)) =
          .ok (b', g.body.length) := bindFlag_ok.mpr ⟨_, _, hfind, htake, hset⟩
      have hself : g.isBare = false := by simp [Group.isBare, hflag]
      have hbares : BareAllowed b' positional groups :=
        (bareAllowed_flagged hq hm (hbare.trans hself) hself hset (hquery ▸ hgs.mem)).mp hb
      rw [bindAll.eq_def, bareArgument_flagged hself]
      simp only [Group.tokens, hflag, List.cons_append, flag_of_dash hne, hbind, List.drop_left]
      exact ih (hquery ▸ hq) hgs hbares
    | none =>
      simp only [Group.TakenBefore, hflag] at hg
      obtain ⟨_, hp, ⟨token, others, hbody, htoken⟩, htake⟩ := hg
      have hself : g.isBare = true := by simp [Group.isBare, hflag]
      obtain ⟨rfl, hfree, hnone⟩ := (bareAllowed_bare hself).mp hb
      have hopen : openArgument? b = some g.argument := (openArgument_eq hq).mpr ⟨hm, hp, hfree⟩
      rw [hbody, List.cons_append] at htake
      have hbind : bindPositional b token
          (token :: (others ++ (groups.flatMap Group.tokens ++ rest))) =
          .ok (b', g.argument, g.body.length) :=
        bindPositional_ok.mpr ⟨hopen, g.value, by rw [hbody]; exact htake, hset⟩
      rw [bindAll.eq_def, bareArgument_bare hself, Option.none_or]
      simp only [Group.tokens, hflag, hbody, List.cons_append, htoken]
      rw [hbind]
      simp only [hbody, ← List.cons_append, List.drop_left]
      exact ih (hquery ▸ hq) hgs (bareAllowed_bound.mpr hnone)

/-- The parser goes through a line of groups that it can take, and binds them in their order. -/
theorem bindAll_groups {positional : Option Argument} {groups : List Group}
    (hq : b.query.WellMade) (ht : Taken b.query b.context groups)
    (hb : BareAllowed b positional groups) :
    bindAll b positional (groups.flatMap Group.tokens) = (groups.foldl bindGroup b, none) := by
  have hrun := bindAll_groups_append hq (takenUpTo_nil.mpr ht) hb
  rwa [List.append_nil, bindAll.eq_1] at hrun

/-- No more tokens are taken than there are. -/
def Within (c : Context) : Prop :=
  ∀ type advice tokens, c.parses type advice = true →
    (c.parse type advice tokens).taken ≤ tokens.length

theorem within_of_no_parses (hp : ∀ type advice, c.parses type advice = false) : Within c := by
  intro type advice rest h
  rw [hp] at h
  cases h

theorem takeValue_le {tokens : List Token} {taken : Nat} (hc : Within c)
    (h : takeValue c a tokens = .ok (value, taken)) : taken ≤ tokens.length := by
  unfold takeValue at h
  split at h
  · rename_i hparses
    obtain ⟨v, _, hpair⟩ := map_ok.mp h
    cases hpair
    exact hc _ _ _ hparses
  split at h
  · simp only [takeMultiple] at h
    split at h
    · cases h
    obtain ⟨values, _, hpair⟩ := bind_ok.mp h
    cases hpair
    exact takeWords_le tokens
  · unfold takeSingle at h
    split at h
    · cases h
    · cases h
      simp
    · obtain ⟨v, _, hpair⟩ := bind_ok.mp h
      cases hpair
      simp

theorem takeFlagged_le {tokens : List Token} {taken : Nat} (hc : Within c)
    (h : takeFlagged c a tokens = .ok (value, taken)) : taken ≤ tokens.length := by
  unfold takeFlagged at h
  split at h
  · cases h
    simp
  · exact takeValue_le hc h

/-- What a flag binds is a group. -/
theorem group_of_bindFlag {token : Token} {rest : List Token} {taken : Nat} (hc : Within b.context)
    (hflag : token.flag? = some flag) (hbind : bindFlag b flag rest = .ok (b', taken)) :
    ∃ g : Group, g.isBare = false ∧ g.tokens ++ rest.drop taken = token :: rest ∧
      g.TakenBefore b.query b.context (rest.drop taken) ∧
      b.set g.argument g.value = .ok b' := by
  obtain ⟨a, value, hfind, htake, hset⟩ := bindFlag_ok.mp hbind
  obtain ⟨rfl, hne⟩ := flag_eq_some hflag
  have hle := takeFlagged_le hc htake
  refine ⟨⟨a, some flag, rest.take taken, value⟩, rfl, ?_, ⟨hne, hfind, ?_⟩, hset⟩
  · simp [Group.tokens]
  · simp [htake, hle]

/-- What the positional argument takes is a group, if it is something. -/
theorem group_of_bindPositional {token : Token} {rest : List Token} {taken : Nat}
    (hc : Within b.context) (hq : b.query.WellMade) (hflag : token.flag? = none)
    (hbind : bindPositional b token (token :: rest) = .ok (b', a, taken)) (htaken : taken ≠ 0) :
    ∃ g : Group, g.isBare = true ∧ g.argument = a ∧ b.isBound g.argument = false ∧
      g.tokens ++ (token :: rest).drop taken = token :: rest ∧
      g.TakenBefore b.query b.context ((token :: rest).drop taken) ∧
      b.set g.argument g.value = .ok b' := by
  obtain ⟨hopen, value, htake, hset⟩ := bindPositional_ok.mp hbind
  obtain ⟨hm, hp, hfree⟩ := (openArgument_eq hq).mp hopen
  have hle := takeValue_le hc htake
  obtain ⟨n, rfl⟩ := Nat.exists_eq_succ_of_ne_zero htaken
  refine ⟨⟨a, none, (token :: rest).take (n + 1), value⟩, rfl, rfl, hfree, ?_,
    ⟨hm, hp, ⟨token, rest.take n, rfl, hflag⟩, ?_⟩, hset⟩
  · exact List.take_append_drop (n + 1) (token :: rest)
  · rw [List.take_append_drop, List.length_take_of_le hle]
    exact htake

/-- Whatever the parser binds, it has gone through groups. -/
theorem groups_of_bindAll {positional : Option Argument} {tokens : List Token}
    (hc : Within b.context) (hq : b.query.WellMade) (h : bindAll b positional tokens = (b', none)) :
    ∃ groups, groups.flatMap Group.tokens = tokens ∧ Taken b.query b.context groups ∧
      BareAllowed b positional groups ∧ groups.foldl bindGroup b = b' := by
  induction b, positional, tokens using bindAll.induct with
  | case1 b positional =>
    rw [bindAll.eq_1, Prod.mk.injEq] at h
    exact ⟨[], rfl, .nil, ⟨by simp, by simp⟩, h.1⟩
  | case2 b positional token rest flag hflag e hbind =>
    rw [bindAll.eq_def] at h
    simp [hflag, hbind] at h
  | case3 b positional token rest flag hflag b₁ taken hbind ih =>
    rw [bindAll.eq_def] at h
    simp only [hflag, hbind] at h
    obtain ⟨g, hbare, hcover, hg, hset⟩ := group_of_bindFlag hc hflag hbind
    obtain ⟨hquery, hcontext⟩ := set_frame hset
    obtain ⟨groups, htokens, htaken, hbares, hfold⟩ := ih (hcontext ▸ hc) (hquery ▸ hq) h
    rw [hquery, hcontext] at htaken
    obtain ⟨hm, hp⟩ := hg.mem
    refine ⟨g :: groups, ?_, .cons (htokens ▸ hg) htaken, ?_, ?_⟩
    · rw [List.flatMap_cons, htokens, hcover]
    · exact (bareAllowed_flagged hq hm (hp.trans hbare) hbare hset htaken.mem).mpr hbares
    · rw [List.foldl_cons, bindGroup_of_set hset, hfold]
  | case4 b token rest hflag bound =>
    rw [bindAll.eq_def] at h
    simp [hflag] at h
  | case5 b token rest hflag e hbind =>
    rw [bindAll.eq_def] at h
    simp [hflag, hbind] at h
  | case6 b token rest hflag b₁ a taken hbind ih =>
    rw [bindAll.eq_def] at h
    simp only [hflag, hbind] at h
    -- A group without tokens would leave the same token for a second bare group.
    have hsome : taken ≠ 0 := by
      rintro rfl
      rw [List.drop_zero, bindAll.eq_2] at h
      simp [hflag] at h
    obtain ⟨g, hbare, rfl, hfree, hcover, hg, hset⟩ :=
      group_of_bindPositional hc hq hflag hbind hsome
    obtain ⟨hquery, hcontext⟩ := set_frame hset
    obtain ⟨groups, htokens, htaken, hbares, hfold⟩ := ih (hcontext ▸ hc) (hquery ▸ hq) h
    rw [hquery, hcontext] at htaken
    refine ⟨g :: groups, ?_, .cons (htokens ▸ hg) htaken, ?_, ?_⟩
    · rw [List.flatMap_cons, htokens, hcover]
    · exact (bareAllowed_bare hbare).mpr ⟨rfl, hfree, bareAllowed_bound.mp hbares⟩
    · rw [List.foldl_cons, bindGroup_of_set hset, hfold]

/-- The parser succeeds on the sequences of groups that it can take, and on nothing else. -/
theorem bindAll_ok {positional : Option Argument} {tokens : List Token} (hc : Within b.context)
    (hq : b.query.WellMade) :
    bindAll b positional tokens = (b', none) ↔
      ∃ groups, groups.flatMap Group.tokens = tokens ∧ Taken b.query b.context groups ∧
        BareAllowed b positional groups ∧ groups.foldl bindGroup b = b' := by
  refine ⟨groups_of_bindAll hc hq, ?_⟩
  rintro ⟨groups, rfl, htaken, hbare, rfl⟩
  exact bindAll_groups hq htaken hbare

def lastNaming (a : Argument) (groups : List Group) : Option Group :=
  groups.reverse.find? fun g => g.argument.id == a.id

theorem lastNaming_some {g : Group} {groups : List Group} (h : lastNaming a groups = some g) :
    g ∈ groups ∧ g.argument.id = a.id :=
  ⟨List.mem_reverse.mp (List.mem_of_find?_eq_some h), by simpa using List.find?_some h⟩

/-- After groups have been bound, the last one that names an argument decides. -/
theorem binding_after_groups {groups : List Group} (hq : b.query.WellMade)
    (ha : a ∈ b.query.arguments) (hm : ∀ g ∈ groups, g.argument ∈ b.query.arguments) :
    (groups.foldl bindGroup b).binding? a =
      ((lastNaming a groups).map fun g => Bindings.stored a g.value).or (b.binding? a) := by
  induction groups using List.reverseRecOn with
  | nil => rfl
  | append_singleton groups g ih =>
    have hbinding := ih fun p hp => hm p (List.mem_append_left _ hp)
    have hg : g.argument ∈ b.query.arguments := hm g (by simp)
    have hquery := (foldl_frame b groups).1
    obtain ⟨b', hset, _, _, hself, hother⟩ :=
      Bindings.set_spec (b := groups.foldl bindGroup b) (hquery.symm ▸ hq) (hquery.symm ▸ hg) g.value
    rw [List.foldl_append, List.foldl_cons, List.foldl_nil]
    rw [bindGroup_of_set hset]
    by_cases hid : g.argument.id = a.id
    · have hsame := hq.same_argument hg ha hid
      rw [← hsame, hself]
      simp [lastNaming, hsame]
    · rw [hother a (hquery.symm ▸ ha) (Ne.symm hid), hbinding]
      simp [lastNaming, hid]

end HeapQuery.CommandLine
