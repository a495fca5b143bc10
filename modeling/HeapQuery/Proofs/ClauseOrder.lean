import Mathlib.Data.List.Nodup
import Mathlib.Data.List.Perm.Subperm
import HeapQuery.Bindings.Execution
import HeapQuery.Proofs.Grammar

namespace HeapQuery

namespace Bindings

/-- The same bindings, perhaps made in another order. -/
structure Alike (b b' : Bindings) : Prop where
  query : b'.query = b.query
  context : b'.context = b.context
  bound : ∀ (i : Nat) (a : Argument), b.query.arguments[i]? = some a → b'.at? i = b.at? i

variable {b b' : Bindings}

theorem Alike.binding (h : b.Alike b') (hq : b.query.WellMade) (ha : a ∈ b.query.arguments) :
    b'.binding? a = b.binding? a := by
  obtain ⟨i, hi⟩ := List.mem_iff_getElem?.mp ha
  rw [binding_eq hq hi, binding_eq (h.query ▸ hq) (h.query ▸ hi), h.bound i a hi]

theorem Alike.field (h : b.Alike b') (hi : b.query.arguments[i]? = some a) :
    b'.field? i a = b.field? i a := by
  simp only [field?, h.bound i a hi]

/-- The command text does not show in which order arguments were bound. -/
theorem Alike.line (h : b.Alike b') : b'.line = b.line := by
  have hfragment : ∀ entry ∈ positions b.query,
      ((b'.fragment? entry.1 entry.2).map fun text => (entry.2, text)) =
        (b.fragment? entry.1 entry.2).map fun text => (entry.2, text) := by
    rintro ⟨i, a⟩ hentry
    simp only [fragment?, h.context, h.bound i a (mem_positions.mp hentry)]
  simp only [Bindings.line, h.query, List.filterMap_congr hfragment]

theorem Alike.giveFrom (h : b.Alike b') {entries : List (Nat × Argument)} (before : List Given)
    (hentries : ∀ entry ∈ entries, entry ∈ positions b.query) :
    b'.giveFrom before entries = b.giveFrom before entries := by
  induction entries generalizing before with
  | nil => rfl
  | cons entry rest ih =>
    obtain ⟨i, a⟩ := entry
    have hfield : b'.field? i a = b.field? i a :=
      h.field (mem_positions.mp (hentries _ List.mem_cons_self))
    have hrest := fun before => ih before fun entry he => hentries _ (List.mem_cons_of_mem _ he)
    simp only [Bindings.giveFrom, hfield, h.query, hrest]

theorem Alike.given (h : b.Alike b') : b'.given = b.given := by
  unfold Bindings.given
  rw [h.query]
  exact h.giveFrom [] fun _ he => he

/-- The command cannot tell in which order arguments were bound. -/
theorem Alike.execute (h : b.Alike b') (listener : Listener) :
    b'.execute listener = b.execute listener := by
  simp only [Bindings.execute, h.given, h.query, h.line]

end Bindings

namespace CommandLine

/-- What a line says about an argument: its flag, unless there is none, and the tokens of its value,
without the end of a list. -/
structure Clause where
  argument : Argument
  flag : Option String
  inner : List Token

/-- A list with an end: a semicolon of its own, or one that is glued to the last word. -/
inductive Ended : List Token → List Token → Prop where
  | apart {inner : List Token} : Ended inner (inner ++ [.word ";"])
  | glued {text : String} {inner : List Token} : text ≠ "" → text ≠ "-" →
      Ended (inner ++ [.word text]) (inner ++ [.word (text ++ ";")])

inductive ValueWritten (a : Argument) : List Token → List Token → Prop where
  | single : a.isMultiple = false → ValueWritten a [token] [token]
  | list {inner body : List Token} : a.isMultiple = true → inner.all isInner = true →
      Ended inner body → ValueWritten a inner body

inductive ClauseWritten (q : Query) : Clause → List Token → Prop where
  | switch : flag ≠ "" → q.argumentFlagged? flag = some a → a.isBoolean = true →
      ClauseWritten q ⟨a, some flag, []⟩ [.word ("-" ++ flag)]
  | flagged {inner body : List Token} : flag ≠ "" → q.argumentFlagged? flag = some a →
      a.isBoolean = false → ValueWritten a inner body →
      ClauseWritten q ⟨a, some flag, inner⟩ (.word ("-" ++ flag) :: body)
  | bare {inner body : List Token} : a ∈ q.arguments → a.isPositional = true →
      (a.isMultiple = false → ∀ token ∈ inner, token.flag? = none) → ValueWritten a inner body →
      ClauseWritten q ⟨a, none, inner⟩ body

namespace Clause

/-- The value of a clause. The end of a list has no part in it. -/
def value (c : Context) (clause : Clause) : Except QueryError (Option Value) :=
  match clause.flag with
  | some _ => (takeFlagged c clause.argument clause.inner).map Prod.fst
  | none => (takeValue c clause.argument clause.inner).map Prod.fst

/-- Nothing stands in the way of a clause: its value can be read, and without a flag its argument
is free. -/
structure Accepted (b : Bindings) (clause : Clause) : Prop where
  read : ∃ value, clause.value b.context = .ok value
  free : clause.flag = none → b.isBound clause.argument = false

/-- The group that a clause is read as, where `body` are the tokens after the flag. -/
def group (clause : Clause) (body : List Token) (value : Option Value) : Group :=
  ⟨clause.argument, clause.flag, body, value⟩

structure Gives (c : Context) (clause : Clause) (g : Group) : Prop where
  argument : g.argument = clause.argument
  flag : g.flag = clause.flag
  value : clause.value c = .ok g.value

end Clause

variable {q : Query} {c : Context} {a : Argument} {b b' : Bindings} {clause : Clause} {g : Group}
  {inner body line rest others : List Token}

/-! ## One clause -/

theorem flag_none_inner (h : isInner token = true) : token.flag? = none := by
  cases token with
  | null => rfl
  | word text =>
    simp only [isInner, Bool.and_eq_true, Option.isNone_iff_eq_none] at h
    exact h.1

theorem flag_none_glued (h : (Token.word text).flag? = none) (hne : text ≠ "")
    (hdash : text ≠ "-") : (Token.word (text ++ ";")).flag? = none := by
  refine flag_none_of_head fun hhead => head_of_flag_none h hdash ?_
  rwa [String.toList_append, List.head?_append_of_ne_nil _ (by simpa using hne)] at hhead

/-- No token of a list is a flag, so that the list may stand without one. -/
theorem Ended.flag_none (h : Ended inner body) (hinner : inner.all isInner = true)
    (hm : token ∈ body) : token.flag? = none := by
  have hall := List.all_eq_true.mp hinner
  cases h with
  | apart =>
    rcases List.mem_append.mp hm with hm | hm
    · exact flag_none_inner (hall token hm)
    · rw [List.mem_singleton.mp hm]
      decide
  | @glued text inner hne hdash =>
    rcases List.mem_append.mp hm with hm | hm
    · exact flag_none_inner (hall token (List.mem_append_left _ hm))
    · rw [List.mem_singleton.mp hm]
      exact flag_none_glued (flag_none_inner (hall (.word text) (by simp))) hne hdash

theorem Ended.ne_nil (h : Ended inner body) : body ≠ [] := by
  cases h <;> simp

/-- Both ends make a run of the same words. -/
theorem Ended.run (h : Ended inner body) (hinner : inner.all isInner = true) :
    WordRun body (wordsOf inner) ∧ endsInSemicolon body = true := by
  have hbare : ∀ token ∈ body, token.flag? = none := fun _ hm => h.flag_none hinner hm
  cases h with
  | apart => exact ⟨.ended hinner, by simp [endsInSemicolon, word?]⟩
  | @glued text inner hne hdash =>
    obtain ⟨hbefore, _⟩ : inner.all isInner = true ∧ isInner (.word text) = true := by
      simpa using hinner
    have hwords : wordsOf (inner ++ [.word text]) = wordsOf inner ++ [text] := by
      simp [wordsOf, word?]
    refine ⟨?_, by simp [endsInSemicolon, word?]⟩
    rw [hwords]
    exact .glued hbefore hne (hbare _ (by simp))

/-- What follows a value that ends by itself has no part in it. -/
theorem ValueWritten.takeValue (hp : c.parses a.type a.advice = false)
    (h : ValueWritten a inner body) :
    CommandLine.takeValue c a (body ++ rest) =
      ((CommandLine.takeValue c a inner).map Prod.fst).map fun value => (value, body.length) := by
  unfold CommandLine.takeValue
  cases h with
  | @single token hs =>
    simp only [hp, hs, Bool.false_eq_true, ↓reduceIte, List.singleton_append]
    cases token with
    | null => rfl
    | word text =>
      simp only [takeSingle]
      cases c.read a.type a.advice text <;> rfl
  | list hm hinner hended =>
    obtain ⟨hrun, hends⟩ := hended.run hinner
    have hall : takeWords (inner ++ []) = (wordsOf inner ++ [], inner.length + 0) :=
      takeWords_inner hinner
    simp only [List.append_nil, Nat.add_zero] at hall
    have hrest : takeWords (body ++ rest) = (wordsOf inner, body.length) :=
      hrun.takeWords (by simp [hends])
    simp only [hp, hm, Bool.false_eq_true, ↓reduceIte, takeMultiple, hall, hrest]
    split
    · rfl
    · cases (wordsOf inner).mapM (c.read a.type a.advice) <;> rfl

/-- The tokens of a clause are those of its group, and the parser takes that group, whatever
follows, when the value can be read. -/
theorem ClauseWritten.reading (hp : ∀ type advice, c.parses type advice = false)
    (h : ClauseWritten q clause line) : ∃ body,
      (∀ value, (clause.group body value).tokens = line) ∧
      match clause.flag with
      | some flag => flag ≠ "" ∧ q.argumentFlagged? flag = some clause.argument ∧ ∀ rest,
          takeFlagged c clause.argument (body ++ rest) =
            (clause.value c).map fun value => (value, body.length)
      | none => clause.argument ∈ q.arguments ∧ clause.argument.isPositional = true ∧
          (∃ token others, body = token :: others ∧ token.flag? = none) ∧ ∀ rest,
          takeValue c clause.argument (body ++ rest) =
            (clause.value c).map fun value => (value, body.length) := by
  cases h with
  | @switch flag a hne hfind hb =>
    refine ⟨[], fun _ => rfl, hne, hfind, fun rest => ?_⟩
    simp [Clause.value, takeFlagged, hb, Except.map]
  | @flagged flag a inner body hne hfind hb hvalue =>
    refine ⟨body, fun _ => rfl, hne, hfind, fun rest => ?_⟩
    simp only [Clause.value, takeFlagged, hb, Bool.false_eq_true, ↓reduceIte]
    exact hvalue.takeValue (hp _ _)
  | @bare a inner _ hm hpos hfree hvalue =>
    refine ⟨line, fun _ => rfl, hm, hpos, ?_, fun rest => hvalue.takeValue (hp _ _)⟩
    cases hvalue with
    | @single token hs => exact ⟨token, [], rfl, hfree hs token List.mem_cons_self⟩
    | list hmultiple hinner hended =>
      obtain ⟨token, others, rfl⟩ := List.exists_cons_of_ne_nil hended.ne_nil
      exact ⟨token, others, rfl, hended.flag_none hinner List.mem_cons_self⟩

theorem ClauseWritten.mem (h : ClauseWritten q clause line) : clause.argument ∈ q.arguments := by
  cases h with
  | switch _ hfind | flagged _ hfind => exact (argumentFlagged_mem hfind).1
  | bare hm => exact hm

theorem ClauseWritten.ne_nil (h : ClauseWritten q clause line) : line ≠ [] := by
  cases h with
  | switch | flagged => simp
  | bare _ _ _ hvalue =>
    cases hvalue with
    | single => simp
    | list _ _ hended => exact hended.ne_nil

/-- The parser takes a clause whose value can be read, whatever follows it. -/
theorem ClauseWritten.takenBefore (hp : ∀ type advice, c.parses type advice = false)
    (h : ClauseWritten q clause line) (hvalue : clause.value c = .ok value) :
    ∃ g, clause.Gives c g ∧ g.tokens = line ∧ ∀ rest, g.TakenBefore q c rest := by
  obtain ⟨body, htokens, hread⟩ := h.reading hp
  refine ⟨clause.group body value, ⟨rfl, rfl, hvalue⟩, htokens value, fun rest => ?_⟩
  cases hflag : clause.flag with
  | some flag =>
    simp only [hflag, hvalue] at hread
    simp only [Group.TakenBefore, Clause.group, hflag]
    exact ⟨hread.1, hread.2.1, hread.2.2 rest⟩
  | none =>
    simp only [hflag, hvalue] at hread
    simp only [Group.TakenBefore, Clause.group, hflag]
    exact ⟨hread.1, hread.2.1, hread.2.2.1, hread.2.2.2 rest⟩

/-- Readings of the same number of tokens leave the same tokens. -/
theorem same_reading {x : Except QueryError (Option Value)} {body' : List Token}
    (h : (x.map fun value => (value, body.length)) = .ok (value, body'.length))
    (htokens : body' ++ rest = body ++ others) : x = .ok value ∧ rest = others := by
  obtain ⟨_, hx, hpair⟩ := map_ok.mp h
  obtain ⟨rfl, hlength⟩ := Prod.mk.inj hpair
  exact ⟨hx, (List.append_inj htokens hlength.symm).2⟩

/-- What the parser takes where a clause stands is that clause. -/
theorem ClauseWritten.gives (hq : q.WellMade) (hp : ∀ type advice, c.parses type advice = false)
    (h : ClauseWritten q clause line) (hg : g.TakenBefore q c rest)
    (htokens : g.tokens ++ rest = line ++ others) : clause.Gives c g ∧ rest = others := by
  obtain ⟨body, hline, hread⟩ := h.reading hp
  rw [← hline none] at htokens
  obtain ⟨a, flag, body', value⟩ := g
  cases hflag : clause.flag with
  | some flag' =>
    simp only [hflag] at hread
    obtain ⟨hne', hfind', hread⟩ := hread
    cases flag with
    | some flag =>
      obtain ⟨_, hfind, htake⟩ := hg
      simp only [Group.tokens, Clause.group, hflag, List.cons_append, List.cons.injEq,
        Token.word.injEq, String.append_right_inj] at htokens
      obtain ⟨rfl, hrest⟩ := htokens
      obtain rfl : a = clause.argument := Option.some.inj (hfind.symm.trans hfind')
      rw [hrest, hread] at htake
      obtain ⟨hvalue, hothers⟩ := same_reading htake hrest
      exact ⟨⟨rfl, hflag.symm, hvalue⟩, hothers⟩
    | none =>
      obtain ⟨_, _, ⟨token, tokens, hbody, htoken⟩, _⟩ := hg
      subst hbody
      simp only [Group.tokens, Clause.group, hflag, List.cons_append, List.cons.injEq] at htokens
      rw [htokens.1, flag_of_dash hne'] at htoken
      cases htoken
  | none =>
    simp only [hflag] at hread
    obtain ⟨hm', hpos', ⟨token, tokens, hbody, htoken⟩, hread⟩ := hread
    cases flag with
    | some flag =>
      subst hbody
      simp only [Group.tokens, Clause.group, hflag, List.cons_append, List.cons.injEq] at htokens
      rw [← htokens.1, flag_of_dash hg.1] at htoken
      cases htoken
    | none =>
      obtain ⟨hm, hpos, _, htake⟩ := hg
      simp only [Group.tokens, Clause.group, hflag] at htokens
      obtain rfl : a = clause.argument := hq.positional_unique hm hm' hpos hpos'
      rw [htokens, hread] at htake
      obtain ⟨hvalue, hothers⟩ := same_reading htake htokens
      exact ⟨⟨rfl, hflag.symm, hvalue⟩, hothers⟩

/-! ## All clauses -/

section Clauses

variable {clauses clauses' : List Clause} {lines lines' : List (List Token)}
  {groups groups' : List Group}

theorem arguments_mem (h : List.Forall₂ (ClauseWritten q) clauses lines) :
    ∀ clause ∈ clauses, clause.argument ∈ q.arguments := by
  intro clause hm
  obtain ⟨line, _, hline⟩ := exists_of_mem_left h hm
  exact hline.mem

theorem arguments_of_gives (h : List.Forall₂ (Clause.Gives c) clauses groups) :
    groups.map Group.argument = clauses.map Clause.argument := by
  induction h with
  | nil => rfl
  | cons hg _ ih => rw [List.map_cons, List.map_cons, hg.argument, ih]

theorem gives_mem (h : List.Forall₂ (Clause.Gives c) clauses groups)
    (hm : ∀ clause ∈ clauses, clause.argument ∈ q.arguments) :
    ∀ g ∈ groups, g.argument ∈ q.arguments := by
  intro g hg
  obtain ⟨clause, hclause, hgive⟩ := exists_of_mem_right h hg
  exact hgive.argument ▸ hm clause hclause

theorem taken_of_clauses (hp : ∀ type advice, c.parses type advice = false)
    (hlines : List.Forall₂ (ClauseWritten q) clauses lines)
    (hread : ∀ clause ∈ clauses, ∃ value, clause.value c = .ok value) :
    ∃ groups, List.Forall₂ (Clause.Gives c) clauses groups ∧
      groups.flatMap Group.tokens = lines.flatten ∧ Taken q c groups := by
  induction hlines with
  | nil => exact ⟨[], .nil, rfl, .nil⟩
  | cons hline _ ih =>
    obtain ⟨⟨value, hvalue⟩, hrest⟩ := List.forall_mem_cons.mp hread
    obtain ⟨g, hg, htokens, htaken⟩ := hline.takenBefore hp hvalue
    obtain ⟨groups, hgs, hcovers, htakens⟩ := ih hrest
    exact ⟨g :: groups, .cons hg hgs, by simp [htokens, hcovers], .cons (htaken _) htakens⟩

/-- The groups that the parser takes are those of the clauses, one for each. -/
theorem clauses_of_taken (hq : q.WellMade) (hp : ∀ type advice, c.parses type advice = false)
    (hlines : List.Forall₂ (ClauseWritten q) clauses lines) (htaken : Taken q c groups)
    (hcovers : groups.flatMap Group.tokens = lines.flatten) :
    List.Forall₂ (Clause.Gives c) clauses groups := by
  induction hlines generalizing groups with
  | nil =>
    cases htaken with
    | nil => exact .nil
    | cons hg => exact absurd (List.append_eq_nil_iff.mp hcovers).1 hg.tokens_ne
  | cons hline _ ih =>
    cases htaken with
    | nil => exact absurd (List.append_eq_nil_iff.mp hcovers.symm).1 hline.ne_nil
    | cons hg hgs =>
      obtain ⟨hgives, hrest⟩ := hline.gives hq hp hg hcovers
      exact .cons hgives (ih hgs hrest)

/-- Clauses about different arguments cannot have more than one that is bare. -/
theorem countP_bare (hq : q.WellMade) (hdistinct : (clauses.map Clause.argument).Nodup)
    (hgives : List.Forall₂ (Clause.Gives c) clauses groups) (htaken : Taken q c groups) :
    groups.countP Group.isBare ≤ 1 := by
  have hnodup : (groups.map Group.argument).Nodup := arguments_of_gives hgives ▸ hdistinct
  have hsub : groups.map Group.argument ⊆ q.arguments := by
    intro a ha
    obtain ⟨g, hg, rfl⟩ := List.mem_map.mp ha
    exact (htaken.mem g hg).1
  calc groups.countP Group.isBare
      = (groups.map Group.argument).countP Argument.isPositional := by
        rw [List.countP_map]
        exact List.countP_congr fun g hg => by simp [(htaken.mem g hg).2]
    _ ≤ q.arguments.countP Argument.isPositional := (List.subperm_of_subset hnodup hsub).countP_le _
    _ ≤ 1 := hq.positional

/-- Where the parser has gone through clauses, nothing stood in the way of any of them. -/
theorem accepted_of_bound (hq : b.query.WellMade)
    (hp : ∀ type advice, b.context.parses type advice = false)
    (hlines : List.Forall₂ (ClauseWritten b.query) clauses lines)
    (h : bindAll b none lines.flatten = (b', none)) :
    (∀ clause ∈ clauses, clause.Accepted b) ∧
      ∃ groups, List.Forall₂ (Clause.Gives b.context) clauses groups ∧
        groups.foldl bindGroup b = b' := by
  obtain ⟨groups, hcovers, htaken, hbare, hfold⟩ := groups_of_bindAll (within_of_no_parses hp) hq h
  have hgives := clauses_of_taken hq hp hlines htaken hcovers
  refine ⟨fun clause hm => ?_, groups, hgives, hfold⟩
  obtain ⟨g, hg, hgive⟩ := exists_of_mem_left hgives hm
  refine ⟨⟨g.value, hgive.value⟩, fun hflag => ?_⟩
  rw [← hgive.argument]
  exact hbare.2 g hg (by simp [Group.isBare, hgive.flag, hflag])

theorem bound_of_accepted (hq : b.query.WellMade)
    (hp : ∀ type advice, b.context.parses type advice = false)
    (hdistinct : (clauses.map Clause.argument).Nodup)
    (hlines : List.Forall₂ (ClauseWritten b.query) clauses lines)
    (h : ∀ clause ∈ clauses, clause.Accepted b) : (bindAll b none lines.flatten).2 = none := by
  obtain ⟨groups, hgives, hcovers, htaken⟩ :=
    taken_of_clauses hp hlines fun clause hm => (h clause hm).read
  have hbare : BareAllowed b none groups := by
    refine ⟨countP_bare hq hdistinct hgives htaken, fun g hg hbare => ?_⟩
    obtain ⟨clause, hm, hgive⟩ := exists_of_mem_right hgives hg
    rw [hgive.argument]
    refine (h clause hm).free ?_
    rw [← hgive.flag]
    simpa [Group.isBare] using hbare
  rw [← hcovers, bindAll_groups hq htaken hbare]

/-- An argument gets the value of the clause about it, wherever that clause stands. -/
theorem named_value (hq : q.WellMade) (hdistinct : (clauses.map Clause.argument).Nodup)
    (hm : ∀ clause ∈ clauses, clause.argument ∈ q.arguments)
    (hgives : List.Forall₂ (Clause.Gives c) clauses groups) (ha : a ∈ q.arguments) :
    (lastNaming a groups).map Group.value = some value ↔
      ∃ clause ∈ clauses, clause.argument = a ∧ clause.value c = .ok value := by
  have hnamed : ∀ g, lastNaming a groups = some g →
      ∃ clause ∈ clauses, clause.argument = a ∧ clause.value c = .ok g.value := by
    intro g hlast
    obtain ⟨hg, hid⟩ := lastNaming_some hlast
    obtain ⟨clause, hclause, hgive⟩ := exists_of_mem_right hgives hg
    rw [hgive.argument] at hid
    exact ⟨clause, hclause, hq.same_argument (hm clause hclause) ha hid, hgive.value⟩
  constructor
  · intro h
    obtain ⟨g, hg, rfl⟩ := Option.map_eq_some_iff.mp h
    exact hnamed g hg
  · rintro ⟨clause, hclause, rfl, hvalue⟩
    obtain ⟨g, hg, hgive⟩ := exists_of_mem_left hgives hclause
    cases hlast : lastNaming clause.argument groups with
    | none =>
      have := List.find?_eq_none.mp hlast g (List.mem_reverse.mpr hg)
      simp [hgive.argument] at this
    | some g' =>
      obtain ⟨clause', hclause', hsame, hvalue'⟩ := hnamed g' hlast
      obtain rfl := List.inj_on_of_nodup_map hdistinct hclause' hclause hsame
      rw [hvalue', Except.ok.injEq] at hvalue
      rw [Option.map_some, hvalue]

/-- Clauses in another order make the same bindings. -/
theorem alike_of_gives (hq : b.query.WellMade)
    (hdistinct : (clauses.map Clause.argument).Nodup) (hperm : clauses.Perm clauses')
    (hm : ∀ clause ∈ clauses, clause.argument ∈ b.query.arguments)
    (hgives : List.Forall₂ (Clause.Gives b.context) clauses groups)
    (hgives' : List.Forall₂ (Clause.Gives b.context) clauses' groups') :
    (groups.foldl bindGroup b).Alike (groups'.foldl bindGroup b) := by
  obtain ⟨hquery, hcontext⟩ := foldl_frame b groups
  obtain ⟨hquery', hcontext'⟩ := foldl_frame b groups'
  refine ⟨hquery'.trans hquery.symm, hcontext'.trans hcontext.symm, fun i a hi => ?_⟩
  have hi' : b.query.arguments[i]? = some a := hquery ▸ hi
  have ha : a ∈ b.query.arguments := List.mem_iff_getElem?.mpr ⟨i, hi'⟩
  have hdistinct' := (hperm.map Clause.argument).nodup_iff.mp hdistinct
  have hm' : ∀ clause ∈ clauses', clause.argument ∈ b.query.arguments :=
    fun clause h => hm clause (hperm.mem_iff.mpr h)
  have hvalue : (lastNaming a groups').map Group.value = (lastNaming a groups).map Group.value := by
    ext value
    rw [named_value hq hdistinct hm hgives ha,
      named_value hq hdistinct' hm' hgives' ha]
    simp only [hperm.mem_iff]
  rw [← Bindings.binding_eq (hquery'.symm ▸ hq) (hquery'.symm ▸ hi'),
    ← Bindings.binding_eq (hquery.symm ▸ hq) hi,
    binding_after_groups hq ha (gives_mem hgives hm),
    binding_after_groups hq ha (gives_mem hgives' hm')]
  have hstored : ∀ groups, ((lastNaming a groups).map fun g => Bindings.stored a g.value) =
      ((lastNaming a groups).map Group.value).map (Bindings.stored a) := by
    intro groups
    rw [Option.map_map]
    rfl
  rw [hstored, hstored, hvalue]

/-- Where the environment only supplies values, clauses about different arguments may be written in
any order, each in any of its ways: all such lines are accepted or none, and the bindings are the
same to whoever asks for a value, writes them as a command or runs the query. -/
theorem bound_alike_in_any_order {r : Registry} {p : Registered} (hr : r.Reachable)
    (hp : p ∈ r.queries) (hq : p.Offers b.query) (hc : b.context = Context.ofSupplied supplied)
    (hdistinct : (clauses.map Clause.argument).Nodup) (hperm : clauses.Perm clauses')
    (hlines : List.Forall₂ (ClauseWritten b.query) clauses lines)
    (hlines' : List.Forall₂ (ClauseWritten b.query) clauses' lines') :
    ((bindAll b none lines'.flatten).2 = none ↔ (bindAll b none lines.flatten).2 = none) ∧
    ∀ bound bound', bindAll b none lines.flatten = (bound, none) →
      bindAll b none lines'.flatten = (bound', none) →
      (∀ a ∈ b.query.arguments, bound'.binding? a = bound.binding? a) ∧
      bound'.line = bound.line ∧
      (∀ i a, b.query.arguments[i]? = some a → bound'.field? i a = bound.field? i a) ∧
      bound'.given = bound.given ∧
      ∀ listener, bound'.execute listener = bound.execute listener := by
  have hmade : b.query.WellMade := (hr.sound.offered hp hq).1
  have hparses : ∀ type advice, b.context.parses type advice = false := by
    intro type advice
    rw [hc]
    rfl
  have hdistinct' := (hperm.map Clause.argument).nodup_iff.mp hdistinct
  refine ⟨⟨fun h => ?_, fun h => ?_⟩, fun bound bound' h h' => ?_⟩
  · obtain ⟨haccepted, _⟩ := accepted_of_bound hmade hparses hlines' (Prod.ext rfl h)
    exact bound_of_accepted hmade hparses hdistinct hlines fun clause hm =>
      haccepted clause (hperm.mem_iff.mp hm)
  · obtain ⟨haccepted, _⟩ := accepted_of_bound hmade hparses hlines (Prod.ext rfl h)
    exact bound_of_accepted hmade hparses hdistinct' hlines' fun clause hm =>
      haccepted clause (hperm.mem_iff.mpr hm)
  · obtain ⟨_, groups, hgives, rfl⟩ := accepted_of_bound hmade hparses hlines h
    obtain ⟨_, groups', hgives', rfl⟩ := accepted_of_bound hmade hparses hlines' h'
    have halike := alike_of_gives hmade hdistinct hperm (arguments_mem hlines) hgives hgives'
    have hquery := (foldl_frame b groups).1
    refine ⟨fun a ha => ?_, halike.line, fun i a hi => halike.field (hquery.symm ▸ hi),
      halike.given, halike.execute⟩
    exact halike.binding (hquery.symm ▸ hmade) (hquery.symm ▸ ha)

/-- The two clauses of a histogram, either of them first and with either end of the list. -/
theorem histogram_bound_in_any_order : ∃ (r : Registry) (p : Registered) (b : Bindings),
    r.Reachable ∧ p ∈ r.queries ∧ p.Offers b.query ∧ b.context = Context.ofSupplied [] ∧
    ∃ bound bound', bindAll b none [.word "-groupby", .word "BY_CLASS", .word "java.lang.*",
        .word "Point", .word ";"] = (bound, none) ∧
      bindAll b none [.word "java.lang.*", .word "Point;", .word "-groupby", .word "BY_CLASS"] =
        (bound', none) ∧ bound'.line = bound.line ∧ bound'.given = bound.given := by
  obtain ⟨q, hbuild⟩ : ∃ q, Heap.histogram.build .empty 0 = .ok q := ⟨_, rfl⟩
  obtain ⟨r, hr, hq⟩ := Registry.reachable_alone hbuild
  let b := Bindings.initial q.toQuery (Context.ofSupplied [])
  obtain ⟨a, hfind, hboolean, hsingle, hread⟩ : ∃ a, q.argumentFlagged? "groupby" = some a ∧
      a.isBoolean = false ∧ a.isMultiple = false ∧
      ∃ value, Clause.value b.context ⟨a, some "groupby", [.word "BY_CLASS"]⟩ = .ok value := by
    obtain rfl := Except.ok.inj hbuild
    exact ⟨_, rfl, rfl, rfl, _, rfl⟩
  obtain ⟨p, hm, hpos, hmultiple, hfree, hreads⟩ : ∃ p ∈ q.arguments, p.isPositional = true ∧
      p.isMultiple = true ∧ b.isBound p = false ∧ ∃ value, Clause.value b.context
        ⟨p, none, [.word "java.lang.*", .word "Point"]⟩ = .ok value := by
    obtain rfl := Except.ok.inj hbuild
    exact ⟨_, List.mem_cons_of_mem _ List.mem_cons_self, rfl, rfl, rfl, _, rfl⟩
  have hflag : ClauseWritten b.query ⟨a, some "groupby", [.word "BY_CLASS"]⟩
      [.word "-groupby", .word "BY_CLASS"] :=
    .flagged (by decide) hfind hboolean (.single hsingle)
  have hbare : ∀ {body}, Ended [.word "java.lang.*", .word "Point"] body →
      ClauseWritten b.query ⟨p, none, [.word "java.lang.*", .word "Point"]⟩ body := fun h =>
    .bare hm hpos (by simp [hmultiple]) (.list hmultiple (by decide) h)
  have hlines := List.Forall₂.cons hflag (.cons (hbare .apart) .nil)
  have hlines' := List.Forall₂.cons
    (hbare (@Ended.glued "Point" [.word "java.lang.*"] (by decide) (by decide)))
    (.cons hflag .nil)
  have hne : a ≠ p := by
    rintro rfl
    rw [(argumentFlagged_mem hfind).2] at hpos
    cases hpos
  have hdistinct : ([⟨a, some "groupby", [.word "BY_CLASS"]⟩,
      ⟨p, none, [.word "java.lang.*", .word "Point"]⟩].map Clause.argument).Nodup := by
    simpa using hne
  have haccepted := bound_of_accepted (hr.sound.offered hq (.inl rfl)).1 (fun _ _ => rfl) hdistinct
    hlines (by simpa using ⟨⟨hread, nofun⟩, ⟨hreads, fun _ => hfree⟩⟩)
  obtain ⟨hiff, halike⟩ := bound_alike_in_any_order hr hq (.inl rfl) rfl hdistinct (.swap _ _ _)
    hlines hlines'
  have haccepted' := hiff.mpr haccepted
  obtain ⟨_, hline, _, hgiven, _⟩ := halike _ _ (Prod.ext rfl haccepted) (Prod.ext rfl haccepted')
  exact ⟨r, q, b, hr, hq, .inl rfl, rfl, _, _, Prod.ext rfl haccepted, Prod.ext rfl haccepted',
    hline, hgiven⟩

end Clauses

end CommandLine

end HeapQuery
