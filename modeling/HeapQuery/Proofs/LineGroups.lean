import Mathlib.Data.List.Pairwise
import HeapQuery.Proofs.CanonicalLine
import HeapQuery.Proofs.Grammar
import HeapQuery.Proofs.LowerCase

namespace HeapQuery

open CommandLine

variable {q : Query} {c : Context} {a : Argument} {g : Group}

/-! ## Flags -/

instance : Std.Symm Argument.Apart where
  symm _ _ h := ⟨h.1.symm, fun f hf g hg => (h.2 g hg f hf).symm⟩

/-- The flags of a query are ASCII words that need no quotes. -/
def Query.PlainFlags (q : Query) : Prop :=
  ∀ a ∈ q.arguments, ∀ flag ∈ a.flag, Token.isSimple flag = true ∧ Text.isAscii flag = true

/-- A flag finds the argument that has it, where flags that are looked up alike are in small letters
the same. -/
theorem Query.WellMade.flag_found (hq : q.WellMade) (ha : a ∈ q.arguments)
    (hflag : a.flag = some flag) (hlower : ∀ p ∈ q.arguments, ∀ f ∈ p.flag,
      Text.equalsIgnoringAsciiCase f flag = true → Text.lower f = Text.lower flag) :
    q.argumentFlagged? flag = some a := by
  unfold argumentFlagged?
  cases hfind : q.arguments.find? fun a =>
      a.flag.any fun f => Text.equalsIgnoringAsciiCase f flag with
  | none =>
    have := List.find?_eq_none.mp hfind a ha
    simp [hflag, Text.equalsIgnoringAsciiCase] at this
  | some p =>
    have hp := List.mem_of_find?_eq_some hfind
    have hany : p.flag.any (fun f => Text.equalsIgnoringAsciiCase f flag) = true := by
      simpa using List.find?_some hfind
    obtain ⟨f, hf, heq⟩ := (Option.any_eq_true _ _).mp hany
    by_contra hne
    have hapart : p.Apart a := hq.apart.forall hp ha fun he => hne (congrArg some he)
    exact hapart.2 f hf flag hflag (hlower p hp f hf heq)

/-- The flag of an argument names that argument. -/
theorem Query.WellMade.flagged (hq : q.WellMade) (hflags : q.PlainFlags) (ha : a ∈ q.arguments)
    (hflag : a.flag = some flag) : q.argumentFlagged? flag = some a :=
  hq.flag_found ha hflag fun p hp f hf heq =>
    Text.lower_eq_of_equalsIgnoringAsciiCase (hflags p hp f hf).2 (hflags a ha flag hflag).2 heq

/-! ## One group -/

def Argument.Legible (a : Argument) (value : Value) : Prop :=
  if a.isMultiple then
    ∃ items, value = .list items ∧ ∀ item ∈ items, a.type.Legible a.advice item
  else a.type.Legible a.advice value

theorem ValueType.Legible.not_deferred {t : ValueType} {advice : Option Advice} {value : Value}
    (h : t.Legible advice value) : value.isDeferred = false := by
  obtain ⟨_, hplain, _⟩ := h
  cases value with
  | deferred => cases hplain
  | _ => rfl

theorem ValueType.Legible.elements {t : ValueType} {advice : Option Advice} {value : Value}
    (h : t.Legible advice value) : value.elements = [value] := by
  obtain ⟨haccepts, _⟩ := h
  cases value with
  | list => cases t <;> cases haccepts
  | _ => rfl

theorem Argument.Legible.not_deferred {value : Value} (h : a.Legible value) :
    value.isDeferred = false := by
  unfold Legible at h
  split at h
  · obtain ⟨items, rfl, _⟩ := h
    rfl
  · exact ValueType.Legible.not_deferred h

theorem Argument.Legible.spelled {value : Value} (h : a.Legible value) : Argument.Spelled value := by
  rw [spelled_plain h.not_deferred]
  unfold Legible at h
  split at h
  · obtain ⟨items, rfl, hitems⟩ := h
    exact fun item hm => (hitems item hm).not_deferred
  · rw [h.elements]
    intro item hm
    rw [List.mem_singleton.mp hm]
    exact h.not_deferred

/-- An environment that leaves the reading of plain words to the conversions. -/
def Context.Converts (c : Context) : Prop := c.read = Context.readValue

theorem Context.Converts.read {value : Value} (hc : c.Converts) {t : ValueType}
    (h : t.Legible advice value) : c.read t advice (t.textOf value) = .ok value.written := by
  rw [hc, Context.readValue, h.2.2]
  rfl

theorem isInner_token {value : Value} (h : a.canWrite true value = true) :
    isInner (a.token value) = true := by
  simp only [Argument.canWrite, Bool.true_or, Bool.true_and, Bool.not_eq_true', Bool.or_eq_false_iff]
    at h
  simp only [Argument.token, isInner, Bool.and_eq_true, bne_iff_ne]
  refine ⟨by simpa using h.1.2, by simpa using h.2⟩

/-- What a line has for a value is in the form in which the value is given, also where a semicolon
ends it. -/
theorem group_form {value : Option Value} (hc : c.Converts) (hv : ∀ v ∈ value, a.Legible v)
    (hb : a.isBoolean = false) (hg : a.group? value = some g) :
    ValueForm c a g.body g.value ∧
    (a.isMultiple = true → endsInSemicolon g.body = false ∧
      ValueForm c a (g.body ++ [.word ";"]) g.value) := by
  cases value with
  | none =>
    cases hm : a.isMultiple with
    | true => simp [Argument.group?, hm] at hg
    | false =>
      simp only [Argument.group?, hm, hb, Bool.or_self, Bool.false_eq_true, ↓reduceIte,
        Option.some.injEq] at hg
      subst hg
      exact ⟨.null hm, by simp⟩
  | some value =>
    have hlegible := hv value rfl
    rw [Argument.group_plain hlegible.not_deferred] at hg
    simp only [hb, Bool.false_eq_true, ↓reduceIte] at hg
    unfold Argument.Legible at hlegible
    cases hm : a.isMultiple with
    | true =>
      simp only [hm, ↓reduceIte] at hlegible hg
      obtain ⟨items, rfl, hitems⟩ := hlegible
      split at hg
      · cases hg
      rename_i hne
      cases hg
      simp only [Value.elements] at hne ⊢
      have hinner : ((items.filter (a.canWrite true)).map a.token).all isInner = true := by
        simp only [List.all_map, List.all_eq_true, List.mem_filter, Function.comp_apply]
        exact fun item hitem => isInner_token hitem.2
      have hwords : wordsOf ((items.filter (a.canWrite true)).map a.token) =
          (items.filter (a.canWrite true)).map a.type.textOf := by
        simp [wordsOf, List.filterMap_map, Argument.token, Function.comp_def, word?]
      have hread : List.Forall₂ (fun word value => c.read a.type a.advice word = .ok value)
          ((items.filter (a.canWrite true)).map a.type.textOf)
          ((items.filter (a.canWrite true)).map Value.written) := by
        rw [List.forall₂_map_left_iff, List.forall₂_map_right_iff, List.forall₂_same]
        exact fun item hm => hc.read (hitems item (List.mem_filter.mp hm).1)
      rw [← hwords] at hread
      have hsome : a.mandatory = true →
          wordsOf ((items.filter (a.canWrite true)).map a.token) ≠ [] := by
        intro _
        simpa [hwords] using hne
      refine ⟨.list hm (.unended hinner) hsome hread, fun _ => ⟨endsInSemicolon_inner hinner, ?_⟩⟩
      exact .list hm (.ended hinner) hsome hread
    | false =>
      simp only [hm, Bool.false_eq_true, ↓reduceIte] at hlegible hg
      split at hg
      · cases hg
        exact ⟨.word hm (hc.read hlegible), by simp⟩
      · cases hg

/-- Where no flag comes first, the group does not begin like one. -/
theorem group_head {value : Option Value} (hv : ∀ v ∈ value, a.Legible v)
    (hb : a.isBoolean = false) (hpos : a.isPositional = true) (hg : a.group? value = some g) :
    ∃ token others, g.body = token :: others ∧ token.flag? = none := by
  have hword : ∀ inList item, a.canWrite inList item = true → (a.token item).flag? = none := by
    intro inList item h
    simp only [Argument.canWrite, hpos, Bool.or_true, Bool.true_and, Bool.not_eq_true',
      Bool.or_eq_false_iff, Option.isSome_eq_false_iff, Option.isNone_iff_eq_none] at h
    exact h.1.2
  cases value with
  | none =>
    simp only [Argument.group?] at hg
    split at hg
    · cases hg
    · cases hg
      exact ⟨.null, [], rfl, rfl⟩
  | some value =>
    rw [Argument.group_plain (hv value rfl).not_deferred] at hg
    simp only [hb, Bool.false_eq_true, ↓reduceIte] at hg
    split at hg
    · split at hg
      · cases hg
      · rename_i hne
        cases hg
        obtain ⟨item, items, hitems⟩ := List.exists_cons_of_ne_nil hne
        have hm : item ∈ value.elements.filter (a.canWrite true) := by simp [hitems]
        exact ⟨a.token item, items.map a.token, by simp [hitems],
          hword true item (List.mem_filter.mp hm).2⟩
    · split at hg
      · rename_i hwrite
        cases hg
        exact ⟨a.token value, [], rfl, hword false value hwrite⟩
      · cases hg

theorem taken_of_form {body rest : List Token} {value : Option Value} (hq : q.WellMade)
    (hflags : q.PlainFlags) (ha : a ∈ q.arguments) (hp : c.parses a.type a.advice = false)
    (hb : a.isBoolean = false) (h : ValueForm c a body value)
    (hhead : a.isPositional = true → ∃ token others, body = token :: others ∧ token.flag? = none)
    (hrest : a.isMultiple = true → endsInSemicolon body = false → StartsFlag rest) :
    Group.TakenBefore q c ⟨a, a.flag, body, value⟩ rest := by
  have htake := h.takeValue hp hrest
  cases hflag : a.flag with
  | some flag =>
    have hne : flag ≠ "" := by
      rintro rfl
      exact (hq.made a ha).flag_ne hflag
    refine ⟨hne, hq.flagged hflags ha hflag, ?_⟩
    simpa [takeFlagged, hb] using htake
  | none =>
    have hpos : a.isPositional = true := by simp [Argument.isPositional, hflag]
    exact ⟨ha, hpos, hhead hpos, htake⟩

theorem group_of_switch {value : Option Value} (hv : ∀ v ∈ value, a.Legible v)
    (hb : a.isBoolean = true) (hg : a.group? value = some g) :
    a.isMultiple = false ∧ value = some (.boolean true) ∧
      ∃ flag, a.flag = some flag ∧ g = ⟨a, some flag, [], some (.boolean true)⟩ := by
  cases value with
  | none => simp [Argument.group?, hb] at hg
  | some value =>
    have hlegible := hv value rfl
    rw [Argument.group_plain hlegible.not_deferred] at hg
    simp only [hb, ↓reduceIte] at hg
    split at hg
    · rename_i flag hflag
      cases hg
      refine ⟨?_, rfl, flag, hflag, rfl⟩
      unfold Argument.Legible at hlegible
      cases hm : a.isMultiple with
      | false => rfl
      | true =>
        rw [hm] at hlegible
        obtain ⟨items, he, _⟩ := hlegible
        cases he
    · cases hg

/-- A group of legible values is taken where a flag or nothing comes next, and with its semicolon
wherever it stands. -/
theorem group_taken {value : Option Value} (hq : q.WellMade) (hflags : q.PlainFlags)
    (ha : a ∈ q.arguments) (hc : c.Converts) (hp : c.parses a.type a.advice = false)
    (hv : ∀ v ∈ value, a.Legible v) (hg : a.group? value = some g) :
    (∀ rest, StartsFlag rest → g.TakenBefore q c rest) ∧
    ∀ next rest, next.argument.isPositional = true → (g.seal next).TakenBefore q c rest := by
  cases hb : a.isBoolean with
  | true =>
    obtain ⟨hm, _, flag, hflag, rfl⟩ := group_of_switch hv hb hg
    have htaken : ∀ rest, Group.TakenBefore q c ⟨a, some flag, [], some (.boolean true)⟩ rest := by
      refine fun rest => ⟨?_, hq.flagged hflags ha hflag, by simp [takeFlagged, hb]⟩
      rintro rfl
      exact (hq.made a ha).flag_ne hflag
    refine ⟨fun rest _ => htaken rest, fun next rest _ => ?_⟩
    simpa [Group.seal, hm] using htaken rest
  | false =>
    obtain ⟨harg, hflag⟩ := Argument.group_argument hg
    obtain ⟨hform, hlist⟩ := group_form hc hv hb hg
    have hhead := fun hpos => group_head hv hb hpos hg
    obtain ⟨own, flag, body, v⟩ := g
    dsimp only at harg hflag hform hlist hhead
    subst own
    subst flag
    refine ⟨fun rest hrest => ?_, fun next rest hnext => ?_⟩
    · exact taken_of_form hq hflags ha hp hb hform hhead fun _ _ => hrest
    cases hm : a.isMultiple with
    | true =>
      have hseal : Group.seal ⟨a, a.flag, body, v⟩ next = ⟨a, a.flag, body ++ [.word ";"], v⟩ := by
        simp [Group.seal, hm, hnext]
      rw [hseal]
      refine taken_of_form hq hflags ha hp hb (hlist hm).2 (fun hpos => ?_) fun _ hopen => ?_
      · obtain ⟨token, others, hbody, htoken⟩ := hhead hpos
        exact ⟨token, others ++ [.word ";"], by rw [hbody, List.cons_append], htoken⟩
      · simp [endsInSemicolon, word?] at hopen
    | false =>
      have hseal : Group.seal ⟨a, a.flag, body, v⟩ next = ⟨a, a.flag, body, v⟩ := by
        simp [Group.seal, hm]
      rw [hseal]
      refine taken_of_form hq hflags ha hp hb hform hhead fun hmultiple => ?_
      rw [hm] at hmultiple
      cases hmultiple

/-! ## All groups -/

theorem sealAll_head (next : Group) (groups : List Group) : ∃ extra,
    (sealAll (next :: groups)).flatMap Group.tokens = next.tokens ++ extra := by
  cases groups with
  | nil => exact ⟨[], by simp [sealAll]⟩
  | cons g groups => exact ⟨_, by rw [sealAll, List.flatMap_cons, seal_tokens, List.append_assoc]⟩

/-- The groups of a line are taken one after the other, if each of them is taken before a flag and,
with its semicolon, before the bare group that comes next. -/
theorem taken_sealAll {groups : List Group}
    (hflag : ∀ g ∈ groups, ∀ rest, StartsFlag rest → g.TakenBefore q c rest)
    (hbare : groups.IsChain fun g next => next.isBare = true →
      ∀ rest, (g.seal next).TakenBefore q c (next.tokens ++ rest)) :
    Taken q c (sealAll groups) := by
  match groups with
  | [] => exact .nil
  | [g] => exact .cons (hflag g (by simp) _ (by simp [StartsFlag])) .nil
  | g :: next :: rest =>
    have ih : Taken q c (sealAll (next :: rest)) := taken_sealAll
      (fun g' hg => hflag g' (List.mem_cons_of_mem _ hg)) (List.isChain_cons_cons.mp hbare).2
    refine .cons ?_ ih
    obtain ⟨extra, hextra⟩ := sealAll_head next rest
    rw [hextra]
    cases hb : next.isBare with
    | true => exact (List.isChain_cons_cons.mp hbare).1 hb extra
    | false =>
      have hnext := hflag next (by simp) [] (by simp [StartsFlag])
      have hpos := hnext.mem.2
      have hseal : g.seal next = g := by simp [Group.seal, hpos, hb]
      rw [hseal]
      refine hflag g (by simp) _ ?_
      unfold Group.TakenBefore at hnext
      unfold Group.isBare at hb
      cases hown : next.flag with
      | none => simp [hown] at hb
      | some flag =>
        simp only [hown] at hnext
        simp [StartsFlag, Group.tokens, hown, flag_of_dash hnext.1]

/-- The groups of a line are taken where all values that the line shows are legible. -/
theorem taken_of_legible {b : Bindings} (hq : q.WellMade) (hflags : q.PlainFlags)
    (hargs : b.query.arguments = q.arguments) (hc : b.context.Converts)
    (hv : ∀ (i : Nat) (a : Argument), q.arguments[i]? = some a → b.context.supplies a = false →
      b.context.parses a.type a.advice = false ∧
      ∀ v, b.shown? i a = some (some v) → a.Legible v) :
    Taken q b.context (sealAll b.groups) := by
  have htaken : ∀ g ∈ b.groups, (∀ rest, StartsFlag rest → g.TakenBefore q b.context rest) ∧
      ∀ next rest, next.argument.isPositional = true →
        (g.seal next).TakenBefore q b.context rest := by
    intro g hg
    obtain ⟨i, a, hi, hat⟩ := Bindings.mem_groups.mp hg
    rw [hargs] at hi
    obtain ⟨hsupplied, value, hshown, hgroup⟩ := Bindings.groupAt_some hat
    obtain ⟨hp, hlegible⟩ := hv i a hi hsupplied
    refine group_taken hq hflags (List.mem_iff_getElem?.mpr ⟨i, hi⟩) hc hp (fun v hm => ?_) hgroup
    exact hlegible v (by rw [hshown, Option.mem_def.mp hm])
  refine taken_sealAll (fun g hg => (htaken g hg).1) (List.Pairwise.isChain ?_)
  refine List.pairwise_of_forall_mem_list fun g hg next hnext hbare rest => ?_
  have hpos := ((htaken next hnext).1 [] (by simp [StartsFlag])).mem.2
  exact (htaken g hg).2 next _ (hpos.trans hbare)

end HeapQuery
