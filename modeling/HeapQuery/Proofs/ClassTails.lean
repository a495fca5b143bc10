import HeapQuery.Proofs.SourceTails
import Mathlib.Logic.Basic

namespace HeapQuery.Regex.Reader

variable {verbose : Bool} {cs rest tail : List Char}

theorem stable_classPrimitive (verbose : Bool) : Stable (readClassPrimitive verbose) := by
  intro cs
  fun_cases readClassPrimitive verbose cs with
  | case1 => exact .of_none rfl
  | case2 rest => exact .cons (stable_escape verbose)
  | case3 c rest hne =>
    refine .cons ?_
    simp only [readClassPrimitive]
    exact .give _

theorem readDashes_append {fuel fuel' : Nat} {items items' : List ClassItem}
    (h : readDashes verbose fuel items cs = some (items', rest)) (hfuel : fuel ≤ fuel') :
    rest ≠ [] ∧ rest <:+ cs ∧
      ∀ tail, readDashes verbose fuel' items (cs ++ tail) = some (items', rest ++ tail) := by
  fun_induction readDashes verbose fuel items cs generalizing fuel' with
  | case1 => cases h
  | case2 => cases h
  | case3 fuel items cs ih =>
    obtain ⟨fuel', rfl⟩ : ∃ n, fuel' = n + 1 := ⟨fuel' - 1, by omega⟩
    obtain ⟨hne, hsuffix, htail⟩ := ih h (Nat.le_of_succ_le_succ hfuel)
    refine ⟨hne, hsuffix.trans ((skip_suffix verbose cs).trans (List.suffix_cons _ cs)), ?_⟩
    intro tail
    cases hskip : skip verbose cs with
    | nil => exact absurd (List.suffix_nil.mp (hskip ▸ hsuffix)) hne
    | cons c rest' =>
      rw [hskip] at htail
      simp only [List.cons_append, readDashes, skip_of_cons hskip]
      exact htail tail
  | case4 fuel items cs hnil hdash =>
    obtain ⟨fuel', rfl⟩ : ∃ n, fuel' = n + 1 := ⟨fuel' - 1, by omega⟩
    obtain ⟨rfl, rfl⟩ := Prod.mk.inj (Option.some.inj h)
    refine ⟨hnil, List.suffix_refl _, fun tail => ?_⟩
    cases cs with
    | nil => exact absurd rfl hnil
    | cons c cs =>
      have hne : c ≠ '-' := fun he => hdash cs (by rw [he])
      simp [readDashes, hne]

def openItems (verbose negated : Bool) (cs : List Char) :
    Option (Bool × List ClassItem × List Char) := do
  let (items, cs) ← readDashes verbose (cs.length + 1) [] cs
  match items, cs with
  | [], ']' :: rest =>
    let rest := skip verbose rest
    if rest.isEmpty then none else some (negated, [.literal ⟨']', false⟩], rest)
  | items, cs => some (negated, items, cs)

theorem openClass_caret (h : skip verbose cs = '^' :: rest) :
    openClass verbose cs = openItems verbose true (skip verbose rest) := by
  simp only [openClass, h]
  rfl

theorem openClass_no_caret (h : (skip verbose cs).head? ≠ some '^') :
    openClass verbose cs = openItems verbose false (skip verbose cs) := by
  simp only [openClass]
  split
  · rename_i hcaret
    exact absurd (congrArg List.head? hcaret) h
  · rfl

theorem openItems_append {negated negated' : Bool} {items : List ClassItem}
    (h : openItems verbose negated cs = some (negated', items, rest)) : rest <:+ cs ∧
      ∀ tail, openItems verbose negated (cs ++ tail) = some (negated', items, rest ++ tail) := by
  obtain ⟨⟨dashes, mid⟩, hdashes, h⟩ := Option.bind_eq_some_iff.mp h
  obtain ⟨hne, hsuffix, -⟩ := readDashes_append hdashes (Nat.le_refl _)
  have hmore (tail : List Char) := (readDashes_append hdashes
    (show cs.length + 1 ≤ (cs ++ tail).length + 1 by simp)).2.2 tail
  simp only [openItems, hmore]
  dsimp only at h
  split at h
  · rename_i inner
    have hinner : skip verbose inner <:+ cs :=
      (skip_suffix verbose inner).trans ((List.suffix_cons _ inner).trans hsuffix)
    cases hskip : skip verbose inner with
    | nil => simp [hskip] at h
    | cons c cs =>
      rw [hskip] at h hinner
      cases h
      exact ⟨hinner, fun tail => by simp [skip_of_cons hskip]⟩
  · rename_i hother
    cases h
    refine ⟨hsuffix, fun tail => ?_⟩
    obtain ⟨c, cs', rfl⟩ := List.exists_cons_of_ne_nil hne
    simp only [List.cons_append, Option.bind_eq_bind, Option.bind_some]
    split
    · rename_i hcons
      obtain ⟨rfl, _⟩ := List.cons.inj hcons
      exact absurd rfl (hother cs' rfl)
    · rfl

theorem stable_openItems (verbose negated : Bool) : Stable (openItems verbose negated) :=
  .of_append fun _ _ h => openItems_append h

theorem stable_openClass (verbose : Bool) : Stable (openClass verbose) := by
  refine .of_head (c := '^') verbose (by decide) (fun cs => by simp only [openClass, skip_skip]) ?_
    (stable_openItems verbose false) ?_
  · intro hskip rest
    refine .cons ?_
    simp only [openClass_caret (hskip _)]
    exact (stable_openItems verbose true).skipped verbose
  · intro cs hcs hc
    rw [openClass_no_caret (hcs.symm ▸ hc), hcs]

/-- The names of ASCII classes are made of letters. -/
theorem ofName?_letters {name : List Char} {k : AsciiClass}
    (h : AsciiClass.ofName? (String.ofList name) = some k) : ∀ c ∈ name, c.isLower = true := by
  have hname : name = (String.ofList name).toList := (String.toList_ofList).symm
  rw [hname, ← List.all_eq_true]
  generalize String.ofList name = text at h
  unfold AsciiClass.ofName? at h
  split at h
  all_goals first | rfl | cases h

def readAsciiName? (negated : Bool) (cs : List Char) : Option (ClassItem × List Char) :=
  match cs.dropWhile (· != ':') with
  | ':' :: ']' :: rest =>
    (AsciiClass.ofName? (String.ofList (cs.takeWhile (· != ':')))).map fun k =>
      (.ascii k negated, rest)
  | _ => none

theorem readAsciiClass?_no_caret (h : cs.head? ≠ some '^') :
    readAsciiClass? (':' :: cs) = readAsciiName? false cs := by
  cases cs with
  | nil => rfl
  | cons c cs =>
    have hc : c ≠ '^' := fun he => h (by rw [he, List.head?_cons])
    simp only [readAsciiClass?, List.cons.injEq, hc, false_and, imp_false, not_false_eq_true,
      implies_true]
    rfl

theorem readAsciiName?_eq_some_iff {negated : Bool} {item : ClassItem} :
    readAsciiName? negated cs = some (item, rest) ↔ ∃ name k, cs = name ++ ':' :: ']' :: rest ∧
      AsciiClass.ofName? (String.ofList name) = some k ∧ item = .ascii k negated := by
  constructor
  · intro h
    unfold readAsciiName? at h
    split at h
    · rename_i hdrop
      obtain ⟨k, hk, he⟩ := Option.map_eq_some_iff.mp h
      obtain ⟨rfl, rfl⟩ := Prod.mk.inj he
      refine ⟨_, k, ?_, hk, rfl⟩
      rw [← hdrop, List.takeWhile_append_dropWhile]
    · cases h
  · rintro ⟨name, k, rfl, hk, rfl⟩
    have hcolon : ∀ c ∈ name, (c != ':') = true := by
      intro c hc
      have hlower := ofName?_letters hk c hc
      simp only [bne_iff_ne]
      rintro rfl
      cases hlower
    simp [readAsciiName?, List.takeWhile_append_of_pos hcolon, List.dropWhile_append_of_pos hcolon,
      hk]

theorem readAsciiClass?_eq_some_iff {item : ClassItem} : readAsciiClass? cs = some (item, rest) ↔
    ∃ negated name k, cs = ':' :: (if negated then ['^'] else []) ++ name ++ ':' :: ']' :: rest ∧
      AsciiClass.ofName? (String.ofList name) = some k ∧ item = .ascii k negated := by
  constructor
  · intro h
    cases cs with
    | nil => cases h
    | cons c cs =>
      obtain rfl : c = ':' := by
        unfold readAsciiClass? at h
        split at h
        · rename_i hcons
          exact (List.cons.inj hcons).1
        · cases h
      by_cases hcaret : cs.head? = some '^'
      · obtain ⟨cs, rfl⟩ : ∃ rest, cs = '^' :: rest := List.head?_eq_some_iff.mp hcaret
        obtain ⟨name, k, rfl, hk, rfl⟩ := readAsciiName?_eq_some_iff.mp h
        exact ⟨true, name, k, rfl, hk, rfl⟩
      · rw [readAsciiClass?_no_caret hcaret] at h
        obtain ⟨name, k, rfl, hk, rfl⟩ := readAsciiName?_eq_some_iff.mp h
        exact ⟨false, name, k, rfl, hk, rfl⟩
  · rintro ⟨negated, name, k, rfl, hk, rfl⟩
    have hname : readAsciiName? negated (name ++ ':' :: ']' :: rest) =
        some (.ascii k negated, rest) := readAsciiName?_eq_some_iff.mpr ⟨name, k, rfl, hk, rfl⟩
    cases negated with
    | true => exact hname
    | false =>
      refine (readAsciiClass?_no_caret ?_).trans hname
      intro hhead
      cases name with
      | nil => cases hhead
      | cons c name =>
        obtain rfl : c = '^' := Option.some.inj hhead
        cases ofName?_letters hk _ List.mem_cons_self

theorem stable_asciiClass : Stable readAsciiClass? := by
  refine .of_append fun cs ⟨item, rest⟩ h => ?_
  obtain ⟨negated, name, k, rfl, hk, rfl⟩ := readAsciiClass?_eq_some_iff.mp h
  refine ⟨⟨':' :: (if negated then ['^'] else []) ++ name ++ [':', ']'], by simp⟩, fun tail => ?_⟩
  exact readAsciiClass?_eq_some_iff.mpr ⟨negated, name, k, by simp, hk, rfl⟩

/-- With a tail behind it, no text becomes a class that was none before. -/
theorem readAsciiClass?_append (h : readAsciiClass? cs = none) (hclose : Closes tail) :
    readAsciiClass? (cs ++ tail) = none := by
  cases hsome : readAsciiClass? (cs ++ tail) with
  | none => rfl
  | some r =>
    obtain ⟨negated, name, k, hcs, hk, -⟩ := readAsciiClass?_eq_some_iff.mp hsome
    obtain ⟨text, rfl, -⟩ := hclose
    -- The parenthesis cannot stand inside the class, so the class ends in front of it.
    have hfront : ')' ∉ ':' :: (if negated then ['^'] else []) ++ name ++ [':', ']'] := by
      have hname : ')' ∉ name := fun hm => by cases ofName?_letters hk _ hm
      cases negated <;> simp [hname]
    obtain ⟨rest, rfl⟩ : ∃ rest,
        cs = ':' :: (if negated then ['^'] else []) ++ name ++ ':' :: ']' :: rest := by
      rw [List.append_cons _ ':', List.append_cons _ ']', List.append_assoc _ [':']] at hcs
      rcases List.append_eq_append_iff.mp hcs with ⟨middle, hmiddle, htext⟩ | ⟨rest, hrest, _⟩
      · cases middle with
        | nil => exact ⟨[], by simpa using hmiddle.symm⟩
        | cons c middle =>
          obtain ⟨rfl, _⟩ := List.cons.inj htext
          have hmem : ')' ∈ cs ++ ')' :: middle := by simp
          rw [← hmiddle] at hmem
          exact absurd hmem hfront
      · exact ⟨rest, by simpa using hrest⟩
    rw [readAsciiClass?_eq_some_iff.mpr ⟨negated, name, k, rfl, hk, rfl⟩] at h
    cases h

theorem look_append {remark : Bool} {c : Char} (h : peek.look remark cs = some c)
    (tail : List Char) : peek.look remark (cs ++ tail) = some c := by
  fun_induction peek.look remark cs <;> simp_all [peek.look]

theorem skipRemarks_of_look {remark : Bool} (h : peek.look remark cs = none) :
    skipRemarks remark cs = [] ∧ (remark = true → skipRemarks false cs = []) := by
  fun_induction peek.look remark cs with
  | case1 => exact ⟨rfl, fun _ => rfl⟩
  | case2 remark c rest hblank ih =>
    obtain ⟨hskip, hremark⟩ := ih h
    cases remark with
    | true =>
      simp only [skipRemarks, ↓reduceIte, Bool.false_eq_true, hblank]
      refine ⟨?_, fun _ => hremark rfl⟩
      cases c != '\n'
      · exact hremark rfl
      · exact hskip
    | false => simpa [skipRemarks, hblank] using hskip
  | case3 remark c rest hblank hc ih =>
    simp only [Bool.and_eq_true, Bool.not_eq_eq_eq_not, Bool.not_true, beq_iff_eq] at hc
    obtain ⟨rfl, rfl⟩ := hc
    simpa [skipRemarks, hblank] using (ih h).1
  | case4 => cases h

/-- What counts next does not change with a tail behind it, unless nothing is left to read. -/
theorem peek_append (verbose : Bool) (c : Char) (cs : List Char) :
    (∀ tail, peek verbose (c :: (cs ++ tail)) = peek verbose (c :: cs)) ∨
      skip verbose cs = [] ∧ peek verbose (c :: cs) ≠ some ']' ∧
        peek verbose (c :: cs) ≠ some '-' := by
  cases verbose with
  | false =>
    cases cs with
    | nil => exact .inr ⟨rfl, nofun, nofun⟩
    | cons d cs => exact .inl fun tail => rfl
  | true =>
    cases hlook : peek.look false cs with
    | some d =>
      refine .inl fun tail => ?_
      simp only [peek, hlook, look_append hlook tail]
      rfl
    | none =>
      refine .inr ⟨(skipRemarks_of_look hlook).1, ?_⟩
      simp only [peek, hlook, ↓reduceIte, Option.none_or]
      cases cs with
      | nil => exact ⟨nofun, nofun⟩
      | cons d cs =>
        simp only [List.head?_cons, ne_eq, Option.some.injEq]
        constructor <;> rintro rfl <;> cases hlook

def readRangeEnd (verbose : Bool) (first : Primitive) (cs : List Char) :
    Option (ClassItem × List Char) := do
  let (last, rest) ← readClassPrimitive verbose (skip verbose cs)
  let first ← first.literal?
  let last ← last.literal?
  if first.char ≤ last.char then some (.range first last, rest) else none

theorem stable_rangeEnd (verbose : Bool) (first : Primitive) :
    Stable (readRangeEnd verbose first) := by
  refine ((stable_classPrimitive verbose).skipped verbose).bind fun (last, _) => .guard fun a => ?_
  dsimp only [leave_pair, leave_text]
  refine .guard fun b => ?_
  split
  · exact .give _
  · exact .fail

theorem stable_classItem (verbose : Bool) : Stable (readClassItem verbose) := by
  refine (stable_classPrimitive verbose).bind fun (first, _) => ?_
  dsimp only [leave_pair, leave_text]
  have hitem : Stable fun cs => first.classItem?.bind fun item => some (item, cs) :=
    .guard fun item => .give item
  refine .of_skip verbose (fun cs => by simp only [skip_skip]) fun cs hcs => ?_
  cases cs with
  | nil => exact .of_none (by simp only [hcs])
  | cons c after =>
    by_cases hdash : c = '-'
    · subst hdash
      rcases peek_append verbose '-' after with hpeek | ⟨hnil, hbracket, hdash⟩
      · cases hnext : peek verbose ('-' :: after) == some ']' ||
            peek verbose ('-' :: after) == some '-' with
        | true =>
          refine .of_eq (hitem _) ?_ fun tail _ => ?_
          · simp only [hcs, hnext, ↓reduceIte]
            rfl
          · simp only [List.cons_append, skip_of_eq_cons hcs, hpeek tail, hnext, ↓reduceIte]
            rfl
        | false =>
          refine .of_eq (g := fun cs => readRangeEnd verbose first (cs.drop 1))
            (.cons (stable_rangeEnd verbose first)) ?_ fun tail _ => ?_
          · simp only [hcs, hnext]
            rfl
          · simp only [List.cons_append, skip_of_eq_cons hcs, hpeek tail, hnext]
            rfl
      · refine .of_none ?_
        simp [hcs, hnil, hbracket, hdash, readClassPrimitive]
    · refine .of_eq (hitem _) ?_ fun tail _ => ?_
      · simp only [hcs, List.cons.injEq, hdash, false_and, imp_false, not_false_eq_true,
          implies_true]
        rfl
      · simp only [List.cons_append, skip_of_eq_cons hcs, List.cons.injEq, hdash, false_and,
          imp_false, not_false_eq_true, implies_true]
        rfl

def BeginsItem (cs : List Char) : Prop :=
  cs.head? ≠ some '[' ∧ cs.head? ≠ some ']' ∧ ¬['&', '&'] <+: cs ∧ ¬['-', '-'] <+: cs ∧
    ¬['~', '~'] <+: cs

theorem stepClass_item (s : ClassState) (h : BeginsItem cs) :
    stepClass verbose { s with rest := cs } = (readClassItem verbose cs).map fun r =>
      .inl { s with items := r.1 :: s.items, rest := r.2 } := by
  obtain ⟨hopen, hclose, hand, hminus, hxor⟩ := h
  unfold stepClass
  split
  · rename_i hcs
    obtain rfl : cs = [] := hcs
    rfl
  · rename_i hcs
    exact absurd (congrArg List.head? hcs) hopen
  · rename_i hcs
    exact absurd (congrArg List.head? hcs) hclose
  · rename_i rest hcs
    exact absurd ⟨rest, hcs.symm⟩ hand
  · rename_i rest hcs
    exact absurd ⟨rest, hcs.symm⟩ hminus
  · rename_i rest hcs
    exact absurd ⟨rest, hcs.symm⟩ hxor
  · dsimp only
    cases readClassItem verbose cs <;> rfl

theorem pair_append {c d : Char} (hclose : Closes tail) (hc : c ≠ ')') (hd : d ≠ ')')
    (h : ¬[c, d] <+: cs) : ¬[c, d] <+: cs ++ tail := by
  obtain ⟨text, rfl, -⟩ := hclose
  rcases cs with _ | ⟨a, _ | ⟨b, cs⟩⟩
  · simp [hc]
  · simp [hd]
  · simpa using h

theorem BeginsItem.append (h : BeginsItem cs) (hclose : Closes tail) :
    BeginsItem (cs ++ tail) := by
  obtain ⟨hopen, hend, hand, hminus, hxor⟩ := h
  exact ⟨head?_append_ne hclose (by decide) hopen, head?_append_ne hclose (by decide) hend,
    pair_append hclose (by decide) (by decide) hand,
    pair_append hclose (by decide) (by decide) hminus,
    pair_append hclose (by decide) (by decide) hxor⟩

theorem stable_stepClass (verbose : Bool) (s : ClassState) :
    Stable fun cs => stepClass verbose { s with rest := cs } := by
  intro cs
  by_cases hitem : BeginsItem cs
  · exact .of_eq ((stable_classItem verbose).map _ (fun _ _ => rfl) cs) (stepClass_item s hitem)
      fun tail hclose => stepClass_item s (hitem.append hclose)
  simp only [BeginsItem, not_and_or, not_not] at hitem
  rcases hitem with hopen | hend | ⟨rest, rfl⟩ | ⟨rest, rfl⟩ | ⟨rest, rfl⟩
  · obtain ⟨rest, rfl⟩ : ∃ rest, cs = '[' :: rest := List.head?_eq_some_iff.mp hopen
    refine .cons fun rest => ?_
    cases hascii : readAsciiClass? rest with
    | none =>
      refine .of_eq (g := fun rest => (openClass verbose rest).map fun r =>
        .inl ⟨.opened s.items r.1 :: s.stack, r.2.1, r.2.2⟩)
        ((stable_openClass verbose).map _ (fun _ _ => rfl) rest) ?_ fun tail hclose => ?_
      · simp only [stepClass, hascii]
        cases openClass verbose rest <;> rfl
      · simp only [stepClass, readAsciiClass?_append hascii hclose]
        cases openClass verbose (rest ++ tail) <;> rfl
    | some r =>
      refine .of_eq (g := fun rest => (readAsciiClass? rest).map fun r =>
        .inl { s with items := r.1 :: s.items, rest := r.2 })
        (stable_asciiClass.map _ (fun _ _ => rfl) rest) ?_ fun tail hclose => ?_
      · simp only [stepClass, hascii]
        rfl
      · obtain ⟨-, lost, -, htail⟩ := stable_asciiClass rest r hascii
        simp only [stepClass, htail tail hclose]
        rfl
  · obtain ⟨rest, rfl⟩ : ∃ rest, cs = ']' :: rest := List.head?_eq_some_iff.mp hend
    refine .cons (.still (stepClass verbose { s with rest := [']'] }) fun cs => ?_)
    simp only [stepClass, ClassState.body]
    cases (closeOperator (.items s.items.reverse) s.stack).2 with
    | nil => rfl
    | cons frame stack =>
      cases frame with
      | left => rfl
      | opened => cases stack <;> rfl
  · exact .behind ['&', '&'] (Stable.leave (Sum.inl (s.operator .intersection [])) rest)
  · exact .behind ['-', '-'] (Stable.leave (Sum.inl (s.operator .difference [])) rest)
  · exact .behind ['~', '~'] (Stable.leave (Sum.inl (s.operator .symmetricDifference [])) rest)

theorem readClass_succ (verbose : Bool) (fuel : Nat) (s : ClassState) :
    readClass verbose (fuel + 1) s = (stepClass verbose { s with rest := skip verbose s.rest }).bind
      (Sum.elim (readClass verbose fuel) some) := by
  simp only [readClass]
  split <;> simp [*]

theorem stable_readClass (verbose : Bool) (fuel : Nat) (s : ClassState) :
    Stable fun cs => readClass verbose fuel { s with rest := cs } := by
  induction fuel generalizing s with
  | zero => exact .fail
  | succ fuel ih =>
    simp only [readClass_succ]
    refine ((stable_stepClass verbose s).skipped verbose).bind fun r => ?_
    cases r with
    | inl next => exact ih next
    | inr result => exact .leave result

theorem readClass_mono {fuel fuel' : Nat} {s : ClassState} {r : Bool × ClassBody × List Char}
    (h : readClass verbose fuel s = some r) (hfuel : fuel ≤ fuel') :
    readClass verbose fuel' s = some r := by
  induction fuel generalizing fuel' s with
  | zero => cases h
  | succ fuel ih =>
    obtain ⟨fuel', rfl⟩ : ∃ n, fuel' = n + 1 := ⟨fuel' - 1, by omega⟩
    simp only [readClass] at h ⊢
    split at h
    · cases h
    · exact h
    · exact ih h (Nat.le_of_succ_le_succ hfuel)

end HeapQuery.Regex.Reader
