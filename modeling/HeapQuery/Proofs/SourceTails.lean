import HeapQuery.Regex.Expr.Reader

namespace HeapQuery.Regex.Reader

open HeapQuery.Number (digitValue?)

/-- A text on one line that begins with a closing parenthesis. -/
def Closes (tail : List Char) : Prop := ∃ text, tail = ')' :: text ∧ '\n' ∉ tail

/-- What is left where `rest` was left and `tail` follows, which is `lost` to a remark or not. -/
def leftover (lost : Bool) (rest tail : List Char) : List Char := if lost then [] else rest ++ tail

/-- The tail is lost only where nothing is left and `cs` has a remark. -/
def MayLose (lost : Bool) (cs rest : List Char) : Prop := lost = true → rest = [] ∧ '#' ∈ cs

class Reading (β : Type) where
  left : β → List Char
  leave : β → List Char → β
  leave_left (b : β) : leave b (left b) = b
  left_leave (b : β) (cs : List Char) : left (leave b cs) = cs
  leave_leave (b : β) (cs cs' : List Char) : leave (leave b cs) cs' = leave b cs'

open Reading (left leave leave_left left_leave leave_leave)

attribute [simp] leave_left left_leave leave_leave

instance : Reading (List Char) where
  left cs := cs
  leave _ cs := cs
  leave_left _ := rfl
  left_leave _ _ := rfl
  leave_leave _ _ _ := rfl

instance [Reading β] : Reading (α × β) where
  left r := left r.2
  leave r cs := (r.1, leave r.2 cs)
  leave_left _ := by simp
  left_leave _ _ := by simp
  leave_leave _ _ _ := by simp

@[simp] theorem left_text (cs : List Char) : left cs = cs := rfl

@[simp] theorem leave_text (cs rest : List Char) : leave cs rest = rest := rfl

@[simp] theorem left_pair [Reading β] (a : α) (b : β) : left (a, b) = left b := rfl

@[simp] theorem leave_pair [Reading β] (a : α) (b : β) (rest : List Char) :
    leave (a, b) rest = (a, leave b rest) := rfl

instance [Reading α] [Reading β] : Reading (α ⊕ β) where
  left := Sum.elim left left
  leave r cs := r.map (leave · cs) (leave · cs)
  leave_left r := by cases r <;> simp
  left_leave r _ := by cases r <;> simp
  leave_leave r _ _ := by cases r <;> simp

instance : Reading ClassState where
  left := ClassState.rest
  leave s cs := { s with rest := cs }
  leave_left _ := rfl
  left_leave _ _ := rfl
  leave_leave _ _ _ := rfl

instance : Reading State where
  left := State.rest
  leave s cs := { s with rest := cs }
  leave_left _ := rfl
  left_leave _ _ := rfl
  leave_leave _ _ _ := rfl

/-- What `f` reads of `cs` it reads also where a closing tail follows. -/
def StableAt [Reading β] (f : List Char → Option β) (cs : List Char) : Prop :=
  ∀ b, f cs = some b → left b <:+ cs ∧ ∃ lost, MayLose lost cs (left b) ∧
    ∀ tail, Closes tail → f (cs ++ tail) = some (leave b (leftover lost (left b) tail))

def Stable [Reading β] (f : List Char → Option β) : Prop := ∀ cs, StableAt f cs

variable {β γ : Type} [Reading β] [Reading γ] {f : List Char → Option β}
  {verbose : Bool} {cs rest tail : List Char}

/-! ## Blanks and remarks -/

theorem skipRemarks_suffix (inside : Bool) (cs : List Char) : skipRemarks inside cs <:+ cs := by
  induction cs generalizing inside with
  | nil => exact List.suffix_refl []
  | cons c cs ih =>
    unfold skipRemarks
    split
    · exact (ih _).trans (List.suffix_cons c cs)
    split
    · exact (ih _).trans (List.suffix_cons c cs)
    split
    · exact (ih _).trans (List.suffix_cons c cs)
    · exact List.suffix_refl _

theorem skip_suffix (verbose : Bool) (cs : List Char) : skip verbose cs <:+ cs := by
  unfold skip
  split
  · exact skipRemarks_suffix false cs
  · exact List.suffix_refl cs

theorem skipRemarks_of_cons {inside : Bool} (h : skipRemarks inside cs = c :: rest)
    (tail : List Char) : skipRemarks inside (cs ++ tail) = c :: (rest ++ tail) := by
  fun_induction skipRemarks inside cs <;> simp_all [skipRemarks]

/-- Where something is left, it is left with everything behind it. -/
theorem skip_of_cons (h : skip verbose cs = c :: rest) (tail : List Char) :
    skip verbose (cs ++ tail) = c :: (rest ++ tail) := by
  unfold skip at h ⊢
  cases verbose with
  | true => exact skipRemarks_of_cons h tail
  | false =>
    simp only [Bool.false_eq_true, ↓reduceIte] at h ⊢
    rw [h, List.cons_append]

theorem skipRemarks_lost (h : '\n' ∉ tail) : skipRemarks true tail = [] := by
  induction tail with
  | nil => rfl
  | cons c tail ih =>
    simp only [List.mem_cons, not_or] at h
    have hne : (c != '\n') = true := by simpa using Ne.symm h.1
    simp only [skipRemarks, ↓reduceIte, hne]
    exact ih h.2

theorem skipRemarks_closing (h : Closes tail) : skipRemarks false tail = tail := by
  obtain ⟨text, rfl, _⟩ := h
  rfl

/-- Where nothing is left, a tail is left or falls into a remark. -/
theorem skipRemarks_of_nil {inside : Bool} (h : skipRemarks inside cs = []) :
    ∃ lost, (lost = true → inside = true ∨ '#' ∈ cs) ∧
      ∀ tail, Closes tail → skipRemarks inside (cs ++ tail) = leftover lost [] tail := by
  induction cs generalizing inside with
  | nil =>
    refine ⟨inside, .inl, fun tail htail => ?_⟩
    cases inside with
    | true =>
      obtain ⟨_, _, hline⟩ := htail
      exact skipRemarks_lost hline
    | false => exact skipRemarks_closing htail
  | cons c cs ih =>
    simp only [skipRemarks] at h
    simp only [List.cons_append, skipRemarks]
    split at h
    · rename_i hinside
      obtain ⟨lost, _, htail⟩ := ih h
      exact ⟨lost, fun _ => .inl hinside, by simpa [hinside] using htail⟩
    rename_i hinside
    split at h
    · rename_i hblank
      obtain ⟨lost, hlost, htail⟩ := ih h
      refine ⟨lost, fun hl => .inr ?_, by simpa [hinside, hblank] using htail⟩
      rcases hlost hl with hin | hremark
      · cases hin
      · exact List.mem_cons_of_mem c hremark
    rename_i hblank
    split at h
    · rename_i hremark
      obtain ⟨lost, _, htail⟩ := ih h
      refine ⟨lost, fun _ => .inr ?_, by simpa [hinside, hblank, hremark] using htail⟩
      rw [beq_iff_eq.mp hremark]
      exact List.mem_cons_self
    · cases h

theorem skip_skip (verbose : Bool) (cs : List Char) :
    skip verbose (skip verbose cs) = skip verbose cs := by
  have hremarks (inside : Bool) : skipRemarks false (skipRemarks inside cs) =
      skipRemarks inside cs := by
    fun_induction skipRemarks inside cs <;> simp_all [skipRemarks]
  unfold skip
  split
  · exact hremarks false
  · rfl

/-- Blanks and remarks are passed over in the same way where a tail follows. -/
theorem stable_skip (verbose : Bool) : Stable fun cs => some (skip verbose cs) := by
  rintro cs _ ⟨⟩
  refine ⟨skip_suffix verbose cs, ?_⟩
  cases hskip : skip verbose cs with
  | cons c rest => exact ⟨false, nofun, fun tail _ => congrArg some (skip_of_cons hskip tail)⟩
  | nil =>
    unfold skip at hskip ⊢
    cases verbose with
    | true =>
      obtain ⟨lost, hlost, htail⟩ := skipRemarks_of_nil hskip
      refine ⟨lost, fun hl => ⟨rfl, (hlost hl).resolve_left nofun⟩, fun tail hclose => ?_⟩
      exact congrArg some (htail tail hclose)
    | false =>
      obtain rfl : cs = [] := hskip
      exact ⟨false, nofun, fun tail _ => rfl⟩

/-! ## Readers put together -/

theorem MayLose.mono {lost : Bool} {cs' : List Char} (h : MayLose lost cs rest) (hs : cs <:+ cs') :
    MayLose lost cs' rest :=
  fun hl => ⟨(h hl).1, hs.mem (h hl).2⟩

theorem Stable.leave (b : β) : Stable fun cs => some (leave b cs) := by
  rintro cs _ ⟨⟩
  rw [left_leave]
  exact ⟨List.suffix_refl cs, false, nofun, fun tail _ => by simp [leftover]⟩

theorem Stable.give (a : α) : Stable fun cs => some (a, cs) := .leave (a, [])

theorem Stable.fail : Stable fun _ => (none : Option β) := nofun

/-- A reader that looks at nothing. -/
theorem Stable.still (o : Option β) (h : ∀ cs, f cs = o.map (Reading.leave · cs)) : Stable f := by
  obtain rfl : f = fun cs => o.map (Reading.leave · cs) := funext h
  cases o with
  | none => exact .fail
  | some b => exact .leave b

theorem StableAt.bind {g : β → Option γ} (hf : StableAt f cs)
    (hg : ∀ b, f cs = some b → StableAt (fun cs => g (Reading.leave b cs)) (left b)) :
    StableAt (fun cs => (f cs).bind g) cs := by
  intro c h
  obtain ⟨b, hb, hc⟩ := Option.bind_eq_some_iff.mp h
  obtain ⟨hsuffix, lost, hlost, htail⟩ := hf b hb
  obtain ⟨hsuffix', lost', hlost', htail'⟩ := hg b hb c (by simpa using hc)
  refine ⟨hsuffix'.trans hsuffix, lost || lost', ?_, ?_⟩
  · intro hl
    cases lost with
    | true =>
      obtain ⟨hnil, hremark⟩ := hlost rfl
      exact ⟨List.suffix_nil.mp (hnil ▸ hsuffix'), hremark⟩
    | false => exact hlost'.mono hsuffix hl
  · intro tail hclose
    simp only [htail tail hclose, Option.bind_some]
    cases lost with
    | true =>
      have hnil : left b = [] := (hlost rfl).1
      have hnil' : left c = [] := List.suffix_nil.mp (hnil ▸ hsuffix')
      simp only [leftover, Bool.true_or, ↓reduceIte]
      rw [← hnil, leave_left, hc, hnil, ← hnil', leave_left]
    | false => exact htail' tail hclose

theorem Stable.bind {g : β → Option γ} (hf : Stable f)
    (hg : ∀ b, Stable fun cs => g (Reading.leave b cs)) : Stable fun cs => (f cs).bind g :=
  fun cs => (hf cs).bind fun b _ => hg b (left b)

theorem Stable.map (hf : Stable f) (g : β → γ)
    (hg : ∀ b cs, g (Reading.leave b cs) = Reading.leave (g b) cs) :
    Stable fun cs => (f cs).map g := by
  simp only [Option.map_eq_bind]
  refine hf.bind fun b => ?_
  simp only [Function.comp_apply, hg]
  exact .leave (g b)

theorem Stable.guard {o : Option α} {g : α → List Char → Option β} (hg : ∀ a, Stable (g a)) :
    Stable fun cs => o.bind fun a => g a cs := by
  cases o with
  | none => exact .fail
  | some a => exact hg a

theorem Stable.after {g : List Char → List Char} (hf : Stable f)
    (hg : Stable fun cs => some (g cs)) : Stable fun cs => f (g cs) :=
  hg.bind fun _ => hf

theorem Stable.skipped (hf : Stable f) (verbose : Bool) : Stable fun cs => f (skip verbose cs) :=
  hf.after (stable_skip verbose)

/-- A reader that goes on behind the characters in front. -/
theorem StableAt.behind (front : List Char) (h : StableAt (fun rest => f (front ++ rest)) cs) :
    StableAt f (front ++ cs) := by
  intro b hb
  obtain ⟨hsuffix, lost, hlost, htail⟩ := h b hb
  have hfront := List.suffix_append front cs
  refine ⟨hsuffix.trans hfront, lost, hlost.mono hfront, fun tail hclose => ?_⟩
  rw [List.append_assoc]
  exact htail tail hclose

theorem StableAt.cons {c : Char} (h : Stable fun rest => f (c :: rest)) : StableAt f (c :: cs) :=
  .behind [c] (h cs)

theorem StableAt.of_none (h : f cs = none) : StableAt f cs := by
  intro b hb
  rw [h] at hb
  cases hb

/-- A reader that reads all that `g` reads, and no more than `g` where no tail follows. -/
theorem StableAt.of_more {g : List Char → Option β} (hg : StableAt g cs) (h : f cs = g cs)
    (htail : ∀ tail b, Closes tail → g (cs ++ tail) = some b → f (cs ++ tail) = some b) :
    StableAt f cs := by
  intro b hb
  rw [h] at hb
  obtain ⟨hsuffix, lost, hlost, hmore⟩ := hg b hb
  exact ⟨hsuffix, lost, hlost, fun tail hclose => htail tail _ hclose (hmore tail hclose)⟩

theorem StableAt.of_eq {g : List Char → Option β} (hg : StableAt g cs) (h : f cs = g cs)
    (htail : ∀ tail, Closes tail → f (cs ++ tail) = g (cs ++ tail)) : StableAt f cs :=
  hg.of_more h fun tail _ hclose hb => (htail tail hclose).trans hb

/-- A reader that leaves every tail behind its text alone. -/
theorem Stable.of_append (h : ∀ cs b, f cs = some b → left b <:+ cs ∧
    ∀ tail, f (cs ++ tail) = some (Reading.leave b (left b ++ tail))) : Stable f := by
  intro cs b hb
  obtain ⟨hsuffix, htail⟩ := h cs b hb
  exact ⟨hsuffix, false, nofun, fun tail _ => htail tail⟩

/-- A reader that first passes over blanks and remarks is looked at behind them. -/
theorem Stable.of_skip (verbose : Bool) (hf : ∀ cs, f (skip verbose cs) = f cs)
    (h : ∀ cs, skip verbose cs = cs → StableAt f cs) : Stable f := by
  intro cs
  rw [show f = fun cs => (some (skip verbose cs)).bind f from (funext hf).symm]
  refine (stable_skip verbose cs).bind ?_
  rintro _ ⟨⟩
  exact h _ (skip_skip verbose cs)

/-- What is not passed over is not passed over in front of other text either. -/
theorem skip_of_eq_cons {c : Char} (h : skip verbose (c :: cs) = c :: cs) (rest : List Char) :
    skip verbose (c :: rest) = c :: rest := by
  have hne (inside : Bool) : skipRemarks inside cs ≠ c :: cs := by
    intro he
    have hle := (skipRemarks_suffix inside cs).length_le
    rw [he, List.length_cons] at hle
    omega
  cases verbose with
  | true =>
    simp only [skip, ↓reduceIte, skipRemarks, Bool.false_eq_true] at h ⊢
    split at h
    · exact absurd h (hne false)
    rename_i hblank
    split at h
    · exact absurd h (hne true)
    rename_i hremark
    rw [if_neg hblank, if_neg hremark]
  | false => rfl

/-- What is not passed over is not passed over with a tail behind it either. -/
theorem skip_append_of_eq (h : skip verbose cs = cs) (hclose : Closes tail) :
    skip verbose (cs ++ tail) = cs ++ tail := by
  cases cs with
  | cons c cs => exact skip_of_eq_cons h (cs ++ tail)
  | nil =>
    cases verbose with
    | true => exact skipRemarks_closing hclose
    | false => rfl

/-- Any character but the closing one is found in front of a tail only where it was before. -/
theorem head?_append_ne {c : Char} (hclose : Closes tail) (hc : c ≠ ')') (h : cs.head? ≠ some c) :
    (cs ++ tail).head? ≠ some c := by
  obtain ⟨text, rfl, _⟩ := hclose
  cases cs with
  | nil => simpa using hc.symm
  | cons d cs => exact h

/-- A reader that does one thing behind the character `c` and another one everywhere else. -/
theorem Stable.of_head {c : Char} {g : List Char → Option β} (verbose : Bool) (hc : c ≠ ')')
    (hf : ∀ cs, f (skip verbose cs) = f cs)
    (hcons : (∀ rest, skip verbose (c :: rest) = c :: rest) → ∀ rest, StableAt f (c :: rest))
    (hg : Stable g) (hother : ∀ cs, skip verbose cs = cs → cs.head? ≠ some c → f cs = g cs) :
    Stable f := by
  refine .of_skip verbose hf fun cs hcs => ?_
  by_cases hhead : cs.head? = some c
  · obtain ⟨rest, rfl⟩ : ∃ rest, cs = c :: rest := List.head?_eq_some_iff.mp hhead
    exact hcons (skip_of_eq_cons hcs) rest
  · exact .of_eq (hg cs) (hother cs hcs hhead) fun tail hclose =>
      hother _ (skip_append_of_eq hcs hclose) (head?_append_ne hclose hc hhead)

/-! ## Characters and escapes -/

theorem stable_hexFixed (verbose : Bool) (count value : Nat) :
    Stable (readHexFixed verbose count value) := by
  induction count generalizing value with
  | zero => exact .leave (value, [])
  | succ count ih =>
    intro cs
    cases cs with
    | nil => exact .of_none rfl
    | cons c cs => exact .cons (.guard fun d => (ih (16 * value + d)).skipped verbose)

theorem readBraced_append {fuel fuel' : Nat} {text word : List Char}
    (h : readBraced verbose fuel text cs = some (word, rest)) (hfuel : fuel ≤ fuel') :
    rest <:+ cs ∧
      ∀ tail, readBraced verbose fuel' text (cs ++ tail) = some (word, rest ++ tail) := by
  induction fuel generalizing text cs fuel' with
  | zero => cases h
  | succ fuel ih =>
    obtain ⟨fuel', rfl⟩ : ∃ n, fuel' = n + 1 := ⟨fuel' - 1, by omega⟩
    have hskip := skip_suffix verbose cs
    simp only [readBraced] at h ⊢
    split at h
    · cases h
    · rename_i inner hcs
      obtain ⟨rfl, rfl⟩ := Prod.mk.inj (Option.some.inj h)
      rw [hcs] at hskip
      refine ⟨(List.suffix_cons _ _).trans hskip, fun tail => ?_⟩
      simp only [skip_of_cons hcs]
    · rename_i c inner hbrace hcs
      obtain ⟨hsuffix, htail⟩ := ih h (Nat.le_of_succ_le_succ hfuel)
      rw [hcs] at hskip
      refine ⟨hsuffix.trans ((List.suffix_cons _ _).trans hskip), fun tail => ?_⟩
      simp only [skip_of_cons hcs, htail tail]

theorem stable_braced (verbose : Bool) :
    Stable fun cs => readBraced verbose (cs.length + 1) [] cs := by
  refine .of_append fun cs ⟨word, rest⟩ h => ?_
  exact ⟨(readBraced_append h (Nat.le_refl _)).1,
    fun tail => (readBraced_append h (by simp)).2 tail⟩

theorem stable_code (verbose : Bool) (digits : Nat) : Stable (readCode verbose digits) := by
  refine .of_head (c := '\x7b') (g := fun cs => (readHexFixed verbose digits 0 cs).bind fun r =>
    (Text.charOfCode? r.1).bind fun c => some (⟨c, digits == 2⟩, r.2)) verbose (by decide)
    (fun cs => by simp only [readCode, skip_skip]) ?_ ?_ ?_
  · intro hskip rest
    refine .cons ?_
    simp only [readCode, hskip]
    refine (stable_braced verbose).bind fun r => ?_
    simp only [Reading.leave]
    split
    · exact .fail
    · exact .guard fun c => .give _
  · refine (stable_hexFixed verbose digits 0).bind fun r => ?_
    simp only [Reading.leave]
    exact .guard fun c => .give _
  · intro cs hcs hc
    unfold readCode
    rw [hcs]
    split
    · exact absurd rfl hc
    · rfl

theorem stable_property (verbose negated : Bool) : Stable (readProperty verbose negated) := by
  refine .of_skip verbose (fun cs => by simp only [readProperty, skip_skip]) fun cs hcs => ?_
  cases cs with
  | nil => exact .of_none (by simp only [readProperty, hcs])
  | cons c cs =>
    refine .cons ?_
    simp only [readProperty, skip_of_eq_cons hcs]
    by_cases hbrace : c = '\x7b'
    · subst hbrace
      refine (stable_braced verbose).bind fun r => ?_
      simp only [Reading.leave]
      exact .give _
    by_cases hescape : c = '\\'
    · subst hescape
      exact .fail
    · simp only
      exact (Stable.give _).skipped verbose

theorem boundaryName_append {fuel fuel' : Nat} {name word : List Char} {c : Char}
    (h : readBoundaryName verbose fuel name cs = (word, c :: rest))
    (hc : isBoundaryLetter c = false) (hfuel : fuel ≤ fuel') : c :: rest <:+ cs ∧
      ∀ tail, readBoundaryName verbose fuel' name (cs ++ tail) = (word, c :: rest ++ tail) := by
  fun_induction readBoundaryName verbose fuel name cs generalizing fuel' with
  | case1 name cs =>
    obtain ⟨rfl, rfl⟩ := Prod.mk.inj h
    refine ⟨List.suffix_refl _, fun tail => ?_⟩
    cases fuel' <;> simp [readBoundaryName, hc]
  | case2 fuel name => cases (Prod.mk.inj h).2
  | case3 fuel name d cs hd ih =>
    obtain ⟨fuel', rfl⟩ : ∃ n, fuel' = n + 1 := ⟨fuel' - 1, by omega⟩
    obtain ⟨hsuffix, htail⟩ := ih h (Nat.le_of_succ_le_succ hfuel)
    refine ⟨hsuffix.trans ((skip_suffix verbose cs).trans (List.suffix_cons d cs)), fun tail => ?_⟩
    cases hskip : skip verbose cs with
    | nil => simp [hskip] at hsuffix
    | cons e rest' =>
      simp only [hskip] at htail
      simp only [List.cons_append, readBoundaryName, hd, ↓reduceIte, skip_of_cons hskip]
      exact htail tail
  | case4 fuel name d cs hd =>
    obtain ⟨fuel', rfl⟩ : ∃ n, fuel' = n + 1 := ⟨fuel' - 1, by omega⟩
    obtain ⟨rfl, hcs⟩ := Prod.mk.inj h
    rw [hcs]
    obtain ⟨rfl, rfl⟩ := List.cons.inj hcs
    exact ⟨List.suffix_refl _, fun tail => by simp [readBoundaryName, hd]⟩

theorem stable_boundary (verbose : Bool) : Stable (readBoundary verbose) := by
  refine .of_head (c := '\x7b') (g := fun cs => some (.boundary, cs)) false (by decide)
    (fun _ => rfl) ?_ (.give _) ?_
  · intro _ rest b hb
    simp only [readBoundary] at hb
    split at hb
    · cases hb
    rename_i c inner hskip
    split at hb
    · rename_i hletter
      cases hb
      refine ⟨List.suffix_refl _, false, nofun, fun tail _ => ?_⟩
      simp only [List.cons_append, readBoundary, skip_of_cons hskip, hletter, ↓reduceIte]
      rfl
    rename_i hletter
    split at hb
    · rename_i name rest' hname
      have hinner : c :: inner <:+ '\x7b' :: rest :=
        (hskip ▸ skip_suffix verbose rest).trans (List.suffix_cons _ _)
      have hfuel (tail : List Char) : inner.length + 1 ≤ (inner ++ tail).length + 1 := by simp
      have hmore (tail : List Char) := boundaryName_append hname rfl (hfuel tail)
      have hleft : left b = rest' := by
        split at hb <;> cases hb <;> rfl
      rw [hleft]
      refine ⟨(List.suffix_cons _ _).trans ((hmore []).1.trans hinner), false, nofun, ?_⟩
      intro tail _
      have htail := (hmore tail).2 tail
      simp only [List.cons_append, readBoundary, skip_of_cons hskip, hletter] at htail ⊢
      simp only [Bool.false_eq_true, ↓reduceIte, htail]
      split at hb <;> cases hb <;> simp [*, Reading.leave, leftover]
    · cases hb
  · intro cs _ hc
    unfold readBoundary
    split
    · exact absurd rfl hc
    · rfl

theorem stable_escape (verbose : Bool) : Stable (readEscape verbose) := by
  intro cs
  fun_cases readEscape verbose cs
  case case1 => exact .of_none rfl
  case case2 => exact .cons ((stable_code verbose 2).map _ fun _ _ => rfl)
  case case3 => exact .cons ((stable_code verbose 4).map _ fun _ _ => rfl)
  case case4 => exact .cons ((stable_code verbose 8).map _ fun _ _ => rfl)
  case case5 => exact .cons ((stable_property verbose false).map _ fun _ _ => rfl)
  case case6 => exact .cons ((stable_property verbose true).map _ fun _ _ => rfl)
  case case15 => exact .cons ((stable_boundary verbose).map _ fun _ _ => rfl)
  case case19 e hcontrol =>
    refine .cons ?_
    simp only [readEscape, hcontrol]
    exact .give _
  case case20 hcontrol hescapable =>
    refine .cons ?_
    simp only [readEscape, hcontrol, hescapable, ↓reduceIte]
    exact .give _
  case case21 hcontrol hescapable =>
    exact .of_none (by simp only [readEscape, hcontrol, if_neg hescapable])
  all_goals exact .cons (.give _)

end HeapQuery.Regex.Reader
