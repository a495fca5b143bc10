import HeapQuery.Proofs.ClassTails

namespace HeapQuery.Regex.Reader

variable {verbose : Bool} {cs rest tail : List Char}

/-! ## Flags, names and counts -/

theorem stable_flags (negative dangling : Bool) (change : FlagChange) :
    Stable fun cs => readFlags cs negative dangling change := by
  refine .of_append fun cs r h => ?_
  fun_induction readFlags cs negative dangling change with
  | case1 => cases h
  | case2 => cases h
  | case3 c rest negative dangling change hend hdangling =>
    cases h
    exact ⟨List.suffix_cons c rest, fun tail => by simp [readFlags, hend, hdangling]⟩
  | case4 => cases h
  | case5 c rest negative dangling change hend hminus hnegative ih =>
    obtain ⟨hsuffix, htail⟩ := ih h
    refine ⟨hsuffix.trans (List.suffix_cons c rest), fun tail => ?_⟩
    simpa [readFlags, hend, hminus, hnegative] using htail tail
  | case6 => cases h
  | case7 => cases h
  | case8 c rest negative dangling change hend hminus flag hflag hnew ih =>
    obtain ⟨hsuffix, htail⟩ := ih h
    refine ⟨hsuffix.trans (List.suffix_cons c rest), fun tail => ?_⟩
    simpa [readFlags, hend, hminus, hflag, hnew] using htail tail

theorem stable_name : Stable readName := by
  refine .of_append fun cs r h => ?_
  unfold readName at h
  dsimp only at h
  split at h
  · rename_i first others rest htake hdrop
    have hname : ∀ c ∈ first :: others, (c != '>') = true :=
      List.all_eq_true.mp (htake ▸ List.all_takeWhile)
    obtain rfl : cs = first :: others ++ '>' :: rest := by
      rw [← htake, ← hdrop, List.takeWhile_append_dropWhile]
    split at h
    · rename_i hvalid
      rw [htake] at h
      cases h
      refine ⟨⟨first :: others ++ ['>'], by simp⟩, fun tail => ?_⟩
      unfold readName
      rw [List.append_assoc, List.takeWhile_append_of_pos hname, List.dropWhile_append_of_pos hname]
      simp [hvalid]
    · cases h
  · cases h

theorem readCountDigits_fuel {fuel fuel' : Nat} (ds : List Char) (h : cs.length < fuel)
    (h' : cs.length < fuel') :
    readCountDigits verbose fuel ds cs = readCountDigits verbose fuel' ds cs := by
  induction fuel generalizing cs ds fuel' with
  | zero => exact absurd h (Nat.not_lt_zero _)
  | succ fuel ih =>
    obtain ⟨fuel', rfl⟩ : ∃ n, fuel' = n + 1 := ⟨fuel' - 1, by omega⟩
    cases cs with
    | nil => rfl
    | cons c cs =>
      have hskip := (skip_suffix verbose cs).length_le
      rw [List.length_cons] at h h'
      have hnext : readCountDigits verbose fuel (c :: ds) (skip verbose cs) =
          readCountDigits verbose fuel' (c :: ds) (skip verbose cs) :=
        ih (c :: ds) (by omega) (by omega)
      simp only [readCountDigits, hnext]

theorem stable_countDigits (verbose : Bool) (ds : List Char) :
    Stable fun cs => some (readCountDigits verbose (cs.length + 1) ds cs) := by
  intro cs
  obtain ⟨n, hn⟩ : ∃ n, cs.length < n := ⟨_, Nat.lt_succ_self _⟩
  induction n generalizing cs ds with
  | zero => exact absurd hn (Nat.not_lt_zero _)
  | succ n ih =>
    cases cs with
    | nil =>
      refine .of_eq (Stable.give ds.reverse []) rfl fun tail hclose => ?_
      obtain ⟨text, rfl, -⟩ := hclose
      rfl
    | cons c cs =>
      cases hc : c.isDigit with
      | true =>
        have hnext (cs : List Char) : readCountDigits verbose ((c :: cs).length + 1) ds (c :: cs) =
            readCountDigits verbose ((skip verbose cs).length + 1) (c :: ds) (skip verbose cs) := by
          have hskip := (skip_suffix verbose cs).length_le
          simp only [readCountDigits, hc, ↓reduceIte]
          exact readCountDigits_fuel _ (by simp; omega) (by simp)
        refine .behind [c] ?_
        simp only [List.singleton_append, hnext]
        refine (stable_skip verbose cs).bind
          (g := fun cs => some (readCountDigits verbose (cs.length + 1) (c :: ds) cs)) ?_
        rintro _ ⟨⟩
        have hskip := (skip_suffix verbose cs).length_le
        exact ih (c :: ds) _ (by simp only [left_text, List.length_cons] at hn ⊢; omega)
      | false =>
        refine .of_eq (Stable.give ds.reverse (c :: cs)) ?_ fun tail _ => ?_
        · simp [readCountDigits, hc]
        · simp [readCountDigits, hc]

theorem stable_dropBlanks : Stable fun cs => some (cs.dropWhile Text.isBlank) := by
  rintro cs _ ⟨⟩
  refine ⟨List.dropWhile_suffix _, false, nofun, fun tail hclose => ?_⟩
  obtain ⟨text, rfl, -⟩ := hclose
  have hparenthesis : Text.isBlank ')' = false := rfl
  cases hdrop : cs.dropWhile Text.isBlank <;>
    simp [List.dropWhile_append, hdrop, leftover, hparenthesis]

theorem readCount_eq (verbose : Bool) (cs : List Char) : readCount verbose cs =
    (some (cs.dropWhile Text.isBlank)).bind fun cs =>
      (some (readCountDigits verbose (cs.length + 1) [] cs)).bind fun r =>
        if r.1.isEmpty then some (none, r.2.dropWhile Text.isBlank)
        else if Number.natOfDigits r.1 ≤ 0xffffffff then
          some (some (Number.natOfDigits r.1), skip verbose (r.2.dropWhile Text.isBlank))
        else none := by
  simp only [readCount, Option.bind_some]
  split
  · simp [*]
  · simp [*]

theorem stable_count (verbose : Bool) : Stable (readCount verbose) := by
  rw [show readCount verbose = _ from funext (readCount_eq verbose)]
  refine stable_dropBlanks.bind fun _ => (stable_countDigits verbose []).bind fun (ds, _) => ?_
  simp only [leave_pair, leave_text]
  cases ds.isEmpty with
  | true => exact (Stable.give none).after stable_dropBlanks
  | false =>
    by_cases hrange : Number.natOfDigits ds ≤ 0xffffffff
    · simp only [hrange]
      exact ((Stable.give (some _)).skipped verbose).after stable_dropBlanks
    · simp only [hrange]
      exact .fail

/-- Reads the brace behind the bounds of a repetition, where they are the right way round. -/
def closeBounds (least most : Nat) : List Char → Option (Nat × Option Nat × List Char)
  | '\x7d' :: rest => if least ≤ most then some (least, some most, rest) else none
  | _ => none

theorem stable_closeBounds (least most : Nat) : Stable (closeBounds least most) := by
  intro cs
  fun_cases closeBounds least most cs
  case case1 rest hle =>
    refine .cons ?_
    simp only [closeBounds, if_pos hle]
    exact .leave (least, some most, [])
  case case2 rest hle => exact .of_none (if_neg hle)
  case case3 => exact .of_none (by simp only [closeBounds, *])

def readMost (verbose : Bool) (least : Nat) (cs : List Char) :
    Option (Nat × Option Nat × List Char) :=
  match skip verbose cs with
  | '\x7d' :: rest => some (least, none, rest)
  | rest => do
    let (most, rest) ← readCount verbose rest
    closeBounds least (← most) rest

theorem stable_most (verbose : Bool) (least : Nat) : Stable (readMost verbose least) := by
  have hmost : Stable fun cs => (readCount verbose cs).bind fun r =>
      r.1.bind fun most => closeBounds least most r.2 :=
    (stable_count verbose).bind fun _ => .guard (stable_closeBounds least)
  refine .of_head (c := '\x7d') verbose (by decide)
    (fun cs => by simp only [readMost, skip_skip]) ?_ hmost fun cs hcs hc => ?_
  · intro hskip rest
    refine .cons ?_
    simp only [readMost, hskip]
    exact .leave (least, none, [])
  · unfold readMost
    rw [hcs]
    split
    · exact absurd rfl hc
    · rfl

def readUpTo (verbose : Bool) (least : Nat) : List Char → Option (Nat × Option Nat × List Char)
  | '\x7d' :: rest => some (least, some least, rest)
  | ',' :: rest => readMost verbose least rest
  | _ => none

theorem readBounds_eq (verbose : Bool) (cs : List Char) : readBounds verbose cs =
    (readCount verbose (skip verbose cs)).bind fun r =>
      r.1.bind fun least => readUpTo verbose least r.2 := rfl

theorem stable_upTo (verbose : Bool) (least : Nat) : Stable (readUpTo verbose least) := by
  intro cs
  fun_cases readUpTo verbose least cs
  case case1 => exact .cons (.leave (least, some least, []))
  case case2 => exact .cons (stable_most verbose least)
  case case3 => exact .of_none (by simp only [readUpTo, *])

theorem stable_bounds (verbose : Bool) : Stable (readBounds verbose) := by
  rw [show readBounds verbose = _ from funext (readBounds_eq verbose)]
  exact ((stable_count verbose).skipped verbose).bind fun _ => .guard (stable_upTo verbose)

/-! ## Steps -/

theorem stable_dropLazyMark : Stable fun cs => some (dropLazyMark cs) := by
  refine .of_head (c := '?') false (by decide) (fun _ => rfl)
    (fun _ rest => .cons (.leave [])) (.leave []) fun cs _ hc => ?_
  simp only [dropLazyMark]
  split
  · exact absurd rfl hc
  · rfl

theorem stable_openNamed (s : State) : Stable fun cs => s.openNamed cs := by
  refine stable_name.bind fun (name, _) => ?_
  simp only [leave_pair, leave_text]
  cases s.names.contains name with
  | true => exact .fail
  | false => exact .leave { s.openGroup [] [] with names := name :: s.names }

def BeginsFlags (cs : List Char) : Prop :=
  cs.head? ≠ some '=' ∧ cs.head? ≠ some '!' ∧ cs.head? ≠ some '<' ∧ ¬['P', '<'] <+: cs

theorem BeginsFlags.append (h : BeginsFlags cs) (hclose : Closes tail) :
    BeginsFlags (cs ++ tail) := by
  obtain ⟨hequal, hbang, hangle, hnamed⟩ := h
  exact ⟨head?_append_ne hclose (by decide) hequal, head?_append_ne hclose (by decide) hbang,
    head?_append_ne hclose (by decide) hangle, pair_append hclose (by decide) (by decide) hnamed⟩

def State.openFlags (s : State) (cs : List Char) : Option State := do
  let (change, ending, rest) ← readFlags cs false false []
  if ending == ':' then some (s.openGroup change rest)
  else if change.isEmpty then none
  else some { s.push (.flags change) rest with verbose := verboseAfter change s.verbose }

theorem stable_openFlags (s : State) : Stable fun cs => s.openFlags cs := by
  refine (stable_flags false false []).bind fun (change, ending, _) => ?_
  simp only [leave_pair, leave_text]
  cases ending == ':' with
  | true => exact .leave (s.openGroup change [])
  | false =>
    cases change.isEmpty with
    | true => exact .fail
    | false =>
      exact .leave { s.push (.flags change) [] with verbose := verboseAfter change s.verbose }

theorem stepOpen_flags {s : State} (h : BeginsFlags rest)
    (hskip : skip s.verbose ('?' :: rest) = '?' :: rest) :
    stepOpen s ('?' :: rest) = s.openFlags rest := by
  obtain ⟨hequal, hbang, hangle, hnamed⟩ := h
  unfold stepOpen
  rw [hskip]
  split
  case h_7 hcons =>
    obtain ⟨-, rfl⟩ := List.cons.inj hcons
    rfl
  all_goals simp_all

theorem stepOpen_named {s : State} (hequal : rest.head? ≠ some '=') (hbang : rest.head? ≠ some '!')
    (hskip : skip s.verbose ('?' :: '<' :: rest) = '?' :: '<' :: rest) :
    stepOpen s ('?' :: '<' :: rest) = s.openNamed rest := by
  unfold stepOpen
  rw [hskip]
  split
  case h_7 hangle hcons =>
    obtain ⟨-, rfl⟩ := List.cons.inj hcons
    exact absurd rfl (hangle rest)
  all_goals simp_all

theorem stable_stepOpen (s : State) : Stable fun cs => stepOpen s cs := by
  refine .of_head (c := '?') s.verbose (by decide) (fun cs => by simp only [stepOpen, skip_skip]) ?_
    (.leave (s.openGroup [] [])) fun cs hcs hc => ?_
  · intro hskip rest
    by_cases hflags : BeginsFlags rest
    · refine .behind ['?'] (.of_eq (stable_openFlags s rest) (stepOpen_flags hflags (hskip _)) ?_)
      exact fun tail hclose => stepOpen_flags (hflags.append hclose) (hskip _)
    simp only [BeginsFlags, not_and_or, not_not, List.head?_eq_some_iff] at hflags
    rcases hflags with ⟨rest, rfl⟩ | ⟨rest, rfl⟩ | ⟨rest, rfl⟩ | ⟨rest, rfl⟩
    · exact .of_none (by simp only [stepOpen, hskip])
    · exact .of_none (by simp only [stepOpen, hskip])
    · by_cases hequal : rest.head? = some '='
      · obtain ⟨rest, rfl⟩ := List.head?_eq_some_iff.mp hequal
        exact .of_none (by simp only [stepOpen, hskip])
      by_cases hbang : rest.head? = some '!'
      · obtain ⟨rest, rfl⟩ := List.head?_eq_some_iff.mp hbang
        exact .of_none (by simp only [stepOpen, hskip])
      refine .behind ['?', '<'] (.of_eq (stable_openNamed s rest)
        (stepOpen_named hequal hbang (hskip _)) fun tail hclose => ?_)
      have hequal' : (rest ++ tail).head? ≠ some '=' := head?_append_ne hclose (by decide) hequal
      have hbang' : (rest ++ tail).head? ≠ some '!' := head?_append_ne hclose (by decide) hbang
      exact stepOpen_named hequal' hbang' (hskip _)
    · refine .behind ['?', 'P', '<'] ?_
      simp only [List.cons_append, List.nil_append, stepOpen, hskip]
      exact stable_openNamed s rest
  · unfold stepOpen
    rw [hcs]
    split
    case h_8 => rfl
    all_goals simp_all

theorem stable_repeatLast (s : State) (least : Nat) (most : Option Nat) :
    Stable fun cs => s.repeatLast least most cs := by
  refine .still (s.repeatLast least most []) fun cs => ?_
  unfold State.repeatLast
  split
  · split <;> rfl
  · rfl

theorem stable_stepClose (s : State) : Stable fun cs => stepClose s cs := by
  refine .still (stepClose s []) fun cs => ?_
  unfold stepClose
  split <;> rfl

theorem stable_stepBranch (s : State) : Stable fun cs => some (stepBranch s cs) := by
  refine .still (some (stepBranch s [])) fun cs => ?_
  unfold stepBranch
  split <;> rfl

theorem stable_push (s : State) (part : Expr) : Stable fun cs => some (s.push part cs) :=
  .leave (s.push part [])

theorem stable_step (s : State) : Stable fun cs => step { s with rest := cs } := by
  intro cs
  fun_cases step { s with rest := cs }
  case case1 hcs =>
    obtain rfl : cs = [] := hcs
    exact .of_none rfl
  case case2 rest hcs =>
    obtain rfl : cs = '(' :: rest := hcs
    exact .cons (stable_stepOpen s)
  case case3 rest hcs =>
    obtain rfl : cs = ')' :: rest := hcs
    exact .cons (stable_stepClose s)
  case case4 rest hcs =>
    obtain rfl : cs = '|' :: rest := hcs
    exact .cons (stable_stepBranch s)
  case case5 rest hcs =>
    obtain rfl : cs = '[' :: rest := hcs
    refine .behind ['['] ?_
    have hclass : Stable fun cs => (openClass s.verbose cs).bind fun r =>
        (readClass s.verbose (rest.length + 1) ⟨[.opened [] r.1], r.2.1, r.2.2⟩).bind fun r' =>
          some (s.push (.bracketed r'.1 r'.2.1) r'.2.2) := by
      refine (stable_openClass s.verbose).bind fun (negated, items, _) => ?_
      refine (stable_readClass s.verbose _ ⟨[.opened [] negated], items, []⟩).bind fun r' => ?_
      exact stable_push s (.bracketed r'.1 r'.2.1)
    refine .of_more (hclass rest) rfl fun tail b _ hb => ?_
    obtain ⟨r, hopen, hb⟩ := Option.bind_eq_some_iff.mp hb
    obtain ⟨r', hread, hb⟩ := Option.bind_eq_some_iff.mp hb
    have hmore := readClass_mono hread
      (show rest.length + 1 ≤ (rest ++ tail).length + 1 by simp)
    exact Option.bind_eq_some_iff.mpr ⟨r, hopen, Option.bind_eq_some_iff.mpr ⟨r', hmore, hb⟩⟩
  case case6 rest hcs =>
    obtain rfl : cs = '?' :: rest := hcs
    exact .cons ((stable_repeatLast s 0 (some 1)).after stable_dropLazyMark)
  case case7 rest hcs =>
    obtain rfl : cs = '*' :: rest := hcs
    exact .cons ((stable_repeatLast s 0 none).after stable_dropLazyMark)
  case case8 rest hcs =>
    obtain rfl : cs = '+' :: rest := hcs
    exact .cons ((stable_repeatLast s 1 none).after stable_dropLazyMark)
  case case9 rest hcs =>
    obtain rfl : cs = '\x7b' :: rest := hcs
    have hbounds : Stable fun cs => (readBounds s.verbose cs).bind fun r =>
        s.repeatLast r.1 r.2.1 (dropLazyMark (skip s.verbose r.2.2)) := by
      refine (stable_bounds s.verbose).bind fun (least, most, _) => ?_
      exact ((stable_repeatLast s least most).after stable_dropLazyMark).skipped s.verbose
    exact .cons hbounds
  case case10 rest hcs =>
    obtain rfl : cs = '\\' :: rest := hcs
    have hescape : Stable fun cs => (readEscape s.verbose cs).bind fun r =>
        some (s.push r.1.expr r.2) :=
      (stable_escape s.verbose).bind fun r => stable_push s r.1.expr
    exact .cons hescape
  case case11 rest hcs =>
    obtain rfl : cs = '.' :: rest := hcs
    exact .cons (stable_push s .dot)
  case case12 rest hcs =>
    obtain rfl : cs = '^' :: rest := hcs
    exact .cons (stable_push s (.assertion .lineStart))
  case case13 rest hcs =>
    obtain rfl : cs = '$' :: rest := hcs
    exact .cons (stable_push s (.assertion .lineEnd))
  case case14 c rest _ _ _ _ _ _ _ _ _ _ _ _ hcs =>
    obtain rfl : cs = c :: rest := hcs
    refine .cons ?_
    simp only [step]
    exact stable_push s (.literal ⟨c, false⟩)

end HeapQuery.Regex.Reader
