import HeapQuery.CommandLine

namespace HeapQuery.CommandLine

def word? : Token → Option String
  | .null => none
  | .word text => some text

def wordsOf (tokens : List Token) : List String := tokens.filterMap word?

/-- A token inside a run: null, or a word that neither names a flag nor ends in a semicolon. -/
def isInner : Token → Bool
  | .null => true
  | .word text => (Token.word text).flag?.isNone && text.toList.getLast? != some ';'

/-- The tokens of an argument with several values, and the words they contribute. A run ends with a
semicolon, which may be glued to the last word, or it has no end of its own. -/
inductive WordRun : List Token → List String → Prop where
  | unended {inner : List Token} : inner.all isInner = true → WordRun inner (wordsOf inner)
  | ended {inner : List Token} : inner.all isInner = true →
      WordRun (inner ++ [.word ";"]) (wordsOf inner)
  | glued {word : String} {inner : List Token} : inner.all isInner = true → word ≠ "" →
      (Token.word (word ++ ";")).flag? = none →
      WordRun (inner ++ [.word (word ++ ";")]) (wordsOf inner ++ [word])

def endsInSemicolon (tokens : List Token) : Bool :=
  (tokens.getLast?.bind word?).any fun text => text.toList.getLast? == some ';'

/-- Nothing follows, or a flag. -/
def StartsFlag (tokens : List Token) : Prop := ∀ token ∈ tokens.head?, token.flag?.isSome = true

variable {inner run rest : List Token} {words : List String} {word text : String}

theorem lastWord_glued (h : word ≠ "") : lastWord? (word ++ ";") = some word := by
  obtain ⟨c, cs, hc⟩ := List.exists_cons_of_ne_nil
    (show word.toList.reverse ≠ [] by simpa using h)
  have hrev : (word ++ ";").toList.reverse = ';' :: c :: cs := by simp [hc]
  unfold lastWord?
  rw [hrev]
  change some (String.ofList (c :: cs).reverse) = some word
  rw [← hc, List.reverse_reverse, String.ofList_toList]

theorem lastWord_some (h : lastWord? text = some word) : text = word ++ ";" ∧ word ≠ "" := by
  unfold lastWord? at h
  split at h
  · rename_i c cs hrev
    rw [Option.some.injEq] at h
    subst h
    constructor
    · apply String.toList_inj.mp
      rw [← List.reverse_reverse text.toList, hrev]
      simp
    · intro he
      have := congrArg String.toList he
      simp at this
  · cases h

theorem lastWord_none (h : text.toList.getLast? ≠ some ';') : lastWord? text = none := by
  cases hw : lastWord? text with
  | none => rfl
  | some word =>
    obtain ⟨rfl, _⟩ := lastWord_some hw
    exact absurd (by simp) h

theorem getLast_of_lastWord_none (h : lastWord? text = none) (hne : text ≠ ";") :
    text.toList.getLast? ≠ some ';' := by
  intro hlast
  obtain ⟨cs, hcs⟩ := List.getLast?_eq_some_iff.mp hlast
  cases cs with
  | nil => exact hne (String.toList_inj.mp (by simpa using hcs))
  | cons c cs =>
    have htext : text = String.ofList (c :: cs) ++ ";" :=
      String.toList_inj.mp (by simpa using hcs)
    rw [htext, lastWord_glued (by intro he; have := congrArg String.toList he; simp at this)] at h
    cases h

theorem takeWords_flag (h : StartsFlag rest) : takeWords rest = ([], 0) := by
  cases rest with
  | nil => rfl
  | cons token rest =>
    have hflag := h token rfl
    cases token with
    | null => simp [Token.flag?] at hflag
    | word text =>
      have hne : text ≠ ";" := by
        rintro rfl
        exact absurd hflag (by decide)
      simp [takeWords, hne, hflag]

theorem takeWords_inner (h : inner.all isInner = true) :
    takeWords (inner ++ rest) =
      (wordsOf inner ++ (takeWords rest).1, inner.length + (takeWords rest).2) := by
  induction inner with
  | nil => simp [wordsOf]
  | cons token inner ih =>
    simp only [List.all_cons, Bool.and_eq_true] at h
    cases token with
    | null =>
      simp only [List.cons_append, takeWords, ih h.2, wordsOf, List.filterMap_cons, word?,
        List.length_cons, Prod.mk.injEq, true_and]
      omega
    | word text =>
      obtain ⟨hflag, hlast⟩ : (Token.word text).flag? = none ∧ text.toList.getLast? ≠ some ';' := by
        simpa [isInner] using h.1
      have hne : text ≠ ";" := by
        rintro rfl
        exact hlast rfl
      simp only [List.cons_append, takeWords, beq_iff_eq, hne, ↓reduceIte, hflag, Option.isSome_none,
        Bool.false_eq_true, lastWord_none hlast, ih h.2, wordsOf, List.filterMap_cons, word?,
        List.length_cons, Prod.mk.injEq, true_and]
      omega

theorem endsInSemicolon_inner (h : inner.all isInner = true) : endsInSemicolon inner = false := by
  unfold endsInSemicolon
  cases hlast : inner.getLast? with
  | none => rfl
  | some token =>
    have htoken := List.all_eq_true.mp h token (List.mem_of_getLast? hlast)
    cases token with
    | null => rfl
    | word text =>
      simp only [isInner, Bool.and_eq_true, bne_iff_ne] at htoken
      simpa [word?] using htoken.2

/-- A run is taken whole where it ends by itself or a flag comes next. -/
theorem WordRun.takeWords (h : WordRun run words)
    (hrest : endsInSemicolon run = false → StartsFlag rest) :
    CommandLine.takeWords (run ++ rest) = (words, run.length) := by
  cases h with
  | unended hinner =>
    rw [takeWords_inner hinner, takeWords_flag (hrest (endsInSemicolon_inner hinner))]
    simp
  | ended hinner =>
    rw [List.append_assoc, takeWords_inner hinner]
    simp [CommandLine.takeWords]
  | glued hinner hne hflag =>
    rename_i word inner
    have hsemicolon : word ++ ";" ≠ ";" := by
      intro he
      have := congrArg String.toList he
      simp [hne] at this
    rw [List.append_assoc, takeWords_inner hinner]
    simp [CommandLine.takeWords, hsemicolon, hflag, lastWord_glued hne]

theorem WordRun.cons (ht : isInner token = true) (h : WordRun run words) :
    WordRun (token :: run) (wordsOf [token] ++ words) := by
  have hall : ∀ inner, inner.all isInner = true → (token :: inner).all isInner = true := by
    intro inner hinner
    simp [ht, hinner]
  have hwords : ∀ inner, wordsOf (token :: inner) = wordsOf [token] ++ wordsOf inner := by
    intro inner
    simp [wordsOf, List.filterMap_cons]
    cases word? token <;> simp
  cases h with
  | unended hinner =>
    rw [← hwords]
    exact .unended (hall _ hinner)
  | ended hinner =>
    rw [← hwords]
    exact .ended (hall _ hinner)
  | glued hinner hne hflag =>
    rw [← List.append_assoc, ← hwords]
    exact .glued (hall _ hinner) hne hflag

theorem endsInSemicolon_cons (ht : isInner token = true) :
    endsInSemicolon (token :: run) = endsInSemicolon run := by
  cases run with
  | nil =>
    rw [endsInSemicolon_inner (by simpa using ht)]
    rfl
  | cons next run => simp [endsInSemicolon, List.getLast?_cons_cons]

/-- The words that are taken form a run, and it is the longest one. -/
theorem takeWords_run (tokens : List Token) :
    WordRun (tokens.take (takeWords tokens).2) (takeWords tokens).1 ∧
    (endsInSemicolon (tokens.take (takeWords tokens).2) = false →
      StartsFlag (tokens.drop (takeWords tokens).2)) := by
  have hempty : ([] : List Token).all isInner = true := rfl
  induction tokens with
  | nil => exact ⟨.unended hempty, fun _ => by simp [StartsFlag]⟩
  | cons token rest ih =>
    cases token with
    | null =>
      have hnull : isInner .null = true := rfl
      simp only [takeWords, List.take_succ_cons, List.drop_succ_cons, endsInSemicolon_cons hnull]
      exact ⟨ih.1.cons hnull, ih.2⟩
    | word text =>
      simp only [takeWords, beq_iff_eq]
      split
      · rename_i hsemicolon
        subst hsemicolon
        refine ⟨.ended hempty, fun h => ?_⟩
        simp only [List.take_succ_cons, List.take_zero] at h
        exact absurd h (by decide)
      rename_i hne
      split
      · rename_i hflag
        exact ⟨.unended hempty, fun _ token ht => by cases ht; exact hflag⟩
      rename_i hflag
      simp only [Bool.not_eq_true, Option.isSome_eq_false_iff, Option.isNone_iff_eq_none] at hflag
      split
      · rename_i word hlast
        obtain ⟨rfl, hword⟩ := lastWord_some hlast
        refine ⟨.glued hempty hword hflag, fun h => ?_⟩
        simp [endsInSemicolon, word?] at h
      · rename_i hlast
        have hinner : isInner (.word text) = true := by
          simp [isInner, hflag, getLast_of_lastWord_none hlast hne]
        simp only [List.take_succ_cons, List.drop_succ_cons, endsInSemicolon_cons hinner]
        exact ⟨ih.1.cons hinner, ih.2⟩

end HeapQuery.CommandLine
