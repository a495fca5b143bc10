import HeapQuery.Proofs.TokenText
import Mathlib.Algebra.Group.Nat.Even

namespace HeapQuery.Token

/-- The number of quotes that no backslash escapes; escapes are read from the start of the text. -/
def bareQuotes : List Char → Nat
  | [] => 0
  | '"' :: rest => bareQuotes rest + 1
  | '\\' :: c :: rest => if c == '"' || c == '\\' then bareQuotes rest else bareQuotes (c :: rest)
  | _ :: rest => bareQuotes rest

/-- A backslash in front of the text escapes nothing in it. -/
def Apart (rest : List Char) : Prop := ∀ c ∈ rest.head?, c ≠ '"' ∧ c ≠ '\\'

/-- The scan gives the tokens for `cs`. Whatever comes next, it goes on with `left` as the word
begun, and with a quote open where `quoted` says so. -/
def Passes (inside : Bool) (buffer cs : List Char) (tokens : List Token) (quoted : Bool)
    (left : List Char) : Prop :=
  ∀ rest, Apart rest → scan inside buffer (cs ++ rest) = tokens ++ scan quoted left rest

theorem apart_nil : Apart [] := by simp [Apart]

theorem apart_blank (h : Text.isBlank c = true) (rest : List Char) : Apart (c :: rest) := by
  intro d hd
  cases hd
  exact blank_is_plain h

theorem passes_nil (inside : Bool) (buffer : List Char) :
    Passes inside buffer [] [] inside buffer := fun _ _ => rfl

/-- A quote ends the word begun, and turns quoting on or off. -/
theorem Passes.quote (h : Passes (!inside) [] cs tokens quoted left) (buffer : List Char) :
    Passes inside buffer ('"' :: cs)
      ((if inside && buffer.isEmpty then [.null] else flush buffer) ++ tokens) quoted left := by
  intro rest hrest
  rw [List.cons_append, scan_quote, h rest hrest, List.append_assoc]

theorem Passes.escaped (h : Passes inside (c :: buffer) cs tokens quoted left)
    (hc : c = '"' ∨ c = '\\') : Passes inside buffer ('\\' :: c :: cs) tokens quoted left := by
  intro rest hrest
  rw [List.cons_append, List.cons_append, scan_escaped hc]
  exact h rest hrest

theorem Passes.backslash (h : Passes inside ('\\' :: buffer) cs tokens quoted left)
    (hcs : Apart cs) : Passes inside buffer ('\\' :: cs) tokens quoted left := by
  intro rest hrest
  have hapart : Apart (cs ++ rest) := by
    cases cs with
    | nil => exact hrest
    | cons c cs => exact hcs
  rw [List.cons_append, scan_backslash hapart]
  exact h rest hrest

theorem Passes.blank (h : Passes false [] cs tokens quoted left) (hc : Text.isBlank c = true)
    (buffer : List Char) : Passes false buffer (c :: cs) (flush buffer ++ tokens) quoted left := by
  intro rest hrest
  rw [List.cons_append, scan_blank hc, h rest hrest, List.append_assoc]

theorem Passes.plain (h : Passes inside (c :: buffer) cs tokens quoted left) (hquote : c ≠ '"')
    (hbackslash : c ≠ '\\') (hc : inside = false → Text.isBlank c = false) :
    Passes inside buffer (c :: cs) tokens quoted left := by
  intro rest hrest
  rw [List.cons_append, scan_plain hquote hbackslash hc]
  exact h rest hrest

/-- A text is passed over from any state, and a quote is open behind it as before it exactly if its
quotes are even in number. -/
theorem passes_text (inside : Bool) (buffer cs : List Char) : ∃ tokens quoted left,
    Passes inside buffer cs tokens quoted left ∧ (quoted = inside ↔ Even (bareQuotes cs)) := by
  fun_induction bareQuotes cs generalizing inside buffer with
  | case1 => exact ⟨[], inside, buffer, passes_nil inside buffer, by simp⟩
  | case2 cs ih =>
    obtain ⟨tokens, quoted, left, hpasses, heven⟩ := ih (!inside) []
    refine ⟨_, quoted, left, hpasses.quote buffer, ?_⟩
    rw [Nat.even_add_one, ← heven]
    cases inside <;> cases quoted <;> simp
  | case3 c cs hescaped ih =>
    obtain ⟨tokens, quoted, left, hpasses, heven⟩ := ih inside (c :: buffer)
    exact ⟨tokens, quoted, left, hpasses.escaped (by simpa using hescaped), heven⟩
  | case4 c cs hplain ih =>
    obtain ⟨tokens, quoted, left, hpasses, heven⟩ := ih inside ('\\' :: buffer)
    refine ⟨tokens, quoted, left, hpasses.backslash ?_, heven⟩
    intro d hd
    cases hd
    simpa using hplain
  | case5 c cs hquote hescape ih =>
    by_cases hbackslash : c = '\\'
    · -- The backslash is the last character, so it escapes nothing.
      have hcs : cs = [] := by
        cases cs with
        | nil => rfl
        | cons d cs => exact absurd rfl (hescape d cs hbackslash)
      subst hbackslash hcs
      obtain ⟨tokens, quoted, left, hpasses, heven⟩ := ih inside ('\\' :: buffer)
      exact ⟨tokens, quoted, left, hpasses.backslash apart_nil, heven⟩
    · cases hblank : !inside && Text.isBlank c with
      | true =>
        obtain ⟨hinside, hc⟩ := Bool.and_eq_true_iff.mp hblank
        obtain rfl : inside = false := by simpa using hinside
        obtain ⟨tokens, quoted, left, hpasses, heven⟩ := ih false []
        exact ⟨_, quoted, left, hpasses.blank hc buffer, heven⟩
      | false =>
        obtain ⟨tokens, quoted, left, hpasses, heven⟩ := ih inside (c :: buffer)
        refine ⟨tokens, quoted, left, hpasses.plain hquote hbackslash ?_, heven⟩
        intro hinside
        simpa [hinside] using hblank

theorem Passes.at_end (h : Passes inside buffer cs tokens quoted left) :
    scan inside buffer cs = tokens ++ flush left := by
  have hend := h [] apart_nil
  rwa [List.append_nil, scan.eq_1] at hend

/-- White space outside quotes ends a line as well as the end of the text. -/
theorem Passes.cut (h : Passes inside buffer cs tokens false left) (hc : Text.isBlank c = true)
    (rest : List Char) :
    scan inside buffer (cs ++ c :: rest) = scan inside buffer cs ++ scan false [] rest := by
  rw [h (c :: rest) (apart_blank hc rest), scan_blank hc, h.at_end, List.append_assoc]

/-- White space inside quotes is part of a word. -/
theorem Passes.uncut (h : Passes inside buffer cs tokens true left) :
    scan inside buffer (cs ++ [' ', 'x']) ≠ scan inside buffer cs ++ [.word "x"] := by
  have hspace : Apart [' ', 'x'] := apart_blank (by decide) ['x']
  have hword : scan true left [' ', 'x'] = flush ('x' :: ' ' :: left) := rfl
  intro he
  rw [h _ hspace, h.at_end, hword, List.append_assoc, List.append_cancel_left_eq] at he
  -- What the quotes hold back can be no token of its own, since there is one word on the left.
  cases left with
  | nil => exact absurd he (by decide)
  | cons c left => simp [flush] at he

/-- White space cuts a line into two lines, whatever it is and whatever comes behind it, exactly
where the quotes in front of it are even in number. -/
theorem cut_at_blank_iff (a : String) :
    Even (bareQuotes a.toList) ↔ ∀ (w : Char) (b : String), Text.isBlank w = true →
      ofLine (a ++ w.toString ++ b) = ofLine a ++ ofLine b := by
  have htext (w : Char) (b : String) :
      (a ++ w.toString ++ b).toList = a.toList ++ w :: b.toList := by
    simp
  obtain ⟨tokens, quoted, left, hpasses, heven⟩ := passes_text false [] a.toList
  rw [← heven]
  constructor
  · intro hquoted w b hw
    subst hquoted
    simp only [ofLine, htext]
    exact hpasses.cut hw b.toList
  · intro hcut
    cases quoted with
    | false => rfl
    | true =>
      have hspace := hcut ' ' "x" (by decide)
      simp only [ofLine, htext] at hspace
      exact absurd hspace hpasses.uncut

example : ofLine "a \"b \\\" c\" \"\"\t\\" = ofLine "a \"b \\\" c\" \"\"" ++ ofLine "\\" := by
  decide

end HeapQuery.Token
