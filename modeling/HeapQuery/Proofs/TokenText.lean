import HeapQuery.Token

namespace HeapQuery.Token

/-- The line that spells tokens. `gap n` is the white space in front of the last `n` of them. -/
def joinBy (gap : Nat → String) : List Token → String
  | [] => ""
  | [token] => token.render
  | token :: rest => token.render ++ gap rest.length ++ joinBy gap rest

/-! ## One character -/

theorem blank_is_plain (h : Text.isBlank c = true) : c ≠ '"' ∧ c ≠ '\\' := by
  constructor
  · rintro rfl
    exact absurd h (by decide)
  · rintro rfl
    exact absurd h (by decide)

theorem scan_quote (inside : Bool) (buffer rest : List Char) :
    scan inside buffer ('"' :: rest) =
      (if inside && buffer.isEmpty then [.null] else flush buffer) ++ scan (!inside) [] rest :=
  scan.eq_2 inside buffer rest

theorem scan_escaped (hc : c = '"' ∨ c = '\\') :
    scan inside buffer ('\\' :: c :: rest) = scan inside (c :: buffer) rest := by
  rw [scan.eq_3, if_pos (by simpa using hc)]

theorem scan_plain (hq : c ≠ '"') (hb : c ≠ '\\') (h : inside = false → Text.isBlank c = false) :
    scan inside buffer (c :: rest) = scan inside (c :: buffer) rest := by
  rw [scan.eq_4 inside buffer c rest hq (by intro d ds he; exact absurd he hb)]
  cases inside with
  | true => rfl
  | false => simp [h rfl]

/-- A backslash is a character like any other unless it escapes the next one. -/
theorem scan_backslash (h : ∀ c ∈ rest.head?, c ≠ '"' ∧ c ≠ '\\') :
    scan inside buffer ('\\' :: rest) = scan inside ('\\' :: buffer) rest := by
  cases rest with
  | nil =>
    rw [scan.eq_4 inside buffer '\\' [] (by decide) (by simp)]
    have hb : Text.isBlank '\\' = false := by decide
    simp [hb]
  | cons c rest =>
    have hc := h c rfl
    rw [scan.eq_3, if_neg (by simp [hc])]

theorem scan_blank (h : Text.isBlank c = true) :
    scan false buffer (c :: rest) = flush buffer ++ scan false [] rest := by
  have hc := blank_is_plain h
  rw [scan.eq_4 false buffer c rest hc.1 (by intro d ds he; exact absurd he hc.2)]
  simp [h]

theorem scan_gap (h : gap.all Text.isBlank = true) :
    scan false [] (gap ++ rest) = scan false [] rest := by
  induction gap with
  | nil => rfl
  | cons c gap ih =>
    simp only [List.all_cons, Bool.and_eq_true] at h
    rw [List.cons_append, scan_blank h.1, ih h.2]
    rfl

/-! ## One word -/

/-- What comes after the characters of a word: its closing quote, or the end or white space. -/
def EndsWord (quoted : Bool) (rest : List Char) : Prop :=
  if quoted then rest.head? = some '"' else ∀ c ∈ rest.head?, Text.isBlank c = true

theorem head_escapeChars (hq : c ≠ '"') (hb : c ≠ '\\') :
    (escapeChars quoted (c :: cs)).head? = some c := by
  rw [escapeChars.eq_5 quoted c cs hq hb]
  rfl

/-- Escaped characters are read as themselves. Whether a backslash has to be doubled depends on
the character after it, so the cases are those of the escaping. -/
theorem scan_escapeChars (hw : quoted = false → cs.all (fun c => !Text.isBlank c) = true)
    (he : EndsWord quoted rest) :
    scan quoted buffer (escapeChars quoted cs ++ rest) = scan quoted (cs.reverse ++ buffer) rest := by
  induction cs generalizing buffer with
  | nil => simp [escapeChars]
  | cons c cs ih =>
    have htail : quoted = false → cs.all (fun c => !Text.isBlank c) = true := by
      intro h
      have := hw h
      simp only [List.all_cons, Bool.and_eq_true] at this
      exact this.2
    by_cases hq : c = '"'
    · subst hq
      rw [escapeChars.eq_2, List.cons_append, List.cons_append, scan_escaped (.inl rfl), ih htail]
      simp
    by_cases hb : c = '\\'
    · subst hb
      cases cs with
      | nil =>
        cases quoted with
        | true =>
          rw [escapeChars.eq_3, if_pos rfl]
          exact scan_escaped (.inr rfl)
        | false =>
          rw [escapeChars.eq_3, if_neg (by decide)]
          apply scan_backslash
          intro d hd
          exact blank_is_plain (he d hd)
      | cons d ds =>
        rw [escapeChars.eq_4]
        split
        · rw [List.cons_append, List.cons_append, scan_escaped (.inr rfl), ih htail]
          simp
        · rename_i hd
          simp only [Bool.or_eq_true, beq_iff_eq, not_or] at hd
          rw [List.cons_append, scan_backslash, ih htail]
          · simp
          · intro e hm
            rw [List.head?_append, head_escapeChars hd.1 hd.2] at hm
            cases hm
            exact hd
    · rw [escapeChars.eq_5 quoted c cs hq hb, List.cons_append, scan_plain hq hb, ih htail]
      · simp
      · intro h
        have := hw h
        simp only [List.all_cons, Bool.and_eq_true, Bool.not_eq_true'] at this
        exact this.1

theorem escapeChars_self (hq : cs.contains '"' = false) (he : hasEscape cs = false) :
    escapeChars false cs = cs := by
  induction cs with
  | nil => rfl
  | cons c cs ih =>
    simp only [List.contains_cons, Bool.or_eq_false_iff, beq_eq_false_iff_ne] at hq
    by_cases hb : c = '\\'
    · subst hb
      cases cs with
      | nil => rfl
      | cons d ds =>
        rw [hasEscape.eq_1] at he
        simp only [Bool.or_eq_false_iff, beq_eq_false_iff_ne] at he
        rw [escapeChars.eq_4, if_neg (by simp [he.1]), ih hq.2 he.2]
    · have hrest : hasEscape cs = false := by
        rw [hasEscape.eq_2 c cs (by intro e es h; exact absurd h hb)] at he
        exact he
      rw [escapeChars.eq_5 false c cs (Ne.symm hq.1) hb, ih hq.2 hrest]

/-- The text of a word stands in quotes exactly when the word has white space in it. -/
theorem escape_toList (text : String) :
    (escape text).toList =
      if Text.hasBlank text then '"' :: escapeChars true text.toList ++ ['"']
      else escapeChars false text.toList := by
  cases hb : Text.hasBlank text with
  | true =>
    have hany : text.toList.any Text.isBlank = true := hb
    simp [escape, hany]
  | false =>
    have hany : text.toList.any Text.isBlank = false := hb
    simp only [escape, hany, Bool.not_false, Bool.and_true, Bool.false_eq_true, ↓reduceIte]
    split
    · rename_i h
      simp only [Bool.and_eq_true, Bool.not_eq_true'] at h
      exact (escapeChars_self h.1 h.2).symm
    · exact String.toList_ofList

theorem flush_reverse (h : text ≠ "") : flush text.toList.reverse = [.word text] := by
  simp [flush, h]

theorem scan_at_end (h : ∀ c ∈ rest.head?, Text.isBlank c = true) :
    scan false buffer rest = flush buffer ++ scan false [] rest := by
  cases rest with
  | nil => simp [scan, flush]
  | cons c rest => rw [scan_blank (h c rfl), scan_blank (h c rfl)]; rfl

/-- The text of a token is read as that token wherever the line ends or goes on with white space. -/
theorem scan_render (hne : token ≠ .word "") (h : ∀ c ∈ rest.head?, Text.isBlank c = true) :
    scan false [] (token.render.toList ++ rest) = token :: scan false [] rest := by
  cases token with
  | null => rfl
  | word text =>
    have htext : text ≠ "" := by
      rintro rfl
      exact hne rfl
    simp only [render, escape_toList]
    split
    · rw [List.cons_append, List.cons_append, scan_quote, List.append_assoc]
      simp only [Bool.false_and, Bool.false_eq_true, ↓reduceIte, Bool.not_false]
      rw [scan_escapeChars (by simp) (by simp [EndsWord]), List.singleton_append, scan_quote]
      have hbuffer : text.toList.reverse.isEmpty = false := by simpa using htext
      simp only [List.append_nil, hbuffer, Bool.and_false, Bool.false_eq_true, ↓reduceIte,
        Bool.not_true, flush_reverse htext]
      rfl
    · rename_i hblank
      have hword : text.toList.all (fun c => !Text.isBlank c) = true := by
        simpa [Text.hasBlank, List.all_eq_true] using hblank
      rw [scan_escapeChars (fun _ => hword) (by simpa [EndsWord] using h), scan_at_end h,
        List.append_nil, flush_reverse htext]
      rfl

/-! ## Lines of tokens -/

theorem ofLine_spelled (hgap : ∀ n, gap n ≠ "" ∧ Text.isBlankText (gap n) = true)
    (hne : .word "" ∉ tokens) : ofLine (joinBy gap tokens) = tokens := by
  unfold ofLine
  induction tokens with
  | nil => rfl
  | cons token rest ih =>
    simp only [List.mem_cons, not_or] at hne
    cases rest with
    | nil =>
      have hend : scan false [] (token.render.toList ++ []) = token :: scan false [] [] :=
        scan_render (Ne.symm hne.1) (by simp)
      simpa [joinBy, scan, flush] using hend
    | cons next rest =>
      obtain ⟨hsome, hblank⟩ := hgap (next :: rest).length
      have hhead : ∀ c ∈ ((gap (next :: rest).length).toList ++
          (joinBy gap (next :: rest)).toList).head?, Text.isBlank c = true := by
        intro c hc
        obtain ⟨d, ds, hd⟩ := List.exists_cons_of_ne_nil
          (show (gap (next :: rest).length).toList ≠ [] by simpa using hsome)
        rw [hd, List.cons_append, List.head?_cons, Option.mem_some] at hc
        exact List.all_eq_true.mp hblank c (by rw [hd, hc]; exact List.mem_cons_self)
      rw [joinBy.eq_3 gap token (next :: rest) (by simp), String.toList_append,
        String.toList_append, List.append_assoc, scan_render (Ne.symm hne.1) hhead,
        scan_gap hblank, ih hne.2]

def spell (tokens : List Token) : String := joinBy (fun _ => " ") tokens

theorem ofLine_spell (h : .word "" ∉ tokens) : ofLine (spell tokens) = tokens :=
  ofLine_spelled (fun _ => by decide) h

theorem spell_cons (token : Token) (h : rest ≠ []) :
    spell (token :: rest) = token.render ++ " " ++ spell rest :=
  joinBy.eq_3 _ token rest h

theorem spell_eq (tokens : List Token) :
    spell tokens = String.intercalate " " (tokens.map render) := by
  induction tokens with
  | nil => rfl
  | cons token tokens ih =>
    cases tokens with
    | nil => simp [spell, joinBy]
    | cons next tokens =>
      rw [spell_cons token (List.cons_ne_nil next tokens), ih, List.map_cons, List.map_cons,
        List.map_cons, String.intercalate_cons_cons]

theorem spell_append (hs : tokens ≠ []) (ht : rest ≠ []) :
    spell (tokens ++ rest) = spell tokens ++ " " ++ spell rest := by
  induction tokens with
  | nil => exact absurd rfl hs
  | cons token tokens ih =>
    cases tokens with
    | nil => exact spell_cons token ht
    | cons next tokens =>
      rw [List.cons_append, spell_cons token (by simp), spell_cons token (by simp), ih (by simp)]
      simp only [String.append_assoc]

def isSimple (text : String) : Bool :=
  text.toList.all fun c => !Text.isBlank c && c != '"' && c != '\\'

theorem hasEscape_false (h : cs.all (· != '\\') = true) : hasEscape cs = false := by
  induction cs with
  | nil => rfl
  | cons c cs ih =>
    simp only [List.all_cons, Bool.and_eq_true, bne_iff_ne] at h
    rw [hasEscape.eq_2 c cs (by intro d ds he; exact absurd he h.1), ih h.2]

theorem render_simple (h : isSimple text = true) : (word text).render = text := by
  simp only [isSimple, List.all_eq_true, Bool.and_eq_true, bne_iff_ne, Bool.not_eq_true'] at h
  have hquote : text.toList.contains '"' = false := by
    rw [← Bool.not_eq_true, List.contains_iff_mem]
    exact fun hm => (h _ hm).1.2 rfl
  have hblank : text.toList.any Text.isBlank = false := by
    rw [List.any_eq_false]
    exact fun c hm => by simp [(h c hm).1.1]
  have hescape : hasEscape text.toList = false :=
    hasEscape_false (List.all_eq_true.mpr fun c hm => by simpa using (h c hm).2)
  simp only [render, escape, hquote, hblank, hescape, Bool.not_false, Bool.and_self, ↓reduceIte]

theorem empty_word_not_flushed (buffer : List Char) : .word "" ∉ flush buffer := by
  cases buffer with
  | nil => simp [flush]
  | cons c buffer =>
    intro h
    have := congrArg String.toList (Token.word.inj (List.mem_singleton.mp h))
    simp at this

theorem empty_word_not_scanned (inside : Bool) (buffer cs : List Char) :
    .word "" ∉ scan inside buffer cs := by
  fun_induction scan inside buffer cs with
  | case1 inside buffer => exact empty_word_not_flushed buffer
  | case2 inside buffer rest ih =>
    intro h
    rcases List.mem_append.mp h with h | h
    · split at h
      · simp at h
      · exact empty_word_not_flushed _ h
    · exact ih h
  | case3 _ _ _ _ _ ih | case4 _ _ _ _ _ ih | case6 _ _ _ _ _ _ _ ih => exact ih
  | case5 inside buffer c rest _ _ _ ih =>
    intro h
    rcases List.mem_append.mp h with h | h
    · exact empty_word_not_flushed _ h
    · exact ih h

/-- Spelling tokens and reading them are inverse, whatever the white space between two tokens.
The empty word is the one token that no line has. -/
theorem spelled_tokens_read_back (gap : Nat → String)
    (hgap : ∀ n, gap n ≠ "" ∧ Text.isBlankText (gap n) = true) :
    (∀ tokens : List Token, .word "" ∉ tokens → ofLine (joinBy gap tokens) = tokens) ∧
    ∀ line : String, .word "" ∉ ofLine line ∧ ofLine (joinBy gap (ofLine line)) = ofLine line := by
  refine ⟨fun tokens hne => ofLine_spelled hgap hne, fun line => ?_⟩
  have hne := empty_word_not_scanned false [] line.toList
  exact ⟨hne, ofLine_spelled hgap hne⟩

/-- Two kinds of gaps around the null token and words with quotes and backslashes. -/
theorem quoted_words_read_back :
    (∀ n, (fun n => if n = 1 then "\t " else "\n") n ≠ "" ∧
      Text.isBlankText ((fun n => if n = 1 then "\t " else "\n") n) = true) ∧
    .word "" ∉ [word "a \"b\\", .null, word "\\\\", word "\\\""] ∧
    ofLine (joinBy (fun n => if n = 1 then "\t " else "\n")
      [word "a \"b\\", .null, word "\\\\", word "\\\""]) =
      [word "a \"b\\", .null, word "\\\\", word "\\\""] := by
  have hgap : ∀ n, (fun n => if n = 1 then "\t " else "\n") n ≠ "" ∧
      Text.isBlankText ((fun n => if n = 1 then "\t " else "\n") n) = true := by
    intro n
    by_cases h : n = 1 <;> simp only [h, ↓reduceIte] <;> decide
  have hne : .word "" ∉ [word "a \"b\\", .null, word "\\\\", word "\\\""] := by decide
  exact ⟨hgap, hne, (spelled_tokens_read_back _ hgap).1 _ hne⟩

end HeapQuery.Token
