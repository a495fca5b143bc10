import HeapQuery.Proofs.ClassPatterns
import HeapQuery.Proofs.WholePatterns

namespace HeapQuery.ClassPattern

/-- A letter, digit or underscore, a dot, a star or the mark between a class and an inner class. -/
def isTypedChar (c : Char) : Bool :=
  c.isAlphanum || c == '_' || c == '.' || c == '*' || c == '$'

/-- Made of typed characters and of brackets that close at once. -/
def isTyped : List Char → Bool
  | [] => true
  | '[' :: ']' :: rest => isTyped rest
  | c :: rest => isTypedChar c && isTyped rest

inductive Piece
  | many
  | one
  | char (c : Char)

/-- The pieces of a typed pattern; a star takes the dot in front of it in. -/
def pieces : List Char → List Piece
  | [] => []
  | '.' :: '*' :: rest => .many :: pieces rest
  | '*' :: rest => .many :: pieces rest
  | '.' :: rest => .one :: pieces rest
  | c :: rest => .char c :: pieces rest

/-- The text fits the pieces from its start to its end. -/
def Fits : List Piece → List Char → Prop
  | [], cs => cs = []
  | .many :: ps, cs => ∃ skipped rest, cs = skipped ++ rest ∧ Fits ps rest
  | .one :: ps, cs => ∃ c rest, cs = c :: rest ∧ Fits ps rest
  | .char c :: ps, cs => ∃ rest, cs = c :: rest ∧ Fits ps rest

variable {cs : List Char} {ps : List Piece}

/-- A text without stars fits itself. -/
theorem fits_self (h : '*' ∉ cs) : Fits (pieces cs) cs := by
  fun_induction pieces cs with
  | case1 => rfl
  | case2 rest ih => simp at h
  | case3 rest ih => simp at h
  | case4 rest hstar ih => exact ⟨'.', rest, rfl, ih (by simpa using h)⟩
  | case5 c rest _ _ _ ih => exact ⟨rest, rfl, ih (by simp at h; exact h.2)⟩

/-! ## How the pieces are spelled -/

namespace Piece

def part : Piece → Regex.Part
  | many => .many
  | one => .dot
  | char c => .char c

def Plain : Piece → Prop
  | char c => c.isAlphanum = true ∨ c = '_' ∨ c = '$' ∨ c = '[' ∨ c = ']'
  | _ => True

end Piece

theorem typed_chars (h : isTyped cs = true) :
    ∀ c ∈ cs, isTypedChar c = true ∨ c = '[' ∨ c = ']' := by
  fun_induction isTyped cs with
  | case1 => simp
  | case2 rest ih => simpa using ih h
  | case3 c rest _ ih =>
    obtain ⟨hc, hrest⟩ := Bool.and_eq_true_iff.mp h
    rintro d hd
    rcases List.mem_cons.mp hd with rfl | hd
    · exact .inl hc
    · exact ih hrest d hd

theorem pieces_plain (h : ∀ c ∈ cs, isTypedChar c = true ∨ c = '[' ∨ c = ']') :
    ∀ p ∈ pieces cs, p.Plain := by
  fun_induction pieces cs with
  | case1 => simp
  | case2 rest ih => simpa [Piece.Plain] using ih (by simp at h; exact h.2.2)
  | case3 rest ih => simpa [Piece.Plain] using ih (by simp at h; exact h.2)
  | case4 rest _ ih => simpa [Piece.Plain] using ih (by simp at h; exact h.2)
  | case5 c rest _ hstar hdot ih =>
    obtain ⟨hc, hrest⟩ := List.forall_mem_cons.mp h
    refine List.forall_mem_cons.mpr ⟨?_, ih hrest⟩
    simp only [isTypedChar, Piece.Plain, Bool.or_eq_true, beq_iff_eq] at hc ⊢
    grind

theorem word_no_mark {c : Char} (h : c.isAlphanum = true ∨ c = '_') : c ∉ Regex.Part.marks := by
  have hmarks : (Regex.Part.marks.all fun c => !c.isAlphanum && c != '_') = true := by decide
  intro hmark
  have hapart := List.all_eq_true.mp hmarks c hmark
  rcases h with h | h <;> simp [h] at hapart

def rowOf (ps : List Piece) : Regex.Row := ps.map Piece.part

theorem text_cons (p : Piece) (ps : List Piece) :
    (rowOf (p :: ps)).text = p.part.text ++ (rowOf ps).text := List.flatMap_cons

/-- Rewriting spells every piece; what stood in front only counts for a star. -/
theorem fix_eq (h : isTyped cs = true) (hend : cs.getLast? ≠ some '$') (previous : Option Char)
    (hprevious : cs.head? = some '*' →
      previous ≠ some '.' ∧ previous ≠ some ')' ∧ previous ≠ some ']') :
    fix previous cs = (rowOf (pieces cs)).text := by
  have hrest {c : Char} {rest : List Char} (hend : (c :: rest).getLast? ≠ some '$') :
      rest.getLast? ≠ some '$' := by
    cases rest with
    | nil => exact nofun
    | cons d rest => simpa using hend
  have hspelled : Regex.Part.text (.char '$') = ['\\', '$'] ∧
      Regex.Part.text (.char '[') = ['\\', '['] ∧ Regex.Part.text (.char ']') = ['\\', ']'] := by
    decide
  obtain ⟨hdollars, hopens, hcloses⟩ := hspelled
  fun_induction isTyped cs generalizing previous with
  | case1 => rfl
  | case2 rest ih =>
    have hfix : fix none rest = (rowOf (pieces rest)).text :=
      ih h (hrest (hrest hend)) none fun _ => ⟨nofun, nofun, nofun⟩
    simp [fix, pieces, text_cons, Piece.part, hopens, hcloses, hfix]
  | case3 c rest hbrackets ih =>
    obtain ⟨hc, htyped⟩ := Bool.and_eq_true_iff.mp h
    have ih := ih htyped (hrest hend)
    by_cases hdollar : c = '$'
    · subst hdollar
      have hfix := ih none fun _ => ⟨nofun, nofun, nofun⟩
      cases rest with
      | nil => simp at hend
      | cons d rest => simp [fix, pieces, text_cons, Piece.part, hdollars, hfix]
    by_cases hstar : c = '*'
    · subst hstar
      have hfix := ih (some '*') fun _ => ⟨by decide, by decide, by decide⟩
      obtain ⟨hpoint, hround, hsquare⟩ := hprevious rfl
      simp [fix, pieces, text_cons, Piece.part, Regex.Part.text, hpoint, hround, hsquare, hfix]
    by_cases hdot : c = '.'
    · subst hdot
      by_cases hhead : rest.head? = some '*'
      · obtain ⟨rest, rfl⟩ := List.head?_eq_some_iff.mp hhead
        -- The star is spelled with a dot of its own where nothing stands in front.
        have hfix := ih none fun _ => ⟨nofun, nofun, nofun⟩
        simpa [fix, pieces, text_cons, Piece.part, Regex.Part.text] using hfix
      · have hfix := ih (some '.') fun hstar => absurd hstar hhead
        have hpieces : pieces ('.' :: rest) = .one :: pieces rest :=
          pieces.eq_4 rest fun inner he => hhead (by rw [he, List.head?_cons])
        simp [fix, hpieces, text_cons, Piece.part, Regex.Part.text, hfix]
    have hplain : c ≠ '\\' ∧ c ≠ '[' ∧ c ≠ ']' ∧ c ≠ ')' := by
      refine ⟨?_, ?_, ?_, ?_⟩ <;> (rintro rfl; cases hc)
    obtain ⟨hbackslash, _, hclose, hround⟩ := hplain
    have hword : c.isAlphanum = true ∨ c = '_' := by
      simpa [isTypedChar, hdot, hstar, hdollar] using hc
    have hfix := ih (some c) fun _ =>
      ⟨by simpa using hdot, by simpa using hround, by simpa using hclose⟩
    simp [fix, pieces, text_cons, Piece.part, Regex.Part.text, word_no_mark hword, hdollar, hdot,
      hbackslash, hfix]

theorem normalize_eq {p : String} (h : isTyped p.toList = true)
    (hend : p.toList.getLast? ≠ some '$') :
    normalize false p = (rowOf (pieces p.toList)).source := by
  have hfix := fix_eq h hend none fun _ => ⟨nofun, nofun, nofun⟩
  simp [normalize, hfix, Regex.Row.source]

theorem source_no_remark (h : ∀ p ∈ ps, p.Plain) : '#' ∉ (rowOf ps).text := by
  simp only [rowOf, Regex.Row.text, List.mem_flatMap, List.mem_map, not_exists, not_and]
  rintro _ ⟨p, hp, rfl⟩ hmem
  have hplain := h p hp
  cases p with
  | many => simp [Piece.part, Regex.Part.text] at hmem
  | one => simp [Piece.part, Regex.Part.text] at hmem
  | char c =>
    have hc : '#' = c := by
      by_cases hmark : c ∈ Regex.Part.marks <;>
        simpa [Piece.part, Regex.Part.text, hmark] using hmem
    subst hc
    rcases hplain with hc | hc | hc | hc | hc <;> cases hc

/-! ## What the pieces mean -/

open Regex

variable {L : Library} {S : L.Semantics}

theorem legible_pieces (h : ∀ p ∈ ps, p.Plain) : L.Legible (rowOf ps) where
  chars c hc := by
    obtain ⟨p, hp, hpart⟩ := List.mem_map.mp hc
    cases p with
    | char d =>
      cases hpart
      have hmarks : '$' ∈ Part.marks ∧ '[' ∈ Part.marks ∧ ']' ∈ Part.marks := by decide
      rcases h _ hp with hword | hline | rfl | rfl | rfl
      · exact .inl hword
      · exact .inr (.inl hline)
      · exact .inr (.inr hmarks.1)
      · exact .inr (.inr hmarks.2.1)
      · exact .inr (.inr hmarks.2.2)
    | _ => cases hpart
  groups source hs := by
    obtain ⟨p, _, hpart⟩ := List.mem_map.mp hs
    cases p <;> cases hpart
  one_group := by
    have hnone : (rowOf ps).countP Part.isGroup = 0 := by
      rw [List.countP_eq_zero]
      intro part hpart
      obtain ⟨p, _, rfl⟩ := List.mem_map.mp hpart
      cases p <;> exact Bool.false_ne_true
    omega

/-- Stars are the only pieces that nest, in the row they stand in. -/
theorem depth_pieces (S : L.Semantics) (ps : List Piece) : S.rowDepth (rowOf ps) ≤ 2 := by
  have hpiece (p : Piece) : S.partDepth p.part ≤ 1 := by
    cases p <;> simp [Piece.part, Library.Semantics.partDepth]
  have hparts (ps : List Piece) : ((rowOf ps).map S.partDepth).foldr max 0 ≤ 1 := by
    induction ps with
    | nil => exact Nat.zero_le 1
    | cons p ps ih => exact Nat.max_le.mpr ⟨hpiece p, ih⟩
  rcases ps with _ | ⟨p, _ | ⟨q, ps⟩⟩
  · exact Nat.zero_le 2
  · exact Nat.le_succ_of_le (hpiece p)
  · exact Nat.succ_le_succ (hparts (p :: q :: ps))

variable {rest text : List Char} {i j : Nat}

theorem drop_eq_cons_iff {c : Char} :
    text.drop i = c :: rest ↔ text[i]? = some c ∧ text.drop (i + 1) = rest := by
  rcases Nat.lt_or_ge i text.length with hi | hi
  · rw [List.drop_eq_getElem_cons hi, List.getElem?_eq_getElem hi, List.cons.injEq,
      Option.some.injEq]
  · simp [List.drop_eq_nil_of_le hi, List.getElem?_eq_none hi]

/-- Where no line ends, any character is passed over. -/
theorem char_at (hline : '\n' ∉ text) :
    (∃ c, text[i]? = some c ∧ c ≠ '\n') ↔ i < text.length := by
  constructor
  · rintro ⟨c, hc, _⟩
    exact (List.getElem?_eq_some_iff.mp hc).1
  · intro hi
    exact ⟨text[i], List.getElem?_eq_getElem hi, fun he => hline (he ▸ List.getElem_mem hi)⟩

theorem spans_many (hi : i ≤ text.length) (hline : '\n' ∉ text) :
    S.partSpans text .many i j ↔ i ≤ j ∧ j ≤ text.length := by
  simp only [Library.Semantics.partSpans, char_at hline]
  constructor
  · rintro ⟨hle, hall⟩
    refine ⟨hle, Nat.le_of_not_lt fun hlt => ?_⟩
    exact Nat.lt_irrefl _ (hall text.length hi hlt)
  · rintro ⟨hle, hj⟩
    exact ⟨hle, fun k _ hk => Nat.lt_of_lt_of_le hk hj⟩

/-- The row matches from a position to the end where what is left fits the pieces. -/
theorem row_fits (hi : i ≤ text.length) (hline : '\n' ∉ text) :
    S.rowSpans text (rowOf ps) i text.length ↔ Fits ps (text.drop i) := by
  induction ps generalizing i with
  | nil =>
    simp only [rowOf, List.map_nil, Library.Semantics.rowSpans, Fits, List.drop_eq_nil_iff]
    omega
  | cons p ps ih =>
    change (∃ k, S.partSpans text p.part i k ∧ S.rowSpans text (rowOf ps) k text.length) ↔ _
    cases p with
    | many =>
      simp only [Piece.part, spans_many hi hline, Fits]
      constructor
      · rintro ⟨k, ⟨hik, hk⟩, hrow⟩
        have hdrop : text.drop i = (text.drop i).take (k - i) ++ text.drop k := by
          have hsplit := List.take_append_drop (k - i) (text.drop i)
          rw [List.drop_drop, Nat.add_sub_of_le hik] at hsplit
          exact hsplit.symm
        exact ⟨_, _, hdrop, (ih hk).mp hrow⟩
      · rintro ⟨skipped, rest, hdrop, hfits⟩
        have hlength : text.length - i = skipped.length + rest.length := by
          simpa using congrArg List.length hdrop
        have hrest : text.drop (i + skipped.length) = rest := by
          rw [← List.drop_drop, hdrop, List.drop_left]
        have hk : i + skipped.length ≤ text.length := by omega
        exact ⟨i + skipped.length, ⟨Nat.le_add_right _ _, hk⟩, (ih hk).mpr (hrest ▸ hfits)⟩
    | one =>
      simp only [Piece.part, Library.Semantics.partSpans, char_at hline, Fits, drop_eq_cons_iff]
      constructor
      · rintro ⟨k, ⟨rfl, hlt⟩, hrow⟩
        exact ⟨text[i], _, ⟨List.getElem?_eq_getElem hlt, rfl⟩, (ih hlt).mp hrow⟩
      · rintro ⟨c, _, ⟨hc, rfl⟩, hfits⟩
        have hlt := (List.getElem?_eq_some_iff.mp hc).1
        exact ⟨i + 1, ⟨rfl, hlt⟩, (ih hlt).mpr hfits⟩
    | char c =>
      simp only [Piece.part, Library.Semantics.partSpans, Fits, drop_eq_cons_iff]
      constructor
      · rintro ⟨k, ⟨rfl, hc⟩, hrow⟩
        exact ⟨_, ⟨hc, rfl⟩, (ih (List.getElem?_eq_some_iff.mp hc).1).mp hrow⟩
      · rintro ⟨_, ⟨hc, rfl⟩, hfits⟩
        exact ⟨i + 1, ⟨rfl, hc⟩, (ih (List.getElem?_eq_some_iff.mp hc).1).mpr hfits⟩

/-- A typed pattern is turned into a regular expression, which accepts the names that fit the
pattern as a glob. Without stars it accepts its own text. -/
theorem typed_accepts (hS : S.Documented) {p : String} (h : isTyped p.toList = true)
    (hend : p.toList.getLast? ≠ some '$') : ∃ q, Pattern.compile? L (normalize false p) = some q ∧
      (∀ name : String, '\n' ∉ name.toList →
        (q.accepts name = true ↔ Fits (pieces p.toList) name.toList)) ∧
      ('*' ∉ p.toList → q.accepts p = true) := by
  have hplain := pieces_plain (typed_chars h)
  have hlegible : L.Legible (rowOf (pieces p.toList)) := legible_pieces hplain
  have hdepth := depth_pieces S (pieces p.toList)
  rw [normalize_eq h hend]
  have hcompile := (hS.row_compiles hlegible).mpr (Nat.le_trans hdepth (by decide))
  obtain ⟨e, he⟩ := Option.isSome_iff_exists.mp hcompile
  have hends : ¬L.EndsInRemark (rowOf (pieces p.toList)).source := by
    intro hends
    have hremark := hS.remark_begins hends
    rw [Row.source, String.toList_ofList] at hremark
    exact source_no_remark hplain hremark
  obtain ⟨q, hq⟩ := (Pattern.compiles_iff hS he).mpr
    ⟨hends, by rw [hS.row_depth hlegible hcompile]; exact Nat.le_trans hdepth (by decide)⟩
  have haccepts (name : String) (hline : '\n' ∉ name.toList) :
      q.accepts name = true ↔ Fits (pieces p.toList) name.toList := by
    rw [Pattern.accepts_iff hS, Pattern.anywhere_of_compile he hq,
      hS.row_spans hlegible he (Nat.zero_le _), row_fits (Nat.zero_le _) hline, List.drop_zero]
  refine ⟨q, hq, haccepts, fun hstar => (haccepts p ?_).mpr (fits_self hstar)⟩
  intro hline
  rcases typed_chars h _ hline with hc | hc | hc <;> cases hc

/-- Arrays of an inner class, with a star for the class around it. -/
theorem inner_arrays_accepted : semantics.Documented ∧ isTyped "*p$E[]".toList = true ∧
    "*p$E[]".toList.getLast? ≠ some '$' ∧ ∃ q,
      Pattern.compile? standard (normalize false "*p$E[]") = some q ∧
        q.accepts "HashMap$E[]" = true := by
  have htyped : isTyped "*p$E[]".toList = true := rfl
  have hend : "*p$E[]".toList.getLast? ≠ some '$' := by decide
  obtain ⟨q, hq, haccepts, _⟩ := typed_accepts documented htyped hend
  refine ⟨documented, htyped, hend, q, hq, (haccepts "HashMap$E[]" (by decide)).mpr ?_⟩
  exact ⟨"HashMa".toList, "p$E[]".toList, rfl, _, rfl, _, rfl, _, rfl, _, rfl, _, rfl, rfl⟩

end HeapQuery.ClassPattern
