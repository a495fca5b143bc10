import HeapQuery.Heap.Histogram
import HeapQuery.Proofs.LineParsed
import HeapQuery.Proofs.Lowered

namespace HeapQuery

namespace Token

def isVerbatim (text : String) : Bool :=
  !Text.hasBlank text && !text.toList.contains '"' && !hasEscape text.toList

def width : Token → Nat
  | null => 0
  | word text => text.length

def totalWidth (tokens : List Token) : Nat := (tokens.map width).sum

/-- Some character is not read as part of a word. -/
def losesChar (inside : Bool) (cs : List Char) : Bool :=
  cs.contains '"' || hasEscape cs || (!inside && cs.any Text.isBlank)

theorem isVerbatim_iff : isVerbatim text = true ↔ losesChar false text.toList = false := by
  simp only [isVerbatim, losesChar, Text.hasBlank, Bool.and_eq_true, Bool.not_eq_true',
    Bool.or_eq_false_iff, Bool.not_false, Bool.true_and]
  constructor
  · rintro ⟨⟨hblank, hquote⟩, hescape⟩
    exact ⟨⟨hquote, hescape⟩, hblank⟩
  · rintro ⟨⟨hquote, hescape⟩, hblank⟩
    exact ⟨⟨hblank, hquote⟩, hescape⟩

theorem totalWidth_append (tokens rest : List Token) :
    totalWidth (tokens ++ rest) = totalWidth tokens + totalWidth rest := by
  simp [totalWidth]

theorem totalWidth_flush (buffer : List Char) : totalWidth (flush buffer) = buffer.length := by
  cases buffer with
  | nil => rfl
  | cons c cs => simp [flush, totalWidth, width]

/-- A character that is read as itself is lost no more than the rest is. -/
theorem losesChar_cons (hquote : c ≠ '"') (hescape : hasEscape (c :: cs) = hasEscape cs)
    (hblank : inside = false → Text.isBlank c = false) :
    losesChar inside (c :: cs) = losesChar inside cs := by
  have hcontains : (c :: cs).contains '"' = cs.contains '"' := by
    simp [Ne.symm hquote]
  unfold losesChar
  rw [hcontains, hescape, List.any_cons]
  cases inside with
  | true => rfl
  | false => rw [hblank rfl, Bool.false_or]

/-- The words that are read have no more characters than the line, and fewer where it has a
character that is no part of a word. -/
theorem scan_width (inside : Bool) (buffer cs : List Char) :
    totalWidth (scan inside buffer cs) + (losesChar inside cs).toNat ≤
      buffer.length + cs.length := by
  fun_induction scan inside buffer cs with
  | case1 inside buffer =>
    rw [totalWidth_flush]
    simp [losesChar, hasEscape]
  | case2 inside buffer rest ih =>
    have hone := Bool.toNat_le (losesChar inside ('"' :: rest))
    have hflush : totalWidth (if inside && buffer.isEmpty then [.null] else flush buffer) ≤
        buffer.length := by
      split
      · exact Nat.zero_le _
      · exact Nat.le_of_eq (totalWidth_flush buffer)
    rw [totalWidth_append]
    simp only [List.length_cons, List.length_nil] at ih ⊢
    omega
  | case3 inside buffer c rest hc ih =>
    have hone := Bool.toNat_le (losesChar inside ('\\' :: c :: rest))
    simp only [List.length_cons] at ih ⊢
    omega
  | case4 inside buffer c rest hc ih =>
    have hescape : hasEscape ('\\' :: c :: rest) = hasEscape (c :: rest) := by
      rw [hasEscape.eq_1]
      simp only [Bool.or_eq_true, not_or, Bool.not_eq_true] at hc
      simp [hc]
    have hsame : losesChar inside ('\\' :: c :: rest) = losesChar inside (c :: rest) := by
      apply losesChar_cons
      · decide
      · exact hescape
      · intro _
        decide
    rw [hsame]
    simp only [List.length_cons] at ih ⊢
    omega
  | case5 inside buffer c rest hquote hescape hc ih =>
    have hone := Bool.toNat_le (losesChar inside (c :: rest))
    rw [totalWidth_append, totalWidth_flush]
    simp only [List.length_cons, List.length_nil] at ih ⊢
    omega
  | case6 inside buffer c rest hquote hescape hc ih =>
    have hsame : losesChar inside (c :: rest) = losesChar inside rest := by
      apply losesChar_cons
      · exact hquote
      · exact hasEscape.eq_2 c rest hescape
      · intro hout
        simpa [hout] using hc
    rw [hsame]
    simp only [List.length_cons] at ih ⊢
    omega

/-- A line that is read as one word of its own length is read as it is. -/
theorem isVerbatim_of_width (h : ofLine line = [token]) (hw : line.length ≤ token.width) :
    isVerbatim line = true := by
  have hscan := scan_width false [] line.toList
  rw [← ofLine, h] at hscan
  simp only [totalWidth, List.map_cons, List.map_nil, List.sum_cons, List.sum_nil,
    List.length_nil, String.length_toList] at hscan
  rw [isVerbatim_iff, ← Bool.toNat_eq_zero]
  omega

theorem ofLine_verbatim (h : isVerbatim text = true) (hne : text ≠ "") :
    ofLine text = [.word text] := by
  have hrender : (word text).render = text := by
    simp only [isVerbatim, Text.hasBlank, Bool.and_eq_true, Bool.not_eq_true'] at h
    simp only [render, escape, h, Bool.not_false, Bool.and_self, ↓reduceIte]
  have hspell : ofLine (spell [.word text]) = [.word text] := by
    apply ofLine_spell
    simpa using Ne.symm hne
  rwa [spell, joinBy, hrender] at hspell

theorem isVerbatim_dashed : isVerbatim ("-" ++ flag) = isVerbatim flag := by
  have hdash : losesChar false ("-" ++ flag).toList = losesChar false flag.toList := by
    rw [String.toList_append]
    apply losesChar_cons
    · decide
    · exact hasEscape.eq_2 '-' flag.toList (by simp)
    · intro _
      decide
  rw [Bool.eq_iff_iff, isVerbatim_iff, isVerbatim_iff, hdash]

end Token

open Token

variable {r r' : Registry} {q : Registered} {a : Argument}

/-! ## Identifiers -/

/-- An identifier is in small letters, so that looking it up in small letters finds it. -/
theorem QuerySpec.lower_identifier (spec : QuerySpec) :
    Text.lower spec.identifier = spec.identifier := by
  apply Text.lower_of_isLowered
  intro c hc
  simp only [identifier, String.toList_ofList, List.mem_map] at hc
  obtain ⟨d, hd, rfl⟩ := hc
  split
  · decide +kernel
  · simp only [Text.lower, String.toList_ofList, Text.lowerChars] at hd
    exact Text.lowerFrom_isLowered [] _ d hd

theorem QuerySpec.build_lowered {spec : QuerySpec} (h : spec.build t n = .ok q) :
    Text.lower q.identifier = q.identifier := by
  obtain ⟨_, _, _, _, _, _, rfl⟩ := build_ok h
  exact spec.lower_identifier

theorem Registry.Sound.find_lower (h : Registry.Sound r) (hp : q ∈ r.queries) :
    r.find? (Text.lower q.identifier) = some q := by
  obtain ⟨spec, n, hbuild⟩ := h.built q hp
  rw [QuerySpec.build_lowered hbuild, h.find hp]

theorem Registry.register_find {spec : QuerySpec} (h : r.register spec = .ok (q, r')) :
    r'.find? (Text.lower q.identifier) = some q := by
  obtain ⟨hbuild, hfree, rfl⟩ := register_ok h
  have hown : Registry.identified? { r with queries := r.queries ++ [q] } q.identifier =
      some q := by
    unfold identified? at hfree ⊢
    rw [List.find?_append, hfree]
    simp
  rw [QuerySpec.build_lowered hbuild, find?]
  simp only [identified?] at hown ⊢
  rw [hown]

/-- A line that is a registered identifier and no more makes bindings of the query. -/
theorem Registry.parse_identifier {spec : QuerySpec} (h : r.register spec = .ok (q, r'))
    (hline : ofLine q.identifier = [.word q.identifier]) (c : Context) :
    ∃ b, CommandLine.parse r' c q.identifier = .ok b ∧ b.query = q.toQuery := by
  obtain ⟨hbuild, _⟩ := register_ok h
  have hoptions : q.options = none := by
    obtain ⟨_, _, _, _, _, _, rfl⟩ := QuerySpec.build_ok hbuild
    rfl
  obtain ⟨b, hb, hquery, _⟩ := started (QuerySpec.build_wellMade hbuild) c
  refine ⟨b, ?_, hquery⟩
  unfold CommandLine.parse
  simp only [hline, register_find h, CommandLine.begin, hoptions]
  refine bind_ok.mpr ⟨_, rfl, bind_ok.mpr ⟨b, hb, ?_⟩⟩
  rw [CommandLine.bindAll.eq_1]
  rfl

/-! ## Flags -/

theorem Text.length_eq_of_sameLetters (h : equalsIgnoringAsciiCase s t = true) :
    s.length = t.length := by
  have hsame : s.toList.map Char.toLower = t.toList.map Char.toLower := by
    simpa [equalsIgnoringAsciiCase] using h
  have hlength := congrArg List.length hsame
  rwa [List.length_map, List.length_map, String.length_toList, String.length_toList] at hlength

theorem flag_width {token : Token} (h : token.flag? = some name) :
    token.width = name.length + 1 := by
  obtain ⟨rfl, _⟩ := CommandLine.flag_eq_some h
  rw [width, String.length_append, Nat.add_comm]
  rfl

/-- A flag finds the argument that has it, also where another flag differs in case only. -/
theorem Query.WellMade.finds_flag {q : Query} (hq : q.WellMade) (ha : a ∈ q.arguments)
    (hflag : a.flag = some flag) : q.argumentFlagged? flag = some a :=
  hq.flag_found ha hflag fun _ _ _ _ heq => Text.lower_eq_of_sameLetters heq

/-- A flag can be typed as it is exactly when it is read as itself. -/
theorem flag_typed_iff {q : Query} (hq : q.WellMade) (ha : a ∈ q.arguments)
    (hflag : a.flag = some flag) :
    (∃ token name, ofLine ("-" ++ flag) = [token] ∧ token.flag? = some name ∧
      q.argumentFlagged? name = some a) ↔ isVerbatim flag = true := by
  rw [← isVerbatim_dashed]
  constructor
  · intro ⟨token, name, hline, hname, hfind⟩
    have hsame : Text.equalsIgnoringAsciiCase flag name = true := by
      have hany := List.find?_some hfind
      simpa [hflag] using hany
    apply isVerbatim_of_width hline
    rw [flag_width hname, ← Text.length_eq_of_sameLetters hsame, String.length_append,
      Nat.add_comm]
    exact Nat.le_refl _
  · intro hverbatim
    have hne : flag ≠ "" := by
      intro he
      exact (hq.made a ha).flag_ne (he ▸ hflag)
    refine ⟨.word ("-" ++ flag), flag, ofLine_verbatim hverbatim (by simp), ?_,
      hq.finds_flag ha hflag⟩
    exact CommandLine.flag_of_dash hne

/-! ## Registered names -/

namespace Registry

/-- What registration accepts can be typed exactly where the names are read as themselves: the
identifier as a line that makes bindings of the query, and a flag as a token that finds its
argument. -/
theorem names_typed_iff {spec : QuerySpec} (h : r.register spec = .ok (q, r')) (c : Context) :
    ((ofLine q.identifier = [.word q.identifier] ∧
      ∃ b, CommandLine.parse r' c q.identifier = .ok b ∧ b.query = q.toQuery) ↔
        isVerbatim q.identifier = true) ∧
    ∀ a ∈ q.arguments, ∀ flag ∈ a.flag,
      ((∃ token name, ofLine ("-" ++ flag) = [token] ∧ token.flag? = some name ∧
        q.argumentFlagged? name = some a) ↔ isVerbatim flag = true) := by
  obtain ⟨hbuild, _⟩ := register_ok h
  constructor
  · constructor
    · intro ⟨hline, _⟩
      exact isVerbatim_of_width hline (Nat.le_refl _)
    · intro hverbatim
      have hne : q.identifier ≠ "" := by
        obtain ⟨_, hne, _, _, _, _, rfl⟩ := QuerySpec.build_ok hbuild
        exact hne
      have hline := ofLine_verbatim hverbatim hne
      exact ⟨hline, parse_identifier h hline c⟩
  · intro a ha flag hflag
    exact flag_typed_iff (QuerySpec.build_wellMade hbuild) ha hflag

/-- The histogram query and its flag for the grouping can be typed. -/
theorem histogram_names_typed : ∃ (r' : Registry) (q : Registered),
    empty.register Heap.histogram = .ok (q, r') ∧
    (∃ b, CommandLine.parse r' .bare q.identifier = .ok b ∧ b.query = q.toQuery) ∧
    ∃ a ∈ q.arguments, a.flag = some "groupby" ∧ ∃ token name,
      ofLine ("-" ++ "groupby") = [token] ∧ token.flag? = some name ∧
      q.argumentFlagged? name = some a := by
  obtain ⟨q, r', hreg⟩ : ∃ q r', empty.register Heap.histogram = .ok (q, r') := ⟨_, _, rfl⟩
  obtain ⟨hid, a, ha, hflag⟩ : q.identifier = "histogram" ∧
      ∃ a ∈ q.arguments, a.flag = some "groupby" := by
    obtain ⟨rfl, rfl⟩ := Prod.mk.inj (Except.ok.inj hreg)
    exact ⟨rfl, _, .tail _ (.tail _ (.head _)), rfl⟩
  obtain ⟨hidentifier, hflags⟩ := names_typed_iff hreg .bare
  have htyped := hidentifier.mpr (by rw [hid]; decide)
  exact ⟨r', q, hreg, htyped.2, a, ha, hflag, (hflags a ha _ hflag).mpr (by decide)⟩

def spaced : QuerySpec :=
  { Heap.histogram with arguments := [{ name := "ignore case", type := .boolean }] }

/-- A query is registered though no token is the flag that it derives from a name. -/
theorem untypeable_flag_registered :
    ¬ ∀ (r r' : Registry) (spec : QuerySpec) (q : Registered), r.Reachable →
        r.register spec = .ok (q, r') → ∀ a ∈ q.arguments, ∀ flag ∈ a.flag,
          ∃ token name, ofLine ("-" ++ flag) = [token] ∧ token.flag? = some name ∧
            q.argumentFlagged? name = some a := by
  intro h
  obtain ⟨q, r', hreg⟩ : ∃ q r', empty.register spaced = .ok (q, r') := ⟨_, _, rfl⟩
  obtain ⟨a, ha, hflag⟩ : ∃ a ∈ q.arguments, a.flag = some "ignore case" := by
    obtain ⟨rfl, rfl⟩ := Prod.mk.inj (Except.ok.inj hreg)
    exact ⟨_, List.mem_cons_self, rfl⟩
  obtain ⟨token, name, hline, _⟩ := h empty r' spaced q (.start .empty) hreg a ha _ hflag
  have htwo : ofLine ("-" ++ "ignore case") = [.word "-ignore", .word "case"] := by decide
  rw [htwo] at hline
  cases hline

end Registry

end HeapQuery
