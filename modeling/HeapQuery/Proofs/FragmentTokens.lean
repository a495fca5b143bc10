import HeapQuery.Proofs.CanonicalLine

namespace HeapQuery

namespace Token

/-- The text is read as these tokens wherever the line ends or goes on with white space. -/
def Spells (text : String) (tokens : List Token) : Prop :=
  ∀ rest : List Char, (∀ c ∈ rest.head?, Text.isBlank c = true) →
    scan false [] (text.toList ++ rest) = tokens ++ scan false [] rest

def Flagless (tokens : List Token) : Prop := ∀ token ∈ tokens, token.flag? = none

/-- Text that can stand for values: its quotes are closed, and it names no flag. -/
def Calm (text : String) : Prop := Spells text (ofLine text) ∧ Flagless (ofLine text)

theorem Flagless.append (h : Flagless tokens) (h' : Flagless others) :
    Flagless (tokens ++ others) := by
  intro token hm
  rcases List.mem_append.mp hm with hm | hm
  · exact h token hm
  · exact h' token hm

theorem spells_render (token : Token) (h : token ≠ .word "") : Spells token.render [token] :=
  fun _ hrest => scan_render h hrest

theorem Spells.ofLine (h : Spells text tokens) : ofLine text = tokens := by
  have hend := h [] (by simp)
  rwa [List.append_nil, scan, flush, List.isEmpty_nil, if_pos rfl, List.append_nil] at hend

theorem Spells.spaced (h : Spells text tokens) : Spells (" " ++ text) tokens := by
  intro rest hrest
  rw [String.toList_append, List.append_assoc]
  have hgap : " ".toList.all Text.isBlank = true := by decide
  exact (scan_gap hgap).trans (h rest hrest)

/-- Texts can follow one another where the second one is set off by a space. -/
theorem Spells.append (h : Spells text tokens) (h' : Spells more others)
    (hspace : ∀ c ∈ more.toList.head?, Text.isBlank c = true) :
    Spells (text ++ more) (tokens ++ others) := by
  intro rest hrest
  rw [String.toList_append, List.append_assoc, h (more.toList ++ rest), h' rest hrest,
    List.append_assoc]
  intro c hc
  rw [List.head?_append] at hc
  cases hmore : more.toList.head? with
  | none =>
    rw [hmore] at hc
    exact hrest c hc
  | some d =>
    rw [hmore] at hc
    exact hspace c (hmore.trans hc)

theorem Spells.join (h : Spells text tokens) (h' : Spells more others) :
    Spells (text ++ " " ++ more) (tokens ++ others) := by
  rw [String.append_assoc]
  apply h.append h'.spaced
  intro c hc
  rw [String.toList_append] at hc
  cases hc
  decide

theorem spells_empty : Spells "" [] := fun _ _ => rfl

theorem spells_all {texts : List String} {read : String → List Token}
    (h : ∀ text ∈ texts, Spells text (read text)) :
    Spells (String.intercalate " " texts) (texts.flatMap read) := by
  induction texts with
  | nil => exact spells_empty
  | cons text texts ih =>
    obtain ⟨hfirst, hrest⟩ := List.forall_mem_cons.mp h
    cases texts with
    | nil => simpa using hfirst
    | cons next texts =>
      rw [String.intercalate_cons_cons, List.flatMap_cons]
      exact hfirst.join (ih hrest)

end Token

open Token

namespace Argument

variable {a : Argument}

/-- The tokens of a fragment that sets the argument. Behind its flag there is a token of any form
where the parser takes one without looking at it; what follows is flagless. -/
inductive SetBy (a : Argument) : List Token → Prop where
  | bare {tokens : List Token} : a.flag = none → Flagless tokens → a.SetBy tokens
  | flagged {flag : String} (guard tail : List Token) : a.flag = some flag →
      guard.length = (if a.isMultiple || a.isBoolean then 0 else 1) → Flagless tail →
      a.SetBy (.word ("-" ++ flag) :: (guard ++ tail))

/-- What stands for the parts of the value that were put off is calm, and there is some of it where
the parser expects a value after a flag. -/
structure Calm (a : Argument) (v : Value) : Prop where
  whole : ∀ serial text product, v = .deferred serial text product → Token.Calm text ∧
    (a.isPositional = false → a.isMultiple = false → a.isBoolean = false → ofLine text ≠ [])
  items : a.isMultiple = true → ∀ serial text product, .deferred serial text product ∈ v.elements →
    Token.Calm text

def nullTokens (a : Argument) : List Token :=
  (a.flag.map fun flag => .word ("-" ++ flag)).toList ++ [.null]

theorem SimpleFlag.spells {flag : String} (h : a.SimpleFlag) (hown : a.flag = some flag) :
    Spells ("-" ++ flag) [.word ("-" ++ flag)] := by
  have hne : Token.word ("-" ++ flag) ≠ .word "" := by simp
  have hrender := spells_render _ hne
  rwa [render_simple (h.dashed hown)] at hrender

theorem flagText_spells (h : a.SimpleFlag) (hbody : Spells text tokens) :
    Spells (a.flagText ++ text)
      ((a.flag.map fun flag => .word ("-" ++ flag)).toList ++ tokens) := by
  unfold flagText
  cases hflag : a.flag with
  | none => simpa using hbody
  | some flag => exact (h.spells hflag).join hbody

/-- A flag and calm text make a fragment, where the text has a token for the flag. -/
theorem flagText_sets (h : Flagless tokens)
    (hguard : a.isPositional = false → a.isMultiple = false → a.isBoolean = false → tokens ≠ []) :
    a.SetBy ((a.flag.map fun flag => .word ("-" ++ flag)).toList ++ tokens) := by
  cases hflag : a.flag with
  | none => exact .bare hflag h
  | some flag =>
    have hpos : a.isPositional = false := by simp [isPositional, hflag]
    cases hopen : a.isMultiple || a.isBoolean with
    | true => exact .flagged [] _ hflag (by simp [hopen]) h
    | false =>
      rw [Bool.or_eq_false_iff] at hopen
      obtain ⟨token, rest, rfl⟩ := List.exists_cons_of_ne_nil (hguard hpos hopen.1 hopen.2)
      have hrest : Flagless rest := fun t ht => h t (List.mem_cons_of_mem _ ht)
      exact .flagged [token] _ hflag (by simp [hopen.1, hopen.2]) hrest

theorem word_spells {inList : Bool} (h : a.word? inList v = some text) :
    ∃ word, Spells text [.word word] ∧
      (inList = true ∨ a.isPositional = true → (Token.word word).flag? = none) := by
  rw [word_eq] at h
  split at h
  · rename_i hwrite
    cases h
    refine ⟨a.type.textOf v, spells_render _ (token_ne_empty hwrite), ?_⟩
    intro hbare
    have hplace : (inList || a.isPositional) = true := by simpa using hbare
    simp only [canWrite, hplace, Bool.true_and, Bool.not_eq_true', Bool.or_eq_false_iff] at hwrite
    simpa using hwrite.1.2
  · cases h

theorem element_spells (hv : ∀ serial usage product, v = .deferred serial usage product →
    Token.Calm usage) (h : a.elementText? v = some text) :
    Spells text (ofLine text) ∧ Flagless (ofLine text) := by
  cases hdeferred : v.isDeferred with
  | true =>
    cases v with
    | deferred serial usage product =>
      cases h
      exact hv _ _ _ rfl
    | _ => cases hdeferred
  | false =>
    have hword : a.word? true v = some text := by
      cases v with
      | deferred => cases hdeferred
      | _ => exact h
    obtain ⟨word, hspells, hflag⟩ := word_spells hword
    rw [hspells.ofLine]
    exact ⟨hspells, by simpa [Flagless] using hflag (.inl rfl)⟩

/-- The text of a list is calm. -/
theorem elements_spell {values : List Value} (hv : ∀ serial usage product,
    .deferred serial usage product ∈ values → Token.Calm usage) :
    ∃ tokens, Spells (String.intercalate " " (values.filterMap a.elementText?)) tokens ∧
      Flagless tokens := by
  have htexts : ∀ text ∈ values.filterMap a.elementText?,
      Spells text (ofLine text) ∧ Flagless (ofLine text) := by
    intro text hm
    obtain ⟨v, hmem, htext⟩ := List.mem_filterMap.mp hm
    apply element_spells _ htext
    intro serial usage product hdeferred
    exact hv serial usage product (hdeferred ▸ hmem)
  refine ⟨_, spells_all fun text hm => (htexts text hm).1, ?_⟩
  intro token hm
  obtain ⟨text, htext, hm⟩ := List.mem_flatMap.mp hm
  exact (htexts text htext).2 token hm

theorem valueText_sets (hflag : a.SimpleFlag) (hb : a.isBoolean = false) (hv : a.Calm v)
    (h : a.valueText? v = some text) :
    ∃ tokens, Spells (a.flagText ++ text) tokens ∧ a.SetBy tokens := by
  unfold valueText? at h
  split at h
  · rename_i hm
    split at h
    · cases h
    · cases h
      obtain ⟨tokens, hspells, hcalm⟩ := elements_spell (a := a) (hv.items hm)
      exact ⟨_, flagText_spells hflag hspells, flagText_sets hcalm (by simp [hm])⟩
  · rename_i hm
    rw [Bool.not_eq_true] at hm
    obtain ⟨word, hspells, hbare⟩ := word_spells h
    refine ⟨_, flagText_spells hflag hspells, ?_⟩
    cases hown : a.flag with
    | none =>
      have hpos : a.isPositional = true := by simp [isPositional, hown]
      exact .bare hown (by simpa [Flagless] using hbare (.inr hpos))
    | some flag =>
      exact .flagged [.word word] [] hown (by simp [hm, hb]) (by simp [Flagless])

/-- A fragment is read as the tokens that it says, and null as the null token. -/
theorem valueUsage_sets {value : Option Value} (hflag : a.SimpleFlag) (hv : ∀ v ∈ value, a.Calm v)
    (h : a.valueUsage value = some text) :
    ∃ tokens, Spells text tokens ∧ a.SetBy tokens ∧ (value = none → tokens = a.nullTokens) := by
  cases value with
  | none =>
    simp only [valueUsage] at h
    split at h
    · cases h
    · rename_i hsingle
      rw [Bool.not_eq_true, Bool.or_eq_false_iff] at hsingle
      cases h
      have hnull : Spells "\"\"" [.null] := spells_render .null (by simp)
      refine ⟨_, flagText_spells hflag hnull, ?_, fun _ => rfl⟩
      exact flagText_sets (by simp [Flagless, Token.flag?]) (by simp)
  | some v =>
    have hcalm := hv v rfl
    suffices ∃ tokens, Spells text tokens ∧ a.SetBy tokens by
      obtain ⟨tokens, hspells, hsets⟩ := this
      exact ⟨tokens, hspells, hsets, by simp⟩
    cases hdeferred : v.isDeferred with
    | true =>
      cases v with
      | deferred serial usage product =>
        cases h
        obtain ⟨⟨hspells, hflagless⟩, hsome⟩ := hcalm.whole _ _ _ rfl
        exact ⟨_, flagText_spells hflag hspells, flagText_sets hflagless hsome⟩
      | _ => cases hdeferred
    | false =>
      rw [valueUsage_plain hdeferred] at h
      split at h
      · rename_i hb
        split at h
        · rename_i flag hown
          cases h
          exact ⟨_, hflag.spells hown,
            .flagged [] [] hown (by simp [hb]) (by simp [Flagless])⟩
        · cases h
      · rename_i hb
        rw [Bool.not_eq_true] at hb
        obtain ⟨body, hbody, rfl⟩ := Option.map_eq_some_iff.mp h
        exact valueText_sets hflag hb hcalm hbody

end Argument

namespace Bindings

variable {b : Bindings} {a : Argument} {i : Nat}

def fragments (b : Bindings) : List (Argument × String) :=
  (positions b.query).filterMap fun (i, a) => (b.fragment? i a).map fun text => (a, text)

def said (b : Bindings) : List (Argument × List Token) :=
  b.fragments.map fun f => (f.1, ofLine f.2)

/-- The semicolon between a list and what comes next, if that is positional. -/
def sealOf (a : Argument) : List (Argument × List Token) → List Token
  | [] => []
  | (next, _) :: _ => if a.isMultiple && next.isPositional then [.word ";"] else []

def joinTokens : List (Argument × List Token) → List Token
  | [] => []
  | (a, tokens) :: rest => tokens ++ sealOf a rest ++ joinTokens rest

/-- What stands for the values that the line shows is calm. -/
def Calm (b : Bindings) : Prop :=
  ∀ i a, b.query.arguments[i]? = some a → b.context.supplies a = false →
    ∀ v, b.shown? i a = some (some v) → a.Calm v

/-- A line is calm where none of its values was put off. -/
theorem calm_of_kept (h : ∀ i a, b.query.arguments[i]? = some a → b.context.supplies a = false →
    ∀ v, b.shown? i a = some (some v) → ∀ item ∈ v :: v.elements, item.isDeferred = false) :
    b.Calm := by
  intro i a hi hsupplied v hv
  obtain ⟨hwhole, hitems⟩ := List.forall_mem_cons.mp (h i a hi hsupplied v hv)
  constructor
  · rintro serial text product rfl
    cases hwhole
  · intro _ serial text product hm
    cases hitems _ hm

theorem joinFragments_head (fragments : List (Argument × String)) :
    ∀ c ∈ (joinFragments fragments).toList.head?, Text.isBlank c = true := by
  intro c hc
  unfold joinFragments at hc
  split at hc
  · cases hc
  all_goals
    simp only [String.append_assoc, String.toList_append] at hc
    cases hc
    decide

theorem joinFragments_spells {fragments : List (Argument × String)}
    (h : ∀ f ∈ fragments, Spells f.2 (ofLine f.2)) :
    Spells (joinFragments fragments)
      (joinTokens (fragments.map fun f => (f.1, ofLine f.2))) := by
  induction fragments with
  | nil => exact spells_empty
  | cons f rest ih =>
    obtain ⟨hfirst, hrest⟩ := List.forall_mem_cons.mp h
    have hfirst := hfirst.spaced
    cases rest with
    | nil => simpa [joinFragments, joinTokens, sealOf] using hfirst
    | cons next rest =>
      refine Spells.append (Spells.append hfirst ?_ ?_) (ih hrest) (joinFragments_head _)
      · simp only [List.map_cons, sealOf]
        split
        · exact (spells_render (.word ";") (by decide)).spaced
        · exact spells_empty
      · intro c hc
        split at hc
        · cases hc
          decide
        · cases hc

theorem mem_fragments {f : Argument × String} : f ∈ b.fragments ↔
    ∃ i, b.query.arguments[i]? = some f.1 ∧ b.fragment? i f.1 = some f.2 := by
  obtain ⟨a, text⟩ := f
  simp only [fragments, List.mem_filterMap, Prod.exists, mem_positions]
  constructor
  · rintro ⟨i, a', hi, htext⟩
    obtain ⟨text', htext', he⟩ := Option.map_eq_some_iff.mp htext
    cases he
    exact ⟨i, hi, htext'⟩
  · rintro ⟨i, hi, htext⟩
    exact ⟨i, a, hi, by rw [htext, Option.map_some]⟩

theorem mem_said {f : Argument × List Token} : f ∈ b.said ↔ ∃ i text,
    b.query.arguments[i]? = some f.1 ∧ b.fragment? i f.1 = some text ∧ ofLine text = f.2 := by
  unfold said
  rw [List.mem_map]
  constructor
  · rintro ⟨fragment, hm, rfl⟩
    obtain ⟨i, hi, htext⟩ := mem_fragments.mp hm
    exact ⟨i, fragment.2, hi, htext, rfl⟩
  · rintro ⟨i, text, hi, htext, htokens⟩
    exact ⟨(f.1, text), mem_fragments.mpr ⟨i, hi, htext⟩, Prod.ext rfl htokens⟩

/-- A fragment of a calm line is read as what it says of its argument. -/
theorem Calm.fragment (h : b.Calm) (hflags : ∀ a ∈ b.query.arguments, a.SimpleFlag)
    (hi : b.query.arguments[i]? = some a) (htext : b.fragment? i a = some text) :
    Spells text (ofLine text) ∧ a.SetBy (ofLine text) ∧
      (b.at? i = some none → ofLine text = a.nullTokens) := by
  cases hsupplied : b.context.supplies a with
  | true => simp [fragment?, hsupplied] at htext
  | false =>
    rw [fragment_shown hsupplied] at htext
    obtain ⟨value, hshown, husage⟩ := Option.bind_eq_some_iff.mp htext
    have hcalm : ∀ v ∈ value, a.Calm v := by
      intro v hv
      rw [Option.mem_def.mp hv] at hshown
      exact h i a hi hsupplied v hshown
    obtain ⟨tokens, hspells, hsets, hnull⟩ :=
      Argument.valueUsage_sets (hflags a (List.mem_iff_getElem?.mpr ⟨i, hi⟩)) hcalm husage
    rw [hspells.ofLine]
    refine ⟨hspells, hsets, fun hat => hnull ?_⟩
    cases value with
    | none => rfl
    | some v =>
      rcases shown_cases hshown with hbound | ⟨hunbound, _⟩
      · rw [hat] at hbound
        cases hbound
      · rw [hat] at hunbound
        cases hunbound

/-- The tokens of a calm line are those of its fragments. -/
theorem Calm.ofLine_line (h : b.Calm) (hflags : ∀ a ∈ b.query.arguments, a.SimpleFlag)
    (hid : Token.isSimple b.query.identifier = true) (hne : b.query.identifier ≠ "") :
    ofLine b.line = .word b.query.identifier :: joinTokens b.said := by
  have hname : Spells b.query.identifier [.word b.query.identifier] := by
    have hrender := spells_render (.word b.query.identifier) (by simpa using hne)
    rwa [render_simple hid] at hrender
  have hjoined : Spells (joinFragments b.fragments) (joinTokens b.said) := by
    refine joinFragments_spells fun f hf => ?_
    obtain ⟨i, hi, htext⟩ := mem_fragments.mp hf
    exact (h.fragment hflags hi htext).1
  exact (hname.append hjoined (joinFragments_head _)).ofLine

end Bindings

end HeapQuery
