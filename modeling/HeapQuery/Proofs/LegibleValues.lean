import HeapQuery.Proofs.AbsolutePaths
import HeapQuery.Proofs.CanonicalLine
import HeapQuery.Proofs.FloatTexts

namespace HeapQuery

open CommandLine (flag_none_of_head head_of_flag_none)

/-- A floating-point number is one of its format; other values need nothing. -/
def Value.Representable : Value → Prop
  | .double x => x.Canonical .double
  | .float x => x.Canonical .single
  | _ => True

theorem written_written (value : Value) : value.written.written = value.written := by
  cases value with
  | file path => exact congrArg Value.file (Path.absolute_absolute path)
  | _ => rfl

namespace ValueType

variable {t : ValueType} {value : Value} {advice : Option Advice} {text : String}

theorem representable_of_exact (ht : t.isExact = true) (h : t.accepts value = true) :
    value.Representable := by
  cases value with
  | double | float => cases t <;> first | (cases ht; done) | cases h
  | _ => trivial

theorem read_double {x : Number.Double} (h : x.Canonical .double) :
    read double advice (Number.Layout.plain.write .double x) = .ok (.double x) := by
  simp [read, readFloat, Number.readFloat_write Number.moderate_double h, Except.map]

theorem read_float {x : Number.Single} (h : x.Canonical .single) :
    read float advice (Number.Layout.plain.write .single x) = .ok (.float x) := by
  simp [read, readFloat, Number.readFloat_write Number.moderate_single h, Except.map]

/-- Values are legible, if patterns and floating-point numbers are as they are read. -/
theorem legible_of_settled (h : t.accepts value = true) (hp : value.isPlain = true)
    (hsettled : Settled advice value) (hr : value.Representable) : t.Legible advice value := by
  cases hexact : t.isExact with
  | true => exact legible_of_exact hexact h hp hsettled
  | false =>
    refine ⟨h, hp, ?_⟩
    rw [textOf_plain h hp]
    cases t with
    | double =>
      cases value with
      | double x => exact read_double hr
      | deferred | host => cases hp
      | _ => cases h
    | float =>
      cases value with
      | float x => exact read_float hr
      | deferred | host => cases hp
      | _ => cases h
    | file =>
      cases value with
      | file path => rfl
      | deferred | host => cases hp
      | _ => cases h
    | host =>
      cases value with
      | deferred | host => cases hp
      | _ => cases h
    | _ => cases hexact

theorem readInteger_ok {bits : Nat} {n : Int} (h : t.readInteger bits text = .ok n) :
    Number.readInteger (.signed bits) 10 text.toList = .ok n := by
  unfold readInteger at h
  split at h
  · rename_i hread
    cases h
    exact hread
  · cases h

theorem readFloat_ok {f : Number.Format} {x : Number.Binary} (h : t.readFloat f text = .ok x) :
    Number.readFloat f text.toList = .ok x := by
  unfold readFloat at h
  split at h
  · rename_i hread
    cases h
    exact hread
  · cases h

/-- What is read is legible. -/
theorem legible_read (h : t.read advice text = .ok value) : t.Legible advice value := by
  cases hexact : t.isExact with
  | true => exact legible_of_read hexact h
  | false =>
    cases t with
    | double =>
      obtain ⟨x, hx, rfl⟩ := map_ok.mp h
      exact legible_of_settled rfl rfl nofun
        (Number.readFloat_canonical Number.moderate_double (readFloat_ok hx))
    | float =>
      obtain ⟨x, hx, rfl⟩ := map_ok.mp h
      exact legible_of_settled rfl rfl nofun
        (Number.readFloat_canonical Number.moderate_single (readFloat_ok hx))
    | file =>
      cases h
      exact legible_of_settled rfl rfl nofun trivial
    | host => cases h
    | _ => cases hexact

/-- The first character changes only where it is a sign of the pattern language. -/
theorem fix_head {previous : Option Char} {cs : List Char}
    (h : (ClassPattern.fix previous cs).head? = some '-') : cs.head? = some '-' := by
  fun_cases ClassPattern.fix previous cs <;> simp_all [ClassPattern.fix]

theorem fix_ne_nil {previous : Option Char} {cs : List Char} (h : cs ≠ []) :
    ClassPattern.fix previous cs ≠ [] := by
  fun_cases ClassPattern.fix previous cs <;> simp_all

theorem patternSource_ne_empty (h : text ≠ "") : patternSource advice text ≠ "" := by
  unfold patternSource
  split
  · intro he
    have hchars := congrArg String.toList he
    simp only [ClassPattern.normalize, Bool.false_and, Bool.false_eq_true, ↓reduceIte,
      List.nil_append, String.toList_ofList, String.toList_empty] at hchars
    exact fix_ne_nil (by simpa using h) hchars
  · exact h

theorem patternSource_bare (h : (Token.word text).flag? = none) :
    (Token.word (patternSource advice text)).flag? = none := by
  unfold patternSource
  split
  · by_cases hdash : text = "-"
    · subst hdash
      decide
    · refine flag_none_of_head fun hhead => head_of_flag_none h hdash ?_
      simp only [ClassPattern.normalize, Bool.false_and, Bool.false_eq_true, ↓reduceIte,
        List.nil_append, String.toList_ofList] at hhead
      exact fix_head hhead
  · exact h

/-- A number that was read of a word without a flag has no sign. -/
theorem readInteger_bare {bits : Nat} {n : Int} (h : t.readInteger bits text = .ok n)
    (hflag : (Token.word text).flag? = none) : 0 ≤ n := by
  have hread := readInteger_ok h
  refine Number.readInteger_nonnegative hread (head_of_flag_none hflag ?_)
  rintro rfl
  cases hread

theorem readInteger_bounds {bits : Nat} {n : Int} (h : t.readInteger bits text = .ok n) :
    -2 ^ (bits - 1) ≤ n ∧ n < 2 ^ (bits - 1) := by
  have hpower : (0 : Int) < 2 ^ (bits - 1) := Int.pow_pos (by decide)
  obtain ⟨hlow, hhigh⟩ : (Number.IntegerRange.signed bits).contains n := by
    refine Number.readInteger_contains ⟨?_, ?_⟩ (readInteger_ok h) <;>
      simp only [Number.IntegerRange.signed_eq] <;> omega
  simp only [Number.IntegerRange.signed_eq] at hlow hhigh
  exact ⟨hlow, Int.lt_of_le_sub_one hhigh⟩

theorem readFloat_bare {f : Number.Format} {x : Number.Binary} (h : t.readFloat f text = .ok x)
    (hflag : (Token.word text).flag? = none) : x.isNegative = false := by
  have hread := readFloat_ok h
  refine Number.readFloat_nonnegative hread (head_of_flag_none hflag ?_)
  rintro rfl
  simp [Number.readFloat, Number.readUnsigned?, Number.readSpecial?] at hread

theorem toString_ne_empty (n : Int) : toString n ≠ "" := by
  cases n with
  | ofNat m => exact Nat.repr_ne_empty
  | negSucc m =>
    intro he
    have hchars := congrArg String.toList he
    change ("-" ++ Nat.repr (m + 1)).toList = _ at hchars
    rw [String.toList_append] at hchars
    cases hchars

/-- A text that can stand for a word: it is not empty, and it names no flag if the word names none. -/
def StandsFor (text text' : String) : Prop :=
  text' ≠ "" ∧ ((Token.word text).flag? = none → (Token.word text').flag? = none)

theorem standsFor_integer {n k : Int} (he : k = n)
    (hsign : (Token.word text).flag? = none → 0 ≤ n) : StandsFor text (toString k) := by
  subst he
  exact ⟨toString_ne_empty k, fun hflag => flag_none_of_head (Number.toString_head (hsign hflag))⟩

theorem standsFor_float {f : Number.Format} {x : Number.Binary} (hx : t.readFloat f text = .ok x) :
    StandsFor text (Number.Layout.plain.write f x) :=
  ⟨Number.write_ne_empty f x,
    fun hflag => flag_none_of_head (Number.write_head (readFloat_bare hx hflag))⟩

theorem standsFor_path (hne : text ≠ "") : StandsFor text (Path.absolute text) := by
  obtain ⟨rest, hrest⟩ := Path.absolute_head hne
  refine ⟨Path.absolute_ne_empty hne, fun _ => flag_none_of_head ?_⟩
  rw [hrest]
  simp

/-- The text of what is read of a word can stand for the word. -/
theorem textOf_read (h : t.read advice text = .ok value) (hne : text ≠ "") :
    StandsFor text (t.textOf value) := by
  cases t with
  | string =>
    cases h
    exact ⟨hne, id⟩
  | boolean =>
    cases h
    cases Text.equalsIgnoringAsciiCase text "true" <;> exact ⟨by decide, fun _ => by decide⟩
  | int =>
    obtain ⟨n, hn, rfl⟩ := map_ok.mp h
    obtain ⟨hlow, hhigh⟩ := readInteger_bounds hn
    exact standsFor_integer (Int32.toInt_ofInt_of_le hlow hhigh) (readInteger_bare hn)
  | long =>
    obtain ⟨n, hn, rfl⟩ := map_ok.mp h
    obtain ⟨hlow, hhigh⟩ := readInteger_bounds hn
    exact standsFor_integer (Int64.toInt_ofInt_of_le hlow hhigh) (readInteger_bare hn)
  | short =>
    obtain ⟨n, hn, rfl⟩ := map_ok.mp h
    obtain ⟨hlow, hhigh⟩ := readInteger_bounds hn
    exact standsFor_integer (Int16.toInt_ofInt_of_le hlow hhigh) (readInteger_bare hn)
  | double =>
    obtain ⟨x, hx, rfl⟩ := map_ok.mp h
    exact standsFor_float hx
  | float =>
    obtain ⟨x, hx, rfl⟩ := map_ok.mp h
    exact standsFor_float hx
  | pattern =>
    simp only [read] at h
    split at h
    · rename_i p hcompile
      cases h
      have htext : pattern.textOf (.pattern p) = patternSource advice text :=
        Pattern.source_of_compile hcompile
      rw [htext]
      exact ⟨patternSource_ne_empty hne, patternSource_bare⟩
    · cases h
  | file =>
    cases h
    exact standsFor_path hne
  | enum e =>
    simp only [read] at h
    split at h
    · rename_i hmem
      cases h
      have htext : (enum e).textOf (.constant text) = text :=
        textOf_plain hmem rfl
      rw [htext]
      exact ⟨hne, id⟩
    · cases h
  | host => cases h

end ValueType

namespace Argument

variable {a : Argument} {value : Value} {text : String}

/-- A single value that was read of a word can be written. -/
theorem canWrite_read (h : a.type.read a.advice text = .ok value) (hne : text ≠ "")
    (hflag : a.isPositional = true → (Token.word text).flag? = none) :
    a.canWrite false value = true := by
  obtain ⟨hempty, hbare⟩ := ValueType.textOf_read h hne
  cases hpos : a.isPositional with
  | true => simp [canWrite, hpos, hempty, hbare (hflag hpos)]
  | false => simp [canWrite, hpos, hempty]

end Argument

end HeapQuery
