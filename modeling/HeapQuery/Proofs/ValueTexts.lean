import HeapQuery.Conversion
import HeapQuery.Proofs.ClassPatterns
import HeapQuery.Proofs.Numerals

namespace HeapQuery

namespace Value

def isPlain : Value → Bool
  | deferred .. | host .. => false
  | _ => true

/-- What is read back of a value that was written: files are written in absolute form. -/
def written : Value → Value
  | file path => file (Path.absolute path)
  | value => value

end Value

namespace ValueType

def Legible (t : ValueType) (advice : Option Advice) (value : Value) : Prop :=
  t.accepts value = true ∧ value.isPlain = true ∧
    t.read advice (t.textOf value) = .ok value.written

def isExact : ValueType → Bool
  | string | boolean | int | long | short | pattern | enum _ => true
  | _ => false

/-- A pattern that is not rewritten once more when it is read. -/
def Settled (advice : Option Advice) (value : Value) : Prop :=
  ∀ p, value = .pattern p → patternSource advice p.source = p.source

variable {t : ValueType} {value : Value} {advice : Option Advice}

theorem textOf_plain (h : t.accepts value = true) (hp : value.isPlain = true) :
    t.textOf value = value.written.display := by
  unfold textOf write
  rw [h]
  cases value with
  | deferred => cases hp
  | host => cases hp
  | _ => rfl

theorem readInteger_toString {n : Int} (hlow : -2 ^ (bits - 1) ≤ n) (hhigh : n < 2 ^ (bits - 1)) :
    t.readInteger bits (toString n) = .ok n := by
  have hpower : (0 : Int) < 2 ^ (bits - 1) := Int.pow_pos (by decide)
  have hread : Number.readInteger (.signed bits) 10 (toString n).toList = .ok n := by
    rw [Number.IntegerRange.signed_eq]
    refine Number.readInteger_toString ⟨?_, ?_⟩ ?_ ⟨hlow, Int.le_sub_one_of_lt hhigh⟩ <;>
      dsimp only <;> omega
  unfold readInteger
  rw [hread]

theorem read_int (n : Int32) : read int advice (toString n) = .ok (.int n) := by
  have hread : int.readInteger 32 (toString n.toInt) = .ok n.toInt :=
    readInteger_toString n.le_toInt n.toInt_lt
  have htext : toString n = toString n.toInt := rfl
  rw [read, htext, hread]
  simp [Except.map]

theorem read_long (n : Int64) : read long advice (toString n) = .ok (.long n) := by
  have hread : long.readInteger 64 (toString n.toInt) = .ok n.toInt :=
    readInteger_toString n.le_toInt n.toInt_lt
  have htext : toString n = toString n.toInt := rfl
  rw [read, htext, hread]
  simp [Except.map]

theorem read_short (n : Int16) : read short advice (toString n) = .ok (.short n) := by
  have hread : short.readInteger 16 (toString n.toInt) = .ok n.toInt :=
    readInteger_toString n.le_toInt n.toInt_lt
  have htext : toString n = toString n.toInt := rfl
  rw [read, htext, hread]
  simp [Except.map]

theorem read_pattern {p : Pattern Regex.standard} (h : patternSource advice p.source = p.source) :
    read pattern advice p.source = .ok (.pattern p) := by
  simp [read, h, p.compile_source]

theorem patternSource_patternSource (advice : Option Advice) (text : String) :
    patternSource advice (patternSource advice text) = patternSource advice text := by
  unfold patternSource
  split
  · exact ClassPattern.normalize_normalize text
  · rfl

theorem read_constant {e : EnumType} {name : String} (h : (enum e).accepts (.constant name) = true) :
    read (enum e) advice name = .ok (.constant name) := by
  have hmem : e.constants.contains name = true := h
  simp only [read, hmem, ↓reduceIte]

/-- Values of exact types are legible. -/
theorem legible_of_exact (ht : t.isExact = true) (h : t.accepts value = true)
    (hp : value.isPlain = true) (hsettled : Settled advice value) : t.Legible advice value := by
  refine ⟨h, hp, ?_⟩
  rw [textOf_plain h hp]
  -- Only the type of the value's own kind accepts it.
  cases value with
  | string text => cases t <;> first | rfl | cases h
  | boolean b => cases t <;> first | (cases b <;> rfl) | cases h
  | int n => cases t <;> first | exact read_int n | cases h
  | long n => cases t <;> first | exact read_long n | cases h
  | short n => cases t <;> first | exact read_short n | cases h
  | pattern p =>
    cases t <;> first | exact read_pattern (hsettled p rfl) | cases h
  | constant name => cases t <;> first | exact read_constant h | cases h
  | double | float | file | list => cases t <;> first | (cases ht; done) | cases h
  | deferred | host => cases hp

/-- What is read of an exact type is legible. Patterns are rewritten at most once. -/
theorem legible_of_read (ht : t.isExact = true) (h : t.read advice text = .ok value) :
    t.Legible advice value := by
  have hsettled : t ≠ pattern → Settled advice value := by
    intro hne p hp
    subst hp
    cases t with
    | pattern => exact absurd rfl hne
    | string | boolean | file => cases h
    | int | long | short | double | float =>
      obtain ⟨_, _, he⟩ := map_ok.mp h
      cases he
    | enum e =>
      simp only [read] at h
      split at h <;> cases h
    | host => cases h
  cases t with
  | string | boolean =>
    cases h
    exact legible_of_exact rfl rfl rfl (hsettled nofun)
  | int | long | short =>
    obtain ⟨n, _, rfl⟩ := map_ok.mp h
    exact legible_of_exact rfl rfl rfl (hsettled nofun)
  | pattern =>
    simp only [read] at h
    split at h
    · rename_i p hcompile
      cases h
      refine legible_of_exact rfl rfl rfl ?_
      intro p' hp
      cases hp
      rw [Pattern.source_of_compile hcompile, patternSource_patternSource]
    · cases h
  | enum e =>
    have hsettled := hsettled nofun
    simp only [read] at h
    split at h
    · rename_i hmem
      cases h
      exact legible_of_exact rfl hmem rfl hsettled
    · cases h
  | double | float | file | host => cases ht

end ValueType

end HeapQuery
