import HeapQuery.Proofs.LegibleValues

namespace HeapQuery.ValueType

variable {t : ValueType} {value : Value} {advice : Option Advice} {text : String}

theorem write_plain (h : t.accepts value = true) (hp : value.isPlain = true) :
    t.write value = .ok value.written.display := by
  unfold write
  rw [h]
  cases value with
  | deferred | host => cases hp
  | _ => rfl

theorem accepts_written (t : ValueType) (value : Value) :
    t.accepts value.written = t.accepts value := by
  cases value with
  | file path => cases t <;> rfl
  | _ => rfl

theorem isPlain_written (value : Value) : value.written.isPlain = value.isPlain := by
  cases value <;> rfl

/-- A value that was read has a text, which is read as the same value and is its text again. Files
alone become others: they become absolute. -/
theorem normal_text_of_read (h : t.read advice text = .ok value) :
    ∃ normal again, t.write value = .ok normal ∧ t.read advice normal = .ok again ∧
      t.write again = .ok normal ∧
      (∀ path, value = .file path → again = .file (Path.absolute path)) ∧
      ((∀ path, value ≠ .file path) → again = value) := by
  obtain ⟨haccepts, hplain, hread⟩ := legible_read h
  have hwrite := write_plain haccepts hplain
  have hagain := write_plain ((accepts_written t value).trans haccepts)
    ((isPlain_written value).trans hplain)
  rw [written_written] at hagain
  rw [textOf_plain haccepts hplain] at hread
  refine ⟨value.written.display, value.written, hwrite, hread, hagain, ?_, fun hfile => ?_⟩
  · rintro path rfl
    rfl
  · cases value with
    | file path => exact absurd rfl (hfile path)
    | _ => rfl

/-- A class name with a dollar sign and a relative path with superfluous parts. -/
theorem class_name_and_path_normal :
    (∃ p, read pattern (some .classNamePattern) "Map$Entry*" = .ok (.pattern p) ∧
      ∃ normal again, pattern.write (.pattern p) = .ok normal ∧
        read pattern (some .classNamePattern) normal = .ok again ∧
        pattern.write again = .ok normal ∧ again = .pattern p) ∧
    read file none "a//./b/" = .ok (.file "a//./b/") ∧
      ∃ normal again, file.write (.file "a//./b/") = .ok normal ∧
        read file none normal = .ok again ∧ file.write again = .ok normal ∧
        again = .file "/a/b/" := by
  constructor
  · obtain ⟨p, hp⟩ : ∃ p, read pattern (some .classNamePattern) "Map$Entry*" = .ok (.pattern p) :=
      ⟨_, rfl⟩
    obtain ⟨normal, again, hwrite, hread, hagain, _, hsame⟩ := normal_text_of_read hp
    exact ⟨p, hp, normal, again, hwrite, hread, hagain, hsame nofun⟩
  · have hpath : read file none "a//./b/" = .ok (.file "a//./b/") := rfl
    obtain ⟨normal, again, hwrite, hread, hagain, hfile, _⟩ := normal_text_of_read hpath
    exact ⟨hpath, normal, again, hwrite, hread, hagain, hfile _ rfl⟩

end HeapQuery.ValueType
