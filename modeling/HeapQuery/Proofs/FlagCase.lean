import HeapQuery.Proofs.TypedNames

namespace HeapQuery

variable {r : Registry} {q : Registered} {p : Query} {a : Argument}

/-- For ASCII texts the two ways to compare without case are one. -/
theorem Text.equalsIgnoringAsciiCase_iff (hs : isAscii s = true) (ht : isAscii t = true) :
    equalsIgnoringAsciiCase s t = true ↔ lower s = lower t := by
  constructor
  · exact lower_eq_of_equalsIgnoringAsciiCase hs ht
  · intro h
    rw [lower_ascii hs, lower_ascii ht] at h
    have hsame := congrArg String.toList h
    rw [String.toList_ofList, String.toList_ofList] at hsame
    exact beq_iff_eq.mpr hsame

/-- No two flags are equal but for the case of ASCII letters, so the first argument that fits is the
only one. -/
theorem Query.WellMade.flag_found_iff (hp : p.WellMade) (ha : a ∈ p.arguments)
    (hflag : a.flag = some flag) (typed : String) :
    p.argumentFlagged? typed = some a ↔ Text.equalsIgnoringAsciiCase flag typed = true := by
  constructor
  · intro hfind
    have hany := List.find?_some hfind
    simpa [hflag] using hany
  · intro hsame
    have hcompare (f : String) : Text.equalsIgnoringAsciiCase f typed =
        Text.equalsIgnoringAsciiCase f flag := by
      unfold Text.equalsIgnoringAsciiCase at hsame ⊢
      rw [beq_iff_eq.mp hsame]
    rw [← hp.finds_flag ha hflag]
    unfold Query.argumentFlagged?
    simp only [hcompare]

namespace Registry

/-- Looking up a flag of a registered query, or of one of its presets, finds the argument exactly
for the texts that differ from it in the case of ASCII letters only. Such texts have one lower-case
form. The converse holds where the flag and the text are ASCII. -/
theorem flag_found_ignoring_ascii_case (hr : r.Reachable) (hq : q ∈ r.queries) (ho : q.Offers p)
    (ha : a ∈ p.arguments) (hflag : a.flag = some flag) (typed : String) :
    (p.argumentFlagged? typed = some a ↔ Text.equalsIgnoringAsciiCase flag typed = true) ∧
    (p.argumentFlagged? typed = some a → Text.lower typed = Text.lower flag) ∧
    (Text.isAscii flag = true → Text.isAscii typed = true →
      (p.argumentFlagged? typed = some a ↔ Text.lower typed = Text.lower flag)) := by
  have hmade : p.WellMade := (hr.sound.offered hq ho).1
  have hfound := hmade.flag_found_iff ha hflag typed
  refine ⟨hfound, ?_, ?_⟩
  · intro hfind
    exact (Text.lower_eq_of_sameLetters (hfound.mp hfind)).symm
  · intro hascii htyped
    rw [hfound, Text.equalsIgnoringAsciiCase_iff hascii htyped]
    exact eq_comm

/-- The flag for the grouping of the histogram, typed in capitals. -/
theorem grouping_found_in_capitals : ∃ (r : Registry) (q : Registered) (a : Argument),
    r.Reachable ∧ q ∈ r.queries ∧ a ∈ q.arguments ∧ a.flag = some "groupby" ∧
    q.argumentFlagged? "GROUPBY" = some a := by
  obtain ⟨q, r, hreg⟩ : ∃ q r, empty.register Heap.histogram = .ok (q, r) := ⟨_, _, rfl⟩
  obtain ⟨hq, a, ha, hflag⟩ : q ∈ r.queries ∧ ∃ a ∈ q.arguments, a.flag = some "groupby" := by
    obtain ⟨rfl, rfl⟩ := Prod.mk.inj (Except.ok.inj hreg)
    exact ⟨List.mem_singleton_self _, _, .tail _ (.tail _ (.head _)), rfl⟩
  have hr : r.Reachable := .register _ (.start .empty) hreg
  obtain ⟨hfound, _⟩ := flag_found_ignoring_ascii_case hr hq (.inl rfl) ha hflag "GROUPBY"
  exact ⟨r, q, a, hr, hq, ha, hflag, hfound.mpr (by decide)⟩

def measured : QuerySpec :=
  { Heap.histogram with arguments := [{ name := "länge", type := .int }] }

/-- A flag is not found by its capitals, though registration counts them as the same flag. -/
theorem capitals_outside_ascii_not_found :
    ¬ ∀ (r : Registry) (q : Registered) (a : Argument) (flag typed : String), r.Reachable →
        q ∈ r.queries → a ∈ q.arguments → a.flag = some flag →
        (q.argumentFlagged? typed = some a ↔ Text.lower typed = Text.lower flag) := by
  intro h
  obtain ⟨q, r, hreg⟩ : ∃ q r, empty.register measured = .ok (q, r) := ⟨_, _, rfl⟩
  obtain ⟨hq, a, ha, hflag, hnone⟩ : q ∈ r.queries ∧ ∃ a ∈ q.arguments, a.flag = some "länge" ∧
      q.argumentFlagged? "LÄNGE" = none := by
    obtain ⟨rfl, rfl⟩ := Prod.mk.inj (Except.ok.inj hreg)
    exact ⟨List.mem_singleton_self _, _, List.mem_cons_self, rfl, rfl⟩
  have hlower : Text.lower "LÄNGE" = Text.lower "länge" := by decide +kernel
  have hfind := (h r q a "länge" "LÄNGE" (.register _ (.start .empty) hreg) hq ha hflag).mpr hlower
  rw [hnone] at hfind
  cases hfind

end Registry

end HeapQuery
