import HeapQuery.Heap.ShowObjects
import HeapQuery.Proofs.TypeLookup
import HeapQuery.Proofs.TypedNames

namespace HeapQuery

namespace Text

/-- The case of ASCII letters makes no difference to a comparison without case. -/
theorem equalsIgnoringAsciiCase_lower (h : isAscii text = true) (other : String) :
    equalsIgnoringAsciiCase other (lower text) = equalsIgnoringAsciiCase other text := by
  have hlower : Char.toLower ∘ Char.toLower = Char.toLower := funext toLower_toLower
  rw [lower_ascii h, equalsIgnoringAsciiCase, equalsIgnoringAsciiCase, String.toList_ofList,
    List.map_map, hlower]

end Text

namespace Registry

/-- A query as the one that the name of a type leads to: the one that is current under the name, or
else the first whose type has it as its simple name. -/
inductive NamedByType (answers : List Answer) (r : Registry) (name : String) (q : Registered) :
    Prop where
  | current : Current answers q → Text.lower q.command.typeName = Text.lower name →
      NamedByType answers r name q
  | simple : (∀ p, Current answers p → Text.lower p.command.typeName ≠ Text.lower name) →
      (r.queries.find? fun p =>
        Text.equalsIgnoringAsciiCase p.command.simpleName name) = some q →
      NamedByType answers r name q

variable {r : Registry} {answers : List Answer} {p q : Registered} {name : String}

/-- Of the queries of one type, the last registered one only is current. -/
theorem Current.unique (hp : Current answers p) (hq : Current answers q)
    (htype : Text.lower p.command.typeName = Text.lower q.command.typeName) : p = q := by
  induction answers using List.reverseRecOn with
  | nil =>
    obtain ⟨earlier, later, hsplit, _⟩ := hp
    simp at hsplit
  | append_singleton answers a ih =>
    rcases current_append.mp hp with rfl | ⟨hp, hpkept⟩
    · rcases current_append.mp hq with he | ⟨_, hqkept⟩
      · exact Answer.registered.inj he
      · exact absurd htype hqkept
    · rcases current_append.mp hq with rfl | ⟨hq, _⟩
      · exact absurd htype.symm hpkept
      · exact ih hp hq

/-- A name that is no identifier is looked up as the name of a type. -/
theorem History.find_by_type (h : History (withTranslations t) answers r)
    (hname : r.identified? name = none) : r.find? name = some q ↔ NamedByType answers r name q := by
  have hsound := (h.reachable (.start t)).sound
  cases hlookup : r.byType.lookup (Text.lower name) with
  | some identifier =>
    obtain ⟨before, after, hentries, _⟩ := List.lookup_eq_some_iff.mp hlookup
    have hentry : (Text.lower name, identifier) ∈ r.byType := by simp [hentries]
    obtain ⟨p, hp, hkey, rfl⟩ := (h.indexed _ _).mp hentry
    have hfind : r.find? name = some p := by
      simp only [find?, hname, hlookup, hsound.identified (h.current_listed hp)]
    rw [hfind, Option.some.injEq]
    constructor
    · rintro rfl
      exact .current hp hkey
    · intro hq
      cases hq with
      | current hq htype => exact hp.unique hq (hkey.trans htype.symm)
      | simple hnone => exact absurd hkey (hnone p hp)
  | none =>
    have hnone : ∀ p, Current answers p →
        Text.lower p.command.typeName ≠ Text.lower name := by
      intro p hp hkey
      have hentry := (h.indexed _ _).mpr ⟨p, hp, hkey, rfl⟩
      simpa using List.lookup_eq_none_iff.mp hlookup _ hentry
    have hfind : r.find? name = r.queries.find? fun q =>
        Text.equalsIgnoringAsciiCase q.command.simpleName name := by
      simp only [find?, hname, hlookup]
    rw [hfind]
    constructor
    · exact .simple hnone
    · intro hq
      cases hq with
      | current hq htype => exact absurd htype (hnone q hq)
      | simple _ hfirst => exact hfirst

/-- A name in other than small letters is no identifier. -/
theorem Sound.identified_small (h : Sound r) (hname : Text.lower name ≠ name) :
    r.identified? name = none := by
  refine identified_none.mpr fun q hq hid => ?_
  obtain ⟨spec, n, hbuild⟩ := h.built q hq
  exact hname (hid ▸ QuerySpec.build_lowered hbuild)

/-- ASCII names lead to the same query as names of types in any case. -/
theorem namedByType_lower (h : Text.isAscii name = true) :
    NamedByType answers r (Text.lower name) q ↔ NamedByType answers r name q := by
  have hcompare : (fun p : Registered =>
      Text.equalsIgnoringAsciiCase p.command.simpleName (Text.lower name)) =
        fun p => Text.equalsIgnoringAsciiCase p.command.simpleName name :=
    funext fun p => Text.equalsIgnoringAsciiCase_lower h p.command.simpleName
  constructor
  · intro hq
    cases hq with
    | current hq htype => exact .current hq (htype.trans (Text.lower_lower name))
    | simple hnone hfirst =>
      rw [Text.lower_lower] at hnone
      rw [hcompare] at hfirst
      exact .simple hnone hfirst
  · intro hq
    cases hq with
    | current hq htype => exact .current hq (htype.trans (Text.lower_lower name).symm)
    | simple hnone hfirst =>
      rw [← Text.lower_lower] at hnone
      rw [← hcompare] at hfirst
      exact .simple hnone hfirst

/-- A name is found alike as it is typed and in small letters exactly where it is in small letters,
or where as the name of a type it leads to the query that has the small letters as its identifier,
and in case that there is none, to the query that they lead to. That they do for ASCII names. -/
theorem found_alike_iff {calls : List Call}
    (hrun : (withTranslations t).run calls = (answers, r)) (name : String) :
    (r.find? name = r.find? (Text.lower name) ↔ Text.lower name = name ∨
      (∀ q ∈ r.queries, q.identifier = Text.lower name → NamedByType answers r name q) ∧
      ((∀ q ∈ r.queries, q.identifier ≠ Text.lower name) →
        ∀ q, NamedByType answers r name q ↔ NamedByType answers r (Text.lower name) q)) ∧
    (Text.isAscii name = true →
      ∀ q, NamedByType answers r name q ↔ NamedByType answers r (Text.lower name) q) := by
  have hhistory := history_of_run hrun
  have hsound := (hhistory.reachable (.start t)).sound
  refine ⟨?_, fun hascii q => (namedByType_lower hascii).symm⟩
  by_cases hsmall : Text.lower name = name
  · simp [hsmall]
  have htyped (q : Registered) := hhistory.find_by_type (q := q) (hsound.identified_small hsmall)
  cases hid : r.identified? (Text.lower name) with
  | some p =>
    obtain ⟨hp, hpid⟩ := identified_some hid
    have hfind : r.find? (Text.lower name) = some p := hsound.find_typed hp hpid.symm
    rw [hfind, htyped]
    constructor
    · intro hnamed
      refine .inr ⟨fun q hq hqid => ?_, fun hnone => absurd hpid (hnone p hp)⟩
      rwa [hsound.unique hq hp (hqid.trans hpid.symm)]
    · rintro (hsame | ⟨hown, _⟩)
      · exact absurd hsame hsmall
      · exact hown p hp hpid
  | none =>
    have hfree := identified_none.mp hid
    have hlowered (q : Registered) := hhistory.find_by_type (q := q) hid
    constructor
    · intro hsame
      refine .inr ⟨fun q hq hqid => absurd hqid (hfree q hq), fun _ q => ?_⟩
      rw [← htyped q, ← hlowered q, hsame]
    · rintro (hsame | ⟨_, hother⟩)
      · exact absurd hsame hsmall
      · refine Option.ext fun q => ?_
        rw [htyped q, hlowered q]
        exact hother hfree q

/-- The histogram query is found by the name of its type in capitals, however it is looked up. -/
theorem histogram_found_alike : ∃ (answers : List Answer) (r : Registry),
    (withTranslations .empty).run [.register Heap.histogram] = (answers, r) ∧
    Text.lower "HISTOGRAM" ≠ "HISTOGRAM" ∧
    r.find? "HISTOGRAM" = r.find? (Text.lower "HISTOGRAM") := by
  obtain ⟨answers, r, q, hrun, hnone, hfind, honly⟩ : ∃ (answers : List Answer) (r : Registry)
      (q : Registered), (withTranslations .empty).run [.register Heap.histogram] = (answers, r) ∧
      r.identified? "HISTOGRAM" = none ∧ r.find? "HISTOGRAM" = some q ∧ r.queries = [q] :=
    ⟨_, _, _, rfl, rfl, rfl, rfl⟩
  obtain ⟨halike, hascii⟩ := found_alike_iff hrun "HISTOGRAM"
  refine ⟨answers, r, hrun, by decide, halike.mpr (.inr ⟨fun p hp _ => ?_, fun _ => ?_⟩)⟩
  · obtain rfl : p = q := by simpa [honly] using hp
    exact ((history_of_run hrun).find_by_type hnone).mp hfind
  · exact hascii (by decide)

/-- A query is not found by its identifier in capitals as it is typed, though command lines find
it. -/
theorem capitals_not_found_as_typed :
    ¬ ∀ (r : Registry) (name : String), r.Reachable → Token.ofLine name = [.word name] →
        r.find? name = r.find? (Text.lower name) := by
  intro h
  obtain ⟨q, r, hreg, hnone⟩ : ∃ (q : Registered) (r : Registry),
      empty.register Heap.showObjects = .ok (q, r) ∧ r.find? "SHOW_OBJECTS" = none :=
    ⟨_, _, rfl, rfl⟩
  have hlower : Text.lower "SHOW_OBJECTS" = Text.lower q.identifier := by
    obtain ⟨rfl, rfl⟩ := Prod.mk.inj (Except.ok.inj hreg)
    decide
  have hsame := h r "SHOW_OBJECTS" (.register _ (.start .empty) hreg) (by decide)
  rw [hnone, hlower, register_find hreg] at hsame
  cases hsame

end Registry

end HeapQuery
