import HeapQuery.Heap.Histogram
import HeapQuery.Proofs.HeldValues

namespace HeapQuery

open CommandLine

variable {r r' : Registry} {q : Registered} {p : Query}

/-- A preset has the options of a preset in the spec. -/
theorem QuerySpec.preset_options {spec : QuerySpec} (h : spec.build t n = .ok q)
    (hp : p ∈ q.presets) : ∃ e ∈ spec.presets, p.options = some e.options := by
  obtain ⟨arguments, _, _, _, _, _, rfl⟩ := build_ok h
  obtain ⟨i, hi⟩ := List.mem_iff_getElem?.mp hp
  simp only [List.getElem?_mapIdx, Option.map_eq_some_iff] at hi
  obtain ⟨e, he, rfl⟩ := hi
  exact ⟨e, List.mem_iff_getElem?.mpr ⟨i, he⟩, rfl⟩

namespace Registry

/-- A preset of a query that has just been registered can be used, where nothing is supplied, exactly
when its options are blank or tokens that split into groups. -/
theorem preset_usable_iff {spec : QuerySpec} (h : r.register spec = .ok (q, r'))
    (hp : p ∈ q.presets) :
    ∃ e ∈ spec.presets, p.options = some e.options ∧
      ((∃ b, CommandLine.begin p (Context.ofSupplied []) = .ok b) ↔
        Text.isBlankText e.options = true ∨ Token.ofLine e.options ≠ [] ∧
          ∃ groups, Splits (Bindings.initial p (Context.ofSupplied [])) (Token.ofLine e.options)
            groups) := by
  obtain ⟨hbuild, _⟩ := register_ok h
  obtain ⟨e, he, hoptions⟩ := QuerySpec.preset_options hbuild hp
  have hmade : p.WellMade := QuerySpec.offers_wellMade hbuild (.inr hp)
  refine ⟨e, he, hoptions, ?_⟩
  rw [exists_splits_iff (b := .initial p (.ofSupplied [])) hmade fun _ _ => rfl]
  simp only [begin_ok, hoptions, Option.mem_some]
  cases hblank : Text.isBlankText e.options <;> simp [hblank]

/-- The preset of the histogram query can be used. -/
theorem histogram_preset_usable : ∃ (r' : Registry) (q : Registered) (p : Query),
    empty.register Heap.histogram = .ok (q, r') ∧ p ∈ q.presets ∧
    p.options = some "-groupby BY_PACKAGE" ∧
    ∃ b, CommandLine.begin p (Context.ofSupplied []) = .ok b := by
  obtain ⟨q, r', hreg⟩ : ∃ q r', empty.register Heap.histogram = .ok (q, r') := ⟨_, _, rfl⟩
  obtain ⟨p, hp, hgiven, a, value, hfind, hboolean, hsingle, hread⟩ : ∃ p ∈ q.presets,
      p.options = some "-groupby BY_PACKAGE" ∧ ∃ a value,
        p.argumentFlagged? "groupby" = some a ∧ a.isBoolean = false ∧ a.isMultiple = false ∧
        (Context.ofSupplied []).read a.type a.advice "BY_PACKAGE" = .ok value := by
    obtain ⟨rfl, rfl⟩ := Prod.mk.inj (Except.ok.inj hreg)
    exact ⟨_, List.mem_cons_self, rfl, _, _, rfl, rfl, rfl, rfl⟩
  obtain ⟨e, _, hoptions, husable⟩ := preset_usable_iff hreg hp
  have hline : e.options = "-groupby BY_PACKAGE" := Option.some.inj (hoptions.symm.trans hgiven)
  rw [hline] at husable
  have hsplit : Splits (.initial p (.ofSupplied [])) [.word "-groupby", .word "BY_PACKAGE"]
      [⟨a, some "groupby", [.word "BY_PACKAGE"], some value⟩] :=
    { covers := rfl
      formed := List.forall_mem_singleton.mpr
        (.flagged (by decide) hfind hboolean (.word hsingle hread))
      longest := .singleton _
      oneBare := Nat.zero_le 1
      free := by simp [Group.isBare] }
  exact ⟨r', q, p, hreg, hp, hgiven, husable.mpr (.inr ⟨by decide, _, hsplit⟩)⟩

def misspelled : QuerySpec :=
  { Heap.histogram with presets := [{ options := "-grupby BY_PACKAGE" }] }

/-- A query is registered though its preset cannot be used. -/
theorem unusable_preset_registered :
    ¬ ∀ (r r' : Registry) (spec : QuerySpec) (q : Registered) (p : Query), r.Reachable →
        r.register spec = .ok (q, r') → p ∈ q.presets →
        ∃ b, CommandLine.begin p (Context.ofSupplied []) = .ok b := by
  intro h
  obtain ⟨q, r', hreg⟩ : ∃ q r', empty.register misspelled = .ok (q, r') := ⟨_, _, rfl⟩
  obtain ⟨p, hp, hgiven, hfind⟩ : ∃ p ∈ q.presets, p.options = some "-grupby BY_PACKAGE" ∧
      p.argumentFlagged? "grupby" = none := by
    obtain ⟨rfl, rfl⟩ := Prod.mk.inj (Except.ok.inj hreg)
    exact ⟨_, List.mem_cons_self, rfl, rfl⟩
  obtain ⟨b, hb⟩ := h empty r' misspelled q p (.start .empty) hreg hp
  rcases begin_ok.mp hb with ⟨hblank, _⟩ | ⟨options, hoptions, _, _, hall⟩
  · exact absurd (hblank _ hgiven) (by decide)
  · obtain rfl := Option.some.inj (hgiven.symm.trans hoptions)
    have htokens : Token.ofLine "-grupby BY_PACKAGE" =
        [.word "-grupby", .word "BY_PACKAGE"] := by decide
    have hflag : (Token.word "-grupby").flag? = some "grupby" := rfl
    have hbind : ∀ tokens, bindFlag (.initial p (.ofSupplied [])) "grupby" tokens =
        .error (.unknownFlag p.identifier (Text.lower "grupby")) := by
      intro tokens
      simp only [bindFlag, Bindings.initial, hfind]
    rw [htokens, bindAll.eq_def] at hall
    simp [hflag, hbind] at hall

end Registry

end HeapQuery
