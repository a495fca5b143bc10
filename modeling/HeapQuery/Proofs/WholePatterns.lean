import HeapQuery.Pattern
import HeapQuery.Proofs.StandardLibrary

namespace HeapQuery.Pattern

open Regex

variable {L : Library} {S : L.Semantics} {source : String} {e : L.Expression}

theorem wholeSource_eq (source : String) :
    Row.source [.start, .group source, .stop] = wholeSource source := by
  apply String.toList_inj.mp
  simp [Row.source, Row.text, Part.text, wholeSource, String.toList_append]

theorem legible_whole (h : (L.compile? source).isSome = true) (hends : ¬L.EndsInRemark source) :
    L.Legible [.start, .group source, .stop] where
  chars := by simp
  groups s hs := by
    obtain rfl : s = source := by simpa using hs
    exact ⟨h, hends⟩
  one_group := Nat.le_refl 1

/-- A remark takes the closing parenthesis in, and the group that was opened for the source stays
open. -/
theorem whole_in_remark (hS : S.Documented) (hends : L.EndsInRemark source) :
    L.compile? (wholeSource source) = none := by
  have hstart : L.Legible [.start] := ⟨by simp, by simp, Nat.zero_le 1⟩
  have hopen := hS.group_closes hends.1 hstart rfl
  have hline := hS.remark_goes_on hends hstart rfl (show '\n' ∉ ['$'] by decide)
  rw [hopen] at hline
  rw [← hline]
  congr 1
  apply String.toList_inj.mp
  simp [Row.text, Part.text, wholeSource, String.toList_append]

/-- The anchors and the group around a source are two more levels. -/
theorem depth_whole (S : L.Semantics) (source : String) :
    S.rowDepth [.start, .group source, .stop] = S.depth source + 2 := by
  simp [Library.Semantics.rowDepth, Library.Semantics.partDepth]

theorem whole_compiles (hS : S.Documented) (h : (L.compile? source).isSome = true) :
    (L.compile? (wholeSource source)).isSome = true ↔
      ¬L.EndsInRemark source ∧ S.depth source ≤ 248 := by
  by_cases hends : L.EndsInRemark source
  · simp [whole_in_remark hS hends, hends]
  · rw [← wholeSource_eq, hS.row_compiles (legible_whole h hends), depth_whole]
    simp only [hends, not_false_eq_true, true_and]
    omega

/-- A valid source is a pattern unless it ends in a remark or nests too deep for the anchors around
it. -/
theorem compiles_iff (hS : S.Documented) (h : L.compile? source = some e) :
    (∃ p, compile? L source = some p) ↔ ¬L.EndsInRemark source ∧ S.depth source ≤ 248 := by
  rw [← whole_compiles hS (Option.isSome_of_eq_some h)]
  constructor
  · rintro ⟨p, hp⟩
    obtain rfl := source_of_compile hp
    exact Option.isSome_of_eq_some p.whole_compiled
  · intro hwhole
    obtain ⟨w, hw⟩ := Option.isSome_iff_exists.mp hwhole
    exact ⟨⟨source, e, w, h, hw⟩, compile_source ⟨source, e, w, h, hw⟩⟩

/-- Every pattern accepts the texts that its source matches from start to end. -/
theorem accepts_iff (hS : S.Documented) (p : Pattern L) (text : String) :
    p.accepts text = true ↔ S.Spans p.anywhere text.toList 0 text.toList.length := by
  have hsource := Option.isSome_of_eq_some p.anywhere_compiled
  obtain ⟨hends, _⟩ :=
    (whole_compiles hS hsource).mp (Option.isSome_of_eq_some p.whole_compiled)
  have hrow := p.whole_compiled
  rw [← wholeSource_eq] at hrow
  rw [accepts, hS.isMatch_iff]
  constructor
  · rintro ⟨i, j, hi, hspans⟩
    obtain ⟨_, ⟨rfl, rfl⟩, k, ⟨e, he, hgroup⟩, _, ⟨rfl, rfl⟩, rfl⟩ :=
      (hS.row_spans (legible_whole hsource hends) hrow hi).mp hspans
    rwa [Option.some.inj (p.anywhere_compiled.symm.trans he)]
  · intro hspans
    refine ⟨0, text.toList.length, Nat.zero_le _,
      (hS.row_spans (legible_whole hsource hends) hrow (Nat.zero_le _)).mpr ?_⟩
    exact ⟨0, ⟨rfl, rfl⟩, _, ⟨_, p.anywhere_compiled, hspans⟩, _, ⟨rfl, rfl⟩, rfl⟩

theorem anywhere_of_compile {p : Pattern L} (h : L.compile? source = some e)
    (hp : compile? L source = some p) : p.anywhere = e := by
  obtain rfl := source_of_compile hp
  exact Option.some.inj (p.anywhere_compiled.symm.trans h)

/-- A valid source is a pattern unless it ends in a remark or nests too deep for the anchors around
it. The pattern keeps its source, accepts the texts that the source matches from start to end, and
occurs in them. -/
theorem accepts_spanned (hS : S.Documented) (h : L.compile? source = some e) :
    ((∃ p, compile? L source = some p) ↔ ¬L.EndsInRemark source ∧ S.depth source ≤ 248) ∧
    ∀ p, compile? L source = some p → p.source = source ∧ ∀ text,
      (p.accepts text = true ↔ S.Spans e text.toList 0 text.toList.length) ∧
      (p.accepts text = true → p.occursIn text = true) := by
  refine ⟨compiles_iff hS h, fun p hp => ⟨source_of_compile hp, fun text => ?_⟩⟩
  rw [← anywhere_of_compile h hp]
  refine ⟨accepts_iff hS p text, fun haccepts => hS.isMatch_iff.mpr ?_⟩
  exact ⟨0, _, Nat.zero_le _, (accepts_iff hS p text).mp haccepts⟩

/-- Both branches of an alternation are matched against the whole of a text. -/
theorem alternatives_accepted : ∃ e p, semantics.Documented ∧ standard.compile? "a|b" = some e ∧
    compile? standard "a|b" = some p ∧
    p.accepts "b" = true ∧ p.occursIn "b" = true ∧ p.accepts "ab" = false := by
  have hparse : standard.compile? "a|b" = some _ := rfl
  obtain ⟨hcompile, haccepts⟩ := accepts_spanned documented hparse
  have hends : ¬standard.EndsInRemark "a|b" :=
    fun he => absurd (documented.remark_begins he) (by decide)
  obtain ⟨p, hp⟩ := hcompile.mpr ⟨hends, by decide⟩
  obtain ⟨_, hwhole⟩ := haccepts p hp
  have hb : p.accepts "b" = true := (hwhole "b").1.mpr (.inr (.inl ⟨rfl, 'b', rfl, by decide⟩))
  refine ⟨_, p, documented, hparse, hp, hb, (hwhole "b").2 hb, Bool.eq_false_iff.mpr fun hab => ?_⟩
  rcases (hwhole "ab").1.mp hab with ⟨hend, _⟩ | ⟨hend, _⟩ | ⟨hend, _⟩ <;> cases hend

/-- A valid source that ends in a remark is refused: the closing parenthesis that is written behind
it falls into the remark. -/
theorem remark_not_compiled : ¬ ∀ source e, standard.compile? source = some e →
    ∃ p, compile? standard source = some p := by
  intro h
  have hparse : (standard.compile? "(?x)a # note").isSome = true := rfl
  have hends : standard.EndsInRemark "(?x)a # note" := ⟨hparse, rfl⟩
  obtain ⟨e, he⟩ := Option.isSome_iff_exists.mp hparse
  exact ((compiles_iff documented he).mp (h _ e he)).1 hends

end HeapQuery.Pattern
