import HeapQuery.Heap.Histogram
import HeapQuery.Proofs.CatalogRuns

namespace HeapQuery.Registry

/-- After this answer the type name of the query does not lead to the query. -/
def Answer.Displaces (q : Registered) : Answer → Prop
  | registered p => Text.lower p.command.typeName = Text.lower q.command.typeName
  | refused _ => False
  | removed found => ∃ p ∈ found, p.identifier = q.identifier
  | removedType ps => ∃ p ∈ ps, Text.lower p.command.typeName = Text.lower q.command.typeName
  | menu _ => False

/-- The query was registered, and no later answer displaces it. -/
def Current (answers : List Answer) (q : Registered) : Prop :=
  ∃ earlier later, answers = earlier ++ .registered q :: later ∧ ∀ a ∈ later, ¬ a.Displaces q

variable {start r : Registry} {answers : List Answer} {a : Answer} {q : Registered}

theorem current_append :
    Current (answers ++ [a]) q ↔ a = .registered q ∨ Current answers q ∧ ¬ a.Displaces q := by
  constructor
  · rintro ⟨earlier, later, hsplit, hlater⟩
    rcases List.eq_nil_or_concat later with rfl | ⟨before, last, rfl⟩
    · exact .inl (List.append_inj_right' hsplit rfl |> List.singleton_inj.mp)
    · rw [List.concat_eq_append, ← List.cons_append, ← List.append_assoc] at hsplit
      obtain ⟨hanswers, hlast⟩ := List.append_inj' hsplit rfl
      obtain rfl := List.singleton_inj.mp hlast
      exact .inr ⟨⟨earlier, before, hanswers, fun b hb => hlater b (by simp [hb])⟩,
        hlater a (by simp)⟩
  · rintro (rfl | ⟨⟨earlier, later, rfl, hlater⟩, ha⟩)
    · exact ⟨answers, [], rfl, by simp⟩
    · refine ⟨earlier, later ++ [a], by simp, ?_⟩
      simpa [or_imp, forall_and] using ⟨hlater, ha⟩

theorem current_kept (hne : a ≠ .registered q) :
    Current (answers ++ [a]) q ↔ Current answers q ∧ ¬ a.Displaces q := by
  simp [current_append, hne]

theorem displaces_removed {identifier : String} (hq : q ∈ r.queries) :
    (Answer.removed (r.remove identifier).1).Displaces q ↔ q.identifier = identifier := by
  rw [remove_answer]
  simp only [Answer.Displaces, Option.mem_def]
  constructor
  · rintro ⟨p, hp, hid⟩
    exact hid.symm.trans (identified_some hp).2
  · rintro rfl
    cases hid : r.identified? q.identifier with
    | none => exact absurd rfl (identified_none.mp hid q hq)
    | some p => exact ⟨p, rfl, (identified_some hid).2⟩

theorem displaces_removedType {typeName : String} :
    (Answer.removedType (r.removeType typeName).1).Displaces q ↔
      (r.removeType typeName).1 ≠ [] ∧ Text.lower typeName = Text.lower q.command.typeName := by
  have htypes : ∀ p ∈ (r.removeType typeName).1, p.command.typeName = typeName := by
    intro p hp
    rw [removeType_answer] at hp
    simpa using (List.mem_filter.mp hp).2
  simp only [Answer.Displaces]
  constructor
  · rintro ⟨p, hp, hsame⟩
    exact ⟨List.ne_nil_of_mem hp, htypes p hp ▸ hsame⟩
  · rintro ⟨hne, hsame⟩
    obtain ⟨p, hp⟩ := List.exists_mem_of_ne_nil _ hne
    exact ⟨p, hp, (htypes p hp).symm ▸ hsame⟩

theorem History.current_listed (h : History (withTranslations t) answers r)
    (hq : Current answers q) : q ∈ r.queries := by
  induction h with
  | start =>
    obtain ⟨earlier, later, hsplit, _⟩ := hq
    simp at hsplit
  | registered _ hr ih =>
    obtain ⟨_, _, rfl⟩ := register_ok hr
    rcases current_append.mp hq with he | ⟨hq, _⟩
    · cases he
      simp
    · exact List.mem_append_left _ (ih hq)
  | refused _ _ ih => exact ih ((current_kept (by simp)).mp hq).1
  | removed identifier _ ih =>
    obtain ⟨hq, hkept⟩ := (current_kept (by simp)).mp hq
    rw [displaces_removed (ih hq)] at hkept
    rw [remove_queries, List.mem_filter]
    exact ⟨ih hq, by simpa using hkept⟩
  | removedType typeName _ ih =>
    obtain ⟨hq, hkept⟩ := (current_kept (by simp)).mp hq
    rw [removeType_answer] at hkept
    rw [removeType_queries, List.mem_filter]
    refine ⟨ih hq, ?_⟩
    rw [bne_iff_ne]
    intro htype
    exact hkept ⟨q, List.mem_filter.mpr ⟨ih hq, by simpa using htype⟩, rfl⟩
  | menu _ ih =>
    rw [menu_queries]
    exact ih ((current_kept (by simp)).mp hq).1

theorem menu_byType (r : Registry) : r.menu.2.byType = r.byType := by
  unfold menu
  split <;> rfl

theorem mem_remove_byType {entry : String × String} {identifier : String} :
    entry ∈ (r.remove identifier).2.byType ↔
      entry ∈ r.byType ∧ ((r.identified? identifier).isSome = true → entry.2 ≠ identifier) := by
  unfold remove
  cases r.identified? identifier <;> simp

theorem mem_removeType_byType {entry : String × String} {typeName : String} :
    entry ∈ (r.removeType typeName).2.byType ↔
      entry ∈ r.byType ∧ ((r.removeType typeName).1 ≠ [] → entry.1 ≠ Text.lower typeName) := by
  unfold removeType
  simp only []
  split
  · simp
  · rename_i hsome
    rw [List.isEmpty_iff] at hsome
    simp only [List.mem_filter, bne_iff_ne, ne_eq, hsome, not_false_eq_true, forall_const]

/-- The catalog notes the current queries, each under the name of its type in small letters. -/
theorem History.indexed (h : History (withTranslations t) answers r) (key identifier : String) :
    (key, identifier) ∈ r.byType ↔
      ∃ q, Current answers q ∧ Text.lower q.command.typeName = key ∧ q.identifier = identifier := by
  induction h with
  | start => simp [withTranslations, Current]
  | @registered _ _ _ p _ _ hr ih =>
    obtain ⟨_, _, rfl⟩ := register_ok hr
    simp only [noteType, List.mem_cons, List.mem_filter, ih, current_append, bne_iff_ne]
    constructor
    · rintro (he | ⟨⟨q, hq, rfl, rfl⟩, hne⟩)
      · cases he
        exact ⟨p, .inl rfl, rfl, rfl⟩
      · exact ⟨q, .inr ⟨hq, Ne.symm hne⟩, rfl, rfl⟩
    · rintro ⟨q, he | ⟨hq, hkept⟩, rfl, rfl⟩
      · cases he
        exact .inl rfl
      · exact .inr ⟨⟨q, hq, rfl, rfl⟩, Ne.symm hkept⟩
  | refused _ _ ih => simp [ih, current_kept, Answer.Displaces]
  | removed name hr ih =>
    simp only [mem_remove_byType, ih, current_kept, ne_eq, reduceCtorEq, not_false_eq_true]
    constructor
    · rintro ⟨⟨q, hq, rfl, rfl⟩, hkept⟩
      have hlisted := hr.current_listed hq
      refine ⟨q, ⟨hq, fun hd => ?_⟩, rfl, rfl⟩
      obtain rfl := (displaces_removed hlisted).mp hd
      exact hkept (by simp [(hr.reachable (.start t)).sound.identified hlisted]) rfl
    · rintro ⟨q, ⟨hq, hkept⟩, rfl, rfl⟩
      rw [displaces_removed (hr.current_listed hq)] at hkept
      exact ⟨⟨q, hq, rfl, rfl⟩, fun _ => hkept⟩
  | removedType typeName _ ih =>
    simp only [mem_removeType_byType, ih, current_kept, displaces_removedType, not_and, ne_eq,
      reduceCtorEq, not_false_eq_true]
    constructor
    · rintro ⟨⟨q, hq, rfl, rfl⟩, hkept⟩
      exact ⟨q, ⟨hq, fun hne => Ne.symm (hkept hne)⟩, rfl, rfl⟩
    · rintro ⟨q, ⟨hq, hkept⟩, rfl, rfl⟩
      exact ⟨⟨q, hq, rfl, rfl⟩, fun hne => Ne.symm (hkept hne)⟩
  | menu _ ih => simp [menu_byType, ih, current_kept, Answer.Displaces]

/-- A type name leads to a query of the type where its last registration has not been displaced, and
else where the first query that has it as the simple name of its type is one. -/
theorem found_by_type_iff {calls : List Call} {typeName : String}
    (hrun : (withTranslations t).run calls = (answers, r))
    (hname : ∀ q ∈ r.queries, q.identifier ≠ typeName) :
    (∃ q ∈ r.queries, r.find? typeName = some q ∧
      Text.lower q.command.typeName = Text.lower typeName) ↔
    (∃ q, Current answers q ∧ Text.lower q.command.typeName = Text.lower typeName) ∨
    ∃ q, (r.queries.find? fun q =>
        Text.equalsIgnoringAsciiCase q.command.simpleName typeName) = some q ∧
      Text.lower q.command.typeName = Text.lower typeName := by
  have hhistory := history_of_run hrun
  have hsound := (hhistory.reachable (.start t)).sound
  have hnot : r.identified? typeName = none := identified_none.mpr hname
  cases hlookup : r.byType.lookup (Text.lower typeName) with
  | some identifier =>
    obtain ⟨before, after, hentries, _⟩ := List.lookup_eq_some_iff.mp hlookup
    have hentry : (Text.lower typeName, identifier) ∈ r.byType := by simp [hentries]
    obtain ⟨q, hq, hkey, rfl⟩ := (hhistory.indexed _ _).mp hentry
    have hlisted := hhistory.current_listed hq
    have hfind : r.find? typeName = some q := by
      simp only [find?, hnot, hlookup, hsound.identified hlisted]
    exact ⟨fun _ => .inl ⟨q, hq, hkey⟩, fun _ => ⟨q, hlisted, hfind, hkey⟩⟩
  | none =>
    have hfind : r.find? typeName = r.queries.find? fun q =>
        Text.equalsIgnoringAsciiCase q.command.simpleName typeName := by
      simp only [find?, hnot, hlookup]
    have hcurrent : ¬ ∃ q, Current answers q ∧
        Text.lower q.command.typeName = Text.lower typeName := by
      rintro ⟨q, hq, hkey⟩
      have hentry := (hhistory.indexed _ _).mpr ⟨q, hq, hkey, rfl⟩
      simpa using List.lookup_eq_none_iff.mp hlookup _ hentry
    rw [hfind]
    constructor
    · rintro ⟨q, _, hq, hkey⟩
      exact .inr ⟨q, hq, hkey⟩
    · rintro (hq | ⟨q, hq, hkey⟩)
      · exact absurd hq hcurrent
      · exact ⟨q, List.mem_of_find?_eq_some hq, hq, hkey⟩

def counting (name : String) : QuerySpec where
  command := Heap.Histogram.command
  name := some name

def oneOfTwo (removed : String) : List Call :=
  [.register (counting "first"), .register (counting "second"), .remove removed]

/-- The query that was registered last is found when the other one is removed. -/
theorem last_counting_found : ∃ (answers : List Answer) (r : Registry),
    (withTranslations .empty).run (oneOfTwo "first") = (answers, r) ∧
    (∀ q ∈ r.queries, q.identifier ≠ Heap.Histogram.command.typeName) ∧
    ∃ q ∈ r.queries, r.find? Heap.Histogram.command.typeName = some q ∧
      Text.lower q.command.typeName = Text.lower Heap.Histogram.command.typeName := by
  obtain ⟨p, q, r, hrun, hids, htype, hname⟩ : ∃ (p q : Registered) (r : Registry),
      (withTranslations .empty).run (oneOfTwo "first") =
        ([.registered p, .registered q, .removed (some p)], r) ∧
      p.identifier ≠ q.identifier ∧ q.command.typeName = Heap.Histogram.command.typeName ∧
      ∀ q ∈ r.queries, q.identifier ≠ Heap.Histogram.command.typeName :=
    ⟨_, _, _, rfl, by decide, rfl, by decide⟩
  have hcurrent : Current [.registered p, .registered q, .removed (some p)] q :=
    ⟨[.registered p], [.removed (some p)], rfl, by simpa [Answer.Displaces] using hids⟩
  exact ⟨_, r, hrun, hname, (found_by_type_iff hrun hname).mpr (.inl ⟨q, hcurrent, by rw [htype]⟩)⟩

/-- When the query that was registered last is removed, its type is not found any more, though the
other query has it. -/
theorem type_forgotten_with_last_query :
    ¬ ∀ (t : Translations) (calls : List Call) (answers : List Answer) (r : Registry)
        (typeName : String), (withTranslations t).run calls = (answers, r) →
        (∀ q ∈ r.queries, q.identifier ≠ typeName) →
        (∃ q ∈ r.queries, q.command.typeName = typeName) →
        ∃ q ∈ r.queries, r.find? typeName = some q ∧
          Text.lower q.command.typeName = Text.lower typeName := by
  intro h
  obtain ⟨answers, r, hrun, hname, htype, hnone⟩ : ∃ (answers : List Answer) (r : Registry),
      (withTranslations .empty).run (oneOfTwo "second") = (answers, r) ∧
      (∀ q ∈ r.queries, q.identifier ≠ Heap.Histogram.command.typeName) ∧
      (∃ q ∈ r.queries, q.command.typeName = Heap.Histogram.command.typeName) ∧
      r.find? Heap.Histogram.command.typeName = none :=
    ⟨_, _, rfl, by decide, ⟨_, List.mem_singleton_self _, rfl⟩, rfl⟩
  obtain ⟨q, _, hfound, _⟩ := h .empty _ answers r _ hrun hname htype
  rw [hnone] at hfound
  cases hfound

end HeapQuery.Registry
