import HeapQuery.Proofs.Registered

namespace HeapQuery.Registry

inductive Call
  | register (spec : QuerySpec)
  | registerAll (specs : List QuerySpec)
  | remove (identifier : String)
  | removeType (typeName : String)
  | menu

/-- The answer to a call. To register several queries is answered for each of them. -/
inductive Answer
  | registered (q : Registered)
  | refused (e : QueryError)
  | removed (q : Option Registered)
  | removedType (qs : List Registered)
  | menu (m : Menu)

namespace Answer

def error? : Answer → Option QueryError
  | refused e => some e
  | _ => none

def added : Answer → List Registered
  | registered q => [q]
  | _ => []

def takenOut : Answer → List Registered
  | removed q => q.toList
  | removedType qs => qs
  | _ => []

/-- A removal that answers with the query of this identifier takes the query out. -/
def takesOut (a : Answer) (q : Registered) : Bool :=
  a.takenOut.any fun p => p.identifier == q.identifier

end Answer

/-- Registers a query. A query that is refused leaves the catalog as it was. -/
def attempt (r : Registry) (spec : QuerySpec) : Answer × Registry :=
  match r.register spec with
  | .ok (q, next) => (.registered q, next)
  | .error e => (.refused e, r)

def attempts (r : Registry) : List QuerySpec → List Answer × Registry
  | [] => ([], r)
  | spec :: rest =>
    ((r.attempt spec).1 :: ((r.attempt spec).2.attempts rest).1,
      ((r.attempt spec).2.attempts rest).2)

def perform (r : Registry) : Call → List Answer × Registry
  | .register spec => ([(r.attempt spec).1], (r.attempt spec).2)
  | .registerAll specs => ((r.attempts specs).1, (r.registerAll specs).2)
  | .remove identifier => ([.removed (r.remove identifier).1], (r.remove identifier).2)
  | .removeType typeName => ([.removedType (r.removeType typeName).1], (r.removeType typeName).2)
  | .menu => ([.menu r.menu.1], r.menu.2)

def run (r : Registry) : List Call → List Answer × Registry
  | [] => ([], r)
  | call :: rest =>
    ((r.perform call).1 ++ ((r.perform call).2.run rest).1, ((r.perform call).2.run rest).2)

/-- The catalogs that calls lead to, with the answers on the way. -/
inductive History (start : Registry) : List Answer → Registry → Prop where
  | start : History start [] start
  | registered : History start answers r → r.register spec = .ok (q, r') →
      History start (answers ++ [.registered q]) r'
  | refused : History start answers r → r.register spec = .error e →
      History start (answers ++ [.refused e]) r
  | removed (identifier : String) : History start answers r →
      History start (answers ++ [.removed (r.remove identifier).1]) (r.remove identifier).2
  | removedType (typeName : String) : History start answers r →
      History start (answers ++ [.removedType (r.removeType typeName).1]) (r.removeType typeName).2
  | menu : History start answers r → History start (answers ++ [.menu r.menu.1]) r.menu.2

/-- What an answer registered and no later one takes out, in the order of registration. -/
def standing : List Answer → List Registered
  | [] => []
  | a :: later => (a.added.filter fun q => !later.any (·.takesOut q)) ++ standing later

/-- The catalog is the list of the queries that the answers leave standing, and its operations are
those of a list of queries with different identifiers. -/
structure ListsStanding (answers : List Answer) (r : Registry) : Prop where
  listed : r.queries = standing answers
  distinct : r.queries.Pairwise fun p q => p.identifier ≠ q.identifier
  registers : ∀ spec q, spec.build r.translations r.next = .ok q →
    (∀ p ∈ r.queries, p.identifier ≠ spec.identifier) →
    ∃ next, r.register spec = .ok (q, next) ∧ next.queries = r.queries ++ [q]
  refuses : ∀ spec q, spec.build r.translations r.next = .ok q → ∀ e,
    r.register spec = .error e ↔ ∃ p ∈ r.queries, p.identifier = spec.identifier ∧
      e = .duplicateIdentifier spec.identifier p.command.typeName
  refused_unchanged : ∀ spec e, r.register spec = .error e →
    r.perform (.register spec) = ([.refused e], r)
  one_by_one : ∀ specs, r.registerAll specs =
    ((r.run (specs.map .register)).1.filterMap Answer.error?, (r.run (specs.map .register)).2)
  removes : ∀ identifier,
    (r.remove identifier).1.toList = r.queries.filter (fun q => q.identifier == identifier) ∧
    (r.remove identifier).2.queries = r.queries.filter fun q => q.identifier != identifier
  removes_type : ∀ typeName,
    (r.removeType typeName).1 = r.queries.filter (fun q => q.command.typeName == typeName) ∧
    (r.removeType typeName).2.queries = r.queries.filter fun q => q.command.typeName != typeName
  finds_listed : ∀ name q, r.find? name = some q → q ∈ r.queries
  finds_own : ∀ q ∈ r.queries, r.find? q.identifier = some q
  menu : r.menu.1 = Menu.ofRegistered r.queries

variable {start r next : Registry} {answers later : List Answer} {a : Answer} {q : Registered}

/-! ## Single operations -/

theorem identified_none {identifier : String} :
    r.identified? identifier = none ↔ ∀ p ∈ r.queries, p.identifier ≠ identifier := by
  simp [identified?]

theorem identified_some {identifier : String} (h : r.identified? identifier = some q) :
    q ∈ r.queries ∧ q.identifier = identifier :=
  ⟨List.mem_of_find?_eq_some h, by simpa using List.find?_some h⟩

theorem remove_queries (r : Registry) (identifier : String) :
    (r.remove identifier).2.queries = r.queries.filter fun q => q.identifier != identifier := by
  unfold remove
  cases h : r.identified? identifier with
  | none =>
    have hnone := identified_none.mp h
    exact (List.filter_eq_self.mpr fun q hq => by simpa using hnone q hq).symm
  | some q => rfl

theorem remove_answer (r : Registry) (identifier : String) :
    (r.remove identifier).1 = r.identified? identifier := by
  unfold remove
  cases r.identified? identifier <;> rfl

theorem removeType_queries (r : Registry) (typeName : String) :
    (r.removeType typeName).2.queries =
      r.queries.filter fun q => q.command.typeName != typeName := by
  simp only [removeType, List.partition_eq_filter_filter]
  split
  · rename_i h
    rw [List.isEmpty_iff, List.filter_eq_nil_iff] at h
    exact (List.filter_eq_self.mpr fun q hq => by simpa using h q hq).symm
  · rfl

theorem removeType_answer (r : Registry) (typeName : String) :
    (r.removeType typeName).1 = r.queries.filter fun q => q.command.typeName == typeName := by
  simp only [removeType, List.partition_eq_filter_filter]
  split
  · rename_i h
    exact (List.isEmpty_iff.mp h).symm
  · rfl

theorem menu_queries (r : Registry) : r.menu.2.queries = r.queries := by
  unfold menu
  split <;> rfl

/-! ## Histories -/

theorem registerAll_eq (r : Registry) (specs : List QuerySpec) :
    r.registerAll specs = ((r.attempts specs).1.filterMap Answer.error?, (r.attempts specs).2) := by
  induction specs generalizing r with
  | nil => rfl
  | cons spec rest ih =>
    unfold registerAll attempts attempt
    cases r.register spec with
    | ok result => simp [ih, Answer.error?, List.filterMap_cons]
    | error e => simp [ih, Answer.error?]

/-- To register several queries at once is to register one after the other. -/
theorem run_register (r : Registry) (specs : List QuerySpec) :
    r.run (specs.map .register) = r.attempts specs := by
  induction specs generalizing r with
  | nil => rfl
  | cons spec rest ih => simp [run, attempts, perform, ih]

theorem History.attempt (h : History start answers r) (spec : QuerySpec) :
    History start (answers ++ [(r.attempt spec).1]) (r.attempt spec).2 := by
  unfold Registry.attempt
  cases hr : r.register spec with
  | ok result => exact .registered h hr
  | error e => exact .refused h hr

theorem History.attempts (h : History start answers r) (specs : List QuerySpec) :
    History start (answers ++ (r.attempts specs).1) (r.attempts specs).2 := by
  induction specs generalizing r answers with
  | nil => simpa [Registry.attempts] using h
  | cons spec rest ih => simpa [Registry.attempts] using ih (h.attempt spec)

theorem History.perform (h : History start answers r) (call : Call) :
    History start (answers ++ (r.perform call).1) (r.perform call).2 := by
  cases call with
  | register spec => simpa only [Registry.perform] using h.attempt spec
  | registerAll specs => simpa only [Registry.perform, registerAll_eq] using h.attempts specs
  | remove identifier => exact .removed identifier h
  | removeType typeName => exact .removedType typeName h
  | menu => exact .menu h

theorem History.run (h : History start answers r) (calls : List Call) :
    History start (answers ++ (r.run calls).1) (r.run calls).2 := by
  induction calls generalizing r answers with
  | nil => simpa [Registry.run] using h
  | cons call rest ih => simpa [Registry.run] using ih (h.perform call)

theorem history_of_run {calls : List Call} (h : start.run calls = (answers, r)) :
    History start answers r := by
  have hstart : History start [] start := .start
  have hrun := hstart.run calls
  rwa [List.nil_append, h] at hrun

theorem History.reachable (h : History start answers r) (hs : Reachable start) : Reachable r := by
  induction h with
  | start => exact hs
  | registered _ hr ih => exact .register _ ih hr
  | refused _ _ ih => exact ih
  | removed identifier _ ih => exact .remove identifier ih
  | removedType typeName _ ih => exact .removeType typeName ih
  | menu _ ih => exact .menu ih

/-! ## Queries that stand -/

theorem standing_append (answers : List Answer) (a : Answer) :
    standing (answers ++ [a]) = (standing answers).filter (fun q => !a.takesOut q) ++ a.added := by
  induction answers with
  | nil => simp [standing]
  | cons first answers ih =>
    simp only [List.cons_append, standing, ih, List.any_append, List.any_cons, List.any_nil,
      Bool.or_false, Bool.not_or, List.filter_append, List.filter_filter, List.append_assoc]
    congr 2
    ext q
    rw [Bool.and_comm]

/-- Queries of one identifier in a catalog are one query. -/
theorem Sound.unique (h : Sound r) (hp : p ∈ r.queries) (hq : q ∈ r.queries)
    (hid : p.identifier = q.identifier) : p = q := by
  have hfound := h.find hp
  rw [hid, h.find hq] at hfound
  exact (Option.some.inj hfound).symm

theorem find_identifier_toList {qs : List Registered} {identifier : String}
    (h : (qs.map fun q => q.identifier).Nodup) :
    (qs.find? fun q => q.identifier == identifier).toList =
      qs.filter fun q => q.identifier == identifier := by
  induction qs with
  | nil => rfl
  | cons p rest ih =>
    obtain ⟨hfresh, hrest⟩ := List.nodup_cons.mp h
    by_cases hp : p.identifier = identifier
    · have hnone : rest.filter (fun q => q.identifier == identifier) = [] := by
        rw [List.filter_eq_nil_iff]
        intro q hq he
        exact hfresh (List.mem_map.mpr ⟨q, hq, (beq_iff_eq.mp he).trans hp.symm⟩)
      simp [hp, hnone]
    · simp [hp, ih hrest]

theorem takesOut_removed {identifier : String} (hq : q ∈ r.queries) :
    (Answer.removed (r.remove identifier).1).takesOut q = (q.identifier == identifier) := by
  rw [remove_answer]
  cases h : r.identified? identifier with
  | none => simpa [Answer.takesOut, Answer.takenOut] using identified_none.mp h q hq
  | some p =>
    obtain ⟨_, hp⟩ := identified_some h
    simp [Answer.takesOut, Answer.takenOut, hp, Bool.beq_comm]

theorem Sound.takesOut_removedType (h : Sound r) {typeName : String} (hq : q ∈ r.queries) :
    (Answer.removedType (r.removeType typeName).1).takesOut q =
      (q.command.typeName == typeName) := by
  rw [removeType_answer, Bool.eq_iff_iff]
  simp only [Answer.takesOut, Answer.takenOut, List.any_eq_true, List.mem_filter, beq_iff_eq]
  constructor
  · rintro ⟨p, ⟨hp, htype⟩, hid⟩
    rwa [← h.unique hp hq hid]
  · intro htype
    exact ⟨q, ⟨hq, htype⟩, rfl⟩

/-- The queries of a catalog are those that the answers leave standing. -/
theorem History.listed (h : History (withTranslations t) answers r) :
    r.queries = standing answers := by
  induction h with
  | start => rfl
  | registered _ hr ih =>
    obtain ⟨_, _, rfl⟩ := register_ok hr
    simp [standing_append, Answer.takesOut, Answer.takenOut, Answer.added, ih]
  | refused _ _ ih => simp [standing_append, Answer.takesOut, Answer.takenOut, Answer.added, ih]
  | removed identifier _ ih =>
    rw [standing_append, ← ih, remove_queries]
    simp only [Answer.added, List.append_nil]
    exact List.filter_congr fun q hq => by rw [takesOut_removed hq]; rfl
  | removedType typeName hr ih =>
    have hsound := (hr.reachable (.start t)).sound
    rw [standing_append, ← ih, removeType_queries]
    simp only [Answer.added, List.append_nil]
    exact List.filter_congr fun q hq => by rw [hsound.takesOut_removedType hq]; rfl
  | menu _ ih =>
    simp [standing_append, Answer.takesOut, Answer.takenOut, Answer.added, menu_queries, ih]

/-! ## The kept menu -/

theorem remove_menu {identifier : String} (h : (r.remove identifier).2.keptMenu = some m) :
    (r.remove identifier).2.queries = r.queries ∧ r.keptMenu = some m := by
  unfold remove at h ⊢
  split at h
  · exact ⟨rfl, h⟩
  · cases h

theorem removeType_menu {typeName : String} (h : (r.removeType typeName).2.keptMenu = some m) :
    (r.removeType typeName).2.queries = r.queries ∧ r.keptMenu = some m := by
  unfold removeType at h ⊢
  simp only [] at h ⊢
  split at h
  · rename_i hnone
    rw [if_pos hnone]
    exact ⟨rfl, h⟩
  · cases h

/-- A menu that is kept is that of the queries. -/
theorem History.kept_menu (h : History (withTranslations t) answers r) {m : Menu}
    (hm : r.keptMenu = some m) : m = Menu.ofRegistered r.queries := by
  induction h generalizing m with
  | start => cases hm
  | registered _ hr ih =>
    obtain ⟨_, _, rfl⟩ := register_ok hr
    cases hm
  | refused _ _ ih => exact ih hm
  | removed identifier _ ih =>
    obtain ⟨hsame, hkept⟩ := remove_menu hm
    rw [hsame]
    exact ih hkept
  | removedType typeName _ ih =>
    obtain ⟨hsame, hkept⟩ := removeType_menu hm
    rw [hsame]
    exact ih hkept
  | menu _ ih =>
    unfold Registry.menu at hm ⊢
    split at hm
    · exact ih hm
    · cases hm
      rfl

theorem History.menu_answer (h : History (withTranslations t) answers r) :
    r.menu.1 = Menu.ofRegistered r.queries := by
  unfold Registry.menu
  split
  · exact h.kept_menu ‹_›
  · rfl

/-! ## The catalog as a list -/

theorem build_identifier {spec : QuerySpec} (h : spec.build t n = .ok q) :
    q.identifier = spec.identifier := by
  obtain ⟨_, _, _, _, _, _, rfl⟩ := QuerySpec.build_ok h
  rfl

theorem register_free {spec : QuerySpec} (hb : spec.build r.translations r.next = .ok q)
    (hfree : ∀ p ∈ r.queries, p.identifier ≠ spec.identifier) :
    ∃ next, r.register spec = .ok (q, next) ∧ next.queries = r.queries ++ [q] := by
  have hnone : r.identified? q.identifier = none := by
    rw [build_identifier hb]
    exact identified_none.mpr hfree
  unfold register
  rw [hb]
  simp [bind, Except.bind, hnone, pure, Except.pure]

theorem register_owned {spec : QuerySpec} (hb : spec.build r.translations r.next = .ok q)
    (hid : r.identified? spec.identifier = some p) :
    r.register spec = .error (.duplicateIdentifier spec.identifier p.command.typeName) := by
  unfold register
  rw [hb]
  simp [bind, Except.bind, build_identifier hb, hid, throw, throwThe, MonadExceptOf.throw]

/-- A query that can be built is refused only for the query that has its identifier. -/
theorem Sound.register_error (hs : Sound r) {spec : QuerySpec}
    (hb : spec.build r.translations r.next = .ok q) :
    r.register spec = .error e ↔ ∃ p ∈ r.queries, p.identifier = spec.identifier ∧
      e = .duplicateIdentifier spec.identifier p.command.typeName := by
  constructor
  · intro h
    cases hid : r.identified? spec.identifier with
    | none =>
      obtain ⟨next, hok, _⟩ := register_free hb (identified_none.mp hid)
      rw [hok] at h
      cases h
    | some p =>
      obtain ⟨hp, hname⟩ := identified_some hid
      rw [register_owned hb hid, Except.error.injEq] at h
      exact ⟨p, hp, hname, h.symm⟩
  · rintro ⟨p, hp, hname, rfl⟩
    refine register_owned hb ?_
    rw [← hname]
    exact hs.identified hp

theorem perform_refused {spec : QuerySpec} (h : r.register spec = .error e) :
    r.perform (.register spec) = ([.refused e], r) := by
  have hattempt : r.attempt spec = (.refused e, r) := by
    unfold Registry.attempt
    rw [h]
  rw [perform, hattempt]

/-- After any calls a catalog is the list of the queries that were registered and not removed. -/
theorem run_lists_standing (t : Translations) (calls : List Call) :
    ListsStanding ((withTranslations t).run calls).1 ((withTranslations t).run calls).2 := by
  obtain ⟨⟨answers, r⟩, hrun⟩ : ∃ outcome, (withTranslations t).run calls = outcome := ⟨_, rfl⟩
  rw [hrun]
  have hhistory := history_of_run hrun
  have hsound := (hhistory.reachable (.start t)).sound
  constructor
  case listed => exact hhistory.listed
  case distinct => exact List.pairwise_map.mp hsound.identifiers
  case registers => exact fun spec q hb hfree => register_free hb hfree
  case refuses => exact fun spec q hb e => hsound.register_error hb
  case refused_unchanged => exact fun spec e h => perform_refused h
  case one_by_one =>
    intro specs
    rw [registerAll_eq, run_register]
  case removes =>
    intro identifier
    rw [remove_answer]
    exact ⟨find_identifier_toList hsound.identifiers, remove_queries r identifier⟩
  case removes_type =>
    exact fun typeName => ⟨removeType_answer r typeName, removeType_queries r typeName⟩
  case finds_listed => exact fun name q => find_mem
  case finds_own => exact fun q => hsound.find
  case menu => exact hhistory.menu_answer

end HeapQuery.Registry
