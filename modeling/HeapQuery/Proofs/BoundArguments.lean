import HeapQuery.CommandLine
import HeapQuery.Proofs.Registered

namespace HeapQuery

variable {q : Query} {a a' : Argument} {i j : Nat}

theorem mem_positions : (i, a) ∈ Bindings.positions q ↔ q.arguments[i]? = some a := by
  unfold Bindings.positions
  rw [List.mem_iff_getElem?]
  constructor
  · rintro ⟨k, hk⟩
    simp only [List.getElem?_mapIdx, Option.map_eq_some_iff, Prod.mk.injEq] at hk
    obtain ⟨b, hb, rfl, rfl⟩ := hk
    exact hb
  · intro h
    exact ⟨i, by simp [h]⟩

theorem Bindings.positions_arguments (q : Query) :
    (positions q).map Prod.snd = q.arguments := by
  simp [positions, List.mapIdx_eq_zipIdx_map, Function.comp_def]

theorem eq_of_countP_le_one {p : α → Bool} {xs : List α} {x y : α} (h : xs.countP p ≤ 1)
    (hx : x ∈ xs) (hy : y ∈ xs) (hpx : p x = true) (hpy : p y = true) : x = y := by
  rw [List.countP_eq_length_filter] at h
  have hmx : x ∈ xs.filter p := List.mem_filter.mpr ⟨hx, hpx⟩
  have hmy : y ∈ xs.filter p := List.mem_filter.mpr ⟨hy, hpy⟩
  rcases hf : xs.filter p with _ | ⟨z, _ | ⟨w, ws⟩⟩
  · rw [hf] at hmx
    cases hmx
  · rw [hf] at hmx hmy
    exact (List.mem_singleton.mp hmx).trans (List.mem_singleton.mp hmy).symm
  · rw [hf] at h
    simp at h

namespace Query.WellMade

/-- Equal numbers mean equal positions. -/
theorem same_position (h : q.WellMade) (hi : q.arguments[i]? = some a)
    (hj : q.arguments[j]? = some a') (hid : a.id = a'.id) : i = j := by
  obtain ⟨n, hn⟩ := h.counted
  have hids := (hn i a hi).symm.trans (hid.trans (hn j a' hj))
  exact congrArg ArgumentId.position hids

theorem same_argument (h : q.WellMade) (ha : a ∈ q.arguments) (ha' : a' ∈ q.arguments)
    (hid : a.id = a'.id) : a = a' := by
  obtain ⟨i, hi⟩ := List.mem_iff_getElem?.mp ha
  obtain ⟨j, hj⟩ := List.mem_iff_getElem?.mp ha'
  obtain rfl := h.same_position hi hj hid
  exact Option.some.inj (hi.symm.trans hj)

theorem positional_unique (h : q.WellMade) (ha : a ∈ q.arguments) (ha' : a' ∈ q.arguments)
    (hp : a.isPositional = true) (hp' : a'.isPositional = true) : a = a' :=
  eq_of_countP_le_one h.positional ha ha' hp hp'

end Query.WellMade

namespace Bindings

def bindAt (b : Bindings) (i : Nat) (a : Argument) (value : Option Value) : Bindings :=
  { b with entries := put i (stored a value) b.entries }

variable {b : Bindings} {value : Option Value}

@[simp] theorem bindAt_query : (b.bindAt i a value).query = b.query := rfl

@[simp] theorem bindAt_context : (b.bindAt i a value).context = b.context := rfl

theorem at_bindAt_self : (b.bindAt i a value).at? i = some (stored a value) :=
  lookup_put_self i _ _

theorem at_bindAt_of_ne (h : j ≠ i) : (b.bindAt i a value).at? j = b.at? j :=
  lookup_put_of_ne h _ _

theorem position_eq (hq : b.query.WellMade) (hi : b.query.arguments[i]? = some a) :
    b.position? a = some i := by
  have hlt : i < b.query.arguments.length := (List.getElem?_eq_some_iff.mp hi).1
  unfold position?
  rw [List.findIdx?_eq_some_iff_getElem]
  refine ⟨hlt, ?_, ?_⟩
  · rw [(List.getElem?_eq_some_iff.mp hi).2]
    simp
  · intro k hk
    have hget : b.query.arguments[k]? = some b.query.arguments[k] := by simp
    intro hid
    have := hq.same_position hget hi (by simpa using hid)
    omega

theorem binding_eq (hq : b.query.WellMade) (hi : b.query.arguments[i]? = some a) :
    b.binding? a = b.at? i := by
  simp [binding?, position_eq hq hi]

theorem set_eq (hq : b.query.WellMade) (hi : b.query.arguments[i]? = some a) :
    b.set a value = .ok (b.bindAt i a value) := by
  simp [set, position_eq hq hi, bindAt]

/-- Binding an argument succeeds, and it changes the binding of that argument only. -/
theorem set_spec (hq : b.query.WellMade) (ha : a ∈ b.query.arguments) (value : Option Value) :
    ∃ b', b.set a value = .ok b' ∧ b'.query = b.query ∧ b'.context = b.context ∧
      b'.binding? a = some (stored a value) ∧
      ∀ a' ∈ b.query.arguments, a'.id ≠ a.id → b'.binding? a' = b.binding? a' := by
  obtain ⟨i, hi⟩ := List.mem_iff_getElem?.mp ha
  refine ⟨b.bindAt i a value, set_eq hq hi, rfl, rfl, ?_, ?_⟩
  · rw [binding_eq (b := b.bindAt i a value) hq hi, at_bindAt_self]
  · intro a' ha' hne
    obtain ⟨j, hj⟩ := List.mem_iff_getElem?.mp ha'
    have hji : j ≠ i := by
      rintro rfl
      exact hne (congrArg Argument.id (Option.some.inj (hj.symm.trans hi)))
    rw [binding_eq (b := b.bindAt i a value) hq hj, binding_eq hq hj, at_bindAt_of_ne hji]

theorem lookup_filter_self (i : Nat) (entries : List (Nat × Option Value)) :
    (entries.filter fun entry => entry.1 != i).lookup i = none := by
  rw [List.lookup_eq_none_iff]
  intro entry hm
  have := (List.mem_filter.mp hm).2
  simp only [bne_iff_ne, ne_eq] at this ⊢
  exact Ne.symm this

theorem lookup_filter_of_ne (h : j ≠ i) (entries : List (Nat × Option Value)) :
    (entries.filter fun entry => entry.1 != i).lookup j = entries.lookup j := by
  induction entries with
  | nil => rfl
  | cons entry rest ih =>
    obtain ⟨k, v⟩ := entry
    by_cases hk : k = i
    · have hj : (j == k) = false := by simpa [hk] using h
      simp [hk, List.lookup_cons, ih, hk ▸ hj]
    · simp [hk, List.lookup_cons, ih]

def Bound (P : Argument → Option Value → Prop) (b : Bindings) : Prop :=
  ∀ (i : Nat) (a : Argument), b.query.arguments[i]? = some a →
    ∀ value, b.at? i = some value → P a value

variable {P : Argument → Option Value → Prop} {b' : Bindings}

theorem Bound.set (hb : b.Bound P) (hq : b.query.WellMade) (ha : a ∈ b.query.arguments)
    (hvalue : P a (stored a value)) (hset : b.set a value = .ok b') : b'.Bound P := by
  obtain ⟨k, hk⟩ := List.mem_iff_getElem?.mp ha
  rw [set_eq hq hk] at hset
  cases hset
  intro i a' hi v hv
  by_cases hik : i = k
  · subst hik
    obtain rfl := Option.some.inj (hk.symm.trans hi)
    rw [at_bindAt_self, Option.some.injEq] at hv
    exact hv ▸ hvalue
  · rw [at_bindAt_of_ne hik] at hv
    exact hb i a' hi v hv

theorem unset_frame (hunset : b.unset a = .ok b') :
    b'.query = b.query ∧ b'.context = b.context := by
  unfold Bindings.unset at hunset
  split at hunset
  · cases hunset
    exact ⟨rfl, rfl⟩
  · cases hunset

theorem Bound.unset (hb : b.Bound P) (hq : b.query.WellMade) (ha : a ∈ b.query.arguments)
    (hunset : b.unset a = .ok b') : b'.Bound P := by
  obtain ⟨k, hk⟩ := List.mem_iff_getElem?.mp ha
  simp only [Bindings.unset, position_eq hq hk, Except.ok.injEq] at hunset
  subst hunset
  intro i a' hi v hv
  by_cases hik : i = k
  · rw [hik, at?, lookup_filter_self] at hv
    cases hv
  · rw [at?, lookup_filter_of_ne hik] at hv
    exact hb i a' hi v hv

end Bindings

end HeapQuery
