import HeapQuery.Proofs.HeapRuns
import HeapQuery.Proofs.Rankings
import HeapQuery.Proofs.SelectedObjects
import Mathlib.Data.List.Nodup

namespace HeapQuery

open CommandLine Heap

namespace Heap

/-! ## Objects at addresses -/

theorem firstRepeated_none_iff {seen : List Nat} {objects : List Object} :
    firstRepeated? seen objects = none ↔
      (objects.map Object.id).Nodup ∧ ∀ o ∈ objects, o.id ∉ seen := by
  refine ⟨firstRepeated_none, ?_⟩
  induction objects generalizing seen with
  | nil => exact fun _ => rfl
  | cons o rest ih =>
    rintro ⟨hnodup, hfresh⟩
    obtain ⟨hnew, hrest⟩ := List.nodup_cons.mp hnodup
    have hunseen : seen.contains o.id = false := by simpa using hfresh o List.mem_cons_self
    rw [firstRepeated?, hunseen]
    refine ih ⟨hrest, fun o' ho' hm => ?_⟩
    rcases List.mem_cons.mp hm with he | hm
    · exact hnew (he ▸ List.mem_map_of_mem ho')
    · exact hfresh o' (List.mem_cons_of_mem _ ho') hm

namespace Snapshot

variable {s : Snapshot} {objects : List Object} {o : Object} {id : Nat}

theorem ofObjects_ok {path : String} :
    ofObjects path objects = .ok s ↔ s.path = path ∧ s.objects = objects := by
  unfold ofObjects
  split
  · rename_i hunrepeated
    rw [Except.ok.injEq]
    constructor
    · rintro rfl
      exact ⟨rfl, rfl⟩
    · rintro ⟨rfl, rfl⟩
      rfl
  · rename_i id hrepeated
    constructor
    · intro h
      cases h
    · rintro ⟨_, rfl⟩
      cases s.unrepeated.symm.trans hrepeated

/-- The objects make a snapshot where their addresses differ. -/
theorem ofObjects_iff (path : String) (objects : List Object) :
    (∃ s, ofObjects path objects = .ok s) ↔ (objects.map Object.id).Nodup := by
  constructor
  · rintro ⟨s, h⟩
    rw [← (ofObjects_ok.mp h).2]
    exact s.ids_nodup
  · intro hnodup
    have hunrepeated : firstRepeated? [] objects = none :=
      firstRepeated_none_iff.mpr ⟨hnodup, by simp⟩
    exact ⟨⟨path, objects, hunrepeated⟩, ofObjects_ok.mpr ⟨rfl, rfl⟩⟩

theorem object_iff : s.object? id = some o ↔ o ∈ s.objects ∧ o.id = id := by
  constructor
  · intro h
    exact ⟨List.mem_of_find?_eq_some h, by simpa using List.find?_some h⟩
  · rintro ⟨hm, rfl⟩
    cases hfound : s.object? o.id with
    | none => simpa using List.find?_eq_none.mp hfound o hm
    | some found =>
      have hid : found.id = o.id := by simpa using List.find?_some hfound
      rw [List.inj_on_of_nodup_map s.ids_nodup (List.mem_of_find?_eq_some hfound) hm hid]

end Snapshot

namespace ShowObjects

/-! ## What is asked for -/

inductive IsLong : Value → Int → Prop where
  | long (n : Int64) : IsLong (.long n) n.toInt
  | int (n : Int32) : IsLong (.int n) n.toInt
  | short (n : Int16) : IsLong (.short n) n.toInt

inductive Least (a : Argument) : Option (Option Value) → Int → Prop where
  | size {v w : Value} : a.Becomes v (.ok w) → IsLong w least → Least a (some (some v)) least
  | null : Least a (some none) 0
  | unset : Least a none 0

end ShowObjects

end Heap

structure Bindings.Asks (b : Bindings) (s : Snapshot) (ids : List Nat) (least : Int) : Prop where
  on : b.On s
  selected : b.named? "objects" = some (some (Selection.value ⟨ids⟩))
  least : ∀ a ∈ b.query.arguments, a.name = "min" →
    ShowObjects.Least a (b.named? "min") least

namespace Heap.ShowObjects

/-! ## Settings -/

variable {settings : Settings} {a : Argument} {b : Bindings} {s : Snapshot} {p : Registered}
  {ids : List Nat} {least : Int} {v : Value} {i : Nat} {rest : List (Nat × Argument)}

theorem isLong_iff {number : Int} :
    IsLong v number ↔ ∃ n, v.long? = some n ∧ n.toInt = number := by
  constructor
  · intro h
    cases h with
    | long n => exact ⟨n, rfl, rfl⟩
    | int n => exact ⟨n.toInt64, rfl, Int32.toInt_toInt64 n⟩
    | short n => exact ⟨n.toInt64, rfl, Int16.toInt_toInt64 n⟩
  · rintro ⟨n, hlong, rfl⟩
    cases v with
    | long m =>
      obtain rfl := Option.some.inj hlong
      exact .long m
    | int m =>
      obtain rfl := Option.some.inj hlong
      rw [Int32.toInt_toInt64]
      exact .int m
    | short m =>
      obtain rfl := Option.some.inj hlong
      rw [Int16.toInt_toInt64]
      exact .short m
    | _ => cases hlong

/-- An address with a sign is the address where no sign bit is set. -/
theorem nat_of_address {id : Nat} (h : id < 2 ^ 63) : nat? (.long (Int64.ofNat id)) = some id := by
  have hint : (Int64.ofNat id).toInt = id := Int64.toInt_ofNat_of_lt h
  simp only [nat?, Value.long?, Option.bind_some, hint]
  simp

theorem nats_of_addresses (h : ∀ id ∈ ids, id < 2 ^ 63) :
    (ids.map fun id => Value.long (Int64.ofNat id)).mapM nat? = some ids := by
  induction ids with
  | nil => rfl
  | cons id ids ih =>
    obtain ⟨hid, hids⟩ := List.forall_mem_cons.mp h
    rw [List.map_cons, List.mapM_cons, nat_of_address hid, ih hids]
    rfl

theorem values_within (view : ArgumentView) (h : ∀ id ∈ ids, id < 2 ^ 63) :
    Selection.values ⟨ids⟩ view = .ok (.list (ids.map fun id => .long (Int64.ofNat id))) := by
  have hnone : ids.find? (fun id => 0x8000000000000000 ≤ id) = none := by
    refine List.find?_eq_none.mpr fun id hm => ?_
    have := h id hm
    simp
    omega
  simp only [Selection.values, hnone]

theorem values_beyond (view : ArgumentView) (h : ∃ id ∈ ids, 2 ^ 63 ≤ id) :
    ∃ shown, Selection.values ⟨ids⟩ view =
      .error (.illegalArgument view.name "object address" shown) := by
  cases hfind : ids.find? (fun id => 0x8000000000000000 ≤ id) with
  | none =>
    obtain ⟨id, hm, hlarge⟩ := h
    have := List.find?_eq_none.mp hfind id hm
    simp at this
    omega
  | some id =>
    simp only [Selection.values, hfind]
    exact ⟨_, rfl⟩

theorem bind_objects (hname : a.name = "objects") (h : ∀ id ∈ ids, id < 2 ^ 63) :
    bind settings (a, .scalar (.list (ids.map fun id => .long (Int64.ofNat id)))) =
      .ok { settings with ids := ids } := by
  have hlist : Field.scalarAs (.scalar (.list (ids.map fun id => .long (Int64.ofNat id)))) a
      (fun value => value.list?.bind fun items => items.mapM nat?) = .ok ids := by
    simp only [Field.scalarAs, Field.scalar?, Option.bind_some, Value.list?, nats_of_addresses h]
  simp only [bind, hname, hlist]
  rfl

/-- The field of a selection, which is built when all addresses are in range. -/
theorem field_objects (hname : a.name = "objects") (hm : a.multiplicity = .single)
    (hat : b.at? i = some (some (Selection.value ⟨ids⟩))) :
    ((∀ id ∈ ids, id < 2 ^ 63) → b.field? i a =
      .ok (some (.scalar (.list (ids.map fun id => .long (Int64.ofNat id)))))) ∧
    ((∃ id ∈ ids, 2 ^ 63 ≤ id) → ∃ shown, b.field? i a =
      .error (.illegalArgument "objects" "object address" shown)) := by
  have hfield := Bindings.field_forced hat hm
  refine ⟨fun hwithin => ?_, fun hbeyond => ?_⟩
  · rw [hfield, Selection.value, Argument.force, Argument.build, values_within a.view hwithin]
    rfl
  · obtain ⟨shown, hvalues⟩ := values_beyond a.view hbeyond
    rw [hfield, Selection.value, Argument.force, Argument.build, hvalues, ← hname]
    exact ⟨shown, rfl⟩

theorem bind_least (hname : a.name = "min") (hlong : v.long? = some n) (hn : 0 ≤ n.toInt) :
    bind settings (a, .scalar v) = .ok { settings with least := n.toInt.toNat } := by
  have hnat : nat? v = some n.toInt.toNat := by rw [nat?, hlong, Option.bind_some, if_pos hn]
  simp only [bind, hname, Field.optionalAs_some hnat]
  rfl

theorem bind_negative (hname : a.name = "min") (hlong : v.long? = some n) (hn : n.toInt < 0) :
    bind settings (a, .scalar v) = .error (a.illegal (.scalar v)) := by
  have hnat : nat? v = none := by rw [nat?, hlong, Option.bind_some, if_neg (Int.not_le.mpr hn)]
  simp only [bind, hname, Field.optionalAs_none hnat]
  rfl

/-- The smallest size comes from a number, or there is none and every object is large enough. -/
theorem field_least (hm : a.multiplicity = .single) (hfree : a.mandatory = false)
    (hdefault : a.default = some (.long 0)) (hleast : Least a (b.at? i) least) :
    (∃ v n, b.field? i a = .ok (some (.scalar v)) ∧ v.long? = some n ∧ n.toInt = least) ∨
      b.field? i a = .ok (some .null) ∧ least = 0 := by
  generalize hat : b.at? i = binding at hleast
  cases hleast with
  | size hbecomes hnumber =>
    obtain ⟨n, hlong, hn⟩ := isLong_iff.mp hnumber
    refine .inl ⟨_, n, ?_, hlong, hn⟩
    rw [Bindings.field_forced hat hm, Argument.becomes_iff.mp hbecomes]
    rfl
  | null => exact .inr ⟨Bindings.field_null hat hfree, rfl⟩
  | unset => exact .inl ⟨.long 0, 0, Bindings.field_default hat hdefault rfl hm, rfl, rfl⟩

theorem settle_min (hname : a.name = "min") (hm : a.multiplicity = .single)
    (hfree : a.mandatory = false) (hdefault : a.default = some (.long 0))
    (hleast : Least a (b.at? i) least) (hle : 0 ≤ least) :
    b.settle bind settings ((i, a) :: rest) =
      b.settle bind { settings with least := least.toNat } rest := by
  rcases field_least hm hfree hdefault hleast with ⟨v, n, hfield, hlong, rfl⟩ | ⟨hfield, rfl⟩
  · exact Bindings.settle_bound hfield (bind_least hname hlong hle)
  · refine Bindings.settle_bound hfield ?_
    simp only [bind, hname]
    rfl

theorem settle_min_negative (hname : a.name = "min") (hm : a.multiplicity = .single)
    (hfree : a.mandatory = false) (hdefault : a.default = some (.long 0))
    (hleast : Least a (b.at? i) least) (hlt : least < 0) : ∃ expected shown,
      b.settle bind settings ((i, a) :: rest) = .error (.illegalArgument "min" expected shown) := by
  rcases field_least hm hfree hdefault hleast with ⟨v, n, hfield, hlong, rfl⟩ | ⟨_, rfl⟩
  · refine ⟨a.expected, v.display, ?_⟩
    rw [Bindings.settle_refused hfield (bind_negative hname hlong hlt), Argument.illegal, hname]
    rfl
  · exact absurd hlt (Int.lt_irrefl 0)

theorem settled (h : showObjects.build t n = .ok p) (hquery : p.Offers b.query)
    (hasks : b.Asks s ids least) :
    ((∀ id ∈ ids, id < 2 ^ 63) → 0 ≤ least → b.settle bind {} (Bindings.positions b.query) =
        .ok ⟨some s, ids, least.toNat⟩) ∧
    ((∃ id ∈ ids, 2 ^ 63 ≤ id) ∨ least < 0 → ∃ name expected shown,
      b.settle bind {} (Bindings.positions b.query) =
        .error (.illegalArgument name expected shown)) := by
  obtain ⟨⟨serial, hsnapshot⟩, hobjects, hleast⟩ := hasks
  obtain ⟨_, first, second, third, hown⟩ := showObjects_arguments h
  have hnamed := fun i a => Bindings.named_offered h hquery (i := i) (a := a)
  rw [(QuerySpec.offers_same h hquery).2.1] at hleast
  rw [hown] at hnamed hleast
  have hat := (hnamed 0 _ rfl).symm.trans hsnapshot
  have hleast := hleast _ (.tail _ (.tail _ (.head _))) rfl
  rw [show b.named? "objects" = b.at? 1 from hnamed 1 _ rfl] at hobjects
  rw [show b.named? "min" = b.at? 2 from hnamed 2 _ rfl] at hleast
  rw [Bindings.positions, (QuerySpec.offers_same h hquery).2.1, hown]
  have hfirst : ∀ rest, b.settle bind {} ((0, ⟨⟨n, 0⟩, "snapshot", some "snapshot", true, .single,
      snapshotType, none, none, first⟩) :: rest) = b.settle bind { snapshot := some s } rest :=
    fun _ => Bindings.settle_bound (Bindings.field_single hat rfl rfl) rfl
  have hbuilt := field_objects (a := ⟨⟨n, 1⟩, "objects", none, true, .single, objectsType,
    some .heapObject, none, second⟩) rfl rfl hobjects
  refine ⟨fun hids hle => ?_, fun hrefused => ?_⟩
  · exact (hfirst _).trans ((Bindings.settle_bound (hbuilt.1 hids) (bind_objects rfl hids)).trans
      (settle_min rfl rfl rfl rfl hleast hle))
  · by_cases hids : ∃ id ∈ ids, 2 ^ 63 ≤ id
    · obtain ⟨shown, hfield⟩ := hbuilt.2 hids
      exact ⟨_, _, shown, (hfirst _).trans (Bindings.settle_stopped hfield)⟩
    · obtain ⟨expected, shown, hstopped⟩ := settle_min_negative (a := ⟨⟨n, 2⟩, "min", some "min",
        false, .single, .long, none, some (.long 0), third⟩) rfl rfl rfl rfl hleast
        (hrefused.resolve_left hids)
      have hwithin : ∀ id ∈ ids, id < 2 ^ 63 := fun id hm =>
        Nat.lt_of_not_le fun hle => hids ⟨id, hm, hle⟩
      exact ⟨_, expected, shown, (hfirst _).trans
        ((Bindings.settle_bound (hbuilt.1 hwithin) (bind_objects rfl hwithin)).trans hstopped)⟩

/-! ## Runs -/

def rank (o : Object) : Natᵒᵈ ×ₗ Nat := Rankings.largerFirst (keptBy o) o.id

theorem comesBefore_iff (x y : Object) : comesBefore x y = true ↔ rank x ≤ rank y := by
  rw [rank, rank, Rankings.largerFirst_le, comesBefore, retained_eq]
  split
  · rename_i h
    rw [beq_iff_eq] at h
    simp [h]
  · rename_i h
    rw [beq_iff_eq] at h
    simp [h]

/-- These are the objects at the addresses that are this large, as often as they are addressed, the
ones that keep more alive first. -/
structure Shows (s : Snapshot) (ids : List Nat) (least : Int) (rows : List Object) : Prop where
  perm : rows.Perm ((ids.filterMap s.object?).filter fun o => least ≤ o.shallow)
  ordered : rows.Pairwise fun x y => keptBy y < keptBy x ∨ keptBy x = keptBy y ∧ x.id ≤ y.id

/-- An object as it is shown, in the order of its keys. -/
theorem row_eq (o : Object) : row o = .object
    [("address", .string ("0x" ++ String.ofList (Nat.toDigits 16 o.id))),
      ("class", .string o.className), ("retained", .number (.integer (keptBy o))),
      ("shallow", .number (.integer o.shallow))] := by
  simp only [row, address, Text.hexDigits, retained_eq, Json.record, Json.nat, List.foldl_cons,
    List.foldl_nil, Json.insertField, String.reduceLT, String.reduceBEq, Bool.false_eq_true,
    ↓reduceIte]

theorem sorted_shows (s : Snapshot) (ids : List Nat) (h : 0 ≤ least) : Shows s ids least
    (((ids.filterMap s.object?).filter fun o => least.toNat ≤ o.shallow).mergeSort
      comesBefore) := by
  refine ⟨?_, (Rankings.sorted comesBefore_iff _).imp Rankings.largerFirst_le.mp⟩
  refine (List.mergeSort_perm _ _).trans (List.Perm.of_eq ?_)
  refine List.filter_congr fun o _ => decide_eq_decide.mpr ?_
  omega

/-- What the query comes to when nothing cancels it. -/
structure Answers (b : Bindings) (s : Snapshot) (ids : List Nat) (least : Int)
    (result : Except QueryError Outcome) : Prop where
  succeeds_iff : (∃ outcome, result = .ok outcome) ↔
    (∀ id ∈ ids, id < 2 ^ 63 ∧ s.object? id ≠ none) ∧ 0 ≤ least
  shows : ∀ outcome, result = .ok outcome → ∃ rows : List Object, Shows s ids least rows ∧
    outcome = ⟨b.query, b.line, some (.array (rows.map fun (o : Object) => .object
      [("address", .string ("0x" ++ String.ofList (Nat.toDigits 16 o.id))),
        ("class", .string o.className), ("retained", .number (.integer (keptBy o))),
        ("shallow", .number (.integer o.shallow))]))⟩
  missing : (∀ id ∈ ids, id < 2 ^ 63) → 0 ≤ least → (∃ id ∈ ids, s.object? id = none) →
    ∃ id ∈ ids, s.object? id = none ∧ result = .error (.execution "show_objects"
      ("no object 0x" ++ String.ofList (Nat.toDigits 16 id) ++ " in " ++ s.path))

theorem refused (h : showObjects.build t n = .ok p) (hquery : p.Offers b.query)
    (hasks : b.Asks s ids least) (hrefused : (∃ id ∈ ids, 2 ^ 63 ≤ id) ∨ least < 0)
    (listener : Listener) : ∃ name expected shown,
      b.execute listener = (.error (.illegalArgument name expected shown), Progress.none) := by
  obtain ⟨name, expected, shown, hsettled⟩ := (settled h hquery hasks).2 hrefused
  have hcommand := QuerySpec.offers_command h hquery
  exact ⟨name, expected, shown, (Bindings.execute_stateful hcommand listener).1 _ hsettled⟩

theorem answered (h : showObjects.build t n = .ok p) (hquery : p.Offers b.query)
    (hasks : b.Asks s ids least) {listener : Listener}
    (hspared : listener.Spares (b.execute listener).2) :
    Answers b s ids least (b.execute listener).1 := by
  by_cases hrefused : (∃ id ∈ ids, 2 ^ 63 ≤ id) ∨ least < 0
  · obtain ⟨name, expected, shown, hexecute⟩ := refused h hquery hasks hrefused listener
    have hno : ¬ ((∀ id ∈ ids, id < 2 ^ 63) ∧ 0 ≤ least) := by
      rintro ⟨hids, hle⟩
      rcases hrefused with ⟨id, hm, hlarge⟩ | hlt
      · exact Nat.not_le.mpr (hids id hm) hlarge
      · exact Int.not_le.mpr hlt hle
    rw [hexecute]
    refine ⟨⟨nofun, ?_⟩, nofun, fun hids hle => absurd ⟨hids, hle⟩ hno⟩
    rintro ⟨hall, hle⟩
    exact absurd ⟨fun id hm => (hall id hm).1, hle⟩ hno
  · have hids : ∀ id ∈ ids, id < 2 ^ 63 := fun id hm =>
      Nat.lt_of_not_le fun hlarge => hrefused (.inl ⟨id, hm, hlarge⟩)
    have hle : 0 ≤ least := Int.not_lt.mp fun hlt => hrefused (.inr hlt)
    have hidentifier : b.query.identifier = "show_objects" :=
      (QuerySpec.offers_same h hquery).1.trans (showObjects_arguments h).1
    have hcommand := QuerySpec.offers_command h hquery
    have hsettled := (settled h hquery hasks).1 hids hle
    rw [Bindings.execute_traced hcommand hsettled (traces_run rfl) hspared]
    cases hresolved : resolved s least.toNat ids with
    | error f =>
      obtain ⟨id, hm, hmissing, rfl⟩ := resolved_error hresolved
      refine ⟨⟨nofun, fun ⟨hall, _⟩ => absurd hmissing (hall id hm).2⟩, nofun,
        fun _ _ _ => ⟨id, hm, hmissing, ?_⟩⟩
      rw [← hidentifier]
      rfl
    | ok objects =>
      obtain ⟨hfound, rfl⟩ := resolved_ok.mp hresolved
      refine ⟨⟨fun _ => ⟨fun id hm => ⟨hids id hm, hfound id hm⟩, hle⟩, fun _ => ⟨_, rfl⟩⟩, ?_,
        fun _ _ ⟨id, hm, hmissing⟩ => absurd hmissing (hfound id hm)⟩
      rintro _ ⟨⟩
      exact ⟨_, sorted_shows s ids hle, by rw [shown, funext row_eq]⟩

/-! ## Lines -/

/-- The tokens say this smallest size; without any, every object is large enough. -/
inductive Says : List Token → Int → Prop where
  | nothing : Says [] 0
  | null : Says [.word "-min", .null] 0
  | size : ValueType.long.read none text = .ok (.long n) →
      Says [.word "-min", .word text] n.toInt

/-- The tokens select the objects at these addresses, and say a smallest size before or behind. -/
def Selects (ids : List Nat) (least : Int) (tokens : List Token) : Prop :=
  ∃ addresses said, List.Forall₂ Holds addresses ids ∧ Says said least ∧
    (tokens = said ++ addresses ∨ tokens = addresses ++ said)

variable {q : Query} {addresses said rest : List Token}

theorem looksLikeAddress_of_holds {token : Token} {id : Nat} (h : Holds token id) :
    looksLikeAddress token = true := by
  cases token with
  | null => cases h
  | word text =>
    rw [← Bool.not_eq_false, ← readAddress_none, readAddress_ok.mpr h]
    simp

theorem bare_of_holds {token : Token} {id : Nat} (h : Holds token id) : token.flag? = none := by
  cases h with
  | hexadecimal htext | decimal htext => simp [Token.flag?, htext]

theorem addressRun_before (haddresses : List.Forall₂ Holds addresses ids)
    (hrest : StartsFlag rest) : addressRun (addresses ++ rest) = addresses := by
  have hall : ∀ token ∈ addresses, looksLikeAddress token = true := by
    intro token hm
    obtain ⟨id, hholds⟩ := exists_forall₂.mp ⟨ids, haddresses⟩ token hm
    exact looksLikeAddress_of_holds hholds
  have hnone : rest.takeWhile looksLikeAddress = [] := by
    match rest with
    | [] => rfl
    | .null :: _ => rfl
    | .word text :: _ =>
      have hread : readAddress? text = none := Selection.endsBefore_flag hrest text rfl
      rw [List.takeWhile_cons_of_neg (by rw [readAddress_none.mp hread]; decide)]
  rw [addressRun, List.takeWhile_append_of_pos hall, hnone, List.append_nil]

/-- The parser takes the addresses as a selection. -/
theorem addresses_taken (snapshot : Option Snapshot) (ha : a ∈ q.arguments)
    (hpositional : a.isPositional = true)
    (hselects : isSelection a.type a.advice = true) (hids : ids ≠ [])
    (haddresses : List.Forall₂ Holds addresses ids) (hrest : StartsFlag rest) :
    Group.TakenBefore q (environment snapshot)
      ⟨a, none, addresses, some (Selection.value ⟨ids⟩)⟩ rest := by
  refine ⟨ha, hpositional, ?_, ?_⟩
  · cases haddresses with
    | nil => exact absurd rfl hids
    | cons hfirst _ => exact ⟨_, _, rfl, bare_of_holds hfirst⟩
  · have hrun := addressRun_before haddresses hrest
    have hread : Selection.read (addresses ++ rest) = (.ok ⟨ids⟩, addresses.length) := by
      refine Selection.read_ok.mpr ⟨?_, by rwa [hrun], by rw [hrun]⟩
      rw [hrun, ne_eq, ← List.length_eq_zero_iff, haddresses.length_eq, List.length_eq_zero_iff]
      exact hids
    have hparses : (environment snapshot).parses a.type a.advice = true := hselects
    have hparse : (environment snapshot).parse a.type a.advice (addresses ++ rest) =
        ⟨.ok (some (Selection.value ⟨ids⟩)), addresses.length⟩ := by
      change readSelection (addresses ++ rest) = _
      simp only [readSelection, hread]
      rfl
    simp only [takeValue, hparses, hparse]
    rfl

/-- The parser takes the smallest size as the value of its flag. -/
theorem says_group (snapshot : Option Snapshot) (hfind : q.argumentFlagged? "min" = some a)
    (htype : a.type = .long) (hm : a.multiplicity = .single) (h : Says said least) :
    ∃ group : Option Group, said = group.toList.flatMap Group.tokens ∧
      Least a (group.map Group.value) least ∧ ∀ g ∈ group, g.argument = a ∧ g.isBare = false ∧
        ∀ rest, g.TakenBefore q (environment snapshot) rest := by
  have hmultiple : a.isMultiple = false := by simp [Argument.isMultiple, hm]
  have hboolean : a.isBoolean = false := by
    rw [Argument.isBoolean, htype]
    rfl
  have hparses : (environment snapshot).parses a.type a.advice = false := by
    rw [htype]
    rfl
  have htaken : ∀ body value, ValueForm (environment snapshot) a body value → ∀ rest,
      Group.TakenBefore q (environment snapshot) ⟨a, some "min", body, value⟩ rest := by
    intro body value hform rest
    refine ⟨by decide, hfind, ?_⟩
    rw [takeFlagged, if_neg (by simp [hboolean])]
    exact hform.takeValue hparses fun hmany => by simp [hmultiple] at hmany
  cases h with
  | nothing => exact ⟨none, rfl, .unset, fun _ hm => by cases hm⟩
  | null =>
    refine ⟨some ⟨a, some "min", [.null], none⟩, by simp [Group.tokens], .null, ?_⟩
    rintro _ ⟨⟩
    exact ⟨rfl, rfl, htaken _ _ (.null hmultiple)⟩
  | @size text n hread =>
    have hform : ValueForm (environment snapshot) a [.word text] (some (.long n)) := by
      refine .word hmultiple ?_
      have hown : a.type.read a.advice text = .ok (.long n) := by
        rw [htype]
        exact hread
      change (a.type.read a.advice text).mapError _ = _
      rw [hown]
      rfl
    refine ⟨some ⟨a, some "min", [.word text], some (.long n)⟩, by simp [Group.tokens],
      .size (.kept rfl) (.long n), ?_⟩
    rintro _ ⟨⟩
    exact ⟨rfl, rfl, htaken _ _ hform⟩

theorem Says.startsFlag (h : Says said least) : StartsFlag said := by
  cases h with
  | nothing => simp [StartsFlag]
  | null | size => simp [StartsFlag]; decide

/-- Of two groups in either order, each is the one that names its argument. -/
theorem lastNaming_either {group : Option Group} {selected : Group} {groups : List Group}
    (hgroups : groups = group.toList ++ [selected] ∨ groups = selected :: group.toList)
    (hapart : ∀ g ∈ group, g.argument.id ≠ selected.argument.id) (a : Argument) :
    lastNaming a groups = if selected.argument.id = a.id then some selected
      else group.filter fun g => g.argument.id == a.id := by
  cases group with
  | none =>
    obtain rfl : groups = [selected] := by simpa using hgroups
    by_cases hown : selected.argument.id = a.id <;> simp [lastNaming, hown]
  | some g =>
    have hne := hapart g rfl
    by_cases hown : selected.argument.id = a.id
    · rw [hown] at hne
      rcases hgroups with rfl | rfl <;> simp [lastNaming, hown, hne]
    · rw [if_neg hown, Option.filter_some]
      rcases hgroups with rfl | rfl <;>
        cases hother : g.argument.id == a.id <;> simp [lastNaming, hown, hother]

theorem countP_either {group : Option Group} {selected : Group} {groups : List Group}
    (hgroups : groups = group.toList ++ [selected] ∨ groups = selected :: group.toList)
    (hflagged : ∀ g ∈ group, g.isBare = false) : groups.countP Group.isBare ≤ 1 := by
  cases group with
  | none =>
    obtain rfl : groups = [selected] := by simpa using hgroups
    exact List.countP_le_length
  | some g =>
    have hg := hflagged g rfl
    rcases hgroups with rfl | rfl <;> simp [List.countP_cons, hg] <;> split <;> decide

/-- The parser makes bindings of a line that ask for what the line selects. -/
theorem line_asks {r : Registry} {name line : String} {tokens : List Token} (hr : r.Reachable)
    (hp : p ∈ r.queries) (h : showObjects.build t n = .ok p)
    (hfind : r.find? (Text.lower name) = some p)
    (hline : Token.ofLine line = .word name :: tokens) (hids : ids ≠ [])
    (hselects : Selects ids least tokens) : ∃ b, parse r (environment (some s)) line = .ok b ∧
      b.query = p.toQuery ∧ b.Asks s ids least := by
  obtain ⟨_, first, second, third, hown⟩ := showObjects_arguments h
  let objects : Argument :=
    ⟨⟨n, 1⟩, "objects", none, true, .single, objectsType, some .heapObject, none, second⟩
  let min : Argument :=
    ⟨⟨n, 2⟩, "min", some "min", false, .single, .long, none, some (.long 0), third⟩
  have hmin : p.toQuery.argumentFlagged? "min" = some min := by
    rw [Query.argumentFlagged?, hown]
    rfl
  obtain ⟨addresses, said, haddresses, hsays, htokens⟩ := hselects
  obtain ⟨group, hgroup, hleast, hsaid⟩ := says_group (some s) hmin rfl rfl hsays
  let selected : Group := ⟨objects, none, addresses, some (Selection.value ⟨ids⟩)⟩
  have hselected : ∀ rest, StartsFlag rest →
      selected.TakenBefore p.toQuery (environment (some s)) rest := fun rest hrest =>
    addresses_taken (some s) (by simp [hown, objects]) rfl rfl hids haddresses hrest
  -- The two groups may be in either order.
  obtain ⟨groups, hgroups, hcovers, htaken⟩ : ∃ groups : List Group,
      (groups = group.toList ++ [selected] ∨ groups = selected :: group.toList) ∧
      groups.flatMap Group.tokens = tokens ∧ Taken p.toQuery (environment (some s)) groups := by
    rcases htokens with rfl | rfl
    · refine ⟨_, .inl rfl, by rw [List.flatMap_append, ← hgroup]; simp [selected, Group.tokens], ?_⟩
      have hlast : Taken p.toQuery (environment (some s)) [selected] :=
        .cons (hselected [] (by simp [StartsFlag])) .nil
      cases group with
      | none => exact hlast
      | some g => exact .cons ((hsaid g rfl).2.2 _) hlast
    · refine ⟨_, .inr rfl, by rw [List.flatMap_cons, ← hgroup]; rfl, ?_⟩
      refine .cons (hselected _ (hgroup ▸ hsays.startsFlag)) ?_
      cases group with
      | none => exact .nil
      | some g => exact .cons ((hsaid g rfl).2.2 _) .nil
  have hnaming : lastNaming objects groups = some selected ∧ lastNaming min groups = group ∧
      ∀ a : Argument, a.id = ⟨n, 0⟩ → lastNaming a groups = none := by
    have heither := lastNaming_either hgroups fun g hg => by
      rw [(hsaid g hg).1]
      simp [selected, objects, min]
    refine ⟨by rw [heither, if_pos rfl], ?_, fun a ha => ?_⟩
    · rw [heither, if_neg (by simp [selected, objects, min])]
      cases group with
      | none => rfl
      | some g => simp [(hsaid g rfl).1]
    · rw [heither, if_neg (by simp [ha, selected, objects])]
      exact Option.filter_eq_none_iff.mpr fun g hg => by simp [(hsaid g hg).1, ha, min]
  have hfree : ∀ g ∈ groups, g.isBare = true →
      (environment (some s)).supplies g.argument = false := by
    intro g hg hbare
    have hcases : g ∈ group ∨ g = selected := by
      rcases hgroups with rfl | rfl <;> simpa [or_comm] using hg
    rcases hcases with hgroup | rfl
    · rw [(hsaid g hgroup).2.1] at hbare
      cases hbare
    · rfl
  obtain ⟨b, hparse, hquery, _, hat⟩ := parse_groups hr hp (by rw [hline, hcovers]) hfind htaken
    (countP_either hgroups fun g hg => (hsaid g hg).2.1) hfree
  have hnamed := fun i a => Bindings.named_offered (b := b) h (.inl hquery) (i := i) (a := a)
  rw [hown] at hnamed
  have hbound := fun i a => hat i a
  rw [hown] at hbound
  refine ⟨b, hparse, hquery, ⟨0, ?_⟩, ?_, ?_⟩
  · rw [show b.named? "snapshot" = _ from hnamed 0 _ rfl, hbound 0 _ rfl, hnaming.2.2 _ rfl]
    rfl
  · rw [show b.named? "objects" = _ from hnamed 1 _ rfl, hbound 1 _ rfl, hnaming.1]
    rfl
  · intro a ha hname
    obtain rfl : a = min := by
      refine Bindings.eq_offered (i := 2) h (.inl hquery) ha ?_ hname
      rw [hown]
      rfl
    rw [show b.named? "min" = _ from hnamed 2 _ rfl, hbound 2 _ rfl, hnaming.2.1]
    cases group with
    | none => exact hleast
    | some g =>
      have hstored : Bindings.stored min g.value = g.value := by cases g.value <;> rfl
      change Least min (some (Bindings.stored min g.value)) least
      rw [hstored]
      exact hleast

end Heap.ShowObjects

open Heap.ShowObjects

/-- Objects make a snapshot exactly where their addresses differ, and are found in it at their
addresses. A run on a snapshot that nothing cancels shows the selected objects that are large
enough, and succeeds exactly where every address is in range and has an object and the smallest size
is not negative. What is out of range is refused before the run. Lines of addresses, in either base,
ask for just this. -/
theorem showObjects_shows_selected (h : showObjects.build t n = .ok p) :
    (∀ path objects,
      ((∃ s, Snapshot.ofObjects path objects = .ok s) ↔ (objects.map Object.id).Nodup) ∧
      ∀ s, Snapshot.ofObjects path objects = .ok s →
        ∀ id o, s.object? id = some o ↔ o ∈ objects ∧ o.id = id) ∧
    (∀ (b : Bindings) (s : Snapshot) (ids : List Nat) (least : Int) (listener : Listener),
      p.Offers b.query → b.Asks s ids least →
        (listener.Spares (b.execute listener).2 →
          Answers b s ids least (b.execute listener).1) ∧
        ((∃ id ∈ ids, 2 ^ 63 ≤ id) ∨ least < 0 → ∃ name expected shown,
          b.execute listener = (.error (.illegalArgument name expected shown), Progress.none))) ∧
    ∀ (r : Registry) (s : Snapshot) (name line : String) (tokens : List Token) (ids : List Nat)
        (least : Int), r.Reachable → p ∈ r.queries → r.find? (Text.lower name) = some p →
      Token.ofLine line = .word name :: tokens → ids ≠ [] → Selects ids least tokens →
        ∃ b, parse r (environment (some s)) line = .ok b ∧ b.query = p.toQuery ∧
          b.Asks s ids least := by
  refine ⟨fun path objects => ⟨Snapshot.ofObjects_iff path objects, fun s hs id o => ?_⟩, ?_, ?_⟩
  · rw [← (Snapshot.ofObjects_ok.mp hs).2]
    exact Snapshot.object_iff
  · intro b s ids least listener hquery hasks
    exact ⟨answered h hquery hasks, fun hrefused => refused h hquery hasks hrefused listener⟩
  · intro r s name line tokens ids least hr hp hfind hline hids hselects
    exact line_asks hr hp h hfind hline hids hselects

/-- One object, selected twice in two bases. -/
theorem repeated_object_shown : ∃ (r : Registry) (p : Registered) (s : Snapshot) (b : Bindings),
    r.Reachable ∧ p ∈ r.queries ∧ showObjects.build .empty 0 = .ok p ∧
    s.objects = [⟨16, "a.X", 8, some 40⟩, ⟨32, "b.Y", 8, none⟩] ∧
    parse r (environment (some s)) "show_objects #16 0X10 -min 8" = .ok b ∧
    (b.execute .silent).1 = .ok ⟨b.query, b.line, some (.array (List.replicate 2 (.object
      [("address", .string "0x10"), ("class", .string "a.X"), ("retained", .number (.integer 40)),
        ("shallow", .number (.integer 8))])))⟩ := by
  obtain ⟨p, hbuild⟩ : ∃ p, showObjects.build .empty 0 = .ok p := ⟨_, rfl⟩
  obtain ⟨r, hr, hp⟩ := Registry.reachable_alone hbuild
  obtain ⟨hid, _⟩ := showObjects_arguments hbuild
  have hfind : r.find? (Text.lower "show_objects") = some p :=
    hr.sound.find_typed hp (by rw [hid]; decide)
  have hline : Token.ofLine "show_objects #16 0X10 -min 8" =
      [.word "show_objects", .word "#16", .word "0X10", .word "-min", .word "8"] := by decide
  have haddresses : List.Forall₂ Holds [.word "#16", .word "0X10"] [16, 16] :=
    .cons (readAddress_ok.mp rfl) (.cons (readAddress_ok.mp rfl) .nil)
  have hsays : Says [.word "-min", .word "8"] 8 := .size (n := 8) rfl
  let s : Snapshot := ⟨"heap.json", [⟨16, "a.X", 8, some 40⟩, ⟨32, "b.Y", 8, none⟩], by decide⟩
  obtain ⟨_, hruns, hlines⟩ := showObjects_shows_selected hbuild
  obtain ⟨b, hparse, hquery, hasks⟩ := hlines r s "show_objects" _ _ [16, 16] 8 hr hp hfind hline
    (by decide) ⟨_, _, haddresses, hsays, .inr rfl⟩
  have hanswers := (hruns b s [16, 16] 8 .silent (.inl hquery) hasks).1 (Listener.silent_spares _)
  obtain ⟨outcome, houtcome⟩ := hanswers.succeeds_iff.mpr ⟨by decide, by decide⟩
  obtain ⟨rows, hshows, rfl⟩ := hanswers.shows outcome houtcome
  obtain rfl : rows = List.replicate 2 ⟨16, "a.X", 8, some 40⟩ :=
    List.perm_replicate.mp hshows.perm
  exact ⟨r, p, s, b, hr, hp, hbuild, rfl, hparse, houtcome⟩

end HeapQuery
