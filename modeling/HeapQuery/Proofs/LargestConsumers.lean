import HeapQuery.Proofs.Histograms

namespace HeapQuery

open Heap

variable {b : Bindings} {s : Snapshot} {p : Registered}

/-- The arguments of the query, whose help may have been translated. -/
theorem topConsumers_arguments (h : topConsumers.build t n = .ok p) :
    ∃ first second third, p.arguments =
      [⟨⟨n, 0⟩, "snapshot", some "snapshot", true, .single, snapshotType, none, none, first⟩,
        ⟨⟨n, 1⟩, "threshold", some "t", false, .single, .int, none, some (.int 1), second⟩,
        ⟨⟨n, 2⟩, "packages", some "packages", false, .single, .boolean, none, none, third⟩] := by
  obtain ⟨_, harguments⟩ := QuerySpec.build_describes h
  rw [QuerySpec.translatedArguments_eq] at harguments
  generalize topConsumers.translatedHelp t = help at harguments
  have hsnapshot : Text.lower "snapshot" = "snapshot" := by decide
  have hpackages : Text.lower "packages" = "packages" := by decide
  simp only [QuerySpec.describedFrom, topConsumers, snapshotArgument, List.map_cons, List.map_nil,
    List.mapIdx_cons, List.mapIdx_nil, ArgumentSpec.described, ArgumentSpec.chosenFlag, hsnapshot,
    hpackages] at harguments
  exact ⟨_, _, _, harguments⟩

namespace Heap.TopConsumers

/-! ## What is asked for -/

inductive IsInt : Value → Int → Prop where
  | int (n : Int32) : IsInt (.int n) n.toInt
  | short (n : Int16) : IsInt (.short n) n.toInt

def Percentage (v : Value) (percent : Nat) : Prop := IsInt v percent ∧ percent ≤ 100

/-- The binding of the argument asks for the consumers of this share or a larger one. -/
inductive Demands (a : Argument) : Option (Option Value) → Nat → Prop where
  | share {v w : Value} : a.Becomes v (.ok w) → Percentage w percent →
      Demands a (some (some v)) percent
  | null : Demands a (some none) 0
  | unset : Demands a none 1

inductive Aggregates : Option (Option Value) → Bool → Prop where
  | packages (packages : Bool) : Aggregates (some (some (.boolean packages))) packages
  | null : Aggregates (some none) false
  | unset : Aggregates none false

/-! ## Settings -/

variable {settings : Settings} {a : Argument} {i : Nat} {rest : List (Nat × Argument)}
  {packages : Bool} {percent : Nat} {v : Value}

theorem isPercentage_iff {n : Int32} :
    isPercentage n = true ↔ ∃ percent : Nat, n.toInt = percent ∧ percent ≤ 100 := by
  simp only [isPercentage, Bool.and_eq_true, decide_eq_true_eq]
  constructor
  · rintro ⟨hlow, hhigh⟩
    obtain ⟨percent, hpercent⟩ := Int.eq_ofNat_of_zero_le hlow
    exact ⟨percent, hpercent, by omega⟩
  · rintro ⟨percent, hpercent, hhigh⟩
    omega

theorem isInt_iff {number : Int} :
    IsInt v number ↔ ∃ n, v.int? = some n ∧ n.toInt = number := by
  constructor
  · intro h
    cases h with
    | int n => exact ⟨n, rfl, rfl⟩
    | short n => exact ⟨n.toInt32, rfl, Int16.toInt_toInt32 n⟩
  · rintro ⟨n, hint, rfl⟩
    cases v with
    | int m =>
      obtain rfl := Option.some.inj hint
      exact .int m
    | short m =>
      obtain rfl := Option.some.inj hint
      rw [Int16.toInt_toInt32]
      exact .short m
    | _ => cases hint

theorem bind_share (hname : a.name = "threshold") (h : Percentage v percent) :
    ∃ n : Int32, n.toInt = percent ∧
      bind settings (a, .scalar v) = .ok { settings with threshold := some n } := by
  obtain ⟨hnumber, hhigh⟩ := h
  obtain ⟨n, hint, hpercent⟩ := isInt_iff.mp hnumber
  have hwithin : isPercentage n = true := isPercentage_iff.mpr ⟨percent, hpercent, hhigh⟩
  refine ⟨n, hpercent, ?_⟩
  simp only [bind, hname, Field.optionalAs_some hint]
  change (if isPercentage n then _ else _) = _
  rw [if_pos hwithin]
  rfl

theorem bind_refused (hname : a.name = "threshold") (h : ∀ percent, ¬ Percentage v percent) :
    bind settings (a, .scalar v) = .error (a.illegal (.scalar v)) := by
  cases hint : v.int? with
  | none =>
    simp only [bind, hname, Field.optionalAs_none hint]
    rfl
  | some n =>
    have hbeyond : ¬ isPercentage n = true := by
      intro hwithin
      obtain ⟨percent, hpercent, hhigh⟩ := isPercentage_iff.mp hwithin
      exact h percent ⟨isInt_iff.mpr ⟨n, hint, hpercent⟩, hhigh⟩
    simp only [bind, hname, Field.optionalAs_some hint]
    change (if isPercentage n then _ else _) = _
    rw [if_neg hbeyond]
    rfl

theorem settle_threshold (hname : a.name = "threshold") (hm : a.multiplicity = .single)
    (hfree : a.mandatory = false) (hdefault : a.default = some (.int 1))
    (hdemands : Demands a (b.at? i) percent) :
    ∃ threshold, Settings.percent { threshold := threshold } = percent ∧
      b.settle bind settings ((i, a) :: rest) =
        b.settle bind { settings with threshold := threshold } rest := by
  have hscalar : ∀ v, b.field? i a = .ok (some (.scalar v)) → Percentage v percent →
      ∃ threshold, Settings.percent { threshold := threshold } = percent ∧
        b.settle bind settings ((i, a) :: rest) =
          b.settle bind { settings with threshold := threshold } rest := by
    intro v hfield hv
    obtain ⟨n, hn, hbind⟩ := bind_share hname hv
    refine ⟨some n, ?_, Bindings.settle_bound hfield hbind⟩
    change n.toInt.toNat = percent
    rw [hn, Int.toNat_natCast]
  generalize hat : b.at? i = binding at hdemands
  cases hdemands with
  | share hbecomes hv =>
    refine hscalar _ ?_ hv
    rw [Bindings.field_forced hat hm, Argument.becomes_iff.mp hbecomes]
    rfl
  | null =>
    refine ⟨none, rfl, Bindings.settle_bound (Bindings.field_null hat hfree) ?_⟩
    simp only [bind, hname]
    rfl
  | unset => exact hscalar _ (Bindings.field_default hat hdefault rfl hm) ⟨.int 1, by decide⟩

/-- A value that cannot be built fails as building it does, and any other value is refused. -/
theorem settle_beyond (hname : a.name = "threshold") (hm : a.multiplicity = .single)
    (htype : a.type = .int) (hat : b.at? i = some (some v))
    (hbeyond : ∀ percent, ¬ Demands a (some (some v)) percent) : ∃ e,
      b.settle bind settings ((i, a) :: rest) = .error e ∧ (a.Becomes v (.error e) ∨
        ∃ w, a.Becomes v (.ok w) ∧ e = .illegalArgument "threshold" "int" w.display) := by
  have hfield := Bindings.field_forced hat hm
  cases hforce : a.force v with
  | error e =>
    rw [hforce] at hfield
    exact ⟨e, Bindings.settle_stopped hfield, .inl (Argument.becomes_iff.mpr hforce)⟩
  | ok w =>
    have hbecomes := Argument.becomes_iff.mpr hforce
    rw [hforce] at hfield
    have hrefused : bind settings (a, .scalar w) = .error (a.illegal (.scalar w)) :=
      bind_refused hname fun percent hw => hbeyond percent (.share hbecomes hw)
    refine ⟨_, Bindings.settle_refused hfield hrefused, .inr ⟨w, hbecomes, ?_⟩⟩
    rw [Argument.illegal, hname, Argument.expected, Argument.isMultiple, hm, htype]
    rfl

theorem settle_packages (hname : a.name = "packages") (hm : a.multiplicity = .single)
    (hfree : a.mandatory = false) (hdefault : a.default = none)
    (haggregates : Aggregates (b.at? i) packages) (hempty : settings.packages = false) :
    b.settle bind settings ((i, a) :: rest) =
      b.settle bind { settings with packages := packages } rest := by
  generalize hat : b.at? i = binding at haggregates
  cases haggregates with
  | packages =>
    refine Bindings.settle_bound (Bindings.field_single hat rfl hm) ?_
    have hbool : Value.bool? (.boolean packages) = some packages := rfl
    simp only [bind, hname, Field.optionalAs_some hbool]
    cases packages <;> rfl
  | null =>
    refine Bindings.settle_bound (Bindings.field_null hat hfree) ?_
    simp only [bind, hname]
    rfl
  | unset => rw [Bindings.settle_passed (Bindings.field_unset hat hfree hdefault), ← hempty]

theorem settled (h : topConsumers.build t n = .ok p) (hquery : p.Offers b.query) (hon : b.On s)
    (hthreshold : a ∈ b.query.arguments) (hname : a.name = "threshold")
    (hdemands : Demands a (b.named? "threshold") percent)
    (haggregates : Aggregates (b.named? "packages") packages) :
    ∃ settings : Settings, settings.snapshot = some s ∧ settings.percent = percent ∧
      settings.packages = packages ∧
      b.settle bind {} (Bindings.positions b.query) = .ok settings := by
  obtain ⟨serial, hsnapshot⟩ := hon
  obtain ⟨first, second, third, hown⟩ := topConsumers_arguments h
  have hnamed := fun i a => Bindings.named_offered h hquery (i := i) (a := a)
  have hsame : ∀ i a', p.arguments[i]? = some a' → a.name = a'.name → a = a' := fun _ _ hi =>
    Bindings.eq_offered h hquery hthreshold hi
  rw [hown] at hnamed hsame
  have hat := (hnamed 0 _ rfl).symm.trans hsnapshot
  rw [show b.named? "threshold" = b.at? 1 from hnamed 1 _ rfl] at hdemands
  rw [show b.named? "packages" = b.at? 2 from hnamed 2 _ rfl] at haggregates
  obtain rfl := hsame 1 _ rfl hname
  rw [Bindings.positions, (QuerySpec.offers_same h hquery).2.1, hown]
  obtain ⟨threshold, hpercent, hsettle⟩ := settle_threshold rfl rfl rfl rfl hdemands
  refine ⟨⟨some s, threshold, packages⟩, rfl, hpercent, rfl, ?_⟩
  exact (Bindings.settle_bound (Bindings.field_single hat rfl rfl) rfl).trans
    (hsettle.trans (settle_packages rfl rfl rfl rfl haggregates rfl))

theorem settled_beyond (h : topConsumers.build t n = .ok p) (hquery : p.Offers b.query)
    (hon : b.On s) (hthreshold : a ∈ b.query.arguments) (hname : a.name = "threshold")
    (hat : b.named? "threshold" = some (some v))
    (hbeyond : ∀ percent, ¬ Demands a (some (some v)) percent) : ∃ e,
      b.settle bind {} (Bindings.positions b.query) = .error e ∧ (a.Becomes v (.error e) ∨
        ∃ w, a.Becomes v (.ok w) ∧ e = .illegalArgument "threshold" "int" w.display) := by
  obtain ⟨serial, hsnapshot⟩ := hon
  obtain ⟨first, second, third, hown⟩ := topConsumers_arguments h
  have hnamed := fun i a => Bindings.named_offered h hquery (i := i) (a := a)
  have hsame : ∀ i a', p.arguments[i]? = some a' → a.name = a'.name → a = a' := fun _ _ hi =>
    Bindings.eq_offered h hquery hthreshold hi
  rw [hown] at hnamed hsame
  have hfirst := (hnamed 0 _ rfl).symm.trans hsnapshot
  rw [show b.named? "threshold" = b.at? 1 from hnamed 1 _ rfl] at hat
  obtain rfl := hsame 1 _ rfl hname
  rw [Bindings.positions, (QuerySpec.offers_same h hquery).2.1, hown]
  obtain ⟨e, hsettle, hcause⟩ := settle_beyond rfl rfl rfl hat hbeyond
  exact ⟨e, (Bindings.settle_bound (Bindings.field_single hfirst rfl rfl) rfl).trans hsettle,
    hcause⟩

/-! ## Consumers -/

def total (objects : List Object) : Nat := (objects.map keptBy).sum

/-- The sum is this share of the total or a larger one. -/
def reaches (total percent : Nat) (row : String × Nat) : Bool :=
  0 < total && total * percent ≤ row.2 * 100

def ranked (total percent : Nat) (sums : List (String × Nat)) : List (String × Nat) :=
  (sums.filter (reaches total percent)).mergeSort comesBefore

def largest (packages : Bool) (percent : Nat) (objects : List Object) : List (String × Nat) :=
  ranked (total objects) percent (Totals.of (groupOf packages) keptBy objects)

theorem addTo_eq (name : String) (size : Nat) (rows : List (String × Nat)) :
    addTo name size rows = Totals.add name size rows := by
  induction rows with
  | nil => rfl
  | cons row rest ih => rw [addTo, Totals.add, ih]

theorem rowName_eq (settings : Settings) : settings.rowName = groupOf settings.packages := by
  funext o
  rw [Settings.rowName, groupOf, package_eq]

theorem sums_eq (settings : Settings) (objects : List Object) :
    settings.sums objects = Totals.of (groupOf settings.packages) keptBy objects := by
  rw [← retained_eq, ← rowName_eq]
  unfold Settings.sums Totals.of
  simp only [addTo_eq]

theorem totalRetained_eq (s : Snapshot) : s.totalRetained = total s.objects := by
  rw [Snapshot.totalRetained, total, ← retained_eq, List.sum_eq_foldl, List.foldl_map]

theorem consumers_eq (settings : Settings) (s : Snapshot) :
    settings.consumers s = largest settings.packages settings.percent s.objects := by
  rw [Settings.consumers, sums_eq, totalRetained_eq]
  rfl

def rank (row : String × Nat) : Natᵒᵈ ×ₗ String := Rankings.largerFirst row.2 row.1

theorem rank_injective : Function.Injective rank := by
  intro x y h
  obtain ⟨hsize, hname⟩ := Rankings.largerFirst_inj.mp h
  exact Prod.ext hname hsize

theorem comesBefore_iff (x y : String × Nat) : comesBefore x y = true ↔ rank x ≤ rank y :=
  Rankings.comparison_iff

/-- It does not matter in which order the sums are. -/
theorem ranked_of_perm (total percent : Nat) {sums sums' : List (String × Nat)}
    (h : sums.Perm sums') : ranked total percent sums = ranked total percent sums' :=
  Rankings.mergeSort_of_perm comesBefore_iff rank_injective (h.filter _)

theorem reaches_iff {total percent : Nat} {row : String × Nat} :
    reaches total percent row = true ↔ 0 < total ∧ percent * total ≤ 100 * row.2 := by
  rw [reaches, Bool.and_eq_true, decide_eq_true_iff, decide_eq_true_iff, Nat.mul_comm total,
    Nat.mul_comm row.2]

/-- The consumers of a larger share are the first ones of a smaller share. -/
theorem ranked_prefix (total : Nat) (sums : List (String × Nat)) (h : percent ≤ percent') :
    ranked total percent' sums <+: ranked total percent sums := by
  have hweaker : ∀ row, reaches total percent' row = true → reaches total percent row = true := by
    intro row hrow
    obtain ⟨hsome, hlarge⟩ := reaches_iff.mp hrow
    exact reaches_iff.mpr ⟨hsome, (Nat.mul_le_mul_right total h).trans hlarge⟩
  have hfilter : sums.filter (reaches total percent') =
      (sums.filter (reaches total percent)).filter (reaches total percent') := by
    rw [List.filter_filter]
    refine List.filter_congr fun row _ => Bool.eq_iff_iff.mpr ?_
    rw [Bool.and_eq_true]
    exact ⟨fun hrow => ⟨hrow, hweaker row hrow⟩, And.left⟩
  rw [ranked, hfilter]
  refine Rankings.mergeSort_prefix comesBefore_iff rank_injective (fun x y hle hy => ?_) _
  obtain ⟨hsome, hlarge⟩ := reaches_iff.mp hy
  have hsize : y.2 ≤ x.2 := by
    rcases Rankings.largerFirst_le.mp hle with hlt | ⟨he, _⟩
    · exact Nat.le_of_lt hlt
    · exact Nat.le_of_eq he.symm
  exact reaches_iff.mpr ⟨hsome, hlarge.trans (Nat.mul_le_mul_left 100 hsize)⟩

/-- These are the sums of the objects under their names that reach this share of the total: one for
each name, and larger sums first. -/
structure Ranks (name : Object → String) (objects : List Object) (percent : Nat)
    (consumers : List (String × Nat)) : Prop where
  names_nodup : (consumers.map Prod.fst).Nodup
  mem_iff : ∀ consumer retained, (consumer, retained) ∈ consumers ↔
    (∃ o ∈ objects, name o = consumer) ∧
    retained = total (objects.filter fun o => name o == consumer) ∧
    0 < total objects ∧ percent * total objects ≤ 100 * retained
  ordered : consumers.Pairwise fun x y => y.2 < x.2 ∨ x.2 = y.2 ∧ x.1 < y.1

theorem largest_ranks (packages : Bool) (percent : Nat) (objects : List Object) :
    Ranks (groupOf packages) objects percent (largest packages percent objects) := by
  set sums := Totals.of (groupOf packages) keptBy objects
  have hnames : ((sums.filter (reaches (total objects) percent)).map Prod.fst).Nodup :=
    (List.filter_sublist.map Prod.fst).nodup (Totals.of_nodup _ _ _)
  refine ⟨?_, fun consumer retained => ?_, ?_⟩
  · exact ((List.mergeSort_perm _ _).map Prod.fst).nodup_iff.mpr hnames
  · rw [largest, ranked, List.mem_mergeSort, List.mem_filter, Totals.mem_of, reaches_iff, and_assoc]
    rfl
  · exact (Rankings.sorted_strictly comesBefore_iff (Rankings.nodup_of_keys Prod.snd hnames)).imp
      Rankings.largerFirst_lt.mp

/-- Without a smallest share, the consumers keep alive what all objects keep alive. -/
theorem largest_total (packages : Bool) {objects : List Object} (h : 0 < total objects) :
    ((largest packages 0 objects).map Prod.snd).sum = total objects := by
  have hall : (Totals.of (groupOf packages) keptBy objects).filter (reaches (total objects) 0) =
      Totals.of (groupOf packages) keptBy objects :=
    List.filter_eq_self.mpr fun row _ => reaches_iff.mpr ⟨h, by omega⟩
  rw [largest, ranked, hall, ((List.mergeSort_perm _ _).map Prod.snd).sum_eq, Totals.of_sum, total]

/-! ## Runs -/

/-- What the query reports, in the order of its keys. -/
theorem reported_eq (total percent : Nat) (consumers : List (String × Nat)) :
    Json.record [("total_retained", .nat total), ("threshold", .nat percent),
        ("consumers", .array (consumers.map (row total)))] =
      .object [("consumers", .array (consumers.map fun consumer => .object
          [("name", .string consumer.1),
            ("percent", .number (.float (share consumer.2 total))),
            ("retained", .number (.integer consumer.2))])),
        ("threshold", .number (.integer percent)),
        ("total_retained", .number (.integer total))] := by
  have hrow : row total = fun consumer => .object [("name", .string consumer.1),
      ("percent", .number (.float (share consumer.2 total))),
      ("retained", .number (.integer consumer.2))] := by
    funext consumer
    simp only [row, Json.record, Json.nat, List.foldl_cons, List.foldl_nil, Json.insertField,
      String.reduceLT, String.reduceBEq, Bool.false_eq_true, ↓reduceIte]
  simp only [hrow, Json.record, Json.nat, List.foldl_cons, List.foldl_nil, Json.insertField,
    String.reduceLT, ↓reduceIte]

/-- A run that is not canceled reports the largest consumers. -/
theorem executed (h : topConsumers.build t n = .ok p) (hquery : p.Offers b.query) (hon : b.On s)
    (hthreshold : a ∈ b.query.arguments) (hname : a.name = "threshold")
    (hdemands : Demands a (b.named? "threshold") percent)
    (haggregates : Aggregates (b.named? "packages") packages) {listener : Listener}
    (hspared : listener.Spares (b.execute listener).2) :
    (b.execute listener).1 = .ok ⟨b.query, b.line, some (.record
      [("total_retained", .nat (total s.objects)), ("threshold", .nat percent),
        ("consumers", .array ((largest packages percent s.objects).map
          (row (total s.objects))))])⟩ := by
  obtain ⟨settings, hsnapshot, rfl, rfl, hsettled⟩ :=
    settled h hquery hon hthreshold hname hdemands haggregates
  have hcommand := QuerySpec.offers_command h hquery
  rw [Bindings.execute_traced hcommand hsettled (traces_run hsnapshot) hspared, consumers_eq,
    totalRetained_eq]
  rfl

theorem executed_beyond (h : topConsumers.build t n = .ok p) (hquery : p.Offers b.query)
    (hon : b.On s) (hthreshold : a ∈ b.query.arguments) (hname : a.name = "threshold")
    (hat : b.named? "threshold" = some (some v))
    (hbeyond : ∀ percent, ¬ Demands a (some (some v)) percent) (listener : Listener) :
    ∃ e, b.execute listener = (.error e, Progress.none) ∧ (a.Becomes v (.error e) ∨
      ∃ w, a.Becomes v (.ok w) ∧ e = .illegalArgument "threshold" "int" w.display) := by
  obtain ⟨e, hsettled, hcause⟩ := settled_beyond h hquery hon hthreshold hname hat hbeyond
  have hcommand := QuerySpec.offers_command h hquery
  exact ⟨e, (Bindings.execute_stateful hcommand listener).1 _ hsettled, hcause⟩

end Heap.TopConsumers

open Heap.TopConsumers

/-- A run that is not canceled reports exactly the sums that reach the demanded share of the total,
in order, so those of a larger share are a first part of those of a smaller one, and all sums
together are the total. It does not matter in which order the sums are collected. A value that is
no share in percent is refused, unless it could not even be built. -/
theorem topConsumers_reports_largest (h : topConsumers.build t n = .ok p) (s : Snapshot) :
    ∃ consumers : Bool → Nat → List (String × Nat),
      (∀ (b : Bindings) (a : Argument) (packages : Bool) (percent : Nat) (listener : Listener),
        p.Offers b.query → b.On s → a ∈ b.query.arguments → a.name = "threshold" →
        Demands a (b.named? "threshold") percent → Aggregates (b.named? "packages") packages →
        listener.Spares (b.execute listener).2 →
          (b.execute listener).1 = .ok ⟨b.query, b.line, some (.object
            [("consumers", .array ((consumers packages percent).map fun consumer => .object
                [("name", .string consumer.1),
                  ("percent", .number (.float (share consumer.2 (total s.objects)))),
                  ("retained", .number (.integer consumer.2))])),
              ("threshold", .number (.integer percent)),
              ("total_retained", .number (.integer (total s.objects)))])⟩) ∧
      (∀ packages percent,
        Ranks (groupOf packages) s.objects percent (consumers packages percent)) ∧
      (∀ (settings : Settings) (sums : List (String × Nat)),
        sums.Perm (settings.sums s.objects) → settings.ranked s.totalRetained sums =
          consumers settings.packages settings.percent) ∧
      (∀ packages percent percent', percent ≤ percent' →
        consumers packages percent' <+: consumers packages percent) ∧
      (∀ packages, 0 < total s.objects →
        ((consumers packages 0).map Prod.snd).sum = total s.objects) ∧
      ∀ (b : Bindings) (a : Argument) (v : Value) (listener : Listener), p.Offers b.query →
        b.On s → a ∈ b.query.arguments → a.name = "threshold" →
        b.named? "threshold" = some (some v) → (∀ percent, ¬ Demands a (some (some v)) percent) →
          ∃ e, b.execute listener = (.error e, Progress.none) ∧ (a.Becomes v (.error e) ∨
            ∃ w, a.Becomes v (.ok w) ∧ e = .illegalArgument "threshold" "int" w.display) := by
  refine ⟨fun packages percent => largest packages percent s.objects, ?_,
    fun packages percent => largest_ranks packages percent s.objects, ?_,
    fun packages percent percent' hle => ranked_prefix _ _ hle,
    fun packages hsome => largest_total packages hsome, ?_⟩
  · intro b a packages percent listener hquery hon hthreshold hname hdemands haggregates hspared
    rw [executed h hquery hon hthreshold hname hdemands haggregates hspared, reported_eq]
  · intro settings sums hperm
    change _ = largest settings.packages settings.percent s.objects
    rw [← consumers_eq]
    exact ranked_of_perm s.totalRetained settings.percent hperm
  · intro b a v listener hquery hon hthreshold hname hat hbeyond
    exact executed_beyond h hquery hon hthreshold hname hat hbeyond listener

/-- Two packages with half of the total each reach a share of 50 percent and no larger one, and 101
is refused. -/
theorem halves_reported : ∃ (p : Registered) (s : Snapshot) (b : Int32 → Bindings),
    topConsumers.build .empty 0 = .ok p ∧
    s.objects = [⟨16, "a.X", 20, some 50⟩, ⟨32, "b.Y", 50, none⟩] ∧
    (∀ threshold, (b threshold).query = p.toQuery ∧ (b threshold).On s ∧
      (b threshold).named? "threshold" = some (some (.int threshold))) ∧
    ((b 50).execute .silent).1 = .ok ⟨(b 50).query, (b 50).line, some (.object
      [("consumers", .array
          [.object [("name", .string "a"), ("percent", .number (.float (share 50 100))),
              ("retained", .number (.integer 50))],
            .object [("name", .string "b"), ("percent", .number (.float (share 50 100))),
              ("retained", .number (.integer 50))]]),
        ("threshold", .number (.integer 50)), ("total_retained", .number (.integer 100))])⟩ ∧
    ((b 51).execute .silent).1 = .ok ⟨(b 51).query, (b 51).line, some (.object
      [("consumers", .array []), ("threshold", .number (.integer 51)),
        ("total_retained", .number (.integer 100))])⟩ ∧
    (b 101).execute .silent =
      (.error (.illegalArgument "threshold" "int" "101"), Progress.none) := by
  obtain ⟨p, hbuild⟩ : ∃ p, topConsumers.build .empty 0 = .ok p := ⟨_, rfl⟩
  let s : Snapshot := ⟨"halves.json", [⟨16, "a.X", 20, some 50⟩, ⟨32, "b.Y", 50, none⟩], by decide⟩
  let b (threshold : Int32) : Bindings := ⟨p.toQuery, environment (some s),
    [(0, some (.host 0 (.snapshot s))), (1, some (.int threshold)), (2, some (.boolean true))]⟩
  obtain ⟨first, second, third, hown⟩ := topConsumers_arguments hbuild
  have hnamed := fun threshold i a =>
    Bindings.named_offered (b := b threshold) hbuild (.inl rfl) (i := i) (a := a)
  rw [hown] at hnamed
  have hon : ∀ threshold, (b threshold).On s := fun threshold => ⟨0, hnamed threshold 0 _ rfl⟩
  have hthreshold : ∀ threshold, (b threshold).named? "threshold" = some (some (.int threshold)) :=
    fun threshold => hnamed threshold 1 _ rfl
  obtain ⟨a, ha, hname⟩ : ∃ a ∈ p.arguments, a.name = "threshold" := by
    rw [hown]
    exact ⟨_, .tail _ (.head _), rfl⟩
  have hint : ∀ threshold w, a.Becomes (.int threshold) (.ok w) → w = .int threshold :=
    fun threshold w hbecomes => (Except.ok.inj (Argument.becomes_iff.mp hbecomes)).symm
  obtain ⟨consumers, hexecute, hranks, hsums, _, _, hrefused⟩ :=
    topConsumers_reports_largest hbuild s
  have hrun := fun (threshold : Int32) (percent : Nat) (hpercent : threshold.toInt = percent)
      (hhigh : percent ≤ 100) =>
    hexecute (b threshold) a true percent .silent (.inl rfl) (hon threshold) ha hname
      (by rw [hthreshold]; exact .share (.kept rfl) ⟨hpercent ▸ .int threshold, hhigh⟩)
      (by rw [show (b threshold).named? "packages" = _ from hnamed threshold 2 _ rfl]
          exact .packages true)
      (Listener.silent_spares _)
  have htotal : s.totalRetained = 100 := rfl
  have hhalves : consumers true 50 = [("a", 50), ("b", 50)] := by
    refine (hsums ⟨none, some 50, true⟩ [("a", 50), ("b", 50)] (by decide)).symm.trans ?_
    simp only [Settings.ranked, htotal]
    exact List.mergeSort_of_pairwise (by decide)
  have hnone : consumers true 51 = [] := by
    refine (hsums ⟨none, some 51, true⟩ [("a", 50), ("b", 50)] (by decide)).symm.trans ?_
    simp only [Settings.ranked, htotal]
    exact List.mergeSort_nil
  have hshown := hrun 50 50 rfl (by decide)
  have hempty := hrun 51 51 rfl (by decide)
  rw [hhalves] at hshown
  rw [hnone] at hempty
  obtain ⟨e, hbeyond, hcause⟩ := hrefused (b 101) a (.int 101) .silent (.inl rfl) (hon 101) ha hname
    (hthreshold 101) fun percent hdemands => by
      cases hdemands with
      | share hbecomes hshare =>
        obtain rfl := hint _ _ hbecomes
        obtain ⟨hnumber, hhigh⟩ := hshare
        generalize hpercent : (percent : Int) = number at hnumber
        cases hnumber
        have htoo : (101 : Int32).toInt = 101 := rfl
        omega
  rcases hcause with hbecomes | ⟨w, hbecomes, rfl⟩
  · cases Argument.becomes_iff.mp hbecomes
  · obtain rfl := hint _ _ hbecomes
    exact ⟨p, s, b, hbuild, rfl, fun threshold => ⟨rfl, hon threshold, hthreshold threshold⟩,
      hshown, hempty, hbeyond⟩

end HeapQuery
