import HeapQuery.Proofs.HeapRuns
import HeapQuery.Proofs.LastMarks
import HeapQuery.Proofs.Rankings
import HeapQuery.Proofs.Totals
import HeapQuery.Proofs.WholePatterns
import Mathlib.Algebra.Group.Nat.Defs
import Mathlib.Algebra.Group.Prod
import Mathlib.Data.String.Basic

namespace HeapQuery

open Heap

variable {b : Bindings} {s : Snapshot} {p : Registered}

/-- The arguments of the query, whose help may have been translated. -/
theorem histogram_arguments (h : histogram.build t n = .ok p) :
    ∃ first second third, p.arguments =
      [⟨⟨n, 0⟩, "snapshot", some "snapshot", true, .single, snapshotType, none, none, first⟩,
        ⟨⟨n, 1⟩, "classes", none, false, .list, .pattern, some .classNamePattern, none, second⟩,
        ⟨⟨n, 2⟩, "groupby", some "groupby", false, .single,
          .enum ⟨"Grouping", ["BY_CLASS", "BY_PACKAGE"]⟩, none, some (.constant "BY_CLASS"),
          third⟩] := by
  obtain ⟨_, harguments⟩ := QuerySpec.build_describes h
  rw [QuerySpec.translatedArguments_eq] at harguments
  generalize histogram.translatedHelp t = help at harguments
  have hsnapshot : Text.lower "snapshot" = "snapshot" := by decide
  have hgrouping : Text.lower "groupby" = "groupby" := by decide
  simp only [QuerySpec.describedFrom, histogram, snapshotArgument, List.map_cons, List.map_nil,
    List.mapIdx_cons, List.mapIdx_nil, ArgumentSpec.described, ArgumentSpec.chosenFlag, hsnapshot,
    hgrouping] at harguments
  exact ⟨_, _, _, harguments⟩

namespace Heap

/-! ## What is asked for -/

def packageOf (className : String) : String :=
  match className.toList.reverse.dropWhile (· != '.') with
  | [] => "<default>"
  | _ :: before => String.ofList before.reverse

/-- The brackets of array types hold no dot, so the package ends at the same dot without them. -/
theorem dropWhile_dropBrackets (cs : List Char) :
    (Object.dropBrackets cs).dropWhile (· != '.') = cs.dropWhile (· != '.') := by
  fun_induction Object.dropBrackets cs with
  | case1 rest ih => simpa using ih
  | case2 => rfl

theorem packageOf_dotted (package : String) {simpleName : String} (h : '.' ∉ simpleName.toList) :
    packageOf (package ++ "." ++ simpleName) = package := by
  have hlast : (package ++ "." ++ simpleName).toList.reverse.dropWhile (· != '.') =
      '.' :: package.toList.reverse := by
    rw [String.toList_append, String.toList_append, List.append_assoc]
    exact Text.dropWhile_last package.toList h
  rw [packageOf, hlast]
  simp

theorem packageOf_undotted {className : String} (h : '.' ∉ className.toList) :
    packageOf className = "<default>" := by
  rw [packageOf, Text.dropWhile_unmarked h]

theorem package_eq (o : Object) : o.package = packageOf o.className := by
  rw [Object.package, dropWhile_dropBrackets]
  rfl

/-- The name under which an object is counted. -/
def groupOf (byPackage : Bool) (o : Object) : String :=
  if byPackage then packageOf o.className else o.className

namespace Histogram

theorem rowName_eq (settings : Settings) : settings.rowName = groupOf settings.byPackage := by
  funext o
  rw [Settings.rowName, groupOf, package_eq]

/-- One of the patterns matches the class of the object as a whole, or there is no pattern. -/
def Wanted (classes : List (Pattern Regex.standard)) (o : Object) : Prop :=
  classes = [] ∨
    ∃ p ∈ classes, p.anywhere.Spans o.className.toList 0 o.className.toList.length

theorem wants_iff {settings : Settings} {o : Object} :
    settings.wants o = true ↔ Wanted settings.classes o := by
  simp [Settings.wants, Wanted, Pattern.accepts_iff Regex.documented, Regex.semantics]

instance (classes : List (Pattern Regex.standard)) (o : Object) : Decidable (Wanted classes o) :=
  decidable_of_iff (Settings.wants { classes := classes } o = true) wants_iff

def selected (classes : List (Pattern Regex.standard)) (s : Snapshot) : List Object :=
  s.objects.filter fun o => Wanted classes o

/-- The binding asks for the objects whose classes match these patterns. -/
inductive Restricts : Option (Option Value) → List (Pattern Regex.standard) → Prop where
  | patterns (classes : List (Pattern Regex.standard)) :
      Restricts (some (some (.list (classes.map .pattern)))) classes
  | null : Restricts (some none) []
  | unset : Restricts none []

/-- The binding asks for rows by package, or for rows by class. -/
inductive Groups : Option (Option Value) → Bool → Prop where
  | byPackage : Groups (some (some (.constant "BY_PACKAGE"))) true
  | byClass : Groups (some (some (.constant "BY_CLASS"))) false
  | null : Groups (some none) false
  | unset : Groups none false

def Row.ofObjects (name : String) (objects : List Object) : Row :=
  ⟨name, objects.length, (objects.map Object.shallow).sum, (objects.map keptBy).sum⟩

def Row.ofRows (name : String) (rows : List Row) : Row :=
  ⟨name, (rows.map Row.objects).sum, (rows.map Row.shallow).sum, (rows.map Row.retained).sum⟩

/-! ## Settings -/

variable {settings : Settings} {a : Argument} {i : Nat} {rest : List (Nat × Argument)}
  {classes : List (Pattern Regex.standard)} {byPackage : Bool}

theorem patterns_back (classes : List (Pattern Regex.standard)) :
    (classes.map Value.pattern).mapM Value.pattern? = some classes := by
  induction classes with
  | nil => rfl
  | cons p classes ih =>
    rw [List.map_cons, List.mapM_cons, ih]
    rfl

theorem settle_classes (hname : a.name = "classes") (hm : a.multiplicity = .list)
    (hfree : a.mandatory = false) (hdefault : a.default = none)
    (hclasses : Restricts (b.at? i) classes) (hempty : settings.classes = []) :
    b.settle bind settings ((i, a) :: rest) =
      b.settle bind { settings with classes := classes } rest := by
  generalize hat : b.at? i = binding at hclasses
  cases hclasses with
  | patterns =>
    have hkept : ∀ item ∈ classes.map Value.pattern, item.isDeferred = false := by
      simp [Value.isDeferred]
    refine Bindings.settle_bound (Bindings.field_list hat hkept hm) ?_
    simp only [bind, hname, Field.listAs, Field.values, patterns_back]
    rfl
  | null =>
    refine Bindings.settle_bound (Bindings.field_null hat hfree) ?_
    simp only [bind, hname]
    rfl
  | unset =>
    rw [Bindings.settle_passed (Bindings.field_unset hat hfree hdefault), ← hempty]

theorem settle_grouping (hname : a.name = "groupby") (hm : a.multiplicity = .single)
    (hfree : a.mandatory = false) (hdefault : a.default = some (.constant "BY_CLASS"))
    (hgroups : Groups (b.at? i) byPackage) :
    b.settle bind settings ((i, a) :: rest) =
      b.settle bind { settings with byPackage := byPackage } rest := by
  have hscalar : ∀ name, bind settings (a, .scalar (.constant name)) =
      .ok { settings with byPackage := name == "BY_PACKAGE" } := by
    intro name
    simp only [bind, hname]
    rfl
  generalize hat : b.at? i = binding at hgroups
  cases hgroups with
  | byPackage => exact Bindings.settle_bound (Bindings.field_single hat rfl hm) (hscalar _)
  | byClass => exact Bindings.settle_bound (Bindings.field_single hat rfl hm) (hscalar _)
  | null =>
    refine Bindings.settle_bound (Bindings.field_null hat hfree) ?_
    simp only [bind, hname]
    rfl
  | unset => exact Bindings.settle_bound (Bindings.field_default hat hdefault rfl hm) (hscalar _)

theorem settled (h : histogram.build t n = .ok p) (hquery : p.Offers b.query) (hon : b.On s)
    (hclasses : Restricts (b.named? "classes") classes)
    (hgroups : Groups (b.named? "groupby") byPackage) :
    b.settle bind {} (Bindings.positions b.query) =
      .ok { snapshot := some s, classes := classes, byPackage := byPackage } := by
  obtain ⟨serial, hsnapshot⟩ := hon
  obtain ⟨first, second, third, hown⟩ := histogram_arguments h
  have hnamed := fun i a => Bindings.named_offered h hquery (i := i) (a := a)
  rw [hown] at hnamed
  have hat := (hnamed 0 _ rfl).symm.trans hsnapshot
  rw [show b.named? "classes" = b.at? 1 from hnamed 1 _ rfl] at hclasses
  rw [show b.named? "groupby" = b.at? 2 from hnamed 2 _ rfl] at hgroups
  rw [Bindings.positions, (QuerySpec.offers_same h hquery).2.1, hown]
  exact (Bindings.settle_bound (Bindings.field_single hat rfl rfl) rfl).trans
    ((settle_classes rfl rfl rfl rfl hclasses rfl).trans
      (settle_grouping rfl rfl rfl rfl hgroups))

/-! ## Rows as totals -/

def Row.entry (row : Row) : String × Nat × Nat × Nat :=
  (row.name, row.objects, row.shallow, row.retained)

theorem entry_injective : Function.Injective Row.entry := by
  rintro ⟨⟩ ⟨⟩ h
  simpa [Row.entry] using h

def weights (o : Object) : Nat × Nat × Nat := (1, o.shallow, o.retained)

theorem addTo_entries (name : String) (o : Object) (rows : List Row) :
    (addTo name o rows).map Row.entry = Totals.add name (weights o) (rows.map Row.entry) := by
  induction rows with
  | nil => rfl
  | cons row rest ih =>
    simp only [addTo, List.map_cons, Totals.add]
    split
    · rename_i h
      rw [if_pos (show (Row.entry row).1 == name from h)]
      rfl
    · rename_i h
      rw [if_neg (show ¬ (Row.entry row).1 == name from h), List.map_cons, ih]

theorem count_entries (settings : Settings) (objects : List Object) :
    (objects.foldl settings.count []).map Row.entry =
      Totals.of settings.rowName weights (objects.filter settings.wants) := by
  rw [Totals.of, List.foldl_filter]
  refine (List.foldl_hom (List.map Row.entry) fun rows o => ?_).symm
  rw [Settings.count]
  split
  · exact (addTo_entries _ _ _).symm
  · rfl

theorem sum_weights (objects : List Object) : (objects.map weights).sum =
    (objects.length, (objects.map Object.shallow).sum, (objects.map Object.retained).sum) := by
  induction objects with
  | nil => rfl
  | cons o rest ih => simp [ih, weights, Nat.add_comm 1]

theorem ofObjects_entry (name : String) (objects : List Object) :
    (Row.ofObjects name objects).entry = (name, (objects.map weights).sum) := by
  rw [sum_weights, retained_eq]
  rfl

theorem ofRows_entry (name : String) (rows : List Row) :
    (Row.ofRows name rows).entry = (name, ((rows.map Row.entry).map Prod.snd).sum) := by
  induction rows with
  | nil => rfl
  | cons row rest ih =>
    have hsum : ((rest.map Row.entry).map Prod.snd).sum = (Row.ofRows name rest).entry.2 :=
      (congrArg Prod.snd ih).symm
    rw [List.map_cons, List.map_cons, List.sum_cons, hsum]
    rfl

/-! ## The rows of a snapshot -/

theorem rows_entries (settings : Settings) (objects : List Object) :
    ((settings.rows objects).map Row.entry).Perm
      (Totals.of settings.rowName weights (objects.filter settings.wants)) := by
  rw [← count_entries]
  exact (List.mergeSort_perm _ _).map Row.entry

theorem rows_nodup (settings : Settings) (objects : List Object) :
    ((settings.rows objects).map Row.name).Nodup := by
  have hnames : (settings.rows objects).map Row.name =
      ((settings.rows objects).map Row.entry).map Prod.fst := by
    rw [List.map_map]
    rfl
  rw [hnames, ((rows_entries settings objects).map Prod.fst).nodup_iff]
  exact Totals.of_nodup _ _ _

/-- There is a row for each name of an object that counts, with all objects of this name. -/
theorem mem_rows {objects : List Object} {row : Row} : row ∈ settings.rows objects ↔
    ∃ o ∈ objects.filter settings.wants, row = Row.ofObjects (settings.rowName o)
      ((objects.filter settings.wants).filter fun o' =>
        settings.rowName o' == settings.rowName o) := by
  rw [← List.mem_map_of_injective entry_injective, (rows_entries settings objects).mem_iff,
    Totals.mem_of]
  constructor
  · rintro ⟨⟨o, ho, hname⟩, hsum⟩
    refine ⟨o, ho, entry_injective ?_⟩
    rw [ofObjects_entry, hname]
    exact Prod.ext rfl hsum
  · rintro ⟨o, ho, rfl⟩
    rw [ofObjects_entry]
    exact ⟨⟨o, ho, rfl⟩, rfl⟩

/-- The rows have together what all objects that count have. -/
theorem ofRows_rows (settings : Settings) (objects : List Object) (name : String) :
    Row.ofRows name (settings.rows objects) =
      Row.ofObjects name (objects.filter settings.wants) := by
  refine entry_injective ?_
  rw [ofRows_entry, ofObjects_entry, ((rows_entries settings objects).map Prod.snd).sum_eq,
    Totals.of_sum]

def Row.rank (row : Row) : Natᵒᵈ ×ₗ String := Rankings.largerFirst row.shallow row.name

theorem comesBefore_iff (a b : Row) : a.comesBefore b = true ↔ a.rank ≤ b.rank :=
  Rankings.comparison_iff

theorem rows_sorted (settings : Settings) (objects : List Object) :
    (settings.rows objects).Pairwise fun a b =>
      b.shallow < a.shallow ∨ a.shallow = b.shallow ∧ a.name < b.name := by
  have hnames : ((objects.foldl settings.count []).map Row.name).Nodup :=
    ((List.mergeSort_perm _ _).map Row.name).nodup_iff.mp (rows_nodup settings objects)
  have hranks := Rankings.nodup_of_keys Row.shallow hnames
  exact (Rankings.sorted_strictly comesBefore_iff hranks).imp Rankings.largerFirst_lt.mp

theorem sumWhere_entries (p : String → Bool) (name : String) (rows : List Row) :
    Totals.sumWhere (fun entry => p entry.1) Prod.snd (rows.map Row.entry) =
      (Row.ofRows name (rows.filter fun row => p row.name)).entry.2 := by
  rw [ofRows_entry, Totals.sumWhere, List.filter_map]
  rfl

/-- The rows by package are the rows by class added up. -/
theorem mem_rows_by_package (classes : List (Pattern Regex.standard)) {objects : List Object}
    {row : Row} :
    row ∈ Settings.rows { classes := classes, byPackage := true } objects ↔
      ∃ c ∈ Settings.rows { classes := classes } objects,
        row = Row.ofRows (packageOf c.name) ((Settings.rows { classes := classes } objects).filter
          fun c' => packageOf c'.name == packageOf c.name) := by
  have hpackages : ((Settings.rows { classes := classes, byPackage := true } objects).map
      Row.entry).Perm (Totals.of (fun o => packageOf o.className) weights
        (objects.filter (Settings.wants { classes := classes }))) := by
    have hentries := rows_entries { classes := classes, byPackage := true } objects
    rwa [rowName_eq] at hentries
  have hclasses : ((Settings.rows { classes := classes } objects).map Row.entry).Perm
      (Totals.of Object.className weights
        (objects.filter (Settings.wants { classes := classes }))) := rows_entries _ _
  rw [← List.mem_map_of_injective entry_injective, hpackages.mem_iff,
    Totals.mem_of_coarser packageOf, ← Totals.sumWhere_perm hclasses,
    sumWhere_entries (packageOf · == row.entry.1) row.entry.1]
  constructor
  · rintro ⟨⟨fine, hfine, hname⟩, hsum⟩
    obtain ⟨c, hc, rfl⟩ := List.mem_map.mp (hclasses.mem_iff.mpr hfine)
    have hname : packageOf c.name = row.entry.1 := hname
    refine ⟨c, hc, entry_injective (Prod.ext hname.symm ?_)⟩
    rw [hsum, hname]
  · rintro ⟨c, hc, rfl⟩
    exact ⟨⟨c.entry, hclasses.mem_iff.mp (List.mem_map_of_mem hc), rfl⟩, rfl⟩

/-- These are the rows of the objects under their names: one row for each name, with all objects of
that name, and larger rows first. -/
structure Lists (name : Object → String) (objects : List Object) (rows : List Row) : Prop where
  names_nodup : (rows.map Row.name).Nodup
  mem_iff : ∀ row, row ∈ rows ↔ ∃ o ∈ objects,
    row = Row.ofObjects (name o) (objects.filter fun o' => name o' == name o)
  ordered : rows.Pairwise fun a b =>
    b.shallow < a.shallow ∨ a.shallow = b.shallow ∧ a.name < b.name
  total : (rows.map Row.objects).sum = objects.length

theorem selected_eq (classes : List (Pattern Regex.standard)) (byPackage : Bool) (s : Snapshot) :
    selected classes s =
      s.objects.filter (Settings.wants { classes := classes, byPackage := byPackage }) := by
  refine List.filter_congr fun o _ => ?_
  rw [Bool.eq_iff_iff, decide_eq_true_iff, wants_iff]

theorem rows_lists (classes : List (Pattern Regex.standard)) (byPackage : Bool) (s : Snapshot) :
    Lists (groupOf byPackage) (selected classes s)
      (Settings.rows { classes := classes, byPackage := byPackage } s.objects) := by
  rw [selected_eq classes byPackage]
  refine ⟨rows_nodup _ _, fun row => ?_, rows_sorted _ _, ?_⟩
  · rw [mem_rows, rowName_eq]
  · exact congrArg Row.objects (ofRows_rows _ _ "")

/-- A row as it is shown: its name and its totals, in the order of their keys. -/
theorem json_eq (row : Row) : row.json = .object [("name", .string row.name),
    ("objects", .number (.integer row.objects)), ("retained", .number (.integer row.retained)),
    ("shallow", .number (.integer row.shallow))] := by
  simp only [Row.json, Json.record, Json.nat, List.foldl_cons, List.foldl_nil, Json.insertField,
    String.reduceLT, String.reduceBEq, Bool.false_eq_true, ↓reduceIte]

/-- A run that is not canceled ends with the rows of the snapshot. -/
theorem executed (h : histogram.build t n = .ok p) (hquery : p.Offers b.query) (hon : b.On s)
    (hclasses : Restricts (b.named? "classes") classes)
    (hgroups : Groups (b.named? "groupby") byPackage) {listener : Listener}
    (hspared : listener.Spares (b.execute listener).2) :
    (b.execute listener).1 = .ok ⟨b.query, b.line, some (.array
      ((Settings.rows { classes := classes, byPackage := byPackage } s.objects).map Row.json))⟩ := by
  have hcommand := QuerySpec.offers_command h hquery
  have hsettled := settled h hquery hon hclasses hgroups
  rw [Bindings.execute_traced hcommand hsettled (traces_run rfl) hspared]
  rfl

end Histogram
end Heap

open Heap.Histogram

/-- A histogram that is not canceled groups the selected objects of the snapshot by class or by
package, and what it shows by package is what it shows by class, added up for each package. -/
theorem histogram_groups_selected (h : histogram.build t n = .ok p) (s : Snapshot)
    (classes : List (Pattern Regex.standard)) : ∃ rows : Bool → List Row,
      (∀ (b : Bindings) (byPackage : Bool) (listener : Listener), p.Offers b.query → b.On s →
        Restricts (b.named? "classes") classes → Groups (b.named? "groupby") byPackage →
        listener.Spares (b.execute listener).2 →
          (b.execute listener).1 = .ok ⟨b.query, b.line, some (.array
            ((rows byPackage).map fun row => .object
              [("name", .string row.name), ("objects", .number (.integer row.objects)),
                ("retained", .number (.integer row.retained)),
                ("shallow", .number (.integer row.shallow))]))⟩) ∧
      (∀ byPackage, Lists (groupOf byPackage) (selected classes s) (rows byPackage)) ∧
      ∀ row, row ∈ rows true ↔ ∃ c ∈ rows false,
        row = Row.ofRows (packageOf c.name)
          ((rows false).filter fun c' => packageOf c'.name == packageOf c.name) := by
  refine ⟨fun byPackage => Settings.rows { classes := classes, byPackage := byPackage } s.objects,
    ?_, fun byPackage => rows_lists classes byPackage s, fun row => mem_rows_by_package classes⟩
  intro b byPackage listener hquery hon hclasses hgroups hspared
  rw [executed h hquery hon hclasses hgroups hspared, funext json_eq]

/-- Of three objects the pattern takes two, which are of one package. -/
theorem nodes_grouped : ∃ (p : Registered) (s : Snapshot) (b : Bindings),
    histogram.build .empty 0 = .ok p ∧ b.query = p.toQuery ∧ b.On s ∧
    s.objects = [⟨16, "n.A", 24, some 48⟩, ⟨32, "m.A", 16, none⟩, ⟨48, "n.A", 24, none⟩] ∧
    (b.execute .silent).1 = .ok ⟨b.query, b.line, some (.array
      [.object [("name", .string "n"), ("objects", .number (.integer 2)),
        ("retained", .number (.integer 72)), ("shallow", .number (.integer 48))]])⟩ := by
  obtain ⟨p, hbuild⟩ : ∃ p, histogram.build .empty 0 = .ok p := ⟨_, rfl⟩
  obtain ⟨node, hnode⟩ : ∃ node : Pattern Regex.standard,
      node.anywhere = .seq (.set (.single 'n')) (.seq (.set (Regex.CharSet.single '\n').complement)
        (.seq (.set (.single 'A')) .empty)) :=
    ⟨⟨"n.A", _, _, rfl, rfl⟩, rfl⟩
  obtain ⟨s, hs⟩ : ∃ s : Snapshot, s.objects = [⟨16, "n.A", 24, some 48⟩, ⟨32, "m.A", 16, none⟩,
    ⟨48, "n.A", 24, none⟩] := ⟨⟨"nodes.json", _, by decide⟩, rfl⟩
  let b : Bindings := ⟨p.toQuery, environment (some s), [(0, some (.host 0 (.snapshot s))),
    (1, some (.list [.pattern node])), (2, some (.constant "BY_PACKAGE"))]⟩
  obtain ⟨first, second, third, hown⟩ := histogram_arguments hbuild
  have hnamed := fun i a => Bindings.named_offered (b := b) hbuild (.inl rfl) (i := i) (a := a)
  rw [hown] at hnamed
  have hon : b.On s := ⟨0, hnamed 0 _ rfl⟩
  obtain ⟨rows, hexecute, hlists, _⟩ := histogram_groups_selected hbuild s [node]
  have hrun := hexecute b true .silent (.inl rfl) hon
    (by rw [show b.named? "classes" = _ from hnamed 1 _ rfl]; exact .patterns [node])
    (by rw [show b.named? "groupby" = _ from hnamed 2 _ rfl]; exact .byPackage)
    (Listener.silent_spares _)
  have hselected : selected [node] s = [⟨16, "n.A", 24, some 48⟩, ⟨48, "n.A", 24, none⟩] := by
    have hwanted : ∀ o : Object, o.className = "n.A" → Wanted [node] o := by
      intro o ho
      refine .inr ⟨node, .head _, ?_⟩
      rw [hnode, ho]
      exact ⟨1, ⟨rfl, 'n', rfl, by decide⟩, 2, ⟨rfl, '.', rfl, by decide⟩, 3,
        ⟨rfl, 'A', rfl, by decide⟩, rfl⟩
    have hleft : ¬ Wanted [node] ⟨32, "m.A", 16, none⟩ := by
      rintro (hnone | ⟨_, hown, hspans⟩)
      · cases hnone
      · rw [List.mem_singleton.mp hown, hnode] at hspans
        obtain ⟨_, ⟨_, c, hc, hn⟩, _⟩ := hspans
        cases hc
        exact absurd hn (by decide)
    rw [selected, hs]
    simp [hwanted, hleft]
  have hmem := (hlists true).mem_iff
  rw [hselected] at hmem
  have hrows : rows true = [⟨"n", 2, 48, 72⟩] := by
    refine List.perm_singleton.mp ((List.perm_ext_iff_of_nodup ?_ (List.nodup_singleton _)).mpr ?_)
    · exact (hlists true).names_nodup.of_map
    intro row
    rw [hmem, List.mem_singleton]
    constructor
    · rintro ⟨o, ho, rfl⟩
      simp only [List.mem_cons, List.not_mem_nil, or_false] at ho
      rcases ho with rfl | rfl <;> decide
    · rintro rfl
      exact ⟨_, .head _, by decide⟩
  rw [hrows] at hrun
  exact ⟨p, s, b, hbuild, rfl, hon, hs, hrun⟩

end HeapQuery
