import HeapQuery.Menu
import Mathlib.Data.List.Nodup

namespace HeapQuery.Menu

/-- A query with the labels that lead to it. -/
abbrev Filing := List (Nat × String) × Query

def filedHere (filings : List Filing) : List Query :=
  filings.filterMap fun
    | ([], q) => some q
    | (_ :: _, _) => none

def filedBelow (name : String) (filings : List Filing) : List Filing :=
  filings.filterMap fun
    | ([], _) => none
    | (label :: labels, q) => if label.2 = name then some (labels, q) else none

def keysOf (name : String) (filings : List Filing) : List Nat :=
  filings.filterMap fun
    | ([], _) => none
    | (label :: _, _) => if label.2 = name then some label.1 else none

def firstKey (keys : List Nat) : Nat := (keys.find? (· != Label.unsorted)).getD Label.unsorted

def fullName : List String → Option String
  | [] => none
  | names => some (String.intercalate " / " names)

variable {filings : List Filing} {name other : String} {labels : List (Nat × String)} {q : Query}

/-! ## One filing more -/

theorem here_end : filedHere (filings ++ [([], q)]) = filedHere filings ++ [q] := by
  simp [filedHere]

theorem here_label (label : Nat × String) :
    filedHere (filings ++ [(label :: labels, q)]) = filedHere filings := by
  simp [filedHere]

theorem below_end : filedBelow name (filings ++ [([], q)]) = filedBelow name filings := by
  simp [filedBelow]

theorem below_self (key : Nat) :
    filedBelow name (filings ++ [((key, name) :: labels, q)]) =
      filedBelow name filings ++ [(labels, q)] := by
  simp [filedBelow]

theorem below_of_ne (h : other ≠ name) (key : Nat) :
    filedBelow name (filings ++ [((key, other) :: labels, q)]) = filedBelow name filings := by
  simp [filedBelow, h]

theorem keys_end : keysOf name (filings ++ [([], q)]) = keysOf name filings := by
  simp [keysOf]

theorem keys_self (key : Nat) :
    keysOf name (filings ++ [((key, name) :: labels, q)]) = keysOf name filings ++ [key] := by
  simp [keysOf]

theorem keys_of_ne (h : other ≠ name) (key : Nat) :
    keysOf name (filings ++ [((key, other) :: labels, q)]) = keysOf name filings := by
  simp [keysOf, h]

theorem keys_of_below_nil (h : filedBelow name filings = []) : keysOf name filings = [] := by
  unfold filedBelow at h
  unfold keysOf
  rw [List.filterMap_eq_nil_iff] at h ⊢
  intro filing hm
  have hnone := h filing hm
  obtain ⟨_ | ⟨label, labels⟩, q⟩ := filing
  · rfl
  · by_cases hname : label.2 = name
    · simp [hname] at hnone
    · simp [hname]

theorem firstKey_append (given : List Nat) (key : Nat) :
    firstKey (given ++ [key]) =
      if firstKey given == Label.unsorted then key else firstKey given := by
  unfold firstKey
  rw [List.find?_append]
  cases hfind : given.find? (· != Label.unsorted) with
  | none =>
    by_cases hkey : key = Label.unsorted
    · simp [hkey]
    · simp [hkey]
  | some first =>
    have hkeyed := List.find?_some hfind
    simp only [bne_iff_ne, ne_eq] at hkeyed
    simp [hkeyed]

theorem fullName_below (above : List String) (name : String) :
    fullName (above ++ [name]) = some (match fullName above with
      | some path => path ++ " / " ++ name
      | none => name) := by
  cases above with
  | nil => rfl
  | cons first above =>
    simp only [fullName, List.cons_append]
    rw [← List.cons_append, String.intercalate_append_of_ne_nil (by simp) (by simp)]
    rfl

/-! ## Drafts -/

namespace Draft

variable {above : List String} {keys : List Nat} {d c : Draft} {f : Draft → Draft} {new : Draft}

@[simp] theorem add_name (q : Query) (labels : List (Nat × String)) (d : Draft) :
    (d.add q labels).name = d.name := by
  cases labels <;> rfl

theorem keyed_eq (d : Draft) (key : Nat) :
    d.keyed key =
      { d with sortKey := if d.sortKey == Label.unsorted then key else d.sortKey } := by
  cases d
  unfold keyed
  split <;> rfl

@[simp] theorem keyed_name (d : Draft) (key : Nat) : (d.keyed key).name = d.name := by
  rw [keyed_eq]

@[simp] theorem inside_name (d : Draft) (name : String) : (d.inside name).name = name := rfl

theorem inside_path (h : d.path = fullName above) (name : String) :
    (d.inside name).path = fullName (above ++ [name]) := by
  rw [fullName_below, ← h]
  rfl

theorem change_of_mem {ds : List Draft} (hdistinct : (ds.map Draft.name).Nodup)
    (h : name ∈ ds.map Draft.name) :
    change name f new ds = ds.map fun d => if d.name = name then f d else d := by
  induction ds with
  | nil => cases h
  | cons d ds ih =>
    obtain ⟨hfresh, hdistinct⟩ := List.nodup_cons.mp hdistinct
    unfold change
    by_cases hname : d.name = name
    · -- No other category has the name.
      have hsame : (ds.map fun d => if d.name = name then f d else d) = ds := by
        conv_rhs => rw [← List.map_id ds]
        refine List.map_congr_left fun c hc => if_neg ?_
        rintro hc'
        exact hfresh (hname.trans hc'.symm ▸ List.mem_map_of_mem hc)
      simp [hname, hsame]
    · have hrest : name ∈ ds.map Draft.name := by
        simpa [Ne.symm hname] using h
      simp [hname, ih hdistinct hrest]

theorem change_of_not_mem {ds : List Draft} (h : name ∉ ds.map Draft.name) :
    change name f new ds = ds ++ [f new] := by
  induction ds with
  | nil => rfl
  | cons d ds ih =>
    simp only [List.map_cons, List.mem_cons, not_or] at h
    simp [change, Ne.symm h.1, ih h.2]

/-- What a draft says about itself: its path from the root, the key it was given first, its own
queries, and a category for every name that something is filed below. -/
structure Level (above : List String) (keys : List Nat) (filings : List Filing) (d : Draft) :
    Prop where
  path : d.path = fullName above
  sortKey : d.sortKey = firstKey keys
  queries : d.queries = filedHere filings
  distinct : (d.categories.map Draft.name).Nodup
  opened : ∀ name, name ∈ d.categories.map Draft.name ↔ filedBelow name filings ≠ []

/-- A draft at the end of the names `above` that was given the keys and holds the filings, and so do
its categories. -/
inductive Files : List String → List Nat → List Filing → Draft → Prop where
  | mk {above : List String} {keys : List Nat} {filings : List Filing} {d : Draft} :
      Level above keys filings d →
      (∀ c ∈ d.categories,
        Files (above ++ [c.name]) (keysOf c.name filings) (filedBelow c.name filings) c) →
      Files above keys filings d

def FilesBelow (above : List String) (filings : List Filing) (c : Draft) : Prop :=
  Files (above ++ [c.name]) (keysOf c.name filings) (filedBelow c.name filings) c

theorem Files.level (h : Files above keys filings d) : Level above keys filings d := by
  cases h with
  | mk hlevel => exact hlevel

theorem Files.category (h : Files above keys filings d) (hc : c ∈ d.categories) :
    FilesBelow above filings c := by
  cases h with
  | mk _ hcategories => exact hcategories c hc

theorem Files.keyed (h : Files above keys filings d) (key : Nat) :
    Files above (keys ++ [key]) filings (d.keyed key) := by
  obtain ⟨hpath, hkey, hqueries, hdistinct, hopened⟩ := h.level
  rw [keyed_eq]
  refine .mk ⟨hpath, ?_, hqueries, hdistinct, hopened⟩ fun c hc => h.category hc
  rw [firstKey_append, ← hkey]

theorem files_empty (hpath : d.path = fullName above) (hkey : d.sortKey = Label.unsorted)
    (hq : d.queries = []) (hc : d.categories = []) : Files above [] [] d :=
  .mk ⟨hpath, hkey, hq, by simp [hc], by simp [hc, filedBelow]⟩ (by simp [hc])

/-- A category that is opened now holds nothing yet. -/
theorem filesBelow_inside (h : d.path = fullName above) (hfree : filedBelow name filings = []) :
    FilesBelow above filings (d.inside name) := by
  rw [FilesBelow, inside_name, keys_of_below_nil hfree, hfree]
  exact files_empty (inside_path h name) rfl rfl rfl

/-- A category is not concerned with what is filed below others. -/
theorem FilesBelow.beside (h : FilesBelow above filings c) (hne : name ≠ c.name) (key : Nat)
    (labels : List (Nat × String)) (q : Query) :
    FilesBelow above (filings ++ [((key, name) :: labels, q)]) c := by
  rw [FilesBelow, keys_of_ne hne, below_of_ne hne]
  exact h

/-- What stays of a draft when one of its categories takes a filing. -/
theorem Level.label (h : Level above keys filings d) (key : Nat) (labels : List (Nat × String))
    (q : Query) {cs : List Draft} (hdistinct : (cs.map Draft.name).Nodup)
    (hnames : ∀ other, other ∈ cs.map Draft.name ↔
      other = name ∨ other ∈ d.categories.map Draft.name) :
    Level above keys (filings ++ [((key, name) :: labels, q)]) { d with categories := cs } := by
  refine ⟨h.path, h.sortKey, ?_, hdistinct, ?_⟩
  · rw [here_label]
    exact h.queries
  · intro other
    change other ∈ cs.map Draft.name ↔ _
    rw [hnames]
    by_cases hother : name = other
    · subst hother
      simp [below_self]
    · rw [below_of_ne hother, h.opened]
      simp [Ne.symm hother]

theorem Files.add_end (h : Files above keys filings d) (q : Query) :
    Files above keys (filings ++ [([], q)]) (d.add q []) := by
  obtain ⟨hpath, hkey, hqueries, hdistinct, hopened⟩ := h.level
  refine .mk ⟨hpath, hkey, ?_, hdistinct, fun name => ?_⟩ fun c hc => ?_
  · rw [here_end, ← hqueries]
    rfl
  · rw [below_end]
    exact hopened name
  · rw [keys_end, below_end]
    exact h.category hc

/-- A category that was opened before takes what goes below its name, and the others stay. -/
theorem Files.add_opened (h : Files above keys filings d)
    (hmem : name ∈ d.categories.map Draft.name) (key : Nat)
    (hgrown : ∀ c, FilesBelow above filings c → c.name = name →
      FilesBelow above (filings ++ [((key, name) :: labels, q)])
        (Draft.add q labels (c.keyed key))) :
    Files above keys (filings ++ [((key, name) :: labels, q)])
      (d.add q ((key, name) :: labels)) := by
  have hlevel := h.level
  have hnames : (d.categories.map fun c =>
      if c.name = name then Draft.add q labels (c.keyed key) else c).map Draft.name =
      d.categories.map Draft.name := by
    rw [List.map_map]
    refine List.map_congr_left fun c _ => ?_
    simp only [Function.comp_apply]
    split <;> simp
  rw [Draft.add, change_of_mem hlevel.distinct hmem]
  refine .mk (hlevel.label key labels q ?_ ?_) ?_
  · rw [hnames]
    exact hlevel.distinct
  · intro other
    rw [hnames]
    refine ⟨.inr, ?_⟩
    rintro (rfl | hother)
    · exact hmem
    · exact hother
  · intro grown hgrownMem
    obtain ⟨c, hc, rfl⟩ := List.mem_map.mp hgrownMem
    split
    case isTrue hname => exact hgrown c (h.category hc) hname
    case isFalse hname => exact (h.category hc).beside (Ne.symm hname) key labels q

/-- A name that comes for the first time opens a category at the end. -/
theorem Files.add_fresh (h : Files above keys filings d)
    (hmem : name ∉ d.categories.map Draft.name) (key : Nat)
    (hgrown : ∀ c, FilesBelow above filings c → c.name = name →
      FilesBelow above (filings ++ [((key, name) :: labels, q)])
        (Draft.add q labels (c.keyed key))) :
    Files above keys (filings ++ [((key, name) :: labels, q)])
      (d.add q ((key, name) :: labels)) := by
  have hlevel := h.level
  have hfree : filedBelow name filings = [] := by
    by_contra hne
    exact hmem ((hlevel.opened name).mpr hne)
  rw [Draft.add, change_of_not_mem hmem]
  refine .mk (hlevel.label key labels q ?_ ?_) ?_
  · rw [List.map_append, List.map_singleton, add_name, keyed_name, inside_name,
      List.nodup_append_comm]
    exact List.nodup_cons.mpr ⟨hmem, hlevel.distinct⟩
  · intro other
    simp [or_comm]
  · intro c hmemAll
    rcases List.mem_append.mp hmemAll with hc | hc
    · refine (h.category hc).beside ?_ key labels q
      rintro rfl
      exact hmem (List.mem_map_of_mem hc)
    · obtain rfl := List.mem_singleton.mp hc
      exact hgrown _ (filesBelow_inside hlevel.path hfree) rfl

/-- A draft files what is added to it. -/
theorem Files.add (h : Files above keys filings d) (labels : List (Nat × String)) (q : Query) :
    Files above keys (filings ++ [(labels, q)]) (d.add q labels) := by
  induction labels generalizing above keys filings d with
  | nil => exact h.add_end q
  | cons label labels ih =>
    obtain ⟨key, name⟩ := label
    have hgrown : ∀ c, FilesBelow above filings c → c.name = name →
        FilesBelow above (filings ++ [((key, name) :: labels, q)])
          (Draft.add q labels (c.keyed key)) := by
      rintro c hc rfl
      rw [FilesBelow, add_name, keyed_name, keys_self, below_self]
      exact ih (hc.keyed key)
    by_cases hmem : name ∈ d.categories.map Draft.name
    · exact h.add_opened hmem key hgrown
    · exact h.add_fresh hmem key hgrown

/-- So does a draft to which many queries are added, one after the other. -/
theorem Files.addAll (h : Files above keys filings d) (labelsOf : Query → List (Nat × String))
    (qs : List Query) :
    Files above keys (filings ++ qs.map fun q => (labelsOf q, q))
      (qs.foldl (fun d q => d.add q (labelsOf q)) d) := by
  induction qs generalizing filings d with
  | nil => simpa using h
  | cons q qs ih => simpa using ih (h.add (labelsOf q) q)

theorem files_root (qs : List Query) (labelsOf : Query → List (Nat × String)) :
    Files [] [] (qs.map fun q => (labelsOf q, q))
      (qs.foldl (fun d q => d.add q (labelsOf q)) root) := by
  have hroot : Files [] [] [] root := files_empty rfl rfl rfl rfl
  exact hroot.addAll labelsOf qs

end Draft

end HeapQuery.Menu
