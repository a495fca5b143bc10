import HeapQuery.Proofs.CategoryPaths
import HeapQuery.Proofs.MenuDrafts
import Mathlib.Data.List.Perm.Basic
import Mathlib.Data.Prod.Lex
import Mathlib.Data.String.Basic

namespace HeapQuery.Menu

/-! ## What a menu is to show -/

def shown (queries : List Registered) : List Query :=
  (queries.flatMap fun q => q.toQuery :: q.presets).filter fun q =>
    q.category != some "__hidden__"

def place (labelsOf : Query → List (Nat × String)) (q : Query) : List String :=
  (labelsOf q).map Prod.snd

/-- The key that labels give to the category at the end of the names, if they lead through it. -/
def keyFor? (names : List String) (labels : List (Nat × String)) : Option Nat :=
  if names.isPrefixOf (labels.map Prod.snd) then (labels.take names.length).getLast?.map Prod.fst
  else none

/-! ## What a menu shows -/

def path : Menu → Option String
  | category _ path _ _ => path
  | query _ => none

def query? : Menu → Option Query
  | category .. => none
  | query q => some q

def queries (m : Menu) : List Query := m.children.filterMap query?

def categories (m : Menu) : List Menu := m.children.filter fun item => !item.isQuery

/-- Where an item stands among others: by its key, then categories before queries, then by name. -/
def rank (m : Menu) : Nat ×ₗ Bool ×ₗ String := toLex (m.sortKey, toLex (m.isQuery, m.name))

mutual

/-- The queries in an item with the names on the way to each, its own name first. -/
def placed : Menu → List (List String × Query)
  | category name _ _ items => (placedAll items).map fun entry => (name :: entry.1, entry.2)
  | query q => [([], q)]

def placedAll : List Menu → List (List String × Query)
  | [] => []
  | item :: rest => item.placed ++ placedAll rest

end

inductive Leads : Menu → List String → Menu → Prop where
  | here {m : Menu} : m.isQuery = false → Leads m [] m
  | into {m sub node : Menu} {names : List String} :
      sub ∈ m.children → Leads sub names node → Leads m (sub.name :: names) node

/-- A category at the end of the names that shows, of all items, what belongs there. -/
structure Shows (labelsOf : Query → List (Nat × String)) (items : List Query)
    (names : List String) (m : Menu) : Prop where
  path : m.path = fullName names
  sortKey : m.sortKey = firstKey (items.filterMap fun q => keyFor? names (labelsOf q))
  own : m.queries.Perm (items.filter fun q => place labelsOf q == names)
  count : m.queryCount = items.countP fun q => names.isPrefixOf (place labelsOf q)
  filled : names ≠ [] → 0 < m.queryCount
  distinct : (m.categories.map name).Nodup
  sorted : m.children.Pairwise fun a b => a.rank ≤ b.rank
  stable : ∀ key name, m.queries.filter (fun q => q.sortKey == key && q.name == name) =
    (items.filter fun q => place labelsOf q == names).filter fun q =>
      q.sortKey == key && q.name == name

/-- A menu in which each of the items has its place, and every category shows what belongs there. -/
structure Arranges (labelsOf : Query → List (Nat × String)) (items : List Query) (m : Menu) :
    Prop where
  root : Leads m [] m
  placed : (placedAll m.children).Perm (items.map fun q => (place labelsOf q, q))
  reached : ∀ q ∈ items, ∃ node, Leads m (place labelsOf q) node ∧ q ∈ node.queries
  shows : ∀ names node, Leads m names node → Shows labelsOf items names node

variable {m node a b c : Menu} {names : List String} {q : Query}

theorem placedAll_eq (items : List Menu) : placedAll items = items.flatMap placed := by
  induction items with
  | nil => rfl
  | cons item rest ih => rw [placedAll, ih, List.flatMap_cons]

mutual

theorem queryCount_eq : (m : Menu) → m.queryCount = m.placed.length
  | category _ _ _ items => by rw [queryCount, placed, List.length_map, queryCounts_eq items]
  | query _ => rfl

theorem queryCounts_eq : (items : List Menu) → queryCounts items = (placedAll items).length
  | [] => rfl
  | item :: rest => by
    rw [queryCounts, placedAll, List.length_append, queryCount_eq item, queryCounts_eq rest]

end

/-- A query that is placed in an item is the item itself or stands in a category below it. -/
def Holds (item : Menu) (names : List String) (q : Query) : Prop :=
  (item = query q ∧ names = []) ∨
    ∃ below node, names = item.name :: below ∧ Leads item below node ∧ q ∈ node.queries

/-- The items of a category hold what is below it. -/
theorem leads_of_holds (hcategory : m.isQuery = false) (hitem : a ∈ m.children)
    (h : Holds a names q) : ∃ node, Leads m names node ∧ q ∈ node.queries := by
  obtain ⟨rfl, rfl⟩ | ⟨below, node, rfl, hleads, hq⟩ := h
  · exact ⟨m, .here hcategory, List.mem_filterMap.mpr ⟨query q, hitem, rfl⟩⟩
  · exact ⟨node, .into hitem hleads, hq⟩

mutual

theorem holds_of_placed (q : Query) :
    (m : Menu) → (names : List String) → (names, q) ∈ m.placed → Holds m names q
  | category name path key items, names, h => by
    obtain ⟨⟨below, _⟩, hmem, heq⟩ := List.mem_map.mp h
    obtain ⟨rfl, rfl⟩ := Prod.mk.inj heq
    obtain ⟨item, hitem, hholds⟩ := holds_of_placedAll _ items below hmem
    obtain ⟨node, hleads, hq⟩ :=
      leads_of_holds (m := category name path key items) rfl hitem hholds
    exact .inr ⟨below, node, rfl, hleads, hq⟩
  | query _, names, h => by
    obtain ⟨rfl, rfl⟩ := List.mem_singleton.mp h
    exact .inl ⟨rfl, rfl⟩

theorem holds_of_placedAll (q : Query) : (items : List Menu) → (names : List String) →
    (names, q) ∈ placedAll items → ∃ item ∈ items, Holds item names q
  | item :: rest, names, h => by
    rcases List.mem_append.mp h with hitem | hrest
    · exact ⟨item, .head _, holds_of_placed q item names hitem⟩
    · obtain ⟨other, hother, hholds⟩ := holds_of_placedAll q rest names hrest
      exact ⟨other, .tail _ hother, hholds⟩

end

/-- A query that is placed below a category stands at the end of its names. -/
theorem leads_of_placedAll (hcategory : m.isQuery = false)
    (h : (names, q) ∈ placedAll m.children) : ∃ node, Leads m names node ∧ q ∈ node.queries := by
  obtain ⟨item, hitem, hholds⟩ := holds_of_placedAll q _ _ h
  exact leads_of_holds hcategory hitem hholds

/-! ## Order -/

theorem comesBefore_iff : a.comesBefore b = true ↔ a.rank ≤ b.rank := by
  unfold comesBefore rank
  rw [Prod.Lex.toLex_le_toLex, Prod.Lex.toLex_le_toLex]
  rcases lt_trichotomy a.sortKey b.sortKey with h | h | h
  · simp [h, Nat.compare_eq_lt.mpr h]
  · have hname : (!decide (b.name < a.name)) = true ↔ a.name ≤ b.name := by
      rw [Bool.not_eq_true', decide_eq_false_iff_not, not_lt]
    rw [Nat.compare_eq_eq.mpr h]
    generalize (!decide (b.name < a.name)) = inOrder at hname ⊢
    cases ha : a.isQuery <;> cases hb : b.isQuery <;> simp [h, hname]
  · rw [Nat.compare_eq_gt.mpr h]
    simp [h.not_gt, h.ne']

theorem comesBefore_trans (a b c : Menu) (hab : a.comesBefore b = true)
    (hbc : b.comesBefore c = true) : a.comesBefore c = true :=
  comesBefore_iff.mpr (le_trans (comesBefore_iff.mp hab) (comesBefore_iff.mp hbc))

theorem comesBefore_total (a b : Menu) : (a.comesBefore b || b.comesBefore a) = true := by
  rw [Bool.or_eq_true, comesBefore_iff, comesBefore_iff]
  exact le_total _ _

/-! ## Finished categories -/

section Finish

variable (d : Draft)

theorem finishAll_eq (ds : List Draft) : Draft.finishAll ds = ds.map Draft.finish := by
  induction ds with
  | nil => rfl
  | cons d ds ih => rw [Draft.finishAll, ih, List.map_cons]

theorem finish_eq : d.finish = category d.name d.path d.sortKey
    ((d.categories.map Draft.finish ++ d.queries.map query).mergeSort comesBefore) := by
  cases d
  rw [Draft.finish, finishAll_eq]

@[simp] theorem finish_name : d.finish.name = d.name := by rw [finish_eq]; rfl

@[simp] theorem finish_path : d.finish.path = d.path := by rw [finish_eq]; rfl

@[simp] theorem finish_sortKey : d.finish.sortKey = d.sortKey := by rw [finish_eq]; rfl

@[simp] theorem finish_isQuery : d.finish.isQuery = false := by rw [finish_eq]; rfl

@[simp] theorem finish_query? : d.finish.query? = none := by rw [finish_eq]; rfl

theorem finish_children : d.finish.children =
    (d.categories.map Draft.finish ++ d.queries.map query).mergeSort comesBefore := by
  rw [finish_eq]
  rfl

theorem finish_placed : d.finish.placed =
    (placedAll d.finish.children).map fun entry => (d.name :: entry.1, entry.2) := by
  rw [finish_eq]
  rfl

theorem finish_children_perm :
    d.finish.children.Perm (d.categories.map Draft.finish ++ d.queries.map query) := by
  rw [finish_children]
  exact List.mergeSort_perm _ _

theorem finish_queries_perm : d.finish.queries.Perm d.queries := by
  have h := (finish_children_perm d).filterMap query?
  rw [List.filterMap_append, List.filterMap_map, List.filterMap_map] at h
  have hcategories : d.categories.filterMap (query? ∘ Draft.finish) = [] := by
    simp
  have hqueries : d.queries.filterMap (query? ∘ query) = d.queries := List.filterMap_some
  rwa [hcategories, hqueries] at h

theorem finish_categories_perm :
    (d.finish.categories.map name).Perm (d.categories.map Draft.name) := by
  have h := ((finish_children_perm d).filter fun item => !item.isQuery).map name
  have hqueries : (d.queries.map query).filter (fun item => !item.isQuery) = [] := by
    simp [isQuery]
  have hcategories : (d.categories.map Draft.finish).filter (fun item => !item.isQuery) =
      d.categories.map Draft.finish := by
    simp [List.filter_eq_self]
  rw [List.filter_append, hqueries, hcategories, List.append_nil, List.map_map] at h
  simpa [categories, Function.comp_def] using h

theorem finish_sorted : d.finish.children.Pairwise fun a b => a.rank ≤ b.rank := by
  rw [finish_children]
  exact (List.pairwise_mergeSort comesBefore_trans comesBefore_total _).imp
    comesBefore_iff.mp

/-- Queries with one key and one name come in the order in which they were added. -/
theorem finish_stable (key : Nat) (label : String) :
    d.finish.queries.filter (fun q => q.sortKey == key && q.name == label) =
      d.queries.filter fun q => q.sortKey == key && q.name == label := by
  let alike (q : Query) : Bool := q.sortKey == key && q.name == label
  change d.finish.queries.filter alike = d.queries.filter alike
  have hrank : ((d.queries.filter alike).map query).Pairwise fun a b => a.comesBefore b := by
    refine List.pairwise_map.mpr (List.pairwise_of_forall_mem_list fun p hp q hq => ?_)
    have hp := (List.mem_filter.mp hp).2
    have hq := (List.mem_filter.mp hq).2
    simp only [alike, Bool.and_eq_true, beq_iff_eq] at hp hq
    refine comesBefore_iff.mpr (le_of_eq ?_)
    simp [rank, sortKey, isQuery, name, hp, hq]
  -- Sorting is stable: what was in order before it is in the same order after it.
  have hsub : ((d.queries.filter alike).map query).Sublist d.finish.children := by
    rw [finish_children]
    refine List.sublist_mergeSort comesBefore_trans comesBefore_total hrank ?_
    exact (List.filter_sublist.map query).trans (List.sublist_append_right _ _)
  have hqueries : (d.queries.filter alike).Sublist d.finish.queries := by
    have h := hsub.filterMap query?
    rw [List.filterMap_map] at h
    exact List.filterMap_some (l := d.queries.filter alike) ▸ h
  have hfiltered := hqueries.filter alike
  rw [List.filter_filter] at hfiltered
  simp only [Bool.and_self] at hfiltered
  exact (hfiltered.eq_of_length ((finish_queries_perm d).filter alike).length_eq.symm).symm

end Finish

/-! ## Filings by name -/

def filed (filing : Filing) : List String × Query := (filing.1.map Prod.snd, filing.2)

variable {filings : List Filing}

/-- One more under a name is one more under all names together. -/
theorem flatMap_insert {α β : Type} {ns : List α} {n : α} {f g : α → List β} {x : β}
    (hdistinct : ns.Nodup) (hn : n ∈ ns) (hsame : g n = x :: f n) (hothers : ∀ m ≠ n, g m = f m) :
    (ns.flatMap g).Perm (x :: ns.flatMap f) := by
  obtain ⟨before, after, rfl⟩ := List.append_of_mem hn
  obtain ⟨-, hafter, hapart⟩ := List.nodup_append.mp hdistinct
  have hbefore : before.flatMap g = before.flatMap f :=
    List.flatMap_congr fun m hm => hothers m (hapart m hm n (by simp))
  have hafter : after.flatMap g = after.flatMap f := by
    refine List.flatMap_congr fun m hm => hothers m ?_
    rintro rfl
    exact (List.nodup_cons.mp hafter).1 hm
  simp only [List.flatMap_append, List.flatMap_cons, hbefore, hafter, hsame, List.cons_append]
  exact List.perm_middle

def filedUnder (filings : List Filing) (n : String) : List (List String × Query) :=
  (filedBelow n filings).map fun filing => (n :: (filed filing).1, filing.2)

theorem filedUnder_self (filings : List Filing) (label : Nat × String)
    (labels : List (Nat × String)) (q : Query) :
    filedUnder ((label :: labels, q) :: filings) label.2 =
      filed (label :: labels, q) :: filedUnder filings label.2 := by
  simp [filedUnder, filedBelow, filed]

theorem filedUnder_of_ne {n : String} {label : Nat × String} (h : n ≠ label.2)
    (labels : List (Nat × String)) (q : Query) :
    filedUnder ((label :: labels, q) :: filings) n = filedUnder filings n := by
  simp [filedUnder, filedBelow, h.symm]

/-- Filings are those below each of their first names and those without labels. -/
theorem filings_perm {ns : List String} (hdistinct : ns.Nodup)
    (hopened : ∀ n, filedBelow n filings ≠ [] → n ∈ ns) :
    (ns.flatMap (filedUnder filings) ++ (filedHere filings).map fun q => ([], q)).Perm
      (filings.map filed) := by
  induction filings with
  | nil => simp [filedUnder, filedBelow, filedHere]
  | cons filing filings ih =>
    obtain ⟨_ | ⟨label, labels⟩, q⟩ := filing
    · have ih := ih hopened
      exact List.perm_middle.trans (ih.cons ([], q))
    · have hlabel : label.2 ∈ ns := hopened _ (by simp [filedBelow])
      have hrest : ∀ n, filedBelow n filings ≠ [] → n ∈ ns := by
        intro n hn
        refine hopened n fun hnil => hn ?_
        rw [filedBelow, List.filterMap_eq_nil_iff] at hnil ⊢
        exact fun f hf => hnil f (.tail _ hf)
      have hinsert := flatMap_insert hdistinct hlabel (filedUnder_self filings label labels q)
        fun n hn => filedUnder_of_ne hn labels q
      exact (hinsert.append_right _).trans ((ih hrest).cons _)

/-- A finished draft shows every query that was filed where its labels lead, and no other. -/
theorem files_placed {above : List String} {keys : List Nat} {d : Draft}
    (h : Draft.Files above keys filings d) :
    (placedAll d.finish.children).Perm (filings.map filed) := by
  induction h with
  | @mk above keys filings d hlevel _ ih =>
    have hcategory : ∀ c ∈ d.categories, c.finish.placed.Perm (filedUnder filings c.name) := by
      intro c hc
      have h := (ih c hc).map fun entry => (c.name :: entry.1, entry.2)
      rw [List.map_map] at h
      rwa [finish_placed]
    have hunder : (d.categories.flatMap fun c => c.finish.placed).Perm
        ((d.categories.map Draft.name).flatMap (filedUnder filings)) := by
      rw [List.flatMap_map]
      exact List.Perm.flatMap_left _ hcategory
    have hown : d.queries.flatMap (fun q => (query q).placed) =
        (filedHere filings).map fun q => ([], q) := by
      rw [← hlevel.queries]
      exact List.map_eq_flatMap.symm
    have hchildren := (finish_children_perm d).flatMap_right placed
    rw [List.flatMap_append, List.flatMap_map, List.flatMap_map, hown] at hchildren
    rw [placedAll_eq]
    exact (hchildren.trans (hunder.append_right _)).trans
      (filings_perm hlevel.distinct fun n hn => (hlevel.opened n).mpr hn)

/-! ## Filings further down -/

/-- What is filed at the end of the names and below, with the labels that lead on from there. -/
def filedWithin : List String → List Filing → List Filing
  | [], filings => filings
  | n :: names, filings => filedWithin names (filedBelow n filings)

/-- The keys given to the category at the end of the names; `keys` are those given to the first. -/
def keysWithin : List String → List Nat → List Filing → List Nat
  | [], keys, _ => keys
  | n :: names, _, filings => keysWithin names (keysOf n filings) (filedBelow n filings)

theorem filedHere_within (names : List String) (filings : List Filing) :
    filedHere (filedWithin names filings) =
      filings.filterMap fun f => if (filed f).1 == names then some f.2 else none := by
  induction names generalizing filings with
  | nil =>
    refine List.filterMap_congr fun filing _ => ?_
    obtain ⟨_ | ⟨label, labels⟩, q⟩ := filing <;> rfl
  | cons n names ih =>
    rw [filedWithin, ih, filedBelow, List.filterMap_filterMap]
    refine List.filterMap_congr fun filing _ => ?_
    obtain ⟨_ | ⟨label, labels⟩, q⟩ := filing
    · rfl
    · by_cases hn : label.2 = n <;> simp [filed, hn]

theorem length_filedWithin (names : List String) (filings : List Filing) :
    (filedWithin names filings).length =
      filings.countP fun f => names.isPrefixOf (filed f).1 := by
  induction names generalizing filings with
  | nil => simp [filedWithin]
  | cons n names ih =>
    rw [filedWithin, ih, filedBelow, List.countP_filterMap]
    refine List.countP_congr fun filing _ => ?_
    obtain ⟨_ | ⟨label, labels⟩, q⟩ := filing
    · simp [filed]
    · by_cases hn : label.2 = n <;> simp [filed, hn, Ne.symm]

theorem keyFor?_one (n : String) (label : Nat × String) (labels : List (Nat × String)) :
    keyFor? [n] (label :: labels) = if label.2 = n then some label.1 else none := by
  by_cases hn : label.2 = n <;> simp [keyFor?, hn, Ne.symm]

theorem keyFor?_cons (n m : String) (names : List String) (label : Nat × String)
    (labels : List (Nat × String)) :
    keyFor? (n :: m :: names) (label :: labels) =
      if label.2 = n then keyFor? (m :: names) labels else none := by
  by_cases hn : label.2 = n
  · cases labels <;> simp [keyFor?, hn]
  · simp [keyFor?, hn, Ne.symm]

theorem keysWithin_cons (n : String) (names : List String) (keys : List Nat)
    (filings : List Filing) :
    keysWithin (n :: names) keys filings = filings.filterMap fun f => keyFor? (n :: names) f.1 := by
  induction names generalizing n keys filings with
  | nil =>
    refine List.filterMap_congr fun filing _ => ?_
    obtain ⟨_ | ⟨label, labels⟩, q⟩ := filing
    · rfl
    · exact (keyFor?_one n label labels).symm
  | cons m names ih =>
    rw [keysWithin, ih, filedBelow, List.filterMap_filterMap]
    refine List.filterMap_congr fun filing _ => ?_
    obtain ⟨_ | ⟨label, labels⟩, q⟩ := filing
    · rfl
    · simp only [keyFor?_cons]
      split <;> rfl

theorem keysWithin_eq (names : List String) (filings : List Filing) :
    keysWithin names [] filings = filings.filterMap fun f => keyFor? names f.1 := by
  cases names with
  | nil => simp [keysWithin, keyFor?]
  | cons n names => exact keysWithin_cons n names [] filings

/-- Below a finished draft stand finished drafts that hold what was filed there. -/
theorem leads_finish {above : List String} {keys : List Nat} {d : Draft}
    (h : Leads d.finish names node) (hfiles : Draft.Files above keys filings d) :
    ∃ inner : Draft, node = inner.finish ∧ (names ≠ [] → filedWithin names filings ≠ []) ∧
      Draft.Files (above ++ names) (keysWithin names keys filings) (filedWithin names filings)
        inner := by
  generalize hm : d.finish = m at h
  induction h generalizing above keys filings d with
  | here _ => exact ⟨d, hm.symm, by simp, by simpa [keysWithin, filedWithin] using hfiles⟩
  | @into m sub node names hsub hleads ih =>
    subst hm
    rcases List.mem_append.mp ((finish_children_perm d).mem_iff.mp hsub) with hmem | hmem
    · obtain ⟨c, hc, rfl⟩ := List.mem_map.mp hmem
      obtain ⟨inner, hnode, hfilled, hinner⟩ := ih (hfiles.category hc) rfl
      refine ⟨inner, hnode, fun _ => ?_, by simpa [keysWithin, filedWithin] using hinner⟩
      rw [finish_name, filedWithin]
      cases names with
      | nil => exact (hfiles.level.opened c.name).mp (List.mem_map_of_mem hc)
      | cons n names => exact hfilled (by simp)
    · -- Nothing lies below a query.
      obtain ⟨q, -, rfl⟩ := List.mem_map.mp hmem
      cases hleads with
      | here hcategory => cases hcategory
      | into hsub _ => cases hsub

/-! ## The menu of registered queries -/

def filing (labelsOf : Query → List (Nat × String)) (q : Query) : Filing := (labelsOf q, q)

variable {labelsOf : Query → List (Nat × String)}

theorem queries_filedWithin (names : List String) (qs : List Query) :
    filedHere (filedWithin names (qs.map (filing labelsOf))) =
      qs.filter fun q => place labelsOf q == names := by
  rw [filedHere_within, List.filterMap_map, ← List.filterMap_eq_filter]
  rfl

theorem count_filedWithin (names : List String) (qs : List Query) :
    (filedWithin names (qs.map (filing labelsOf))).length =
      qs.countP fun q => names.isPrefixOf (place labelsOf q) := by
  rw [length_filedWithin, List.countP_map]
  rfl

theorem keys_filedWithin (names : List String) (qs : List Query) :
    keysWithin names [] (qs.map (filing labelsOf)) =
      qs.filterMap fun q => keyFor? names (labelsOf q) := by
  rw [keysWithin_eq, List.filterMap_map]
  rfl

theorem finish_shows {qs : List Query} {d : Draft}
    (hfilled : names ≠ [] → filedWithin names (qs.map (filing labelsOf)) ≠ [])
    (h : Draft.Files names (keysWithin names [] (qs.map (filing labelsOf)))
      (filedWithin names (qs.map (filing labelsOf))) d) : Shows labelsOf qs names d.finish := by
  obtain ⟨hpath, hkey, hqueries, hdistinct, -⟩ := h.level
  have hcount : d.finish.queryCount = (filedWithin names (qs.map (filing labelsOf))).length := by
    rw [queryCount_eq, finish_placed, List.length_map, (files_placed h).length_eq, List.length_map]
  rw [queries_filedWithin] at hqueries
  rw [keys_filedWithin] at hkey
  exact {
    path := by rw [finish_path, hpath]
    sortKey := by rw [finish_sortKey, hkey]
    own := hqueries ▸ finish_queries_perm d
    count := hcount.trans (count_filedWithin names qs)
    filled := fun hne => hcount ▸ List.length_pos_iff.mpr (hfilled hne)
    distinct := (finish_categories_perm d).nodup_iff.mpr hdistinct
    sorted := finish_sorted d
    stable := fun key label => hqueries ▸ finish_stable d key label }

/-- The menu of registered queries shows each query and preset that is not hidden in its place. Its
categories come from the places alone: each shows what belongs there, in order. The labels on the
way to a query are those of its category. -/
theorem registered_arranged (queries : List Registered) :
    ∃ labelsOf : Query → List (Nat × String),
      (∀ q labels,
        Labelled ((q.category.getD "").toList.splitOn '/') labels ↔ labelsOf q = labels) ∧
      Arranges labelsOf (shown queries) (ofRegistered queries) := by
  refine ⟨fun q => segments (q.category.getD ""), fun q labels => labelled_iff, ?_⟩
  generalize hlabels : (fun q : Query => segments (q.category.getD "")) = labelsOf
  have hfiles := Draft.files_root (shown queries) labelsOf
  have hmenu : ofRegistered queries =
      ((shown queries).foldl (fun d q => d.add q (labelsOf q)) Draft.root).finish := by
    rw [← hlabels]
    rfl
  rw [hmenu]
  have hplaced := files_placed hfiles
  rw [List.map_map] at hplaced
  refine ⟨.here (finish_isQuery _), hplaced, fun q hq => ?_, fun names node hleads => ?_⟩
  · exact leads_of_placedAll (finish_isQuery _)
      (hplaced.mem_iff.mpr (List.mem_map_of_mem (f := fun q => (place labelsOf q, q)) hq))
  · obtain ⟨inner, rfl, hfilled, hinner⟩ := leads_finish hleads hfiles
    exact finish_shows hfilled hinner

end HeapQuery.Menu
