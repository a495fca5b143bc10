import HeapQuery.Path

namespace HeapQuery.Path

def IsName (piece : List Char) : Prop := piece ≠ [] ∧ piece ≠ ['.'] ∧ '/' ∉ piece

def names (cs : List Char) : List (List Char) := (pieces cs).filter fun p => !p.isEmpty && p != ['.']

theorem parts_eq (path : String) : parts path = (names path.toList).map String.ofList := rfl

theorem slash_not_in_piece (cs : List Char) : ∀ p ∈ pieces cs, '/' ∉ p := by
  unfold pieces
  induction cs with
  | nil => simp
  | cons c cs ih =>
    rw [List.splitOn_cons_eq_if_modifyHead]
    split
    · simpa using ih
    · rename_i hc
      cases hsplit : cs.splitOn '/' with
      | nil => exact absurd hsplit (List.splitOn_ne_nil '/' cs)
      | cons p ps =>
        rw [hsplit] at ih
        intro q hq
        rcases List.mem_cons.mp hq with rfl | hq
        · have hp := ih p List.mem_cons_self
          have hne : '/' ≠ c := fun he => hc (by simp [← he])
          simp [hne, hp]
        · exact ih q (List.mem_cons_of_mem _ hq)

theorem isName_of_names (cs : List Char) : ∀ p ∈ names cs, IsName p := by
  intro p hp
  obtain ⟨hm, hkept⟩ := List.mem_filter.mp hp
  simp only [Bool.and_eq_true, Bool.not_eq_true', List.isEmpty_eq_false_iff, bne_iff_ne] at hkept
  exact ⟨hkept.1, hkept.2, slash_not_in_piece cs p hm⟩

/-- A slash separates the components on its two sides. -/
theorem names_slash (xs ys : List Char) : names (xs ++ '/' :: ys) = names xs ++ names ys := by
  unfold names pieces
  rw [List.splitOn_append_cons_self, List.filter_append]

theorem names_nil : names [] = [] := rfl

variable {ps : List (List Char)}

theorem pieces_joined (h : ∀ p ∈ ps, IsName p) (hne : ps ≠ []) :
    pieces (['/'].intercalate ps) = ps :=
  List.splitOn_intercalate '/' (fun p hp => (h p hp).2.2) hne

theorem names_joined (h : ∀ p ∈ ps, IsName p) : names (['/'].intercalate ps) = ps := by
  by_cases hne : ps = []
  · subst hne
    rfl
  · unfold names
    rw [pieces_joined h hne, List.filter_eq_self]
    intro p hp
    obtain ⟨hempty, hdot, _⟩ := h p hp
    simp [hempty, hdot]

/-- Joined names neither begin nor end with a slash. -/
theorem joined_ends (h : ∀ p ∈ ps, IsName p) :
    (['/'].intercalate ps).head? ≠ some '/' ∧ (['/'].intercalate ps).getLast? ≠ some '/' := by
  by_cases hne : ps = []
  · subst hne
    exact ⟨by simp, by simp⟩
  have hpieces := pieces_joined h hne
  constructor
  · intro hhead
    obtain ⟨rest, hrest⟩ := List.head?_eq_some_iff.mp hhead
    rw [hrest, pieces, List.splitOn_cons_eq_if_modifyHead, if_pos (by rfl)] at hpieces
    exact (h [] (by rw [← hpieces]; exact List.mem_cons_self)).1 rfl
  · intro hlast
    obtain ⟨start, hstart⟩ := List.getLast?_eq_some_iff.mp hlast
    rw [hstart, pieces, List.splitOn_append_cons_self] at hpieces
    exact (h [] (by rw [← hpieces]; simp)).1 rfl

theorem joined_eq_nil (h : ∀ p ∈ ps, IsName p) (he : ['/'].intercalate ps = []) : ps = [] := by
  have hnames := names_joined h
  rw [he] at hnames
  exact hnames.symm

/-- Exactly two slashes at the start stay. -/
def rootOf (cs : List Char) : List Char :=
  if ['/', '/'].isPrefixOf cs && !(['/', '/', '/'].isPrefixOf cs) then ['/', '/'] else ['/']

def endOf (cs : List Char) : List Char :=
  if cs.getLast? == some '/' && !(names cs).isEmpty then ['/'] else []

theorem absolute_toList {path : String} (h : path ≠ "") : (absolute path).toList =
    rootOf path.toList ++ (['/'].intercalate (names path.toList) ++ endOf path.toList) := by
  have hne : path.toList.isEmpty = false := by simpa using h
  unfold absolute
  simp only [hne, Bool.false_eq_true, ↓reduceIte, parts_eq, String.toList_append,
    String.toList_intercalate, List.map_map, List.isEmpty_map, rootOf, endOf, List.append_assoc]
  have hnames : (names path.toList).map (String.toList ∘ String.ofList) = names path.toList := by
    simp [Function.comp_def]
  rw [hnames]
  congr 1
  · split <;> rfl
  · congr 1
    split <;> rfl

theorem absolute_head {path : String} (h : path ≠ "") :
    ∃ rest, (absolute path).toList = '/' :: rest := by
  rw [absolute_toList h]
  unfold rootOf
  split <;> exact ⟨_, rfl⟩

theorem absolute_ne_empty {path : String} (h : path ≠ "") : absolute path ≠ "" := by
  intro he
  obtain ⟨rest, hrest⟩ := absolute_head h
  rw [he] at hrest
  cases hrest

structure IsLayout (root : List Char) (ps : List (List Char)) (last : List Char) : Prop where
  start : root = ['/'] ∨ root = ['/', '/']
  named : ∀ p ∈ ps, IsName p
  ending : last = [] ∨ last = ['/'] ∧ ps ≠ []

theorem layout_of_path (cs : List Char) : IsLayout (rootOf cs) (names cs) (endOf cs) := by
  refine ⟨?_, isName_of_names cs, ?_⟩
  · unfold rootOf
    split
    · exact .inr rfl
    · exact .inl rfl
  · unfold endOf
    split
    · rename_i hkept
      exact .inr ⟨rfl, by simpa using (Bool.and_eq_true_iff.mp hkept).2⟩
    · exact .inl rfl

section

variable {root last : List Char}

/-- Behind the slashes at the start there are the names, and no other slash first. -/
theorem IsLayout.body (h : IsLayout root ps last) :
    names (['/'].intercalate ps ++ last) = ps ∧
    (['/'].intercalate ps ++ last).head? ≠ some '/' := by
  have hjoined := names_joined h.named
  obtain ⟨hhead, _⟩ := joined_ends h.named
  rcases h.ending with rfl | ⟨rfl, hne⟩
  · rw [List.append_nil]
    exact ⟨hjoined, hhead⟩
  · rw [names_slash, hjoined, names_nil, List.append_nil]
    refine ⟨rfl, ?_⟩
    obtain ⟨c, cs, hcons⟩ := List.exists_cons_of_ne_nil (mt (joined_eq_nil h.named) hne)
    rw [hcons] at hhead ⊢
    exact hhead

theorem IsLayout.names_eq (h : IsLayout root ps last) :
    names (root ++ (['/'].intercalate ps ++ last)) = ps := by
  rcases h.start with rfl | rfl
  · exact (names_slash [] _).trans h.body.1
  · exact (names_slash [] _).trans ((names_slash [] _).trans h.body.1)

theorem IsLayout.rootOf_eq (h : IsLayout root ps last) :
    rootOf (root ++ (['/'].intercalate ps ++ last)) = root := by
  have hno := h.body.2
  unfold rootOf
  cases hchars : ['/'].intercalate ps ++ last with
  | nil => rcases h.start with rfl | rfl <;> rfl
  | cons c cs =>
    have hc : '/' ≠ c := by
      rintro rfl
      exact hno (by rw [hchars]; rfl)
    rcases h.start with rfl | rfl <;> simp [hc]

theorem IsLayout.endOf_eq (h : IsLayout root ps last) :
    endOf (root ++ (['/'].intercalate ps ++ last)) = last := by
  unfold endOf
  rw [h.names_eq]
  rcases h.ending with rfl | ⟨rfl, hne⟩
  · by_cases hps : ps = []
    · simp [hps]
    · obtain ⟨c, cs, hcons⟩ := List.exists_cons_of_ne_nil (mt (joined_eq_nil h.named) hps)
      have hback : (root ++ (['/'].intercalate ps ++ [])).getLast? =
          (['/'].intercalate ps).getLast? := by
        rw [List.append_nil, hcons]
        simp [List.getLast?_append, List.getLast?_cons]
      rw [hback]
      simp [(joined_ends h.named).2]
  · simp [hne, List.getLast?_append]

end

/-- The absolute form is its own absolute form. -/
theorem absolute_absolute (path : String) : absolute (absolute path) = absolute path := by
  by_cases h : path = ""
  · subst h
    rfl
  apply String.toList_inj.mp
  have hlayout := layout_of_path path.toList
  rw [absolute_toList (absolute_ne_empty h), absolute_toList h, hlayout.names_eq,
    hlayout.rootOf_eq, hlayout.endOf_eq]

end HeapQuery.Path
