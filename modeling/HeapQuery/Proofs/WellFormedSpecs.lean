import HeapQuery.Proofs.CatalogRuns
import HeapQuery.Proofs.Labels
import HeapQuery.Proofs.TypedNames

namespace HeapQuery

/-! ## Arguments -/

namespace ArgumentSpec

/-- A flag without the dash that may stand in front of it. -/
def bareFlag (flag : String) : String :=
  match flag.toList with
  | '-' :: rest => String.ofList rest
  | _ => flag

/-- The flag that the author chose; without a choice it is the name in small letters. -/
def chosenFlag (spec : ArgumentSpec) : Option String :=
  match spec.flag with
  | .derived => some (Text.lower spec.name)
  | .unflagged => none
  | .named flag => some (bareFlag flag)

/-- A default has the type of the argument, element by element where there are several, unless it
is put off. -/
def DefaultSuits (spec : ArgumentSpec) (value : Value) : Prop :=
  value.isDeferred = true ∨
    if spec.multiplicity = .single then spec.type.accepts value = true
    else ∀ item ∈ value.elements, spec.type.accepts item = true

structure WellFormed (spec : ArgumentSpec) : Prop where
  named : Text.isBlankText spec.name = false
  flag_word : ∀ flag, spec.flag = .named flag →
    bareFlag flag ≠ "" ∧ Text.hasBlank (bareFlag flag) = false
  switch_flagged : spec.type = .boolean → spec.flag ≠ .unflagged
  patterns_advised : spec.advice = some .classNamePattern → spec.type = .pattern
  files_advised : spec.advice = some .directory ∨ spec.advice = some .save → spec.type = .file
  default_suits : ∀ value ∈ spec.default, spec.DefaultSuits value

/-- The default in the shape of the argument: a list where there are several values. -/
def shapedDefault (spec : ArgumentSpec) (value : Value) : Value :=
  if value.isDeferred || spec.multiplicity == .single then value else .list value.elements

def described (spec : ArgumentSpec) (id : ArgumentId) : Argument :=
  ⟨id, spec.name, spec.chosenFlag, spec.mandatory, spec.multiplicity, spec.type, spec.advice,
    spec.default.map spec.shapedDefault, spec.help⟩

variable {spec : ArgumentSpec}

theorem word_eq_some_iff (bare : List Char) :
    (if bare.isEmpty || bare.any Text.isBlank then none
      else some (some (String.ofList bare))) = some chosen ↔
    (String.ofList bare ≠ "" ∧ Text.hasBlank (String.ofList bare) = false) ∧
      some (String.ofList bare) = chosen := by
  cases hempty : bare.isEmpty <;> cases hblank : bare.any Text.isBlank <;>
    simp_all [Text.hasBlank]

theorem flag?_eq_some_iff : spec.flag? = some chosen ↔
    (∀ typed, spec.flag = .named typed →
      bareFlag typed ≠ "" ∧ Text.hasBlank (bareFlag typed) = false) ∧ spec.chosenFlag = chosen := by
  unfold flag? chosenFlag
  cases hchoice : spec.flag with
  | derived => simp
  | unflagged => simp
  | named typed =>
    simp only [FlagChoice.named.injEq, forall_eq', word_eq_some_iff]
    split
    · rename_i rest hdash
      simp only [bareFlag, hdash]
    · rename_i hplain
      have hbare : bareFlag typed = typed := by
        unfold bareFlag
        split
        · rename_i rest hdash
          exact absurd hdash (hplain rest)
        · rfl
      rw [hbare, String.ofList_toList]

theorem adviceFault?_eq_none_iff : spec.adviceFault? = none ↔
    (spec.advice = some .classNamePattern → spec.type = .pattern) ∧
    (spec.advice = some .directory ∨ spec.advice = some .save → spec.type = .file) := by
  unfold adviceFault?
  split <;> simp_all

theorem default?_eq_some_iff : spec.default? = some kept ↔
    (∀ value ∈ spec.default, spec.DefaultSuits value) ∧
      spec.default.map spec.shapedDefault = kept := by
  unfold default?
  split
  · rename_i hgiven
    simp [hgiven]
  · rename_i hgiven
    simp [hgiven, DefaultSuits, shapedDefault, Value.isDeferred]
  · rename_i value hput hgiven
    have hready : value.isDeferred = false := by
      cases value with
      | deferred serial usage product => exact absurd rfl (hput serial usage product)
      | _ => rfl
    simp only [hgiven, Option.mem_some, forall_eq', Option.map_some, DefaultSuits, shapedDefault,
      hready, Bool.false_eq_true, false_or, Bool.false_or, beq_iff_eq]
    by_cases hsingle : spec.multiplicity = .single
    · simp [hsingle]
    · simp [hsingle]

/-- An argument is built exactly from a well-formed spec, and it is the one that the spec
describes. -/
theorem build_ok_iff {query : String} {id : ArgumentId} :
    spec.build query id = .ok a ↔ spec.WellFormed ∧ spec.described id = a := by
  constructor
  · intro h
    obtain ⟨chosen, kept, hname, hflag, hswitch, hadvice, hdefault, rfl⟩ := build_ok h
    obtain ⟨hword, rfl⟩ := flag?_eq_some_iff.mp hflag
    obtain ⟨hpatterns, hfiles⟩ := adviceFault?_eq_none_iff.mp hadvice
    obtain ⟨hsuits, rfl⟩ := default?_eq_some_iff.mp hdefault
    refine ⟨⟨hname, hword, ?_, hpatterns, hfiles, hsuits⟩, rfl⟩
    intro hboolean hunflagged
    simp [ValueType.isBoolean, hboolean, chosenFlag, hunflagged] at hswitch
  · rintro ⟨⟨hname, hword, hswitch, hpatterns, hfiles, hsuits⟩, rfl⟩
    have hflag := flag?_eq_some_iff.mpr ⟨hword, rfl⟩
    have hadvice := adviceFault?_eq_none_iff.mpr ⟨hpatterns, hfiles⟩
    have hdefault := default?_eq_some_iff.mpr ⟨hsuits, rfl⟩
    have hflagged : (spec.type.isBoolean && spec.chosenFlag.isNone) = false := by
      rw [Bool.and_eq_false_imp]
      intro hboolean
      have hchoice := hswitch (beq_iff_eq.mp hboolean)
      cases hflag : spec.flag with
      | unflagged => exact absurd hflag hchoice
      | derived => simp [chosenFlag, hflag]
      | named typed => simp [chosenFlag, hflag]
    unfold build
    simp only [hasEmptyName, hname, hflag, hadvice, hdefault, hflagged]
    rfl

end ArgumentSpec

/-! ## Queries -/

namespace QuerySpec

/-- The text that names the query: the command name or, without one, the display name behind its
sort key. The type stands in for a display name. -/
inductive Names (spec : QuerySpec) : String → Prop
  | command : spec.commandName = some text → Names spec text
  | display : spec.commandName = none → spec.name = some label →
      Label.Parts label.toList (sortKey, text) → Names spec text
  | type : spec.commandName = none → spec.name = none →
      Label.Parts spec.command.simpleName.toList (sortKey, text) → Names spec text

/-- The text without the white space around it, in small letters and with underscores for spaces. -/
def Identifies (spec : QuerySpec) (identifier : String) : Prop :=
  ∃ text inner, spec.Names text ∧ Text.Trims text.toList inner ∧
    identifier.toList = (Text.lower (String.ofList inner)).toList.map fun c =>
      if c = ' ' then '_' else c

/-- What the spec of a query has to be. Flags may not differ in their case only. -/
structure WellFormed (spec : QuerySpec) : Prop where
  identifier_word : ∃ identifier, spec.Identifies identifier ∧ identifier ≠ "" ∧
    ∀ c ∈ identifier.toList, ¬ Text.IsWhite c
  arguments : ∀ a ∈ spec.arguments, a.WellFormed
  names : (spec.arguments.map fun a => a.name).Nodup
  flags : ((spec.arguments.filterMap ArgumentSpec.chosenFlag).map Text.lower).Nodup
  positional : spec.arguments.countP (fun a => a.flag == .unflagged) ≤ 1

theorem names_iff {spec : QuerySpec} {text : String} : spec.Names text ↔
    spec.commandName.getD (Label.split spec.rawName).2 = text := by
  have hparts (label : String) : (∃ key, Label.Parts label.toList (key, text)) ↔
      (Label.split label).2 = text := by
    simp [Label.parts_iff, Prod.ext_iff]
  constructor
  · rintro (hcommand | ⟨hcommand, hname, hlabel⟩ | ⟨hcommand, hname, hlabel⟩)
    · rw [hcommand, Option.getD_some]
    · rw [hcommand, rawName, hname]
      exact (hparts _).mp ⟨_, hlabel⟩
    · rw [hcommand, rawName, hname]
      exact (hparts _).mp ⟨_, hlabel⟩
  · intro h
    cases hcommand : spec.commandName with
    | some command =>
      rw [hcommand, Option.getD_some] at h
      exact .command (h ▸ hcommand)
    | none =>
      rw [hcommand, Option.getD_none, rawName] at h
      obtain ⟨key, hlabel⟩ := (hparts _).mpr h
      cases hname : spec.name with
      | some label =>
        rw [hname] at hlabel
        exact .display hcommand hname hlabel
      | none =>
        rw [hname] at hlabel
        exact .type hcommand hname hlabel

theorem identifies_iff {spec : QuerySpec} {identifier : String} :
    spec.Identifies identifier ↔ spec.identifier = identifier := by
  have hspaces (cs : List Char) : (cs.map fun c => if c == ' ' then '_' else c) =
      cs.map fun c => if c = ' ' then '_' else c := by
    simp only [beq_iff_eq]
  constructor
  · rintro ⟨text, inner, hnames, htrims, hid⟩
    rw [QuerySpec.identifier, names_iff.mp hnames, hspaces, Text.trim, Text.trims_iff.mp htrims,
      ← hid, String.ofList_toList]
  · rintro rfl
    refine ⟨_, _, names_iff.mpr rfl, Text.trims_iff.mpr rfl, ?_⟩
    rw [QuerySpec.identifier, hspaces, String.toList_ofList, Text.trim]

theorem identifier_word_iff {spec : QuerySpec} :
    (∃ identifier, spec.Identifies identifier ∧ identifier ≠ "" ∧
      ∀ c ∈ identifier.toList, ¬ Text.IsWhite c) ↔
    spec.identifier ≠ "" ∧ Text.hasBlank spec.identifier = false := by
  simp only [identifies_iff, exists_eq_left', Text.hasBlank, List.any_eq_false, Text.isBlank_iff]

def describedFrom (registration : Nat) (position : Nat) (specs : List ArgumentSpec) :
    List Argument :=
  specs.mapIdx fun i s => s.described ⟨registration, position + i⟩

variable {query : String} {n position : Nat} {specs : List ArgumentSpec} {built : List Argument}

theorem describedFrom_cons (s : ArgumentSpec) : describedFrom n position (s :: specs) =
    s.described ⟨n, position⟩ :: describedFrom n (position + 1) specs := by
  simp [describedFrom, List.mapIdx_cons, Nat.add_assoc, Nat.add_comm 1]

theorem describedFrom_map {g : Argument → β} {g' : ArgumentSpec → β}
    (h : ∀ s id, g (ArgumentSpec.described s id) = g' s) :
    (describedFrom n position specs).map g = specs.map g' := by
  induction specs generalizing position with
  | nil => rfl
  | cons s specs ih => rw [describedFrom_cons, List.map_cons, List.map_cons, h, ih]

theorem buildArguments_ok_iff : buildArguments query n position specs = .ok built ↔
    (∀ s ∈ specs, s.WellFormed) ∧ describedFrom n position specs = built := by
  induction specs generalizing position built with
  | nil => simp [buildArguments, describedFrom]
  | cons s specs ih =>
    simp only [buildArguments, bind_ok, ArgumentSpec.build_ok_iff, ih, List.forall_mem_cons,
      describedFrom_cons, pure, Except.pure, Except.ok.injEq]
    constructor
    · rintro ⟨a, ⟨hs, rfl⟩, rest, ⟨hspecs, rfl⟩, rfl⟩
      exact ⟨⟨hs, hspecs⟩, rfl⟩
    · rintro ⟨⟨hs, hspecs⟩, rfl⟩
      exact ⟨_, ⟨hs, rfl⟩, _, ⟨hspecs, rfl⟩, rfl⟩

theorem checkDistinct_of_apart
    (hseen : ∀ a ∈ built, a.name ∉ names ∧ ∀ f ∈ a.flag, Text.lower f ∉ flags)
    (hapart : built.Pairwise Argument.Apart) : checkDistinct query names flags built = .ok () := by
  induction built generalizing names flags with
  | nil => rfl
  | cons a rest ih =>
    obtain ⟨⟨hname, hflag⟩, hrest⟩ := List.forall_mem_cons.mp hseen
    obtain ⟨hothers, hpairs⟩ := List.pairwise_cons.mp hapart
    have hnames : ∀ b ∈ rest, b.name ∉ a.name :: names := by
      intro b hb hm
      rcases List.mem_cons.mp hm with he | hm
      · exact (hothers b hb).1 he.symm
      · exact (hrest b hb).1 hm
    simp only [checkDistinct, List.contains_eq_mem, hname, decide_false, Bool.false_eq_true,
      ↓reduceIte]
    cases hown : a.flag with
    | none =>
      simp only [Option.map_none]
      exact ih (fun b hb => ⟨hnames b hb, (hrest b hb).2⟩) hpairs
    | some f =>
      simp only [Option.map_some, hflag f hown, decide_false, Bool.false_eq_true, ↓reduceIte]
      refine ih (fun b hb => ⟨hnames b hb, fun g hg hm => ?_⟩) hpairs
      rcases List.mem_cons.mp hm with he | hm
      · exact (hothers b hb).2 f hown g hg he.symm
      · exact (hrest b hb).2 g hg hm

/-- Arguments are told apart by their names and by their flags in small letters. -/
theorem pairwise_apart_iff : built.Pairwise Argument.Apart ↔
    (built.map Argument.name).Nodup ∧
      ((built.filterMap Argument.flag).map Text.lower).Nodup := by
  unfold List.Nodup
  rw [List.pairwise_map, List.pairwise_map, List.pairwise_filterMap, ← List.pairwise_and_iff]
  rfl

theorem checkDistinct_ok_iff : checkDistinct query [] [] built = .ok () ↔
    (built.map Argument.name).Nodup ∧
      ((built.filterMap Argument.flag).map Text.lower).Nodup := by
  rw [← pairwise_apart_iff]
  constructor
  · intro h
    exact (checkDistinct_apart h).2
  · exact checkDistinct_of_apart (by simp)

theorem checkPositional_ok_iff :
    checkPositional query built = .ok () ↔ built.countP Argument.isPositional ≤ 1 := by
  unfold checkPositional
  split
  · rename_i hmany
    simp [Nat.not_le_of_gt hmany]
  · rename_i hfew
    simp [Nat.le_of_not_lt hfew]

/-- What is checked of the arguments together is said of their specs. -/
theorem checked_iff : checkDistinct query [] [] (describedFrom n position specs) = .ok () ∧
    checkPositional query (describedFrom n position specs) = .ok () ↔
      (specs.map fun s => s.name).Nodup ∧
      ((specs.filterMap ArgumentSpec.chosenFlag).map Text.lower).Nodup ∧
      specs.countP (fun s => s.flag == .unflagged) ≤ 1 := by
  have hnames : (describedFrom n position specs).map Argument.name = specs.map fun s => s.name :=
    describedFrom_map fun _ _ => rfl
  have hchosen : (describedFrom n position specs).map Argument.flag =
      specs.map ArgumentSpec.chosenFlag := describedFrom_map fun _ _ => rfl
  have hflags : (describedFrom n position specs).filterMap Argument.flag =
      specs.filterMap ArgumentSpec.chosenFlag := by
    have hall := congrArg (List.filterMap id) hchosen
    rwa [List.filterMap_map, List.filterMap_map] at hall
  have hunflagged (s : ArgumentSpec) : s.chosenFlag.isNone = (s.flag == .unflagged) := by
    unfold ArgumentSpec.chosenFlag
    cases s.flag <;> rfl
  have hcount : (describedFrom n position specs).countP Argument.isPositional =
      specs.countP fun s => s.flag == .unflagged := by
    have hall := congrArg (List.countP Option.isNone) hchosen
    rw [List.countP_map, List.countP_map] at hall
    refine hall.trans (List.countP_congr fun s _ => ?_)
    rw [Function.comp_apply, hunflagged]
  rw [checkDistinct_ok_iff, checkPositional_ok_iff, hnames, hflags, hcount, and_assoc]

variable {spec : QuerySpec}

def translatedHelp (spec : QuerySpec) (t : Translations) (a : ArgumentSpec) : Option String :=
  (t.get? (spec.key ++ "." ++ a.name ++ ".help")).or a.help

/-- Translation changes the help of arguments and nothing else. -/
theorem translatedArguments_eq (spec : QuerySpec) (t : Translations) :
    spec.translatedArguments t =
      spec.arguments.map fun a => { a with help := spec.translatedHelp t a } := by
  unfold translatedArguments translatedHelp
  refine List.map_congr_left fun a _ => ?_
  split
  · rename_i help hfound
    simp only [hfound, Option.some_or]
  · rename_i hmissing
    simp only [hmissing, Option.none_or]

/-- A query is built exactly from a well-formed spec, with the arguments that the spec
describes. -/
theorem build_ok_iff : (∃ q, spec.build t n = .ok q) ↔ spec.WellFormed := by
  have hwell : (∀ s ∈ spec.translatedArguments t, s.WellFormed) ↔
      ∀ s ∈ spec.arguments, s.WellFormed := by
    rw [translatedArguments_eq, List.forall_mem_map]
    exact forall₂_congr fun s _ => ⟨fun h => ⟨h.1, h.2, h.3, h.4, h.5, h.6⟩,
      fun h => ⟨h.1, h.2, h.3, h.4, h.5, h.6⟩⟩
  have hnames : (spec.translatedArguments t).map (fun s => s.name) =
      spec.arguments.map fun s => s.name := by
    rw [translatedArguments_eq, List.map_map]
    rfl
  have hflags : (spec.translatedArguments t).filterMap ArgumentSpec.chosenFlag =
      spec.arguments.filterMap ArgumentSpec.chosenFlag := by
    rw [translatedArguments_eq, List.filterMap_map]
    rfl
  have hcount : (spec.translatedArguments t).countP (fun s => s.flag == .unflagged) =
      spec.arguments.countP fun s => s.flag == .unflagged := by
    rw [translatedArguments_eq, List.countP_map]
    rfl
  constructor
  · rintro ⟨q, h⟩
    obtain ⟨built, hne, hblank, hbuilt, hdistinct, hpositional, _⟩ := build_ok h
    obtain ⟨harguments, rfl⟩ := buildArguments_ok_iff.mp hbuilt
    obtain ⟨hn, hf, hc⟩ := checked_iff.mp ⟨hdistinct, hpositional⟩
    exact ⟨identifier_word_iff.mpr ⟨hne, hblank⟩, hwell.mp harguments, hnames ▸ hn, hflags ▸ hf,
      hcount ▸ hc⟩
  · rintro ⟨hword, harguments, hn, hf, hc⟩
    obtain ⟨hne, hblank⟩ := identifier_word_iff.mp hword
    have hbuilt : buildArguments spec.identifier n 0 (spec.translatedArguments t) =
        .ok (describedFrom n 0 (spec.translatedArguments t)) :=
      buildArguments_ok_iff.mpr ⟨hwell.mpr harguments, rfl⟩
    obtain ⟨hdistinct, hpositional⟩ := checked_iff.mpr ⟨hnames ▸ hn, hflags ▸ hf, hcount ▸ hc⟩
    have hid : (spec.identifier.isEmpty || Text.hasBlank spec.identifier) = false := by
      rw [hblank, Bool.or_false, String.isEmpty_eq_false_iff]
      exact hne
    unfold build
    simp only [hid, Bool.false_eq_true, ↓reduceIte]
    exact ⟨_, bind_ok.mpr ⟨_, hbuilt, bind_ok.mpr ⟨_, hdistinct,
      bind_ok.mpr ⟨_, hpositional, rfl⟩⟩⟩⟩

theorem build_describes (h : spec.build t n = .ok q) : q.identifier = spec.identifier ∧
    q.arguments = describedFrom n 0 (spec.translatedArguments t) := by
  obtain ⟨built, _, _, hbuilt, _, _, rfl⟩ := build_ok h
  obtain ⟨_, rfl⟩ := buildArguments_ok_iff.mp hbuilt
  exact ⟨rfl, rfl⟩

end QuerySpec

theorem Query.WellMade.finds_name {q : Query} (hq : q.WellMade) (ha : a ∈ q.arguments) :
    q.argumentNamed? a.name = some a := by
  unfold argumentNamed?
  cases hfind : q.arguments.find? fun b => b.name == a.name with
  | none => exact absurd (List.find?_eq_none.mp hfind a ha) (by simp)
  | some b =>
    have hname : b.name = a.name := by simpa using List.find?_some hfind
    by_contra hne
    have hapart : b.Apart a :=
      hq.apart.forall (List.mem_of_find?_eq_some hfind) ha fun he => hne (congrArg some he)
    exact hapart.1 hname

namespace Registry

/-- A catalog without queries registers exactly the well-formed specs. The query has the arguments
that the spec describes, in their order, and finds each by its name and by its flag. -/
theorem wellFormed_registered {r : Registry} (h : r.queries = []) (spec : QuerySpec) :
    ((∃ q r', r.register spec = .ok (q, r')) ↔ spec.WellFormed) ∧
    ∀ q r', r.register spec = .ok (q, r') → spec.Identifies q.identifier ∧
      q.arguments =
        QuerySpec.describedFrom r.next 0 (spec.translatedArguments r.translations) ∧
      ∀ a ∈ q.arguments, q.argumentNamed? a.name = some a ∧
        ∀ flag ∈ a.flag, q.argumentFlagged? flag = some a := by
  constructor
  · rw [← QuerySpec.build_ok_iff (t := r.translations) (n := r.next)]
    constructor
    · rintro ⟨q, r', hreg⟩
      exact ⟨q, (register_ok hreg).1⟩
    · rintro ⟨q, hbuild⟩
      obtain ⟨r', hreg, _⟩ := register_free hbuild (by simp [h])
      exact ⟨q, r', hreg⟩
  · intro q r' hreg
    obtain ⟨hbuild, _⟩ := register_ok hreg
    obtain ⟨hid, harguments⟩ := QuerySpec.build_describes hbuild
    have hmade := QuerySpec.build_wellMade hbuild
    exact ⟨QuerySpec.identifies_iff.mpr hid.symm, harguments, fun a ha =>
      ⟨hmade.finds_name ha, fun flag hflag => hmade.finds_flag ha hflag⟩⟩

/-- The histogram query is well-formed, and found by the flag that the name of an argument gives. -/
theorem histogram_wellFormed : empty.queries = [] ∧ Heap.histogram.WellFormed ∧
    ∃ q r', empty.register Heap.histogram = .ok (q, r') ∧
      ∃ a ∈ q.arguments, a.flag = some "groupby" ∧ q.argumentFlagged? "groupby" = some a := by
  obtain ⟨hiff, hregistered⟩ := wellFormed_registered (r := empty) rfl Heap.histogram
  obtain ⟨q, r', hreg⟩ : ∃ q r', empty.register Heap.histogram = .ok (q, r') := ⟨_, _, rfl⟩
  obtain ⟨_, _, hfound⟩ := hregistered q r' hreg
  obtain ⟨a, ha, hflag⟩ : ∃ a ∈ q.arguments, a.flag = some "groupby" := by
    obtain ⟨rfl, rfl⟩ := Prod.mk.inj (Except.ok.inj hreg)
    exact ⟨_, .tail _ (.tail _ (.head _)), rfl⟩
  exact ⟨rfl, hiff.mp ⟨q, r', hreg⟩, q, r', hreg, a, ha, hflag, (hfound a ha).2 _ hflag⟩

end Registry

end HeapQuery
