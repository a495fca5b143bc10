import HeapQuery.Proofs.ArgumentGroups
import HeapQuery.Proofs.TokenText
import HeapQuery.Proofs.ValueTexts

namespace HeapQuery

open CommandLine (Group)

namespace Argument

variable {a : Argument}

/-- The value can be written. Empty text would be read as null, a dash in front as a flag where
none is expected, and a semicolon would end a list. -/
def canWrite (a : Argument) (inList : Bool) (value : Value) : Bool :=
  let text := a.type.textOf value
  !(text.isEmpty || ((inList || a.isPositional) && (Token.word text).flag?.isSome) ||
    (inList && text.toList.getLast? == some ';'))

def token (a : Argument) (value : Value) : Token := .word (a.type.textOf value)

def group? (a : Argument) : Option Value → Option Group
  | none => if a.isMultiple || a.isBoolean then none else some ⟨a, a.flag, [.null], none⟩
  | some (.deferred serial usage product) =>
    some ⟨a, a.flag, Token.ofLine usage, some (.deferred serial usage product)⟩
  | some value =>
    if a.isBoolean then
      match value, a.flag with
      | .boolean true, some flag => some ⟨a, some flag, [], some (.boolean true)⟩
      | _, _ => none
    else if a.isMultiple then
      match value.elements.filter (a.canWrite true) with
      | [] => none
      | items => some ⟨a, a.flag, items.map a.token, some (.list (items.map Value.written))⟩
    else if a.canWrite false value then some ⟨a, a.flag, [a.token value], some value.written⟩
    else none

/-- The text of the value is made of tokens: nothing in a list was put off, and what was put off
says by itself how it is spelled. -/
def Spelled : Value → Prop
  | .deferred _ usage _ => Token.ofLine usage ≠ [] ∧ usage = Token.spell (Token.ofLine usage)
  | value => ∀ item ∈ value.elements, item.isDeferred = false

theorem spelled_plain {value : Value} (h : value.isDeferred = false) :
    Spelled value ↔ ∀ item ∈ value.elements, item.isDeferred = false := by
  cases value with
  | deferred => cases h
  | _ => rfl

def SimpleFlag (a : Argument) : Prop := ∀ flag ∈ a.flag, Token.isSimple flag = true

theorem SimpleFlag.dashed {flag : String} (h : a.SimpleFlag) (hown : a.flag = some flag) :
    Token.isSimple ("-" ++ flag) = true := by
  have hflag := h flag hown
  simp only [Token.isSimple, String.toList_append, List.all_append, Bool.and_eq_true]
  exact ⟨by decide, hflag⟩

theorem word_eq (inList : Bool) (value : Value) :
    a.word? inList value = if a.canWrite inList value then some (a.token value).render else none := by
  simp only [word?, canWrite, token, Bool.not_eq_true']
  split
  · rename_i h
    simp [h]
  · rename_i h
    rw [Bool.not_eq_true] at h
    simp [h, Token.render]

theorem spell_group {body : List Token} {value : Option Value} (h : a.SimpleFlag) (hbody : body ≠ []) :
    Token.spell (Group.tokens ⟨a, a.flag, body, value⟩) = a.flagText ++ Token.spell body := by
  cases hflag : a.flag with
  | none => simp [Group.tokens, flagText, hflag]
  | some flag =>
    have hsimple := h.dashed hflag
    simp only [Group.tokens, flagText, hflag]
    rw [Token.spell_cons _ hbody, Token.render_simple hsimple]

theorem group_plain {value : Value} (h : value.isDeferred = false) :
    a.group? (some value) =
      if a.isBoolean then
        match value, a.flag with
        | .boolean true, some flag => some ⟨a, some flag, [], some (.boolean true)⟩
        | _, _ => none
      else if a.isMultiple then
        match value.elements.filter (a.canWrite true) with
        | [] => none
        | items => some ⟨a, a.flag, items.map a.token, some (.list (items.map Value.written))⟩
      else if a.canWrite false value then some ⟨a, a.flag, [a.token value], some value.written⟩
      else none := by
  cases value with
  | deferred => cases h
  | _ => rfl

theorem valueUsage_plain {value : Value} (h : value.isDeferred = false) :
    a.valueUsage (some value) =
      if a.isBoolean then
        match value, a.flag with
        | .boolean true, some flag => some ("-" ++ flag)
        | _, _ => none
      else (a.valueText? value).map (a.flagText ++ ·) := by
  cases value with
  | deferred => cases h
  | _ => rfl

theorem elementTexts_eq {values : List Value} (h : ∀ value ∈ values, value.isDeferred = false) :
    values.filterMap a.elementText? =
      (values.filter (a.canWrite true)).map fun value => (a.token value).render := by
  induction values with
  | nil => rfl
  | cons value values ih =>
    have hplain := h value List.mem_cons_self
    have helement : a.elementText? value = a.word? true value := by
      cases value with
      | deferred => cases hplain
      | _ => rfl
    have hrest := ih fun v hv => h v (List.mem_cons_of_mem _ hv)
    rw [List.filterMap_cons, helement, word_eq, List.filter_cons, hrest]
    cases a.canWrite true value <;> rfl

/-- The text that sets an argument spells the group that sets it. -/
theorem valueUsage_eq {value : Option Value} (hflag : a.SimpleFlag)
    (h : ∀ v ∈ value, Spelled v) :
    a.valueUsage value = (a.group? value).map fun g => Token.spell g.tokens := by
  cases value with
  | none =>
    simp only [valueUsage, group?]
    split
    · rfl
    · rw [Option.map_some, spell_group hflag (by simp)]
      rfl
  | some value =>
    cases hdeferred : value.isDeferred with
    | true =>
      cases value with
      | deferred serial usage product =>
        obtain ⟨hne, husage⟩ := h _ rfl
        simp only [valueUsage, group?, Option.map_some]
        rw [spell_group hflag hne, ← husage]
      | _ => cases hdeferred
    | false =>
      have hspelled := (spelled_plain hdeferred).mp (h _ rfl)
      rw [valueUsage_plain hdeferred, group_plain hdeferred]
      split
      · split
        · rename_i flag hown
          have hsimple := hflag.dashed hown
          simp [Group.tokens, Token.spell, Token.joinBy, Token.render_simple hsimple]
        · rfl
      simp only [valueText?]
      split
      · rw [elementTexts_eq hspelled]
        cases value.elements.filter (a.canWrite true) with
        | nil => rfl
        | cons item items =>
          simp only [Option.map_some]
          rw [spell_group hflag (by simp), Token.spell_eq, List.map_map]
          rfl
      · rw [word_eq]
        split
        · simp only [Option.map_some]
          rw [spell_group hflag (by simp)]
          rfl
        · rfl

theorem token_ne_empty {value : Value} (h : a.canWrite inList value = true) :
    a.token value ≠ .word "" := by
  intro he
  have htext : a.type.textOf value = "" := Token.word.inj he
  simp [canWrite, htext] at h

/-- A group sets the argument that it was made for, with the flag of that argument. -/
theorem group_argument {value : Option Value} {g : Group} (hg : a.group? value = some g) :
    g.argument = a ∧ g.flag = a.flag := by
  cases value with
  | none =>
    simp only [group?] at hg
    split at hg <;> cases hg
    exact ⟨rfl, rfl⟩
  | some value =>
    cases hdeferred : value.isDeferred with
    | true =>
      cases value with
      | deferred serial usage product =>
        cases hg
        exact ⟨rfl, rfl⟩
      | _ => cases hdeferred
    | false =>
      rw [group_plain hdeferred] at hg
      split at hg
      · split at hg
        · rename_i flag hown
          cases hg
          exact ⟨rfl, hown.symm⟩
        · cases hg
      · split at hg <;> split at hg <;> cases hg <;> exact ⟨rfl, rfl⟩

theorem group_body {value : Option Value} {g : Group} (hg : a.group? value = some g)
    (h : ∀ v ∈ value, Spelled v) : .word "" ∉ g.body ∧ (a.flag = none → g.body ≠ []) := by
  cases value with
  | none =>
    simp only [group?] at hg
    split at hg
    · cases hg
    · cases hg
      exact ⟨by simp, fun _ => by simp⟩
  | some value =>
    cases hdeferred : value.isDeferred with
    | true =>
      cases value with
      | deferred serial usage product =>
        cases hg
        exact ⟨Token.empty_word_not_scanned false [] _, fun _ => (h _ rfl).1⟩
      | _ => cases hdeferred
    | false =>
      rw [group_plain hdeferred] at hg
      split at hg
      · split at hg
        · rename_i flag hown
          cases hg
          exact ⟨by simp, fun hnone => by simp [hown] at hnone⟩
        · cases hg
      split at hg
      · split at hg
        · cases hg
        · rename_i hne
          cases hg
          refine ⟨fun hm => ?_, fun _ => by simpa using hne⟩
          obtain ⟨item, hitem, he⟩ := List.mem_map.mp hm
          exact token_ne_empty (List.mem_filter.mp hitem).2 he
      · split at hg
        · rename_i hwrite
          cases hg
          refine ⟨fun hm => ?_, fun _ => by simp⟩
          exact token_ne_empty hwrite (List.mem_singleton.mp hm).symm
        · cases hg

theorem group_tokens {value : Option Value} {g : Group} (hg : a.group? value = some g)
    (h : ∀ v ∈ value, Spelled v) : g.tokens ≠ [] ∧ .word "" ∉ g.tokens := by
  have hflag := (group_argument hg).2
  obtain ⟨hword, hbare⟩ := group_body hg h
  unfold Group.tokens
  split
  · refine ⟨by simp, fun hm => ?_⟩
    rcases List.mem_cons.mp hm with he | hm
    · have := congrArg String.toList (Token.word.inj he)
      simp at this
    · exact hword hm
  · rename_i hnone
    exact ⟨hbare (hflag ▸ hnone), hword⟩

end Argument

namespace CommandLine

/-- The group with a semicolon of its own, where it is a list and a bare group comes next. -/
def Group.seal (g next : Group) : Group :=
  if g.argument.isMultiple && next.argument.isPositional then
    { g with body := g.body ++ [.word ";"] }
  else g

def sealAll : List Group → List Group
  | [] => []
  | [g] => [g]
  | g :: next :: rest => g.seal next :: sealAll (next :: rest)

theorem seal_tokens (g next : Group) :
    (g.seal next).tokens =
      g.tokens ++ if g.argument.isMultiple && next.argument.isPositional then [.word ";"] else [] := by
  unfold Group.seal
  split
  · unfold Group.tokens
    cases g.flag <;> simp
  · simp

theorem sealAll_tokens_ne {groups : List Group} (h : groups ≠ [])
    (hne : ∀ g ∈ groups, g.tokens ≠ []) : (sealAll groups).flatMap Group.tokens ≠ [] := by
  match groups with
  | [] => exact absurd rfl h
  | [g] => simpa [sealAll] using hne g
  | g :: next :: rest =>
    have := hne g List.mem_cons_self
    simp [sealAll, seal_tokens, this]

theorem empty_word_not_sealed {groups : List Group} (h : ∀ g ∈ groups, .word "" ∉ g.tokens) :
    .word "" ∉ (sealAll groups).flatMap Group.tokens := by
  match groups with
  | [] => simp [sealAll]
  | [g] => simpa [sealAll] using h g
  | g :: next :: rest =>
    have ih : .word "" ∉ (sealAll (next :: rest)).flatMap Group.tokens := empty_word_not_sealed
      fun g' hg => h g' (List.mem_cons_of_mem _ hg)
    have hg := h g List.mem_cons_self
    simp only [sealAll, List.flatMap_cons, List.mem_append, seal_tokens, not_or]
    refine ⟨⟨hg, ?_⟩, ih⟩
    split <;> simp

theorem joinFragments_eq {groups : List Group} (h : groups ≠ [])
    (hne : ∀ g ∈ groups, g.tokens ≠ []) :
    Bindings.joinFragments (groups.map fun g => (g.argument, Token.spell g.tokens)) =
      " " ++ Token.spell ((sealAll groups).flatMap Group.tokens) := by
  match groups with
  | [] => exact absurd rfl h
  | [g] => simp [Bindings.joinFragments, sealAll]
  | g :: next :: rest =>
    have hrest : ∀ g' ∈ next :: rest, g'.tokens ≠ [] := fun g' hg => hne g' (List.mem_cons_of_mem _ hg)
    have ih := joinFragments_eq (List.cons_ne_nil next rest) hrest
    have hg := hne g List.mem_cons_self
    have hspell : Token.spell (g.seal next).tokens = Token.spell g.tokens ++
        if g.argument.isMultiple && next.argument.isPositional then " ;" else "" := by
      rw [seal_tokens]
      split
      · rw [Token.spell_append hg (by simp), String.append_assoc]
        rfl
      · simp
    simp only [List.map_cons, Bindings.joinFragments, sealAll, List.flatMap_cons] at ih ⊢
    rw [ih, Token.spell_append (by simp [seal_tokens, hg]) (sealAll_tokens_ne (by simp) hrest),
      hspell]
    simp only [String.append_assoc]

end CommandLine

namespace Bindings

open CommandLine (sealAll)

/-- What the line shows of an argument. Nothing hides a default but null does. -/
def shown? (b : Bindings) (position : Nat) (a : Argument) : Option (Option Value) :=
  match b.at? position, a.default with
  | some (some value), _ => some (some value)
  | none, some value => some (some value)
  | some none, some _ => some none
  | some none, none | none, none => none

def groupAt? (b : Bindings) (position : Nat) (a : Argument) : Option Group :=
  if b.context.supplies a then none else (b.shown? position a).bind a.group?

/-- The groups that the line spells. -/
def groups (b : Bindings) : List Group :=
  (positions b.query).filterMap fun (i, a) => b.groupAt? i a

/-- Everything that the line shows can be spelled. -/
structure Speakable (b : Bindings) : Prop where
  identifier : b.query.identifier ≠ "" ∧ Token.isSimple b.query.identifier = true
  flags : ∀ a ∈ b.query.arguments, a.SimpleFlag
  values : ∀ i a, b.query.arguments[i]? = some a → b.context.supplies a = false →
    ∀ value, b.shown? i a = some (some value) → Argument.Spelled value

variable {b : Bindings} {a : Argument} {i : Nat}

theorem shown_cases {value : Value} (h : b.shown? i a = some (some value)) :
    b.at? i = some (some value) ∨ b.at? i = none ∧ a.default = some value := by
  unfold shown? at h
  split at h
  · rename_i hat
    cases h
    exact .inl hat
  · rename_i hat hdefault
    cases h
    exact .inr ⟨hat, hdefault⟩
  all_goals cases h

theorem shown_null (h : b.shown? i a = some none) : b.at? i = some none := by
  unfold shown? at h
  split at h
  · cases h
  · cases h
  · assumption
  · cases h
  · cases h

/-- The text of an argument that the environment does not supply is that of what is shown. -/
theorem fragment_shown (h : b.context.supplies a = false) :
    b.fragment? i a = (b.shown? i a).bind a.valueUsage := by
  simp only [fragment?, shown?, h, Bool.false_eq_true, ↓reduceIte]
  cases b.at? i with
  | none => cases a.default <;> rfl
  | some bound => cases bound <;> cases a.default <;> rfl

theorem fragment_eq (h : b.Speakable) (hi : b.query.arguments[i]? = some a) :
    b.fragment? i a = (b.groupAt? i a).map fun g => Token.spell g.tokens := by
  have hflag := h.flags a (List.mem_iff_getElem?.mpr ⟨i, hi⟩)
  cases hsupplied : b.context.supplies a with
  | true => simp [fragment?, groupAt?, hsupplied]
  | false =>
    have hvalues := h.values i a hi hsupplied
    rw [fragment_shown hsupplied]
    simp only [groupAt?, hsupplied, Bool.false_eq_true, ↓reduceIte]
    cases hshown : b.shown? i a with
    | none => rfl
    | some value =>
      rw [Option.bind_some, Option.bind_some]
      refine Argument.valueUsage_eq hflag fun v hv => hvalues v ?_
      rw [hshown, Option.mem_def.mp hv]

theorem mem_groups {g : Group} : g ∈ b.groups ↔
    ∃ (i : Nat) (a : Argument), b.query.arguments[i]? = some a ∧ b.groupAt? i a = some g := by
  simp [groups, List.mem_filterMap, mem_positions]

/-- A group of the line sets an argument that the line shows a value of. -/
theorem groupAt_some {g : Group} (hg : b.groupAt? i a = some g) :
    b.context.supplies a = false ∧ ∃ value, b.shown? i a = some value ∧ a.group? value = some g := by
  unfold groupAt? at hg
  split at hg
  · cases hg
  · rename_i hsupplied
    exact ⟨by simpa using hsupplied, Option.bind_eq_some_iff.mp hg⟩

theorem groupAt_argument {g : Group} (hg : b.groupAt? i a = some g) :
    g.argument = a ∧ g.flag = a.flag := by
  obtain ⟨_, _, _, hgroup⟩ := groupAt_some hg
  exact Argument.group_argument hgroup

theorem Speakable.shown (h : b.Speakable) (hi : b.query.arguments[i]? = some a)
    (hg : b.groupAt? i a = some g) :
    ∃ value, b.shown? i a = some value ∧ a.group? value = some g ∧
      ∀ v ∈ value, Argument.Spelled v := by
  obtain ⟨hsupplied, value, hshown, hgroup⟩ := groupAt_some hg
  refine ⟨value, hshown, hgroup, fun v hv => h.values i a hi hsupplied v ?_⟩
  rw [hshown, Option.mem_def.mp hv]

theorem Speakable.tokens_of_group (h : b.Speakable) {g : Group} (hg : g ∈ b.groups) :
    g.tokens ≠ [] ∧ .word "" ∉ g.tokens := by
  obtain ⟨i, a, hi, hg⟩ := mem_groups.mp hg
  obtain ⟨value, _, hgroup, hspelled⟩ := h.shown hi hg
  exact Argument.group_tokens hgroup hspelled

/-- The line spells its groups. -/
theorem line_eq (h : b.Speakable) :
    b.line = Token.spell (.word b.query.identifier :: (sealAll b.groups).flatMap Group.tokens) := by
  have hfragments : (positions b.query).filterMap (fun (i, a) =>
      (b.fragment? i a).map fun text => (a, text)) =
      b.groups.map fun g => (g.argument, Token.spell g.tokens) := by
    unfold groups
    rw [List.map_filterMap]
    refine List.filterMap_congr fun entry hm => ?_
    obtain ⟨i, a⟩ := entry
    have hi := mem_positions.mp hm
    dsimp only
    rw [fragment_eq h hi]
    cases hg : b.groupAt? i a with
    | none => rfl
    | some g => simp [(groupAt_argument hg).1]
  have hne : ∀ g ∈ b.groups, g.tokens ≠ [] := fun g hg => (h.tokens_of_group hg).1
  unfold line
  rw [hfragments]
  by_cases hgroups : b.groups = []
  · rw [hgroups]
    simp [joinFragments, sealAll, Token.spell, Token.joinBy, Token.render_simple h.identifier.2]
  · rw [CommandLine.joinFragments_eq hgroups hne,
      Token.spell_cons _ (CommandLine.sealAll_tokens_ne hgroups hne),
      Token.render_simple h.identifier.2, String.append_assoc]

/-- The tokens of the line are those of its groups. -/
theorem ofLine_line (h : b.Speakable) :
    Token.ofLine b.line =
      .word b.query.identifier :: (sealAll b.groups).flatMap Group.tokens := by
  rw [line_eq h]
  refine Token.ofLine_spell ?_
  rintro hm
  rcases List.mem_cons.mp hm with he | hm
  · exact h.identifier.1 (Token.word.inj he).symm
  · exact CommandLine.empty_word_not_sealed (fun g hg => (h.tokens_of_group hg).2) hm

end Bindings

end HeapQuery
