import HeapQuery.Cli.Show
import HeapQuery.Proofs.WellFormedSpecs

namespace HeapQuery.Cli

open Argument

def entryNamed? (usage : Json) (name : String) : Option Json :=
  ((usage.field? "arguments").bind Json.array?).bind fun entries =>
    entries.find? fun entry => (entry.field? "name").bind Json.string? == some name

/-- The usage as JSON gives this default for the argument: a text, or null for `none`. -/
def GivesDefault (s : Setup) (q : Query) (a : Argument) (default : Option String) : Prop :=
  (entryNamed? (usageJson s q) a.name).bind (Json.field? "default") = some (.text? default)

/-- The arguments that have a line in the usage for readers. -/
def listed (s : Setup) (q : Query) : List Argument :=
  q.arguments.filter fun a => !s.context.supplies a

def lineShowing (width : Nat) (a : Argument) (default : Option String) : String :=
  let note := default.map fun text => " (default: " ++ text ++ ")"
  "  " ++ padded width a.usage ++ "  " ++ a.help.getD "" ++ note.getD ""

/-- The line of the argument number `i` of those that are listed shows this default, or shows none.
The first line about arguments is empty and the second a heading. -/
def ShowsDefault (s : Setup) (q : Query) (i : Nat) (a : Argument) (default : Option String) : Prop :=
  (argumentLines s q)[i + 2]? =
    some (lineShowing (widest ((listed s q).map Argument.usage)) a default)

def written (lines : List String) : String := String.join (lines.map (· ++ "\n"))

variable {s : Setup} {q : Query} {a : Argument}

/-- The entry of an argument, with its fields in order. -/
theorem argumentJson_eq (a : Argument) : argumentJson a = .object
    [("default", .text? (a.valueUsage a.default)), ("flag", .text? a.flag), ("help", .text? a.help),
      ("mandatory", .bool a.mandatory), ("multiple", .bool a.isMultiple), ("name", .string a.name),
      ("type", .string a.type.name)] := by
  simp only [argumentJson, Json.record, List.foldl_cons, List.foldl_nil, Json.insertField,
    String.reduceLT, String.reduceBEq, Bool.false_eq_true, ↓reduceIte]

theorem argumentJson_name (a : Argument) :
    ((argumentJson a).field? "name").bind Json.string? = some a.name := by
  rw [argumentJson_eq]
  rfl

theorem argumentJson_default (a : Argument) :
    (argumentJson a).field? "default" = some (.text? (a.valueUsage a.default)) := by
  rw [argumentJson_eq]
  rfl

theorem usageJson_arguments (s : Setup) (q : Query) :
    ((usageJson s q).field? "arguments").bind Json.array? = some (q.arguments.map argumentJson) := by
  simp only [usageJson, Json.record, List.foldl_cons, List.foldl_nil, Json.insertField,
    String.reduceLT, String.reduceBEq, Bool.false_eq_true, ↓reduceIte, Json.field?,
    List.reverse_cons, List.reverse_nil, List.nil_append, List.cons_append, List.lookup_cons, BEq.rfl,
    Option.bind_some, Json.array?]

theorem text_inj {d e : Option String} : Json.text? d = Json.text? e ↔ d = e := by
  cases d <;> cases e <;> simp [Json.text?, Json.ofOption]

theorem lineShowing_inj {d e : Option String} :
    lineShowing width a d = lineShowing width a e ↔ d = e := by
  unfold lineShowing
  rw [String.append_right_inj]
  cases d <;> cases e <;> simp [← String.toList_inj]

theorem run_sayAll (lines : List String) (w : Written) :
    (Action.sayAll lines).run w = (.ok (), { w with out := w.out ++ written lines }) := by
  induction lines generalizing w with
  | nil =>
    have hout : w.out ++ written [] = w.out := by simp [written]
    rw [hout]
    rfl
  | cons line lines ih =>
    have hfirst : (Action.sayAll (line :: lines)).run w =
        (Action.sayAll lines).run { w with out := w.out ++ line ++ "\n" } := rfl
    rw [hfirst, ih]
    simp [written, String.join_cons, String.append_assoc]

theorem usage_found {name : String} {q : Registered} (h : s.registry.find? name = some q) :
    usage s name = if s.json then Action.say (usageJson s q.toQuery).pretty
      else Action.sayAll (usageLines s q) := by
  simp only [usage, find, h, pure_bind]

/-- The usage as JSON. -/
theorem usage_json {name : String} {q : Registered} (h : s.registry.find? name = some q) :
    (usage { s with json := true } name).outcome =
      (none, { out := (usageJson s q.toQuery).pretty ++ "\n" }) := by
  have hout : "" ++ (usageJson s q.toQuery).pretty ++ "\n" =
      (usageJson s q.toQuery).pretty ++ "\n" := by simp
  rw [usage_found (s := { s with json := true }) h, ← hout]
  rfl

/-- The usage for readers. -/
theorem usage_lines {name : String} {q : Registered} (h : s.registry.find? name = some q) :
    (usage { s with json := false } name).outcome =
      (none, { out := written (usageLines s q) }) := by
  rw [usage_found (s := { s with json := false }) h]
  simp only [Bool.false_eq_true, ↓reduceIte, Action.outcome, run_sayAll, String.empty_append]
  rfl

/-- The entry of an argument is found by its name, which no other argument has. -/
theorem entry_argument (hq : q.WellMade) (ha : a ∈ q.arguments) :
    entryNamed? (usageJson s q) a.name = some (argumentJson a) := by
  have hnamed := hq.finds_name ha
  rw [Query.argumentNamed?] at hnamed
  rw [entryNamed?, usageJson_arguments, Option.bind_some, List.find?_map]
  simp only [Function.comp_def, argumentJson_name, Option.some_beq_some, hnamed, Option.map_some]

theorem givesDefault_iff (hq : q.WellMade) (ha : a ∈ q.arguments) {default : Option String} :
    GivesDefault s q a default ↔ default = a.valueUsage a.default := by
  rw [GivesDefault, entry_argument hq ha, Option.bind_some, argumentJson_default,
    Option.some.injEq, text_inj]
  exact eq_comm

theorem argumentLine_eq (width : Nat) (a : Argument) :
    argumentLine width a =
      lineShowing width a (a.default.bind fun value => a.valueUsage (some value)) := by
  unfold argumentLine lineShowing
  cases a.default.bind fun value => a.valueUsage (some value) with
  | none => simp
  | some text => simp [String.append_assoc]

theorem line_of_listed (hi : (listed s q)[i]? = some a) :
    (argumentLines s q)[i + 2]? =
      some (argumentLine (widest ((listed s q).map Argument.usage)) a) := by
  have hne : (listed s q).isEmpty = false := by
    rw [List.isEmpty_eq_false_iff]
    exact List.ne_nil_of_mem (List.mem_of_getElem? hi)
  rw [listed] at hi hne ⊢
  simp [argumentLines, hne, hi]

theorem showsDefault_iff (hi : (listed s q)[i]? = some a) {default : Option String} :
    ShowsDefault s q i a default ↔
      default = a.default.bind fun value => a.valueUsage (some value) := by
  rw [ShowsDefault, line_of_listed hi, argumentLine_eq, Option.some.injEq, lineShowing_inj]
  exact eq_comm

/-- The usage of a query says the same about the default of an argument as JSON and in lines exactly
where there is a default, or where nothing is written for null: with several values and for a switch.
Elsewhere the JSON has the text for null and the line has nothing. -/
theorem default_reported_alike_iff {name : String} {q : Registered} (hr : s.registry.Reachable)
    (hfind : s.registry.find? name = some q) (hi : (listed s q.toQuery)[i]? = some a) :
    (usage { s with json := true } name).outcome =
      (none, { out := (usageJson s q.toQuery).pretty ++ "\n" }) ∧
    (usage { s with json := false } name).outcome = (none, { out := written (usageLines s q) }) ∧
    argumentLines s q.toQuery <:+: usageLines s q ∧
    ∃ given shown : Option String,
      GivesDefault s q.toQuery a given ∧ ShowsDefault s q.toQuery i a shown ∧
      (given = shown ↔
        a.default.isSome = true ∨ a.isMultiple = true ∨ a.isBoolean = true) ∧
      (given ≠ shown → given = some (a.flagText ++ "\"\"") ∧ shown = none) := by
  have hmade := (hr.sound.offered (Registry.find_mem hfind) (.inl rfl)).1
  have ha : a ∈ q.arguments := List.mem_of_mem_filter (List.mem_of_getElem? hi)
  have hinfix : argumentLines s q.toQuery <:+: usageLines s q :=
    ⟨_, q.presets.filterMap presetLine, rfl⟩
  refine ⟨usage_json hfind, usage_lines hfind, hinfix, a.valueUsage a.default, _,
    (givesDefault_iff hmade ha).mpr rfl, (showsDefault_iff hi).mpr rfl, ?_⟩
  cases hdefault : a.default with
  | some value => simp
  | none =>
    by_cases hnull : a.isMultiple = true ∨ a.isBoolean = true
    · simp [Argument.valueUsage, Bool.or_eq_true, hnull]
    · simp [Argument.valueUsage, Bool.or_eq_true, hnull]

/-- The limit that selected objects are compared with has a default, which both outputs show. -/
theorem least_size_reported_alike : ∃ (s : Setup) (q : Registered) (a : Argument),
    s.registry.Reachable ∧ s.registry.find? "show_objects" = some q ∧
    (listed s q.toQuery)[2]? = some a ∧
    ∃ default, GivesDefault s q.toQuery a default ∧ ShowsDefault s q.toQuery 2 a default := by
  obtain ⟨q, r, hreg⟩ : ∃ q r, Registry.empty.register Heap.showObjects = .ok (q, r) := ⟨_, _, rfl⟩
  obtain ⟨a, hfind, hi, hdefault⟩ : ∃ a : Argument, r.find? "show_objects" = some q ∧
      (listed ⟨r, none, false, false⟩ q.toQuery)[2]? = some a ∧ a.default = some (.long 0) := by
    obtain ⟨rfl, rfl⟩ := Prod.mk.inj (Except.ok.inj hreg)
    exact ⟨_, rfl, rfl, rfl⟩
  have hr : r.Reachable := .register _ (.start .empty) hreg
  obtain ⟨_, _, _, given, shown, hgiven, hshown, halike, _⟩ :=
    default_reported_alike_iff (s := ⟨r, none, false, false⟩) hr hfind hi
  obtain rfl := halike.mpr (.inl (by simp [hdefault]))
  exact ⟨_, q, a, hr, hfind, hi, given, hgiven, hshown⟩

/-- The JSON has a text where the argument has no default and its line shows none. -/
theorem missing_default_reported :
    ¬ ∀ (s : Setup) (name : String) (q : Registered) (i : Nat) (a : Argument),
        s.registry.Reachable → s.registry.find? name = some q →
        (listed s q.toQuery)[i]? = some a →
        ∃ default, GivesDefault s q.toQuery a default ∧ ShowsDefault s q.toQuery i a default := by
  intro h
  obtain ⟨q, r, hreg⟩ : ∃ q r, Registry.empty.register Heap.showObjects = .ok (q, r) := ⟨_, _, rfl⟩
  obtain ⟨a, hfind, hi, hdefault, husage⟩ : ∃ a : Argument, r.find? "show_objects" = some q ∧
      (listed ⟨r, none, false, false⟩ q.toQuery)[1]? = some a ∧ a.default = none ∧
      a.valueUsage none = some "\"\"" := by
    obtain ⟨rfl, rfl⟩ := Prod.mk.inj (Except.ok.inj hreg)
    exact ⟨_, rfl, rfl, rfl, rfl⟩
  have hr : r.Reachable := .register _ (.start .empty) hreg
  have hmade := (hr.sound.offered (Registry.find_mem hfind) (.inl rfl)).1
  have ha : a ∈ q.arguments := List.mem_of_mem_filter (List.mem_of_getElem? hi)
  obtain ⟨default, hgiven, hshown⟩ := h ⟨r, none, false, false⟩ _ q 1 a hr hfind hi
  rw [givesDefault_iff hmade ha, hdefault, husage] at hgiven
  rw [showsDefault_iff hi, hdefault, hgiven] at hshown
  cases hshown

end HeapQuery.Cli
