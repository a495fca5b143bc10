import HeapQuery.CommandLine

namespace HeapQuery

def Argument.wordless (a : Argument) : Argument := { a with help := none }

def Query.wordless (q : Query) : Query :=
  { q with
    name := ""
    sortKey := Label.unsorted
    category := none
    help := none
    arguments := q.arguments.map Argument.wordless }

def Registered.wordless (q : Registered) : Registered :=
  { q.toQuery.wordless with presets := q.presets.map Query.wordless }

def Bindings.wordless (b : Bindings) : Bindings := { b with query := b.query.wordless }

/-- The catalog without texts, the table that translates them and the menu that shows them. -/
def Registry.wordless (r : Registry) : Registry :=
  { r with
    translations := .empty
    queries := r.queries.map Registered.wordless
    keptMenu := none }

variable {a : Argument} {q : Query} {b : Bindings} {c : Context}

namespace Query

@[simp] theorem argumentFlagged?_wordless (q : Query) (flag : String) :
    q.wordless.argumentFlagged? flag = (q.argumentFlagged? flag).map Argument.wordless := by
  simp only [argumentFlagged?, wordless, List.find?_map]
  rfl

theorem usage_wordless (q : Query) (c : Context) : q.wordless.usage c = q.usage c := by
  have hshown : (q.arguments.map Argument.wordless).filter (fun a => !c.supplies a) =
      (q.arguments.filter fun a => !c.supplies a).map Argument.wordless := by
    rw [List.filter_map]
    rfl
  simp only [usage, wordless, hshown, List.map_map]
  rfl

end Query

namespace Bindings

theorem positions_wordless (q : Query) :
    positions q.wordless = (positions q).map fun entry => (entry.1, entry.2.wordless) := by
  refine List.ext_getElem? fun i => ?_
  simp only [positions, Query.wordless, List.getElem?_mapIdx, List.getElem?_map, Option.map_map]
  rfl

theorem initial_wordless (q : Query) (c : Context) :
    initial q.wordless c = (initial q c).wordless := by
  simp only [initial, positions_wordless, List.filterMap_map]
  rfl

theorem position?_wordless (b : Bindings) (a : Argument) :
    b.wordless.position? a.wordless = b.position? a := by
  simp only [position?, wordless, Query.wordless, List.findIdx?_map]
  rfl

theorem isBound_wordless (b : Bindings) (a : Argument) :
    b.wordless.isBound a.wordless = b.isBound a := by
  simp only [isBound, binding?, position?_wordless]
  rfl

theorem set_wordless (b : Bindings) (a : Argument) (value : Option Value) :
    b.wordless.set a.wordless value = (b.set a value).map wordless := by
  unfold set
  rw [position?_wordless]
  split <;> rfl

theorem joinFragments_wordless (fragments : List (Argument × String)) :
    joinFragments (fragments.map fun entry => (entry.1.wordless, entry.2)) =
      joinFragments fragments := by
  match fragments with
  | [] | [_] => rfl
  | (a, text) :: (next, nextText) :: rest =>
    have ih := joinFragments_wordless ((next, nextText) :: rest)
    simp only [List.map_cons] at ih
    simp only [List.map_cons, joinFragments, ih]
    rfl

/-- The fragments of the line are the same texts. -/
theorem fragments_wordless (b : Bindings) :
    ((positions b.wordless.query).filterMap fun (i, a) =>
      (b.wordless.fragment? i a).map fun text => (a, text)) =
      ((positions b.query).filterMap fun (i, a) =>
        (b.fragment? i a).map fun text => (a, text)).map fun entry =>
          (entry.1.wordless, entry.2) := by
  rw [wordless, positions_wordless, List.filterMap_map, List.map_filterMap]
  congr 1
  funext entry
  simp only [Function.comp_apply, Option.map_map]
  rfl

theorem line_wordless (b : Bindings) : b.wordless.line = b.line := by
  rw [line, fragments_wordless, joinFragments_wordless]
  rfl

end Bindings

namespace CommandLine

theorem takeValue_wordless (c : Context) (a : Argument) (tokens : List Token) :
    takeValue c a.wordless tokens = takeValue c a tokens := by
  cases tokens with
  | nil => rfl
  | cons token rest => cases token <;> rfl

theorem takeFlagged_wordless (c : Context) (a : Argument) (tokens : List Token) :
    takeFlagged c a.wordless tokens = takeFlagged c a tokens := by
  unfold takeFlagged
  rw [takeValue_wordless]
  rfl

theorem openArgument?_wordless (b : Bindings) :
    openArgument? b.wordless = (openArgument? b).map Argument.wordless := by
  have hopen : ((fun a : Argument => a.isPositional && !b.wordless.isBound a) ∘ Argument.wordless) =
      fun a => a.isPositional && !b.isBound a := by
    funext a
    rw [Function.comp_apply, Bindings.isBound_wordless]
    rfl
  simp only [openArgument?, Bindings.wordless, Query.wordless, List.find?_map]
  rw [← hopen]
  rfl

theorem bindFlag_wordless (b : Bindings) (flag : String) (tokens : List Token) :
    bindFlag b.wordless flag tokens =
      (bindFlag b flag tokens).map fun (b, taken) => (b.wordless, taken) := by
  have hfind : b.wordless.query.argumentFlagged? flag =
      (b.query.argumentFlagged? flag).map Argument.wordless :=
    b.query.argumentFlagged?_wordless flag
  unfold bindFlag
  rw [hfind]
  cases b.query.argumentFlagged? flag with
  | none => rfl
  | some a =>
    have hcontext : b.wordless.context = b.context := rfl
    simp only [Option.map_some, hcontext, takeFlagged_wordless, Bindings.set_wordless]
    cases takeFlagged b.context a tokens with
    | error e => rfl
    | ok result =>
      simp only [bind, Except.bind]
      cases b.set a result.1 <;> rfl

theorem bindPositional_wordless (b : Bindings) (first : Token) (tokens : List Token) :
    bindPositional b.wordless first tokens =
      (bindPositional b first tokens).map fun (b, a, taken) => (b.wordless, a.wordless, taken) := by
  unfold bindPositional
  rw [openArgument?_wordless]
  cases openArgument? b with
  | none => rfl
  | some a =>
    have hcontext : b.wordless.context = b.context := rfl
    simp only [Option.map_some, hcontext, takeValue_wordless, Bindings.set_wordless]
    cases takeValue b.context a tokens with
    | error e => rfl
    | ok result =>
      simp only [bind, Except.bind]
      cases b.set a result.1 <;> rfl

/-- The parser binds the same values and stops at the same errors. -/
theorem bindAll_wordless (b : Bindings) (positional : Option Argument) (tokens : List Token) :
    bindAll b.wordless (positional.map Argument.wordless) tokens =
      ((bindAll b positional tokens).1.wordless, (bindAll b positional tokens).2) := by
  induction b, positional, tokens using bindAll.induct with
  | case1 b positional => rw [bindAll.eq_1, bindAll.eq_1]
  | case2 b positional token rest flag hflag e hbind =>
    rw [bindAll.eq_def, bindAll.eq_def b]
    simp only [hflag, bindFlag_wordless, hbind, Except.map]
  | case3 b positional token rest flag hflag b₁ taken hbind ih =>
    rw [bindAll.eq_def, bindAll.eq_def b]
    simp only [hflag, bindFlag_wordless, hbind, Except.map, ih]
  | case4 b token rest hflag bound =>
    rw [bindAll.eq_def, bindAll.eq_def b]
    simp only [hflag, Option.map_some]
    rfl
  | case5 b token rest hflag e hbind =>
    rw [bindAll.eq_def, bindAll.eq_def b]
    simp only [hflag, Option.map_none, bindPositional_wordless, hbind, Except.map]
  | case6 b token rest hflag b₁ a taken hbind ih =>
    rw [Option.map_some] at ih
    rw [bindAll.eq_def, bindAll.eq_def b]
    simp only [hflag, Option.map_none, bindPositional_wordless, hbind, Except.map, ih]

theorem fillIn_wordless (b : Bindings) (line : String) :
    fillIn b.wordless line = ((fillIn b line).1.wordless, (fillIn b line).2) := by
  unfold fillIn
  split
  · rfl
  · exact bindAll_wordless b none _

theorem finish_wordless (outcome : Bindings × Option QueryError) :
    finish (outcome.1.wordless, outcome.2) = (finish outcome).map Bindings.wordless := by
  obtain ⟨b, _ | e⟩ := outcome <;> rfl

theorem begin_wordless (q : Query) (c : Context) :
    begin q.wordless c = (begin q c).map Bindings.wordless := by
  unfold begin
  rw [Bindings.initial_wordless]
  have hoptions : q.wordless.options = q.options := rfl
  rw [hoptions]
  cases q.options with
  | none => rfl
  | some options =>
    simp only []
    split
    · rfl
    · rw [fillIn_wordless, finish_wordless]

theorem switchesOff_wordless (b : Bindings) :
    switchesOff b.wordless = (switchesOff b).map Bindings.wordless := by
  have hswitches : b.wordless.query.arguments.filter Argument.isBoolean =
      (b.query.arguments.filter Argument.isBoolean).map Argument.wordless := by
    simp only [Bindings.wordless, Query.wordless, List.filter_map]
    rfl
  unfold switchesOff
  rw [hswitches]
  clear hswitches
  generalize b.query.arguments.filter Argument.isBoolean = switches
  induction switches generalizing b with
  | nil => rfl
  | cons a rest ih =>
    rw [List.map_cons, List.foldlM_cons, List.foldlM_cons, Bindings.set_wordless]
    cases b.set a (some (.boolean false)) with
    | error e => rfl
    | ok next => exact ih next

end CommandLine

namespace Registry

theorem identified?_wordless (r : Registry) (identifier : String) :
    r.wordless.identified? identifier = (r.identified? identifier).map Registered.wordless := by
  simp only [identified?, wordless, List.find?_map]
  rfl

theorem find?_wordless (r : Registry) (name : String) :
    r.wordless.find? name = (r.find? name).map Registered.wordless := by
  unfold find?
  rw [identified?_wordless]
  cases r.identified? name with
  | some q => rfl
  | none =>
    have hlookup : r.wordless.byType = r.byType := rfl
    simp only [Option.map_none, hlookup]
    split
    · exact identified?_wordless r _
    · simp only [wordless, List.find?_map]
      rfl

end Registry

/-- A command line makes the same bindings, or fails with the same error, whatever the texts of the
queries are. -/
theorem CommandLine.parse_wordless (r : Registry) (c : Context) (line : String) :
    parse r.wordless c line = (parse r c line).map Bindings.wordless := by
  unfold parse
  split
  · rename_i name tokens _
    rw [Registry.find?_wordless]
    cases r.find? (Text.lower name) with
    | none => rfl
    | some q =>
      have hq : q.wordless.toQuery = q.toQuery.wordless := rfl
      simp only [Option.map_some, hq, begin_wordless, bind, Except.bind]
      cases begin q.toQuery c with
      | error e => rfl
      | ok started =>
        simp only [Except.map, switchesOff_wordless]
        cases switchesOff started with
        | error e => rfl
        | ok b =>
          have hall := bindAll_wordless b none tokens
          rw [Option.map_none] at hall
          simp only [hall, finish_wordless]
          rfl
  · rfl

end HeapQuery
