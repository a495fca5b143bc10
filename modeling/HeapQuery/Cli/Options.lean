import HeapQuery.QueryError

namespace HeapQuery.Cli

/-- Why arguments do not make an invocation. Asking for help or for the version ends the reading in
the same way. -/
inductive UsageError
  | displayHelp
  | displayVersion
  | displayHelpOnMissing
  | missingSubcommand
  | invalidSubcommand
  | unknownArgument
  | missingRequiredArgument
  | invalidValue
  | argumentConflict
  | tooManyValues
  deriving DecidableEq, Repr

/-- What an option takes. A path must not be empty. -/
inductive Kind
  | switch
  | text
  | path
  | help
  | version
  deriving DecidableEq, Repr

def Kind.takesValue : Kind → Bool
  | text | path => true
  | _ => false

structure OptionSpec where
  long : String
  short : Option Char
  kind : Kind
  deriving DecidableEq, Repr

/-- What a level of the command line takes: options and perhaps one argument without a name. -/
structure Grammar where
  options : List OptionSpec
  positional : Option Kind := none
  required : Bool := false
  deriving DecidableEq, Repr

def globalOptions : List OptionSpec :=
  [⟨"config", some 'c', .path⟩, ⟨"snapshot", some 's', .path⟩, ⟨"json", none, .switch⟩,
    ⟨"help", some 'h', .help⟩]

def topGrammar : Grammar := ⟨globalOptions ++ [⟨"version", some 'V', .version⟩], none, false⟩

inductive Subcommand
  | init
  | list
  | categories
  | usage
  | explain
  | tokenize
  | parse
  | run
  | batch
  deriving DecidableEq, Repr

namespace Subcommand

def ofName? : String → Option Subcommand
  | "init" => some init
  | "list" => some list
  | "categories" => some categories
  | "usage" => some usage
  | "explain" => some explain
  | "tokenize" => some tokenize
  | "parse" => some parse
  | "run" => some run
  | "batch" => some batch
  | _ => none

def grammar : Subcommand → Grammar
  | init | batch => ⟨globalOptions, some .path, false⟩
  | list =>
    ⟨globalOptions ++ [⟨"pattern", some 'p', .text⟩, ⟨"all", some 'a', .switch⟩], none, false⟩
  | categories => ⟨globalOptions, none, false⟩
  | usage | explain => ⟨globalOptions, some .text, true⟩
  | tokenize | parse | run => ⟨globalOptions, some .text, false⟩

end Subcommand

inductive Slot
  | option (long : String)
  | positional
  deriving DecidableEq, Repr

/-- What was read on one level. A `pending` slot waits for its value, or has a value that has not
been checked yet. -/
structure Level where
  values : List (Slot × String) := []
  switches : List String := []
  pending : Option (Slot × Kind × Option String) := none
  placed : Bool := false
  trailing : Bool := false
  deriving Repr

namespace Level

def store (l : Level) (slot : Slot) (kind : Kind) (value : String) : Except UsageError Level :=
  if (l.values.lookup slot).isSome then .error .argumentConflict
  else if kind == .path && value.isEmpty then .error .invalidValue
  else .ok { l with values := l.values ++ [(slot, value)] }

def settle (l : Level) : Except UsageError Level :=
  match l.pending with
  | none => .ok l
  | some (_, _, none) => .error .invalidValue
  | some (slot, kind, some value) => ({ l with pending := none }).store slot kind value

def expectsValue (l : Level) : Bool :=
  match l.pending with
  | some (_, _, none) => true
  | _ => false

def takeSwitch (l : Level) (o : OptionSpec) : Except UsageError Level := do
  let l ← l.settle
  match o.kind with
  | .help => throw .displayHelp
  | .version => throw .displayVersion
  | _ =>
    if l.switches.contains o.long then throw .argumentConflict
    return { l with switches := l.switches ++ [o.long] }

def takeOption (l : Level) (o : OptionSpec) (value : Option String) :
    Except UsageError Level := do
  let l ← l.settle
  match value with
  | some value => l.store (.option o.long) o.kind value
  | none => return { l with pending := some (.option o.long, o.kind, none) }

def takeLong (g : Grammar) (l : Level) (cs : List Char) : Except UsageError Level :=
  let name := String.ofList (cs.takeWhile (· != '='))
  let value := match cs.dropWhile (· != '=') with
    | _ :: value => some (String.ofList value)
    | [] => none
  match g.options.find? fun o => o.long == name with
  | none => .error .unknownArgument
  | some o =>
    if o.kind.takesValue then l.takeOption o value
    else if value.isSome then .error .tooManyValues
    else l.takeSwitch o

/-- Takes the short options after one dash; the rest of the word after an option is its value. -/
def takeShort (g : Grammar) (l : Level) : List Char → Except UsageError Level
  | [] => .ok l
  | c :: rest =>
    match g.options.find? fun o => o.short == some c with
    | none => .error .unknownArgument
    | some o =>
      if o.kind.takesValue then
        match rest with
        | [] => l.takeOption o none
        | '=' :: value => l.takeOption o (some (String.ofList value))
        | value => l.takeOption o (some (String.ofList value))
      else do (← l.takeSwitch o).takeShort g rest

/-- Takes a word as the argument without a name; `otherwise` is the error where there is none. -/
def takePositional (g : Grammar) (l : Level) (word : String) (otherwise : UsageError) :
    Except UsageError Level :=
  match g.positional with
  | some kind =>
    if l.placed then .error otherwise
    else do
      let l ← l.settle
      return { l with pending := some (.positional, kind, some word), placed := true }
  | none => .error otherwise

def take (g : Grammar) (l : Level) (word : String) (otherwise : UsageError) :
    Except UsageError Level :=
  if l.trailing then l.takePositional g word otherwise
  else
    match word.toList with
    | ['-', '-'] => .ok { l with trailing := true }
    | '-' :: '-' :: cs => l.takeLong g cs
    | '-' :: c :: cs => l.takeShort g (c :: cs)
    | _ =>
      match l.pending with
      | some (slot, kind, none) => .ok { l with pending := some (slot, kind, some word) }
      | _ => l.takePositional g word otherwise

/-- Ends a level: the pending slot is checked, then the variable of the environment that stands in
for the configuration path. -/
def finish (l : Level) (config : Option String) : Except UsageError Level := do
  let l ← l.settle
  if (l.values.lookup (.option "config")).isNone && config == some "" then throw .invalidValue
  return l

def option? (l : Level) (long : String) : Option String := l.values.lookup (.option long)

def has (l : Level) (long : String) : Bool := l.switches.contains long

end Level

structure Invocation where
  config : Option String
  snapshot : Option String
  json : Bool
  command : Subcommand
  argument : Option String
  pattern : Option String
  all : Bool
  deriving DecidableEq, Repr

def readSub (g : Grammar) (config : Option String) (l : Level) :
    List String → Except UsageError Level
  | [] => do
    let l ← l.finish config
    if g.required && (l.values.lookup .positional).isNone then throw .missingRequiredArgument
    return l
  | word :: rest => do readSub g config (← l.take g word .unknownArgument) rest

def readHelp : List String → UsageError
  | [] | ["help"] => .displayHelp
  | [name] => if (Subcommand.ofName? name).isSome then .displayHelp else .invalidSubcommand
  | _ => .invalidSubcommand

def strayWord (trailing : Bool) (word : String) : UsageError :=
  if trailing && (word == "help" || (Subcommand.ofName? word).isSome) then .unknownArgument
  else .invalidSubcommand

def withoutSubcommand (top : Level) (config : Option String) : Except UsageError α := do
  let top ← top.finish config
  if top.values.isEmpty && top.switches.isEmpty && config.isNone then throw .displayHelpOnMissing
  throw .missingSubcommand

/-- Puts the levels together. Options of the inner level come first, then those of the outer one,
then the environment. -/
def invocation (config : Option String) (top sub : Level) (command : Subcommand) : Invocation where
  config := ((sub.option? "config").or (top.option? "config")).or config
  snapshot := (sub.option? "snapshot").or (top.option? "snapshot")
  json := sub.has "json" || top.has "json"
  command := command
  argument := sub.values.lookup .positional
  pattern := sub.option? "pattern"
  all := sub.has "all"

def readTop (config : Option String) (top : Level) :
    List String → Except UsageError Invocation
  | [] => withoutSubcommand top config
  | word :: rest =>
    let starts := !top.trailing && !top.expectsValue
    if starts && word == "help" then .error (readHelp rest)
    else
      match if starts then Subcommand.ofName? word else none with
      | some command => do
        let sub ← readSub command.grammar config {} rest
        let top ← top.finish config
        return invocation config top sub command
      | none => do
        readTop config (← top.take topGrammar word (strayWord top.trailing word)) rest

/-- The invocation that arguments make, where `config` is the path the environment gives. -/
def read (config : Option String) (arguments : List String) : Except UsageError Invocation :=
  readTop config {} arguments

end HeapQuery.Cli
