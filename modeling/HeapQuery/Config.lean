import HeapQuery.Files
import HeapQuery.Text.Blank
import HeapQuery.Toml.Reader
import HeapQuery.Translations

namespace HeapQuery

structure Config where
  translations : Translations := .empty
  format : String := "human"
  color : String := "auto"
  logFilter : String := "warn"
  deriving DecidableEq, Repr

inductive ConfigError
  | fileNotFound (path : String)
  | syntaxError (path : String)
  | invalid (reason : String)
  | unreadable
  deriving DecidableEq, Repr

def ConfigError.message : ConfigError → String
  | fileNotFound path => s!"Configuration file not found: {path}"
  | syntaxError path => s!"Invalid TOML syntax in {path}"
  | invalid reason => s!"Invalid configuration value: {reason}"
  | unreadable => "I/O error reading config"

namespace Config

/-- The values of the fields `keys` of a record, which may also be written as an array. A `strict`
reader wants no more items than there are fields. -/
def parts? (strict : Bool) (keys : List String) : Json → Option (List (Option Json))
  | .object fields => some (keys.map fun key => fields.lookup key)
  | .array items =>
    if strict && keys.length < items.length then none
    else some (keys.mapIdx fun i _ => items[i]?)
  | _ => none

def textOr? (default : String) : Option Json → Option String
  | none => some default
  | some value => value.string?

def textsOf? (fields : List (String × Json)) : Option (List (String × String)) :=
  fields.mapM fun (key, value) => value.string?.map fun text => (key, text)

def translationsOf? : Option Json → Option Translations
  | none => some .empty
  | some (.object fields) => (textsOf? fields).map Translations.ofList
  | some _ => none

def section? (strict : Bool) (keys : List String) (value : Option Json) :
    Option (List (Option Json)) :=
  parts? strict keys (value.getD (.object []))

/-- The configuration of a tree of values. Fields of other names do not matter. -/
def ofTree? (strict : Bool) (tree : Json) : Option Config := do
  match ← parts? strict ["registry", "output", "logging"] tree with
  | [registry, output, logging] =>
    match ← section? strict ["translations"] registry,
      ← section? strict ["default_format", "color"] output,
      ← section? strict ["filter"] logging with
    | [translations], [format, color], [filter] =>
      return {
        translations := ← translationsOf? translations
        format := ← textOr? "human" format
        color := ← textOr? "auto" color
        logFilter := ← textOr? "warn" filter }
    | _, _, _ => none
  | _ => none

def fromFile (look : String → Entry) (path : String) : Except ConfigError (Option Config) :=
  match look path with
  | .missing => .ok none
  | .directory => .error .unreadable
  | .text content =>
    match (Toml.read? content).bind (ofTree? false) with
    | some config => .ok (some config)
    | none => .error (.syntaxError path)

def isKey (key : String) : Bool :=
  let cs := key.toList
  cs.contains '.' && cs.head? != some '.' && cs.getLast? != some '.'

def formats : List String := ["human", "json"]

def colors : List String := ["auto", "always", "never"]

def check (config : Config) : Except ConfigError Unit :=
  if !formats.contains config.format then
    .error (.invalid
      ("Invalid output format '" ++ config.format ++ "'. Must be one of: " ++
        String.intercalate ", " formats))
  else if !colors.contains config.color then
    .error (.invalid
      ("Invalid color setting '" ++ config.color ++ "'. Must be one of: " ++
        String.intercalate ", " colors))
  else if Text.isBlankText config.logFilter then
    .error (.invalid "Logging filter cannot be empty")
  else
    match config.translations.entries.find? fun entry => !isKey entry.1 with
    | some entry =>
      .error (.invalid s!"Invalid translation key '{entry.1}'. Expected <Type>.<property>")
    | none => .ok ()

/-- The variables of the environment that replace settings. -/
def override (env : String → Option String) (config : Config) : Config :=
  { config with
    format := (env "MATQ_FORMAT").getD config.format
    logFilter := (env "MATQ_LOG").getD config.logFilter }

def directoryIn (base : String) : String := Path.join base ".matq"

def pathIn (base : String) : String := Path.join (directoryIn base) "config.toml"

/-- Loads the configuration for a working directory. A file that was asked for has to be there. -/
def load (look : String → Entry) (env : String → Option String) (base : String)
    (path : Option String) : Except ConfigError Config := do
  let file ← match path with
    | some path =>
      if (look path).isMissing then throw (.fileNotFound path) else fromFile look path
    | none => fromFile look (pathIn base)
  let config := override env (file.getD {})
  check config
  return config

def defaultText : String := "# matq configuration file
#
# Lines starting with # are comments and are ignored.

[registry.translations]
# Override query texts, keyed by implementation type name:
#   <Type>.name, <Type>.category, <Type>.help, <Type>.<argument>.help,
#   <Type>.menu.<index>.label, <Type>.menu.<index>.category, <Type>.menu.<index>.help
# \"Histogram.name\" = \"1|Class Histogram\"
# \"Histogram.menu.0.label\" = \"Histogram grouped by package\"

[output]
# Default output format: \"human\" or \"json\"
default_format = \"human\"

# Color output: \"auto\", \"always\", \"never\"
color = \"auto\"

[logging]
# tracing filter used when RUST_LOG is not set, e.g. \"matq_core=debug\"
filter = \"warn\"
"

end Config

end HeapQuery
