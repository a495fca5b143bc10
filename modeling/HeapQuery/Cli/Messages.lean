import HeapQuery.Cli.Action

namespace HeapQuery.Cli

def help : String := "Parse, inspect and run heap analysis queries

Usage: matq [OPTIONS] <COMMAND>

Commands:
  init        Write a default configuration file
  list        List registered queries
  categories  Show the query menu tree
  usage       Show usage and help of a query
  explain     Explain why a query cannot run in the current context
  tokenize    Split a command line into tokens
  parse       Bind a command line without running it
  run         Run a command line
  batch       Run one command per line
  help        Print this message

Options:
  -c, --config <CONFIG>      Configuration file (defaults to .matq/config.toml when present)
  -s, --snapshot <SNAPSHOT>  Object listing (JSON) the queries run against
      --json                 Output as JSON for machine processing
  -h, --help                 Print help
  -V, --version              Print version"

namespace UsageError

def isAnswer : UsageError → Bool
  | displayHelp | displayVersion => true
  | _ => false

def message : UsageError → String
  | displayHelp | displayHelpOnMissing => help
  | displayVersion => "matq 0.2.0"
  | missingSubcommand => "error: a subcommand is required but was not provided"
  | invalidSubcommand => "error: unrecognized subcommand"
  | unknownArgument => "error: unexpected argument found"
  | missingRequiredArgument => "error: the required argument <QUERY> was not provided"
  | invalidValue => "error: a value is required but none was supplied"
  | argumentConflict => "error: an argument cannot be used multiple times"
  | tooManyValues => "error: unexpected value for an argument that takes none"

end UsageError

namespace Failure

def message : Failure → String
  | usage e => e.message
  | query e => "Error: " ++ e.message
  | config e => "Error: " ++ e.message
  | other text => "Error: " ++ text

def exitCode : Failure → UInt32
  | usage e => if e.isAnswer then 0 else 2
  | _ => 1

end Failure

end HeapQuery.Cli
