import HeapQuery.Cli
import HeapQuery.Cli.Messages

namespace HeapQuery.Cli

def lookAt (path : String) : IO Entry := do
  try
    return .text (← IO.FS.readFile path)
  catch
    | .noFileOrDirectory .. | .inappropriateType .. => return .missing
    | _ => return .directory

/-- All of the input. -/
partial def readAll (input : IO.FS.Stream) (read : String) : IO String := do
  let line ← input.getLine
  if line.isEmpty then return read else readAll input (read ++ line)

def lookAround (i : Invocation) : IO Surroundings := do
  let directory := toString (← IO.currentDir)
  let entries ← (places directory i).mapM fun path => return (path, ← lookAt path)
  let format ← IO.getEnv "MATQ_FORMAT"
  let log ← IO.getEnv "MATQ_LOG"
  let config ← IO.getEnv "MATQ_CONFIG"
  let input ← if needsInput i then readAll (← IO.getStdin) "" else pure ""
  return {
    directory := directory
    env := fun name =>
      if name == "MATQ_FORMAT" then format
      else if name == "MATQ_LOG" then log
      else if name == "MATQ_CONFIG" then config
      else none
    look := fun path => (entries.lookup path).getD .missing
    input := input }

def writeNew (path text : String) : IO Unit := do
  let parts := path.splitOn "/"
  IO.FS.createDirAll (String.intercalate "/" parts.dropLast)
  IO.FS.writeFile path text

def fail (f : Failure) : IO UInt32 := do
  if f.exitCode == 0 then IO.println f.message else IO.eprintln f.message
  return f.exitCode

def runTool (arguments : List String) : IO UInt32 := do
  match read (← IO.getEnv "MATQ_CONFIG") arguments with
  | .error e => fail (.usage e)
  | .ok i =>
    let (failed, written) := (perform (← lookAround i) i).outcome
    for (path, text) in written.files do writeNew path text
    IO.print written.out
    IO.eprint written.err
    match failed with
    | some f => fail f
    | none => return 0

end HeapQuery.Cli

def main (arguments : List String) : IO UInt32 := HeapQuery.Cli.runTool arguments
