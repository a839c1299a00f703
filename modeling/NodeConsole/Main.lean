import NodeConsole.Console.Run
import NodeConsole.Text.Identifier
/-!
The program. It reads the variables and the files that a command line speaks of, runs, and prints.
It has no way to send requests or to listen, so that every exchange ends as one without a network.
-/

open NodeConsole

def watchedVariables : List String :=
  Logging.filterVariable :: CommandLine.Verb.proxy.options.filterMap (·.envName?)

def readEnvironment : IO CommandLine.Environment := do
  let found ← watchedVariables.filterMapM fun name => do
    return (← IO.getEnv name).map fun value => (name, value)
  return ⟨found⟩

def namedFiles (invocation : CommandLine.Invocation) : List String :=
  (invocation.globals.value? .config).toList ++
    match invocation.action with
    | .set source => source.file.toList
    | _ => []

def readEntry (path : String) : IO (Option (String × Files.Entry)) := do
  try
    return some (path, .file (← IO.FS.readBinFile path).data.toList)
  catch
    | .noFileOrDirectory .. => return none
    | _ => return some (path, .directory)

def readFiles (environment : CommandLine.Environment) (words : List String) : IO Files := do
  match CommandLine.parse environment words with
  | .error _ => return []
  | .ok invocation => (namedFiles invocation).filterMapM readEntry

def main (words : List String) : IO UInt32 := do
  let environment ← readEnvironment
  let files ← readFiles environment words
  let runId := Text.identifier (← IO.getRandomBytes 16).data.toList
  let outcome := Console.run { environment, files, runId } {} {} words
  IO.print outcome.standardOutput
  IO.eprint outcome.complaints
  return outcome.exitCode.toUInt32
