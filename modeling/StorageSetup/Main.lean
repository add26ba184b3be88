import StorageSetup.CommandLine.Run
/-!
# The program

Reads the files that a command line names, runs it and prints what it did. Nothing is decided here.
The client of a cluster is not part of the program: a context that is configured leads to a cluster
that does not answer.
-/

namespace StorageSetup.CommandLine

/-- The text of a file, if it can be read. -/
def readText (path : String) : IO (Option String) := do
  try
    return some (← IO.FS.readFile path)
  catch _ =>
    return none

/-- The texts of those files that can be read. -/
def readTexts (paths : List String) : IO (List (String × String)) :=
  paths.filterMapM fun path => do
    return (← readText path).map (path, ·)

/-- Whether a file could be created at the path. -/
def createFile (path : String) : IO Bool := do
  try
    IO.FS.writeFile path ""
    return true
  catch _ =>
    return false

/-- A path below the directory that an environment variable names. -/
def pathBelow (name path : String) : IO (Option String) := do
  return (← IO.getEnv name).map (· ++ path)

/-- What surrounds the program during an invocation. -/
def surroundings (i : Invocation) : IO Environment := do
  let writable ← match i.logFile with
    | some path => createFile path
    | none => pure true
  let configInHome ← pathBelow "HOME" "/.config/storage-pilot/config.yaml"
  let config ← pathBelow "XDG_CONFIG_HOME" "/storage-pilot/config.yaml"
  let defaultConfigFile := config.or configInHome
  let texts ← readTexts (i.task.reads ++ i.configFile.toList ++ defaultConfigFile.toList)
  let contextsInHome ← pathBelow "HOME" "/.kube/config"
  let contexts := (← IO.getEnv "KUBECONFIG").or contextsInHome
  let found ← readTexts contexts.toList
  return {
    files := fun path => texts.lookup path
    defaultConfigFile
    canWrite := fun _ => writable
    cluster := fun _ => if found.isEmpty then .noContext else .unreachable }

/-- What a command line does. -/
def perform (line : List String) : IO Outcome := do
  match Invocation.parse line with
  | .error stop => return stop.outcome
  | .ok i => return i.run (← surroundings i)

end StorageSetup.CommandLine

open StorageSetup.CommandLine in
/-- Runs the program. -/
def main (line : List String) : IO UInt32 := do
  let outcome ← perform line
  IO.print outcome.output
  if outcome.exit == 2 then
    IO.eprint helpText
  if let some reason := outcome.failure then
    IO.eprintln ("Error: " ++ reason.message)
  return outcome.exit.toUInt32
