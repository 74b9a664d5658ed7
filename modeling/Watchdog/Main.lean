import Watchdog.CommandLine.Program

/-!
# The executable

Gathers what `World.execute` needs, and prints and stores what it answers.  Commands run on the
machine of this library.
-/

namespace Watchdog.Main

/-- The variables that matter to the program or to commands. -/
def variableNames : List String :=
  ["HOME", "PATH", "SPAWNKIT_LOG", "SPAWNKIT_LOG_DIR", "SPAWNKIT_TIMEOUT_MS", "TMPDIR"]

/-- The environment, as far as it matters. -/
def readEnvironment : IO Environment :=
  variableNames.filterMapM fun name => do
    return (← IO.getEnv name).map fun value => (name, value)

/-- What stands at the path of a log file. -/
def readEntry (path : String) : IO FileEntry := do
  try
    return .file (← IO.FS.readFile path)
  catch
    | .noFileOrDirectory .. => return .absent
    | _ => return .directory

/-- Stores what has become of a log file. -/
def writeEntry (path : String) (before after : FileEntry) : IO Unit := do
  if before ≠ after then
    match after with
    | .file text => IO.FS.writeFile path text
    | .absent => IO.FS.removeFile path
    | .directory => pure ()

/-- What the program finds around it. -/
def readWorld : IO CommandLine.World := do
  let machine := { Host.Machine.usual with env := ← readEnvironment }
  let world : CommandLine.World :=
    { machine := machine
      logs := .fresh true
      time := toString (← IO.monoMsNow)
      stderrOpen := true }
  let paths := world.logPaths
  return { world with logs := ⟨true, ← readEntry paths.stdout, ← readEntry paths.stderr⟩ }

/-- Carries out a command line and gives the status to exit with. -/
def carryOut (argv : List String) : IO UInt32 := do
  let world ← readWorld
  let outcome := world.execute argv
  let paths := world.logPaths
  writeEntry paths.stdout world.logs.stdout outcome.logs.stdout
  writeEntry paths.stderr world.logs.stderr outcome.logs.stderr
  IO.print outcome.stdout
  IO.eprint outcome.stderr
  return outcome.status.toUInt32

end Watchdog.Main

def main (argv : List String) : IO UInt32 := Watchdog.Main.carryOut argv
