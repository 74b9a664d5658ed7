import Watchdog.CommandLine.HelpText
import Watchdog.CommandLine.Invocation
import Watchdog.CommandLine.LogFilter
import Watchdog.Host.Execution
import Watchdog.Run.Delivery

/-!
# The program

What a whole command line prints, what it leaves in the log files, and the status it exits with:
0 if all is well, 1 if the command failed or the logs could not be removed, 2 if the command line
is wrong.
-/

namespace Watchdog

namespace Report

/-- The status with which the program exits after a run. -/
def exitStatus (r : Report) : Nat := if r.ok then 0 else 1

end Report

namespace CommandLine

namespace OutputFormat

/-- A report as it is printed. -/
def render (format : OutputFormat) (r : Report) : String :=
  match format with
  | text => r.summary ++ "\n"
  | json => r.toJson.pretty ++ "\n"

end OutputFormat

/-- What the program finds around it. -/
structure World where
  /-- Where commands run; its environment is also that of the program. -/
  machine : Host.Machine
  logs : LogFiles
  /-- The time as lines of the log begin with it. -/
  time : String
  /-- Error output can be written. -/
  stderrOpen : Bool

/-- What the program leaves behind. -/
structure Outcome where
  status : Nat
  stdout : String
  stderr : String
  logs : LogFiles

namespace World

def envValue? (w : World) (name : String) : Option String := w.machine.env.value? name

/-- Where the log files are. -/
def logPaths (w : World) : LogPaths :=
  .inDir (LogPaths.defaultDir (w.envValue? "SPAWNKIT_LOG_DIR") (w.envValue? "TMPDIR"))

def filter (w : World) : LogFilter := .ofEnv (w.envValue? "SPAWNKIT_LOG")

/-- Prints and exits. -/
def exit (w : World) (status : Nat) (stdout stderr : String) : Outcome :=
  ⟨status, stdout, stderr, w.logs⟩

/-- What appears on error output for an effect: notes that are shown, and text that is passed on. -/
def errorText (w : World) (stream : Bool) : Effect → String
  | .note n => if w.filter.shows n then w.time ++ " " ++ n.line ++ "\n" else ""
  | .sink .stderr text => if stream then text else ""
  | _ => ""

/-- What appears on standard output for an effect: text that is passed on. -/
def outputText (stream : Bool) : Effect → String
  | .sink .stdout text => if stream then text else ""
  | _ => ""

/-- Runs a command.  Its output goes to the log files, or is passed on at once. -/
def run (w : World) (args : RunArgs) (format : OutputFormat) : Outcome :=
  let options := args.toOptions (w.envValue? "SPAWNKIT_TIMEOUT_MS")
  match w.machine.execute Runner.standard options [] none with
  | .error e => w.exit 101 "" (e.message ++ "\n")
  | .ok done =>
    let (logs, effects) :=
      if args.stream then (w.logs, done.effects) else w.logs.receive w.logPaths done.effects
    let report := done.session.report options.timeout Runner.standard.platform Host.Machine.epoch
    { status := report.exitStatus
      stdout := String.join (effects.map (outputText args.stream)) ++ format.render report
      stderr := String.join (effects.map (w.errorText args.stream))
      logs := logs }

/-- What is said when the log files could not be removed. -/
def cleanFailure (e : Errno) : String :=
  "Error: failed to remove log files\n\nCaused by:\n    0: " ++ e.message ++ "\n"

/-- What is said when they were. -/
def cleaned (paths : LogPaths) : OutputFormat → String
  | .text => "Removed " ++ paths.stdout ++ "\n" ++ "Removed " ++ paths.stderr ++ "\n"
  | .json =>
    (Json.obj [("removed", .arr [.str paths.stdout, .str paths.stderr])]).pretty ++ "\n"

/-- Removes the log files.  A failure that cannot even be told ends the program abnormally. -/
def cleanLogs (w : World) (format : OutputFormat) : Outcome :=
  match w.logs.clean with
  | (logs, .ok ()) => { w with logs := logs }.exit 0 (cleaned w.logPaths format) ""
  | (logs, .error e) =>
    { w with logs := logs }.exit (if w.stderrOpen then 1 else 101) "" (cleanFailure e)

/-- What is printed for a command line that is not carried out. -/
def stopped (w : World) : Stop → Outcome
  | .displayHelp topic => w.exit 0 topic.text ""
  | .displayVersion => w.exit 0 version ""
  | stop => w.exit 2 "" (stop.text ++ "\n")

/-- The whole program for a command line, without its own name. -/
def execute (w : World) (argv : List String) : Outcome :=
  let outcome := match Invocation.parse argv with
    | .error stop => w.stopped stop
    | .ok .bare => w.exit 0 (programHelp ++ "\n") ""
    | .ok (.run args format) => w.run args format
    | .ok (.cleanLogs format) => w.cleanLogs format
  if w.stderrOpen then outcome else { outcome with stderr := "" }

/-! ## Starting the program through another command -/

/-- The path of the program. -/
def path : String := "/usr/local/bin/spawnkit"

/-- The program as other commands can call it.  Where it is told to ignore the ends of the processes
that it starts, the system does not keep their statuses.  Every call makes its own tosses. -/
def guest (w : World) : Host.Shell.Guest :=
  { path := path
    answer := fun call =>
      let machine :=
        { w.machine with
          env := call.env
          dir := call.dir
          keepsStatuses := w.machine.keepsStatuses && !call.ignored.contains Signal.child
          tosses := ⟨w.machine.tosses.state + call.number.toUInt64⟩ }
      let done := { w with machine := machine, logs := call.logs }.execute call.args
      ⟨done.status, done.stdout, done.stderr, done.logs⟩
    calls := 0
    logs := w.logs }

/-- What a command has written to a stream. -/
def written (stream : Stream) (b : Host.Behaviour) : String :=
  Utf8.lossy <| (b.events ⟨0⟩).flatMap fun e => match e.change with
    | .write s bytes => if s = stream then bytes else []
    | _ => []

/-- The whole program, started through another command, which is given its path and the command line
as its last words. -/
def executeThrough (w : World) (command argv : List String) : Outcome :=
  match command with
  | [] => w.execute argv
  | name :: args =>
    let start := Host.Shell.State.outside (some w.guest) w.machine.env w.machine.dir name
    let (done, ending) :=
      Host.Shell.runProgram Host.Shell.fuelOutside start name (args ++ path :: argv)
    let b : Host.Behaviour := ⟨done.trace.acts.reverse, ending⟩
    { status := ending.shellStatus
      stdout := written .stdout b
      stderr := written .stderr b
      logs := (done.trace.guest.map (·.logs)).getD w.logs }

end World

end CommandLine

end Watchdog
