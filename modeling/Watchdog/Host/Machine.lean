import Watchdog.Host.Routine
import Watchdog.Host.Scene
import Watchdog.Host.Shell.Run
import Watchdog.System.IoError

/-!
# Machines

A machine starts commands: it finds the program, prepares the environment and the directory, and
says why a command cannot be started.
-/

namespace Watchdog.Host

structure Machine where
  /-- The environment that commands inherit. -/
  env : Environment
  /-- The current directory, as the way to it. -/
  dir : List String
  /-- No process may be signalled. -/
  refusesSignals : Bool
  /-- The status of a process that has ended is kept until it is fetched. -/
  keepsStatuses : Bool
  /-- What runs in place of the shell, if anything. -/
  routine : Option Routine
  /-- Where attempts begin with their tosses. -/
  tosses : Tosses

namespace Machine

/-- Where programs are looked for. -/
def usualPath : String := "/usr/local/sbin:/usr/local/bin:/usr/sbin:/usr/bin:/sbin:/bin"

/-- A machine without peculiarities. -/
def usual : Machine :=
  { env := [("PATH", usualPath), ("HOME", "/root")]
    dir := ["tmp"]
    refusesSignals := false
    keepsStatuses := true
    routine := none
    tosses := ⟨1⟩ }

/-- The length at which an argument or variable is too long. -/
def maxArgument : Nat := 131072

def hasZero (text : String) : Bool := text.toList.contains '\x00'

/-- The number of the command's process. -/
def pid : UInt32 := 4242

/-- The directory that a command starts in. -/
def startDir (m : Machine) (cwd : Option String) : Except Errno (List String) :=
  match cwd with
  | none => .ok m.dir
  | some path =>
    match Files.locate m.dir path with
    | .error e => .error e
    | .ok way =>
      match Files.kind? way with
      | some .directory => .ok way
      | some _ => .error .notDirectory
      | none => .error .noEntry

/-- What a program does. -/
def behaviour (m : Machine) (program : String) (spec : LaunchSpec) (env : Environment)
    (dir : List String) : Behaviour :=
  match m.routine, Shell.isShell program with
  | some r, true => r.behaviour ⟨env, Files.render dir, spec.args.drop 2⟩
  | _, _ =>
    let s := Shell.State.outside none env dir spec.command
    let (done, ending) := Shell.runNamed Shell.fuelOutside s program spec.command spec.args
    ⟨done.trace.acts.reverse, ending⟩

/-- Starts a command.  A zero byte anywhere is found first, then the directory is entered, then the
program is looked for. -/
def start (m : Machine) (spec : LaunchSpec) : Except IoError Behaviour :=
  let env := m.env.apply spec.env
  let words := spec.command :: spec.args
  let settings := if spec.env.isEmpty then [] else env.map fun v => v.1 ++ "=" ++ v.2
  if (words ++ spec.cwd.toList ++ settings).any hasZero then .error .zeroByte
  else
    match m.startDir spec.cwd with
    | .error e => .error (.system e)
    | .ok dir =>
      if (words ++ settings).any (·.utf8ByteSize ≥ maxArgument) then
        .error (.system Files.argsTooLong)
      else
        match Files.resolve dir (env.value? "PATH") spec.command with
        | .error e => .error (.system e)
        | .ok program => .ok (m.behaviour program spec env dir)

end Machine

end Watchdog.Host
