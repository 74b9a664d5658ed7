import Watchdog.Host.Behaviour
import Watchdog.Host.Files
import Watchdog.Host.Shell.Script
import Watchdog.Launch.Options
import Watchdog.Run.LogFiles
import Watchdog.Text.Utf8

/-!
# A running shell

What a shell knows while it runs a script, and what the processes of a command have done so far.
The latter is a `Trace`: it outlives the subshells that add to it.  One program may be there that
only whoever started the shell knows how to run: a `Guest`.
-/

namespace Watchdog.Host.Shell

/-- Where a file descriptor leads. -/
inductive Outlet where
  /-- To a stream of the command. -/
  | stream (s : Stream)
  | nowhere
  /-- To a text that is kept for a pipe or a substitution; the innermost one has the highest
  number. -/
  | kept (level : Nat)
deriving Repr, DecidableEq

/-- How a shell goes on after a command. -/
inductive Flow where
  | next
  /-- It exits with its status. -/
  | leave
  | breakLoop (levels : Nat)
  | continueLoop (levels : Nat)
  /-- The process of the script was killed. -/
  | killed (signal : Nat)
  /-- It never gets further. -/
  | stuck
deriving Repr, DecidableEq

/-- How a guest is called. -/
structure Call where
  env : Environment
  /-- The way to the current directory. -/
  dir : List String
  /-- The signals that it ignores from its start on. -/
  ignored : List Nat
  args : List String
  /-- How many calls there were before. -/
  number : Nat
  logs : LogFiles

/-- What a call of a guest leaves behind. -/
structure Called where
  status : Nat
  stdout : String
  stderr : String
  logs : LogFiles

/-- A program that is given to a shell, with the log files as it finds them. -/
structure Guest where
  path : String
  answer : Call → Called
  calls : Nat
  logs : LogFiles

/-- What has been done so far. -/
structure Trace where
  /-- Latest first. -/
  acts : List Act
  /-- The kept texts from the outermost on, each with the latest byte first. -/
  kept : List (List UInt8)
  /-- What is left to read. -/
  input : List UInt8
  clock : Duration
  guest : Option Guest

/-- A shell between two commands. -/
structure State where
  trace : Trace
  flow : Flow
  status : Nat
  pid : Nat
  name : String
  args : List String
  vars : Environment
  exported : List String
  /-- The way to the current directory. -/
  dir : List String
  outlets : List (Nat × Outlet)
  ignored : List Nat
  /-- Commands to run when a signal comes; number 0 stands for the exit. -/
  traps : List (Nat × String)
  /-- The processes left behind: when each is over, and its status. -/
  jobs : List (Duration × Nat)
  /-- How many loops the current command is in. -/
  loops : Nat

namespace State

/-- The number of the process that watches the command. -/
def watcher : Nat := 3242

/-- Standard output and error output. -/
def usualOutlets : List (Nat × Outlet) := [(1, .stream .stdout), (2, .stream .stderr)]

/-- A shell at its start. -/
def start (trace : Trace) (outlets : List (Nat × Outlet)) (ignored : List Nat)
    (pid parent : Nat) (env : Environment) (dir : List String) (name : String)
    (args : List String) : State :=
  { trace := trace
    flow := .next
    status := 0
    pid := pid
    name := name
    args := args
    vars := (env.set "PWD" (Files.render dir)).set "PPID" (toString parent)
    exported := "PWD" :: env.map (·.1)
    dir := dir
    outlets := outlets
    ignored := ignored
    traps := []
    jobs := []
    loops := 0 }

/-- Whoever starts a program from outside of a shell, seen as a shell. -/
def outside (guest : Option Guest) (env : Environment) (dir : List String) (name : String) :
    State :=
  start ⟨[], [], [], ⟨0⟩, guest⟩ usualOutlets [] watcher 1 env dir name []

def outlet? (s : State) (fd : Nat) : Option Outlet := (s.outlets.find? (·.1 == fd)).map (·.2)

def setOutlet (s : State) (fd : Nat) (o : Option Outlet) : State :=
  let others := s.outlets.filter (·.1 != fd)
  { s with outlets := match o with
    | some o => (fd, o) :: others
    | none => others }

/-- Undoes redirections of one command. -/
def restore (s before : State) (redirects : List Redirect) : State :=
  if redirects.isEmpty then s
  else
    { s with
      outlets := before.outlets
      trace := { s.trace with
        input := if redirects.any (·.kind == .input) then before.trace.input else s.trace.input } }

/-- The streams that the shell holds open. -/
def holds (s : State) : Holds :=
  ⟨s.outlets.any (·.2 == .stream .stdout), s.outlets.any (·.2 == .stream .stderr)⟩

def act (s : State) (a : Act) : State := { s with trace := { s.trace with acts := a :: s.trace.acts } }

/-- Lets time pass. -/
def sleep (s : State) (d : Duration) : State :=
  if d.nanos = 0 then s
  else
    let s := s.act (.sleep d)
    { s with trace := { s.trace with clock := s.trace.clock + d } }

/-- Closes the streams that are held no longer. -/
def release (s : State) (before : Holds) : State :=
  [Stream.stdout, .stderr].foldl
    (fun s stream => if before.get stream && !s.holds.get stream then s.act (.close stream) else s) s

def setStatus (s : State) (n : Nat) : State := { s with status := n }

/-- Writes bytes; says whether the descriptor was open. -/
def emit (s : State) (fd : Nat) (bytes : List UInt8) : State × Bool :=
  match s.outlet? fd with
  | none => (s, bytes.isEmpty)
  | some outlet =>
    if bytes.isEmpty then (s, true)
    else
      match outlet with
      | .stream stream => (s.act (.write stream bytes), true)
      | .nowhere => (s, true)
      | .kept level =>
        ( { s with trace := { s.trace with
            kept := s.trace.kept.modify level (bytes.reverse ++ ·) } }, true )

/-- Writes the output of a command, and sets the status to whether that was possible. -/
def put (s : State) (bytes : List UInt8) : State :=
  let (s, written) := s.emit 1 bytes
  s.setStatus (if written then 0 else 1)

/-- Writes a message to the error output. -/
def warn (s : State) (text : String) : State := (s.emit 2 (Utf8.encode text ++ [10])).1

/-- Writes a message of the shell itself. -/
def complain (s : State) (text : String) : State := s.warn (s.name ++ ": 1: " ++ text)

/-- Gives up the script. -/
def abort (s : State) (text : String) : State := { s.complain text with status := 2, flow := .leave }

def assign (s : State) (name value : String) : State := { s with vars := s.vars.set name value }

def exportVar (s : State) (name : String) : State :=
  if s.exported.contains name then s else { s with exported := name :: s.exported }

/-- The variables that commands inherit. -/
def environment (s : State) : Environment := s.vars.filter fun v => s.exported.contains v.1

/-- The value of a parameter, if it is set. -/
def parameter? (s : State) (name : String) : Option String :=
  match name with
  | "?" => some (toString s.status)
  | "$" => some (toString s.pid)
  | "#" => some (toString s.args.length)
  | "0" => some s.name
  | "-" => some ""
  | "!" => if s.jobs.isEmpty then none else some (toString (s.pid + s.jobs.length))
  | "@" => if s.args.isEmpty then none else some (" ".intercalate s.args)
  | "*" => if s.args.isEmpty then none else some (" ".intercalate s.args)
  | _ =>
    match name.toNat? with
    | some n => s.args[n - 1]?
    | none => s.vars.value? name

/-- Begins to keep what is written to standard output. -/
def keep (s : State) : State :=
  let level := s.trace.kept.length
  { s with trace := { s.trace with kept := s.trace.kept ++ [[]] } }.setOutlet 1 (some (.kept level))

/-- Takes the innermost kept text. -/
def takeKept (t : Trace) : List UInt8 × Trace :=
  ((t.kept.getLast?.getD []).reverse, { t with kept := t.kept.dropLast })

/-- Calls the guest, if that is the program under this name: what it prints goes where the shell's
output goes, and its status is the second part. -/
def callGuest? (s : State) (name : String) (args : List String) : Option (State × Nat) :=
  match s.trace.guest with
  | none => none
  | some guest =>
    if name ≠ guest.path then none
    else
      let called := guest.answer ⟨s.environment, s.dir, s.ignored, args, guest.calls, guest.logs⟩
      let guest := { guest with calls := guest.calls + 1, logs := called.logs }
      let s := { s with trace := { s.trace with guest := some guest } }
      let s := (s.emit 1 (Utf8.encode called.stdout)).1
      some ((s.emit 2 (Utf8.encode called.stderr)).1, called.status)

/-- A copy of the shell, as another process. -/
def fork (s : State) : State := { s with flow := .next, traps := [], jobs := [] }

/-- Goes on after a copy has run in the foreground. -/
def join (s child : State) : State :=
  { s with
    trace := child.trace
    status := child.status
    flow := match child.flow with
      | .killed n => .killed n
      | .stuck => .stuck
      | _ => .next }

end State

end Watchdog.Host.Shell
