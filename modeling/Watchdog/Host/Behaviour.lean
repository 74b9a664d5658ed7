import Watchdog.Duration
import Watchdog.Session
import Watchdog.System.Signal

/-!
# What a command does

A started command writes to its two output streams, lets time pass, closes streams, leaves other
processes of its group behind, and ends.  It can also stop whoever watches it for a while.  Its own
output and end do not depend on who watches it, so a behaviour is a list of acts and an ending, and
gives a list of events in time.
-/

namespace Watchdog.Host

/-- The streams that a process holds open. -/
structure Holds where
  stdout : Bool
  stderr : Bool
deriving Repr, DecidableEq

namespace Holds

def both : Holds := ⟨true, true⟩

def get (h : Holds) : Stream → Bool
  | .stdout => h.stdout
  | .stderr => h.stderr

def drop (h : Holds) : Stream → Holds
  | .stdout => { h with stdout := false }
  | .stderr => { h with stderr := false }

end Holds

/-- One act of a command. -/
inductive Act where
  | write (stream : Stream) (bytes : List UInt8)
  | sleep (d : Duration)
  | close (stream : Stream)
  /-- Leaves another process of the group behind, with the streams it holds and its own acts. -/
  | leave (holds : Holds) (ignoresTerminate : Bool) (acts : List Act)
  /-- Stops the process that watches the command. -/
  | haltWatcher
  /-- Lets it go on. -/
  | resumeWatcher

/-- How a command ends. -/
inductive Ending where
  | exited (code : Nat)
  | signaled (number : Nat)
  /-- It never ends by itself. -/
  | never
deriving Repr, DecidableEq

namespace Ending

/-- The status that waiting for the command then yields. -/
def status? : Ending → Option WaitStatus
  | exited code => some (.exited code)
  | signaled number => some (.signaled number)
  | never => none

/-- The status that a shell gives to a program that ended so. -/
def shellStatus : Ending → Nat
  | exited code => code
  | signaled number => 128 + number
  | never => 0

end Ending

/-- What a command does from its start. -/
structure Behaviour where
  acts : List Act
  ending : Ending

/-- A change that a process brings about. -/
inductive Change where
  | write (stream : Stream) (bytes : List UInt8)
  | close (stream : Stream)
  /-- Another process begins. -/
  | born (holds : Holds) (ignoresTerminate : Bool)
  | ends (ending : Ending)
  | haltWatcher
  | resumeWatcher

/-- A change, when it happens, and which process of the group brings it about; the command itself
is number 0. -/
structure Event where
  time : Duration
  process : Nat
  change : Change

/-- The events so far, latest first, and the first number free for another process. -/
structure Timeline where
  events : List Event
  next : Nat

namespace Timeline

def add (t : Timeline) (time : Duration) (process : Nat) (change : Change) : Timeline :=
  { t with events := ⟨time, process, change⟩ :: t.events }

mutual

/-- One act of a process: when it is over, and the events with those of the act. -/
def act (process : Nat) (t : Timeline) (time : Duration) : Act → Timeline × Duration
  | .write stream bytes => (t.add time process (.write stream bytes), time)
  | .sleep d => (t, time + d)
  | .close stream => (t.add time process (.close stream), time)
  | .leave holds ignores acts =>
    let other := t.next
    let t := { t with next := other + 1 }.add time other (.born holds ignores)
    let (t, last) := Timeline.acts other t time acts
    (t.add last other (.ends (.exited 0)), time)
  | .haltWatcher => (t.add time process .haltWatcher, time)
  | .resumeWatcher => (t.add time process .resumeWatcher, time)

/-- Acts of a process, one after the other. -/
def acts (process : Nat) (t : Timeline) (time : Duration) : List Act → Timeline × Duration
  | [] => (t, time)
  | a :: rest =>
    let (t, time) := Timeline.act process t time a
    Timeline.acts process t time rest

end

end Timeline

namespace Behaviour

/-- All events of a command that starts at `start`, in the order in which they happen. -/
def events (b : Behaviour) (start : Duration) : List Event :=
  let (t, last) := Timeline.acts 0 ⟨[], 1⟩ start b.acts
  let t := match b.ending with
    | .never => t
    | ending => t.add last 0 (.ends ending)
  t.events.reverse.mergeSort fun a b => a.time.nanos ≤ b.time.nanos

end Behaviour

end Watchdog.Host
