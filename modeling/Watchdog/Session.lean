import Watchdog.Report
import Watchdog.Session.Barrier
import Watchdog.Session.StreamBuffer

/-!
# Sessions

What is known of one launch of a command: how it ended, its output so far, whether and how long it
ran, and whether the waiting is over.  A new launch begins with a new session.

The time that the command took is measured once, at the first of its end and the end of the waiting.
-/

namespace Watchdog

/-- The two output streams of a command. -/
inductive Stream where
  | stdout
  | stderr
deriving Repr, DecidableEq

/-- What is known of one launch. -/
structure Session where
  exitCode : Option Int32
  signal : Option String
  launchFailure : Option LaunchFailure
  /-- Milliseconds since the epoch when the command started. -/
  startedAt : Option UInt64
  /-- The time on the clock when the command started. -/
  started : Option Duration
  duration : Option Duration
  stdout : StreamBuffer
  stderr : StreamBuffer
  barrier : Barrier
  settled : Bool
deriving Repr, DecidableEq

namespace Session

/-- Nothing is known yet. -/
def new : Session :=
  { exitCode := none
    signal := none
    launchFailure := none
    startedAt := none
    started := none
    duration := none
    stdout := .empty
    stderr := .empty
    barrier := .start
    settled := false }

/-- The command runs since `now`, which is `epoch` milliseconds after the epoch. -/
def markStarted (s : Session) (now : Duration) (epoch : UInt64) : Session :=
  { s with started := some now, startedAt := some epoch }

/-- The command could not be started. -/
def launchFailed (s : Session) (f : LaunchFailure) : Session :=
  { s with launchFailure := some f }

/-- The buffer of a stream. -/
def buffer (s : Session) : Stream → StreamBuffer
  | .stdout => s.stdout
  | .stderr => s.stderr

/-- Adds a piece of a stream; gives the text that it made certain. -/
def chunk (s : Session) (stream : Stream) (bytes : List UInt8) : String × Session :=
  match stream with
  | .stdout =>
    let (text, b) := s.stdout.push bytes
    (text, { s with stdout := b })
  | .stderr =>
    let (text, b) := s.stderr.push bytes
    (text, { s with stderr := b })

/-- Measures the time since the start, unless it has been measured. -/
def measure (s : Session) (now : Duration) : Session :=
  match s.duration with
  | some _ => s
  | none => { s with duration := s.started.map (now - ·) }

/-- The command ended so.  Also says whether the waiting is over. -/
def recordExit (s : Session) (now : Duration) (parts : ExitParts) : Bool × Session :=
  let s := { s with exitCode := parts.code, signal := parts.signal }.measure now
  let (settle, barrier) := s.barrier.exit parts.clean
  (settle, { s with barrier := barrier })

/-- The command ended and nobody knows how.  Also says whether the waiting is over. -/
def exitUnknown (s : Session) (now : Duration) : Bool × Session :=
  let s := s.measure now
  let (settle, barrier) := s.barrier.exit false
  (settle, { s with barrier := barrier })

/-- Standard output ended.  Also says whether the waiting is over. -/
def stdoutEnded (s : Session) : Bool × Session :=
  let (settle, barrier) := s.barrier.stdoutEnd
  (settle, { s with barrier := barrier })

/-- Ends the waiting; says whether this was the first time. -/
def settle (s : Session) (now : Duration) : Bool × Session :=
  if s.settled then (false, s)
  else (true, { s with settled := true }.measure now)

/-- The command was started and has not been seen to end. -/
def needsForceKill (s : Session) : Bool :=
  s.started.isSome && s.exitCode.isNone && s.signal.isNone

/-- What the verdict is formed from, given the whole error output. -/
def terminalState (s : Session) (timeout : Duration) (stderr : String) : TerminalState :=
  { exitCode := s.exitCode
    signal := s.signal
    launchFailure := s.launchFailure
    stderr := stderr
    duration := s.duration
    timeout := timeout }

/-- The report, made `epoch` milliseconds after the epoch. -/
def report (s : Session) (timeout : Duration) (platform : Platform) (epoch : UInt64) : Report :=
  Report.ofState (s.terminalState timeout s.stderr.finish.1) s.stdout.finish.1
    (s.startedAt.getD epoch) platform

end Session

end Watchdog
