import Watchdog.Host.Behaviour
import Watchdog.Run.Attempt

/-!
# Scenes

An attempt together with what goes on around it: the events that the command still brings about,
and the processes of its group that are still there.  Playing a scene to its end gives the moves
that the attempt goes through.

An attempt looks round the branches of its selection from one that is tossed for and takes the first
that is ready, so that of several ready branches each can come first.  Only when nothing is ready
does time pass, up to the next event or timer.  A slow receiver, a piece that takes long to read, or
a command that stops its watcher for a while lets several branches become ready together.
-/

namespace Watchdog.Host

/-- Tosses, as far as they have come. -/
structure Tosses where
  state : UInt64
deriving Repr, DecidableEq

namespace Tosses

/-- Goes on to the next toss: a linear congruential generator. -/
def next (t : Tosses) : Tosses := ⟨t.state * 6364136223846793005 + 1442695040888963407⟩

/-- A number below `n`.  The upper half is used, since the lowest digits repeat soon. -/
def draw (t : Tosses) (n : Nat) : Nat := (t.state >>> 33).toNat % n

end Tosses

/-- A process of the group that is still there. -/
structure Member where
  number : Nat
  holds : Holds
  ignoresTerminate : Bool

/-- A branch of the selection that an attempt is at. -/
inductive Branch where
  | output (stream : Stream)
  /-- The end of the command. -/
  | exit
  /-- The deadline, or the end of the draining. -/
  | timer
deriving Repr, DecidableEq

structure Scene where
  /-- No process may be signalled. -/
  refusesSignals : Bool
  /-- The status of a process that has ended is kept until it is fetched. -/
  keepsStatuses : Bool
  attempt : Attempt
  members : List Member
  /-- What still happens, in order. -/
  coming : List Event
  /-- How long the receiver of standard output takes over its first text. -/
  slowSink : Option Duration
  /-- The attempt has been stopped, and takes nothing until it is let go on. -/
  halted : Bool
  tosses : Tosses
  /-- Latest first. -/
  moves : List Move

namespace Scene

/-- How long a command takes until its first act. -/
def startLatency : Duration := .ofMillis 2

/-- The most that a reader takes at once. -/
def pieceSize : Nat := 8192

def move (s : Scene) (m : Move) : Scene :=
  { s with attempt := (s.attempt.step? m).getD s.attempt, moves := m :: s.moves }

/-- A process of the group is still there. -/
def present (s : Scene) (process : Nat) : Bool := s.members.any (·.number == process)

/-- A stream is held open by some process. -/
def held (s : Scene) (stream : Stream) : Bool := s.members.any (·.holds.get stream)

/-- The readers meet the ends of the streams that nobody holds open any longer. -/
def endStreams (s : Scene) : Scene :=
  [Stream.stdout, .stderr].foldl
    (fun s stream =>
      if s.held stream || (s.attempt.channel stream).ended then s else s.move (.streamEnd stream)) s

/-- Cuts bytes as a reader does. -/
def pieces (fuel : Nat) (bytes : List UInt8) : List (List UInt8) :=
  match fuel, bytes with
  | _, [] => []
  | 0, _ => [bytes]
  | fuel + 1, _ => bytes.take pieceSize :: pieces fuel (bytes.drop pieceSize)

/-- A process brings about a change; one that is not there any more brings about none. -/
def happen (s : Scene) (e : Event) : Scene :=
  match e.change with
  | .born holds ignores => { s with members := ⟨e.process, holds, ignores⟩ :: s.members }
  | .write stream bytes =>
    if s.members.any fun m => m.number == e.process && m.holds.get stream then
      (pieces (bytes.length / pieceSize + 1) bytes).foldl (fun s l => s.move (.arrive stream l)) s
    else s
  | .close stream =>
    let drop (m : Member) : Member :=
      if m.number == e.process then { m with holds := m.holds.drop stream } else m
    { s with members := s.members.map drop }.endStreams
  | .ends ending =>
    if s.present e.process then
      let s := { s with members := s.members.filter (·.number != e.process) }
      let s := if e.process = 0 then
        s.move (.childEnd (if s.keepsStatuses then ending.status? else none)) else s
      s.endStreams
    else s
  | .haltWatcher => if s.present e.process then { s with halted := true } else s
  | .resumeWatcher => if s.present e.process then { s with halted := false } else s

/-- Lets time pass until `time`. -/
def waitUntil (s : Scene) (time : Duration) : Scene :=
  if time ≤ s.attempt.now then s else s.move (.elapse (time - s.attempt.now))

/-- Lets time pass until `time`, with all that happens until then. -/
def passUntil (s : Scene) (time : Duration) : List Event → Scene
  | [] => { s with coming := [] }.waitUntil time
  | e :: rest =>
    if e.time ≤ time then passUntil ((s.waitUntil e.time).happen e) time rest
    else { s with coming := e :: rest }.waitUntil time

/-- How long it takes to read a piece of this size that gave this text.  Ill-formed parts are
replaced one by one, and all that follows one is moved each time. -/
def readingTime (size : Nat) (text : String) : Duration :=
  .ofMicros (text.toList.count Utf8.replacement * size / 200000)

/-- Takes something from a stream; time passes while a piece is read, and while a slow receiver
takes its first text. -/
def take (s : Scene) (stream : Stream) : Scene :=
  let size := ((s.attempt.channel stream).queued.headD []).length
  let s := s.move (.take stream)
  match s.attempt.history with
  | .sink receiver text :: _ =>
    let reading := readingTime size text
    match s.slowSink, receiver with
    | some d, .stdout =>
      { s with slowSink := none }.passUntil (s.attempt.now + reading + d) s.coming
    | _, _ => if reading.nanos = 0 then s else s.passUntil (s.attempt.now + reading) s.coming
  | _ => s

/-- Takes the end of the command.  Signalling its group ends the processes left behind that do not
ignore it. -/
def takeExit (s : Scene) : Scene :=
  if s.refusesSignals then s.move (.takeExit (.refused .perm))
  else if s.members.isEmpty then s.move (.takeExit (.refused .noProcess))
  else
    let s := s.move (.takeExit .delivered)
    if s.attempt.setting.platform.hasProcessGroups then
      { s with members := s.members.filter (·.ignoresTerminate) }.endStreams
    else s

/-- What the system answers when the command is killed. -/
def killAnswer (s : Scene) : KillAnswer :=
  if s.refusesSignals then .refused .perm
  else
    match s.attempt.handle.child with
    | .vanished => .refused .noProcess
    | _ => .ended (if s.keepsStatuses then some (.signaled Signal.kill) else none)

/-- The timer that runs, if any. -/
def timer? (s : Scene) : Option (Duration × Move) :=
  match s.attempt.phase with
  | .selecting =>
    some (s.attempt.session.started.getD ⟨0⟩ + s.attempt.setting.timeout, .takeDeadline)
  | .draining since => some (since + s.attempt.setting.drainGrace, .takeGraceEnd)
  | _ => none

/-- The branches, in the order in which an attempt looks round them. -/
def branches (s : Scene) : List Branch :=
  match s.attempt.phase with
  | .selecting => [.output .stdout, .output .stderr, .exit, .timer]
  | .draining _ => [.output .stdout, .output .stderr, .timer]
  | _ => []

/-- A branch can be taken at once; a timer can if it has gone by. -/
def isReady (s : Scene) : Branch → Bool
  | .output stream => Attempt.ready (s.attempt.channel stream)
  | .exit => !s.attempt.exitSeen && s.attempt.handle.child ≠ .running
  | .timer => s.timer?.any fun timer => timer.1 ≤ s.attempt.now

/-- The first ready branch, looking round from a start. -/
def choose (s : Scene) (start : Nat) : Option Branch :=
  (s.branches.drop start ++ s.branches.take start).find? s.isReady

def takeBranch (s : Scene) : Branch → Scene
  | .output stream => s.take stream
  | .exit => s.takeExit
  | .timer =>
    match s.timer? with
    | some (_, m) => s.move m
    | none => s

/-- The next event happens. -/
def nextEvent? (s : Scene) : Option Scene :=
  match s.coming with
  | [] => none
  | e :: rest => some ({ s.waitUntil e.time with coming := rest }.happen e)

/-- Nothing is ready: the next event happens, or the timer goes by before it. -/
def await? (s : Scene) : Option Scene :=
  match s.timer?, s.coming with
  | none, _ => none
  | some (time, m), [] => some ((s.waitUntil time).move m)
  | some (time, m), e :: _ =>
    if time < e.time then some ((s.waitUntil time).move m)
    else s.nextEvent?

/-- What happens next; `none` when everything is over. -/
def next? (s : Scene) : Option Scene :=
  match s.attempt.phase with
  | .done => none
  | phase =>
    if s.halted then s.nextEvent?
    else if phase = .killing then some (s.move (.kill s.killAnswer))
    else
      let start := s.tosses.draw s.branches.length
      let s := { s with tosses := s.tosses.next }
      match s.choose start with
      | some branch => some (s.takeBranch branch)
      | none => s.await?

/-- Plays on to the end. -/
def play (fuel : Nat) (s : Scene) : Scene :=
  match fuel with
  | 0 => s
  | fuel + 1 =>
    match s.next? with
    | some s => play fuel s
    | none => s

/-- As many steps as a scene can take. -/
def enough (events : List Event) : Nat :=
  events.foldl (fun n e => n + 2 + match e.change with
    | .write _ bytes => bytes.length / pieceSize + 1
    | _ => 1) 32

/-- An attempt at a command that behaves so. -/
def opening (refusesSignals keepsStatuses : Bool) (tosses : Tosses) (slowSink : Option Duration)
    (start : Attempt) (b : Behaviour) : Scene :=
  { refusesSignals := refusesSignals
    keepsStatuses := keepsStatuses
    attempt := start
    members := [⟨0, .both, false⟩]
    coming := b.events (start.now + startLatency)
    slowSink := slowSink
    halted := false
    tosses := tosses
    moves := [] }

/-- The moves of a scene that is played to its end. -/
def allMoves (s : Scene) : List Move := (s.play (enough s.coming)).moves.reverse

end Scene

end Watchdog.Host
