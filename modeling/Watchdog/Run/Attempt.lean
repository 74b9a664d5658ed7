import Watchdog.Run.Effect

/-!
# One attempt

From the moment a command has been started until nobody waits for it any longer, five things can
become ready at any time: a piece or the end of either stream, the end of the command, and the
deadline.  They are taken one by one, in no fixed order when several are ready.

Each stream has a reader that puts the pieces it reads into a queue, in order, and marks the queue
as ended when the stream ends.  The readers work on their own, so a queue can hold pieces that have
not been taken yet.

The attempt settles when the session says so or the deadline is taken.  After that, a command that
has not been seen to end is killed and what the queues hold is collected; otherwise the streams
that have not ended yet are drained for a limited time.
-/

namespace Watchdog

/-- What a reader has put aside for one stream. -/
structure Channel where
  /-- The pieces not taken yet, oldest first. -/
  queued : List (List UInt8)
  /-- The reader has met the end of the stream. -/
  ended : Bool
  /-- The end has not been taken yet. -/
  listening : Bool
deriving Repr, DecidableEq

def Channel.new : Channel := ⟨[], false, true⟩

/-- Where an attempt stands. -/
inductive Phase where
  /-- It waits for whatever becomes ready. -/
  | selecting
  /-- It has settled and is about to kill the command. -/
  | killing
  /-- It has settled, at the time given, and collects the rest of the output. -/
  | draining (since : Duration)
  | done
deriving Repr, DecidableEq

/-- What stays fixed during a run. -/
structure Setting where
  command : String
  timeout : Duration
  platform : Platform
  drainGrace : Duration
deriving Repr, DecidableEq

/-- One attempt at some moment. -/
structure Attempt where
  setting : Setting
  now : Duration
  session : Session
  handle : Handle
  stdout : Channel
  stderr : Channel
  /-- The end of the command has been taken. -/
  exitSeen : Bool
  phase : Phase
  /-- What has been done so far, latest first. -/
  history : List Effect
deriving Repr, DecidableEq

/-- What can happen in an attempt: first what the outside does, then what the attempt takes. -/
inductive Move where
  /-- Time passes. -/
  | elapse (d : Duration)
  /-- A reader puts a piece into its queue. -/
  | arrive (stream : Stream) (bytes : List UInt8)
  /-- A reader meets the end of its stream. -/
  | streamEnd (stream : Stream)
  /-- The command ends; with this status, if the system keeps it. -/
  | childEnd (status : Option WaitStatus)
  /-- The oldest piece of a queue is taken, or the end if there is none. -/
  | take (stream : Stream)
  /-- The end of the command is taken; the system answers so when its group is signalled. -/
  | takeExit (answer : SignalAnswer)
  /-- The deadline is taken. -/
  | takeDeadline
  /-- The command is killed; the system answers so. -/
  | kill (answer : KillAnswer)
  /-- Draining has lasted long enough. -/
  | takeGraceEnd
deriving Repr, DecidableEq

namespace Attempt

/-- A command that has just been started. -/
def start (setting : Setting) (pid : UInt32) (now : Duration) (epoch : UInt64) : Attempt :=
  { setting := setting
    now := now
    session := Session.new.markStarted now epoch
    handle := Handle.new (some pid) .running
    stdout := .new
    stderr := .new
    exitSeen := false
    phase := .selecting
    history := [] }

/-- What has been done, in order. -/
def effects (a : Attempt) : List Effect := a.history.reverse

def channel (a : Attempt) : Stream → Channel
  | .stdout => a.stdout
  | .stderr => a.stderr

def setChannel (a : Attempt) (stream : Stream) (c : Channel) : Attempt :=
  match stream with
  | .stdout => { a with stdout := c }
  | .stderr => { a with stderr := c }

def record (a : Attempt) (e : Effect) : Attempt := { a with history := e :: a.history }

def note (a : Attempt) (n : Note) : Attempt := a.record (.note n)

/-- Records the signals that an operation on the handle tried to send. -/
def recordCalls (a : Attempt) (calls : List SignalCall) : Attempt :=
  { a with history := (calls.map Effect.signal).reverse ++ a.history }

/-- Hands a piece to the session, and the text it makes certain to the receiver of the stream. -/
def absorb (a : Attempt) (stream : Stream) (bytes : List UInt8) : Attempt :=
  let (effects, session) := a.session.deliver stream bytes
  { a with session := session, history := effects.reverse ++ a.history }

/-- Everything is over. -/
def finish (a : Attempt) : Attempt :=
  { a with phase := .done }.note (.settled a.setting.command a.session.exitCode a.session.signal)

/-- Goes on draining while a stream has not ended. -/
def drainOrFinish (a : Attempt) (since : Duration) : Attempt :=
  if a.stdout.listening || a.stderr.listening then { a with phase := .draining since } else a.finish

/-- Ends the waiting. -/
def settle (a : Attempt) : Attempt :=
  let a := { a with session := (a.session.settle a.now).2 }
  if a.session.needsForceKill then { a with phase := .killing } else a.drainOrFinish a.now

/-- Ends the waiting if told so. -/
def settleIf (settles : Bool) (a : Attempt) : Attempt := if settles then a.settle else a

/-- Takes from the queue of a stream while waiting. -/
def takeWaiting (a : Attempt) (stream : Stream) : Attempt :=
  let c := a.channel stream
  match c.queued with
  | bytes :: rest => (a.setChannel stream { c with queued := rest }).absorb stream bytes
  | [] =>
    let a := a.setChannel stream { c with listening := false }
    match stream with
    | .stdout =>
      let (settles, session) := a.session.stdoutEnded
      { a with session := session }.settleIf settles
    | .stderr => a

/-- Takes from the queue of a stream while draining. -/
def takeDraining (a : Attempt) (since : Duration) (stream : Stream) : Attempt :=
  let c := a.channel stream
  match c.queued with
  | bytes :: rest => (a.setChannel stream { c with queued := rest }).absorb stream bytes
  | [] => (a.setChannel stream { c with listening := false }).drainOrFinish since

/-- Signals the group that the command led, where there are groups. -/
def reapGroup (a : Attempt) (answer : SignalAnswer) : Attempt :=
  if !a.setting.platform.hasProcessGroups then a
  else
    let a := a.record (.request .terminateGroup)
    let reply := a.handle.terminateGroup answer
    let a := { a with handle := reply.handle }.recordCalls reply.calls
    match reply.answer with
    | .ok .sent => a.note .groupSignalled
    | .ok _ => a
    | .error e => a.note (.groupSignalFailed e)

/-- Takes the end of the command. -/
def acceptExit (a : Attempt) (answer : SignalAnswer) : Attempt :=
  let (handle, result) := a.handle.wait none
  let a := { a with handle := handle, exitSeen := true }
  match result with
  | .ok status =>
    let (settles, session) := a.session.recordExit a.now status.parts
    ({ a with session := session }.reapGroup answer).settleIf settles
  | .error e =>
    let a := a.note (.waitFailed a.setting.command e)
    let (settles, session) := a.session.exitUnknown a.now
    ({ a with session := session }.reapGroup answer).settleIf settles

/-- Hands over all that the queue of a stream holds. -/
def collect (a : Attempt) (stream : Stream) : Attempt :=
  let c := a.channel stream
  c.queued.foldl (fun a bytes => a.absorb stream bytes) (a.setChannel stream { c with queued := [] })

/-- Kills the command and collects what has been read. -/
def killAndCollect (a : Attempt) (answer : KillAnswer) : Attempt :=
  let a := a.record (.request .forceKill)
  let reply := a.handle.forceKill answer
  let a := { a with handle := reply.handle }.recordCalls reply.calls
  let a := match reply.answer with
    | .ok () => a
    | .error e => a.note (.killFailed a.setting.command e)
  ((a.collect .stdout).collect .stderr).finish

/-- Something can be taken from the channel: a piece, or the end. -/
def ready (c : Channel) : Bool := c.listening && (!c.queued.isEmpty || c.ended)

/-- Puts a piece into the queue of a stream. -/
def enqueue (a : Attempt) (stream : Stream) (bytes : List UInt8) : Attempt :=
  let c := a.channel stream
  a.setChannel stream { c with queued := c.queued ++ [bytes] }

/-- The child has ended; its status can be fetched, if there is one. -/
def endChild (a : Attempt) (status : Option WaitStatus) : Attempt :=
  { a with handle := { a.handle with child := match status with
    | some s => .exited s
    | none => .vanished } }

/-- What a move makes of an attempt; `none` if it is not possible then. -/
def step? (a : Attempt) : Move → Option Attempt
  | .elapse d => some { a with now := a.now + d }
  | .arrive stream bytes =>
    if a.phase = .done ∨ (a.channel stream).ended then none else some (a.enqueue stream bytes)
  | .streamEnd stream =>
    if a.phase = .done ∨ (a.channel stream).ended then none
    else some (a.setChannel stream { a.channel stream with ended := true })
  | .childEnd status => if a.handle.child = .running then some (a.endChild status) else none
  | .take stream =>
    if !ready (a.channel stream) then none
    else
      match a.phase with
      | .selecting => some (a.takeWaiting stream)
      | .draining since => some (a.takeDraining since stream)
      | _ => none
  | .takeExit answer =>
    if a.phase = .selecting ∧ !a.exitSeen ∧ a.handle.child ≠ .running then
      some (a.acceptExit answer)
    else none
  | .takeDeadline =>
    if a.phase = .selecting ∧ a.session.started.getD ⟨0⟩ + a.setting.timeout ≤ a.now then
      some (a.note (.deadlineReached a.setting.command a.setting.timeout)).settle
    else none
  | .kill answer => if a.phase = .killing then some (a.killAndCollect answer) else none
  | .takeGraceEnd =>
    match a.phase with
    | .draining since => if since + a.setting.drainGrace ≤ a.now then some a.finish else none
    | _ => none

/-- Plays moves one after the other; a move that is not possible when its turn comes is passed
over. -/
def play (a : Attempt) (moves : List Move) : Attempt :=
  moves.foldl (fun a move => (a.step? move).getD a) a

end Attempt

end Watchdog
