import Watchdog.System.IoError
import Watchdog.System.Signal

/-!
# Handles on a started process

A handle asks its process to stop, kills it, or signals the whole group that the process leads, and
waits for its end.  It kills at most once, signals the group at most once, and sends no signal to a
process that it has waited for, whose number may belong to another by then.

What the operating system answers is given to each operation.  Every operation also tells which
signals it tried to send.
-/

namespace Watchdog

/-- The state of a started process. -/
inductive ChildState where
  | running
  /-- It has ended; its status waits to be fetched. -/
  | exited (status : WaitStatus)
  /-- It has ended and its status was fetched. -/
  | reaped (status : WaitStatus)
  /-- It has ended and the system did not keep its status. -/
  | vanished
deriving Repr, DecidableEq

/-- A signal that a handle tries to send. -/
inductive SignalCall where
  /-- Asks the process to stop. -/
  | terminate (pid : UInt32)
  /-- Kills the process. -/
  | kill
  /-- Asks the whole group to stop. -/
  | terminateGroup (pgid : UInt32)
deriving Repr, DecidableEq

/-- Why an operation failed. -/
inductive HandleError where
  | signal (pid : UInt32) (source : IoError)
  | groupSignal (pgid : UInt32) (source : IoError)
  | kill (source : IoError)
deriving Repr, DecidableEq

namespace HandleError

/-- What went wrong underneath. -/
def source : HandleError → IoError
  | signal _ e => e
  | groupSignal _ e => e
  | kill e => e

def message : HandleError → String
  | signal pid e => "failed to signal process " ++ toString pid.toNat ++ ": " ++ e.message
  | groupSignal pgid e =>
    "failed to signal process group " ++ toString pgid.toNat ++ ": " ++ e.message
  | kill e => "failed to kill process: " ++ e.message

end HandleError

/-- What became of signalling a group. -/
inductive GroupSignal where
  | sent
  /-- There is no such group any more. -/
  | gone
  /-- It was signalled before. -/
  | skipped
deriving Repr, DecidableEq

/-- What the system answers to a signal. -/
inductive SignalAnswer where
  | delivered
  | refused (e : Errno)
deriving Repr, DecidableEq

/-- What the system answers to killing a process and waiting for its end. -/
inductive KillAnswer where
  /-- No signal was sent. -/
  | refused (e : Errno)
  /-- The signal was sent and the process ended; with this status, if the system kept it. -/
  | ended (status : Option WaitStatus)
deriving Repr, DecidableEq

/-- A started process and what its handle has done to it. -/
structure Handle where
  child : ChildState
  /-- Known unless the process had been waited for before the handle was made. -/
  pid : Option UInt32
  killed : Bool
  groupSignalled : Bool
deriving Repr, DecidableEq

namespace Handle

/-- The outcome of an operation: the handle after it, the signals tried, the answer. -/
structure Reply (α : Type) where
  handle : Handle
  calls : List SignalCall
  answer : α

def new (pid : Option UInt32) (child : ChildState) : Handle := ⟨child, pid, false, false⟩

/-- The error of waiting for a process whose status the system did not keep. -/
def waitLost : IoError := .system .noChild

/-- Looks whether the process has ended, and fetches its status if so. -/
def tryWait (h : Handle) : Handle × Except IoError (Option WaitStatus) :=
  match h.child with
  | .running => (h, .ok none)
  | .exited s => ({ h with child := .reaped s }, .ok (some s))
  | .reaped s => (h, .ok (some s))
  | .vanished => (h, .error waitLost)

/-- The process has ended, as far as the handle can find out. -/
def hasExited (h : Handle) : Handle × Bool :=
  match h.tryWait with
  | (h, .ok (some _)) => (h, true)
  | (h, _) => (h, false)

/-- Waits for the end of the process.  If it still runs, it ends with `ending`. -/
def wait (h : Handle) (ending : Option WaitStatus) : Handle × Except IoError WaitStatus :=
  match h.child, ending with
  | .exited s, _ => ({ h with child := .reaped s }, .ok s)
  | .reaped s, _ => (h, .ok s)
  | .running, some s => ({ h with child := .reaped s }, .ok s)
  | .running, none => ({ h with child := .vanished }, .error waitLost)
  | .vanished, _ => (h, .error waitLost)

/-- Asks the process to stop, if it has not ended. -/
def terminate (h : Handle) (answer : SignalAnswer) : Reply (Except HandleError Unit) :=
  match h.hasExited with
  | (h, true) => ⟨h, [], .ok ()⟩
  | (h, false) =>
    match h.pid with
    | none => ⟨h, [], .ok ()⟩
    | some pid =>
      match answer with
      | .delivered => ⟨h, [.terminate pid], .ok ()⟩
      | .refused e =>
        ⟨h, [.terminate pid], if e = .noProcess then .ok () else .error (.signal pid (.system e))⟩

/-- Kills the process, if it has not ended, and waits for its end.  Only the first call acts. -/
def forceKill (h : Handle) (answer : KillAnswer) : Reply (Except HandleError Unit) :=
  if h.killed then ⟨h, [], .ok ()⟩
  else
    match { h with killed := true }.hasExited with
    | (h, true) => ⟨h, [], .ok ()⟩
    | (h, false) =>
      match answer with
      | .refused e => ⟨h, [.kill], .error (.kill (.system e))⟩
      | .ended status =>
        match h.wait status with
        | (h, .ok _) => ⟨h, [.kill], .ok ()⟩
        | (h, .error e) => ⟨h, [.kill], .error (.kill e)⟩

/-- Asks the group that the process leads to stop, also when the process itself has ended.  Only
the first call acts. -/
def terminateGroup (h : Handle) (answer : SignalAnswer) : Reply (Except HandleError GroupSignal) :=
  if h.groupSignalled then ⟨h, [], .ok .skipped⟩
  else
    let h := { h with groupSignalled := true }
    match h.pid with
    | none => ⟨h, [], .ok .gone⟩
    | some pgid =>
      match answer with
      | .delivered => ⟨h, [.terminateGroup pgid], .ok .sent⟩
      | .refused e =>
        ⟨h, [.terminateGroup pgid],
          if e = .noProcess then .ok .gone else .error (.groupSignal pgid (.system e))⟩

end Handle

end Watchdog
