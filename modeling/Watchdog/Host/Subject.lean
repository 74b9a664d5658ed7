import Watchdog.Launch.Handle

/-!
# Processes under a handle

A handle together with the process behind it: what the system answers to each operation follows
from the state that the process is in.
-/

namespace Watchdog.Host

structure Subject where
  handle : Handle
  /-- How the process ends if it is left alone. -/
  ending : WaitStatus
  /-- It may not be signalled. -/
  protectedFromSignals : Bool

namespace Subject

/-- The process ends by a signal, if it still runs. -/
def die (s : Subject) : Subject :=
  match s.handle.child with
  | .running => { s with handle := { s.handle with child := .exited (.signaled Signal.terminate) } }
  | _ => s

/-- What the system answers to a signal. -/
def answer (s : Subject) : SignalAnswer :=
  if s.protectedFromSignals then .refused .perm
  else
    match s.handle.child with
    | .running => .delivered
    | .exited _ => .delivered
    | _ => .refused .noProcess

/-- The outcome of an operation that may have ended the process by a signal. -/
def after {α : Type} (s : Subject) (r : Handle.Reply (Except HandleError α)) :
    Subject × Except HandleError α :=
  let t := { s with handle := r.handle }
  (if s.answer = .delivered ∧ !r.calls.isEmpty then t.die else t, r.answer)

def terminate (s : Subject) : Subject × Except HandleError Unit :=
  s.after (s.handle.terminate s.answer)

def terminateGroup (s : Subject) : Subject × Except HandleError GroupSignal :=
  s.after (s.handle.terminateGroup s.answer)

def forceKill (s : Subject) : Subject × Except HandleError Unit :=
  let answer : KillAnswer :=
    if s.protectedFromSignals then .refused .perm else .ended (some (.signaled Signal.kill))
  let r := s.handle.forceKill answer
  ({ s with handle := r.handle }, r.answer)

def hasExited (s : Subject) : Subject × Bool :=
  let (h, b) := s.handle.hasExited
  ({ s with handle := h }, b)

/-- Waits until the process has ended. -/
def wait (s : Subject) : Subject × Except IoError WaitStatus :=
  let (h, r) := s.handle.wait (some s.ending)
  ({ s with handle := h }, r)

end Subject

end Watchdog.Host
