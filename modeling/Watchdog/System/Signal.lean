/-!
# Signals and wait statuses

The names of signals, and what a raw wait status says about how a process ended.
-/

namespace Watchdog

namespace Signal

/-- The signals with a name. -/
def table : List (Int × String) :=
  [ (1, "SIGHUP"), (2, "SIGINT"), (3, "SIGQUIT"), (4, "SIGILL"), (5, "SIGTRAP"), (6, "SIGABRT"),
    (7, "SIGBUS"), (8, "SIGFPE"), (9, "SIGKILL"), (10, "SIGUSR1"), (11, "SIGSEGV"),
    (12, "SIGUSR2"), (13, "SIGPIPE"), (14, "SIGALRM"), (15, "SIGTERM"), (16, "SIGSTKFLT"),
    (17, "SIGCHLD"), (18, "SIGCONT"), (19, "SIGSTOP"), (20, "SIGTSTP"), (21, "SIGTTIN"),
    (22, "SIGTTOU"), (23, "SIGURG"), (24, "SIGXCPU"), (25, "SIGXFSZ"), (26, "SIGVTALRM"),
    (27, "SIGPROF"), (28, "SIGWINCH"), (29, "SIGIO"), (30, "SIGPWR"), (31, "SIGSYS") ]

/-- The name of a signal; one without a name of its own is named by its number. -/
def name (number : Int) : String :=
  match table.find? (·.1 == number) with
  | some (_, n) => n
  | none => "SIG" ++ toString number

/-- Signals that do nothing unless they are caught; number 0 is only a test. -/
def harmless (number : Nat) : Bool := [0, 17, 18, 23, 28].contains number

/-- Signals that stop a process without ending it. -/
def stopping (number : Nat) : Bool := [19, 20, 21, 22].contains number

/-- The signal that asks a process to stop. -/
def terminate : Nat := 15

/-- The signal that ends a process whatever it does. -/
def kill : Nat := 9

/-- The signal that tells a process that one which it has started has ended. -/
def child : Nat := 17

/-- The signal that lets a stopped process go on. -/
def resume : Nat := 18

end Signal

/-- The status that waiting for a process yields, as the system packs it: the low seven bits hold
the signal that ended it, the second byte the exit code. -/
structure WaitStatus where
  bits : UInt32
deriving Repr, DecidableEq

/-- How a process ended: with an exit code, by a signal, or (for a status that reports neither) not
known. -/
structure ExitParts where
  code : Option Int32
  signal : Option String
deriving Repr, DecidableEq

/-- An exit with code 0 and without signal. -/
def ExitParts.clean (p : ExitParts) : Bool := p.code == some 0 && p.signal.isNone

namespace WaitStatus

/-- A status given as a signed word. -/
def ofInt32 (n : Int32) : WaitStatus := ⟨n.toUInt32⟩

/-- The status of a process that exits with `code`; only the low byte of the code is kept. -/
def exited (code : Nat) : WaitStatus := ⟨UInt32.ofNat (code % 256 * 256)⟩

/-- The status of a process that a signal ends. -/
def signaled (number : Nat) : WaitStatus := ⟨UInt32.ofNat (number % 128)⟩

/-- The low seven bits: zero for an exit, all ones for a process that is only stopped. -/
def signalBits (s : WaitStatus) : Nat := (s.bits &&& 0x7F).toNat

/-- The second byte. -/
def codeBits (s : WaitStatus) : Nat := ((s.bits >>> 8) &&& 0xFF).toNat

def code? (s : WaitStatus) : Option Int32 :=
  if s.signalBits = 0 then some (Int32.ofNat s.codeBits) else none

def signal? (s : WaitStatus) : Option String :=
  if s.signalBits = 0 ∨ s.signalBits = 0x7F then none else some (Signal.name s.signalBits)

def parts (s : WaitStatus) : ExitParts := ⟨s.code?, s.signal?⟩

end WaitStatus

end Watchdog
