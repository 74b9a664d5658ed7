/-!
# Platforms

Two things depend on the platform: whether a process leads a group that can be signalled as a
whole, and whether an exit code may be the number of a fatal exception.
-/

namespace Watchdog

structure Platform where
  windows : Bool
deriving Repr, DecidableEq

namespace Platform

/-- The platform this library models processes for. -/
def current : Platform := ⟨false⟩

instance : Inhabited Platform := ⟨current⟩

def hasProcessGroups (p : Platform) : Bool := !p.windows

/-- Fatal exceptions by their number. -/
def exceptions : List (Nat × String) :=
  [ (0x80000003, "STATUS_BREAKPOINT"), (0xC0000005, "STATUS_ACCESS_VIOLATION"),
    (0xC000001D, "STATUS_ILLEGAL_INSTRUCTION"), (0xC0000094, "STATUS_INTEGER_DIVIDE_BY_ZERO"),
    (0xC00000FD, "STATUS_STACK_OVERFLOW"), (0xC0000135, "STATUS_DLL_NOT_FOUND"),
    (0xC000013A, "STATUS_CONTROL_C_EXIT"), (0xC0000142, "STATUS_DLL_INIT_FAILED"),
    (0xC0000374, "STATUS_HEAP_CORRUPTION"), (0xC0000409, "STATUS_STACK_BUFFER_OVERRUN"),
    (0xC0000602, "STATUS_FAIL_FAST_EXCEPTION") ]

/-- The exception that an exit code stands for: the code is read as an unsigned word. -/
def exitReason? (p : Platform) (code : Int32) : Option String :=
  if p.windows then (exceptions.find? (·.1 == code.toUInt32.toNat)).map (·.2) else none

end Platform

end Watchdog
