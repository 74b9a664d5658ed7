import Watchdog.System.IoError
import Watchdog.Text.Json

/-!
# Failures

Why a command counts as failed, in one word, and what is known when it could not be started at all.
-/

namespace Watchdog

/-- The operating system did not start the command. -/
structure LaunchFailure where
  code : String
  message : String
  /-- Where in the launching program it happened, if that was recorded. -/
  stack : Option String
deriving Repr, DecidableEq

namespace LaunchFailure

def ofError (e : IoError) : LaunchFailure := ⟨e.code, e.message, none⟩

/-- The most that is known: the stack, else the message. -/
def diagnostic (f : LaunchFailure) : String := f.stack.getD f.message

/-- Worth another try: the resource was busy, or nobody knows what it was. -/
def transient (f : LaunchFailure) : Bool := f.code == "EBUSY" || f.code == "UNKNOWN"

/-- Code and message on one line. -/
def text (f : LaunchFailure) : String := f.code ++ ": " ++ f.message

/-- Code and message; the stack is not reported. -/
def toJson (f : LaunchFailure) : Json :=
  .obj [("code", .str f.code), ("message", .str f.message)]

end LaunchFailure

/-- Why a command counts as failed. -/
inductive Failure where
  /-- The deadline passed. -/
  | timeout
  /-- It could not be started. -/
  | launch
  /-- It reported a crash, with this message. -/
  | crash (message : String)
  /-- A signal ended it. -/
  | signal (name : String)
  /-- It counted failed tests. -/
  | failing (count : UInt64)
  /-- It exited with another code, given by number or by the name of an exception. -/
  | code (text : String)
deriving Repr, DecidableEq

namespace Failure

/-- The failure in one word or line. -/
def tag : Failure → String
  | timeout => "timeout"
  | launch => "spawn error"
  | crash message => message
  | signal name => name
  | failing count => toString count.toNat ++ " failing"
  | code text => "code " ++ text

def toJson (f : Failure) : Json := .str f.tag

end Failure

end Watchdog
