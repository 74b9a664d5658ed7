import Watchdog.Duration
import Watchdog.Outcome.CrashSignature
import Watchdog.Outcome.FailCount
import Watchdog.Outcome.Failure
import Watchdog.System.Platform
import Watchdog.System.Signal

/-!
# Verdicts

How a command ended decides whether it succeeded and, if not, why.  Seven rules are tried in order:
a clean exit; a failed launch; a crash reported on the error output; a signal; a count of failed
tests behind exit code 1; no exit code at all; any other exit code.
-/

namespace Watchdog

/-- What is known of a command when it has ended, or when nobody waits for it any longer. -/
structure TerminalState where
  exitCode : Option Int32
  signal : Option String
  launchFailure : Option LaunchFailure
  stderr : String
  /-- The time it took, if it was measured. -/
  duration : Option Duration
  timeout : Duration
deriving Repr, DecidableEq

/-- The judgement on a command. -/
inductive Verdict where
  | success
  /-- It failed; `stderrInstead` replaces its error output in the report. -/
  | failed (cause : Failure) (stderrInstead : Option String)
deriving Repr, DecidableEq

namespace Verdict

def ok : Verdict → Bool
  | success => true
  | failed _ _ => false

def failure? : Verdict → Option Failure
  | success => none
  | failed cause _ => some cause

def stderrInstead? : Verdict → Option String
  | success => none
  | failed _ text => text

end Verdict

/-- A letter without regard to case; `small` is a small ASCII letter. -/
def eqIgnoringCase (small c : Char) : Bool := c == small || c == small.toUpper

/-- `timed out` or `timed-out` at the beginning of the text, in any case. -/
def timedOut? : List Char → Option Unit
  | t :: i :: m :: e :: d :: sep :: o :: u :: t' :: _ =>
    if [('t', t), ('i', i), ('m', m), ('e', e), ('d', d), ('o', o), ('u', u), ('t', t')].all
        (fun p => eqIgnoringCase p.1 p.2) && (sep == ' ' || sep == '-')
    then some () else none
  | _ => none

/-- The message speaks of a timeout. -/
def mentionsTimeout (message : String) : Bool :=
  (Text.firstMatch timedOut? message.toList).isSome

namespace TerminalState

/-- Exit code 0 with nothing against it. -/
def clean (s : TerminalState) : Bool :=
  s.exitCode == some 0 && s.signal.isNone && s.launchFailure.isNone

/-- The measured time, none if there is no measurement. -/
def elapsed (s : TerminalState) : Duration := s.duration.getD ⟨0⟩

/-- The failure that an exit code stands for, where nothing else is known. -/
def ofExitCode (s : TerminalState) (platform : Platform) : Failure :=
  match s.exitCode with
  | none => .timeout
  | some code =>
    if code = 1 then
      match failCount? s.stderr with
      | some n => .failing n
      | none => .code "1"
    else .code ((platform.exitReason? code).getD (toString code.toInt))

/-- The verdict on a terminal state. -/
def verdict (s : TerminalState) (platform : Platform) : Verdict :=
  if s.clean then .success
  else
    match s.launchFailure with
    | some f =>
      if mentionsTimeout f.message then .failed .timeout none
      else .failed .launch (some f.diagnostic)
    | none =>
      match crashMessage? s.stderr with
      | some message => .failed (.crash message) none
      | none =>
        match s.signal with
        | some name =>
          if name = "SIGTERM" ∧ s.timeout ≤ s.elapsed then .failed .timeout none
          else .failed (.signal name) none
        | none => .failed (s.ofExitCode platform) none

end TerminalState

end Watchdog
