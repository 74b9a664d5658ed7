import Watchdog.Launch.Backoff
import Watchdog.Run.Attempt

/-!
# Runs

A run launches a command, again after a pause if the launch failed for a passing reason, and
attends to the first launch that does not fail so.  It always ends in a report.

How each launch comes out is a function of its number, so that a run is a function of what happens
to it.
-/

namespace Watchdog

/-- How a launch comes out: it fails, or a process starts, at this time, and goes through these
moves. -/
inductive LaunchOutcome where
  | failed (f : LaunchFailure)
  | started (pid : UInt32) (now : Duration) (epoch : UInt64) (moves : List Move)

/-- What a runner does the same for all its commands. -/
structure Runner where
  platform : Platform
  retryBaseDelay : Duration
  drainGrace : Duration
  /-- Notes every launch for the log. -/
  traced : Bool
deriving Repr, DecidableEq

namespace Runner

/-- How long output still in flight is collected unless told otherwise. -/
def defaultDrainGrace : Duration := .ofMillis 100

/-- The runner that the command line uses. -/
def standard : Runner := ⟨.current, RetryPolicy.defaultBaseDelay, defaultDrainGrace, true⟩

/-- The policy for launching a command again. -/
def policy (r : Runner) (o : RunOptions) : RetryPolicy := ⟨o.maxRetries, r.retryBaseDelay⟩

def setting (r : Runner) (o : RunOptions) : Setting :=
  ⟨o.command, o.timeout, r.platform, r.drainGrace⟩

/-- One launch and what follows it: the session it leaves and what was done. -/
def attempt (r : Runner) (o : RunOptions) : LaunchOutcome → Session × List Effect
  | .failed f =>
    ( ((Session.new.launchFailed f).settle ⟨0⟩).2,
      if r.traced then
        [.note (.starting o.launchSpec), .launch o.launchSpec, .note (.launchFailed f)]
      else [.launch o.launchSpec] )
  | .started pid now epoch moves =>
    let a := (Attempt.start (r.setting o) pid now epoch).play moves
    ( a.session,
      (if r.traced then
        [.note (.starting o.launchSpec), .launch o.launchSpec, .note .started]
      else [.launch o.launchSpec]) ++ a.effects )

/-- Whether, and after which pause, a session is followed by another launch. -/
def backoff (r : Runner) (o : RunOptions) (s : Session) (number : UInt32) :
    Except Duration.TooLong (Option (LaunchFailure × Duration)) :=
  match s.launchFailure with
  | none => .ok none
  | some f => ((r.policy o).backoff f number).map fun d => d.map (f, ·)

/-- Another launch only follows within the limit. -/
theorem number_lt_of_backoff {r : Runner} {o : RunOptions} {s : Session} {number : UInt32}
    {p : LaunchFailure × Duration} (h : r.backoff o s number = .ok (some p)) :
    number < o.maxRetries := by
  unfold backoff at h
  split at h
  · cases h
  · rename_i f _
    cases hb : (r.policy o).backoff f number with
    | error e => simp [hb, Except.map] at h
    | ok d =>
      cases d with
      | none => simp [hb, Except.map] at h
      | some d => exact RetryPolicy.lt_of_backoff hb

/-- The launches from number `number` on: the last session and all that was done. -/
def runFrom (r : Runner) (o : RunOptions) (outcome : Nat → LaunchOutcome) (number : UInt32) :
    Except Duration.TooLong (Session × List Effect) :=
  let (session, effects) := r.attempt o (outcome number.toNat)
  match h : r.backoff o session number with
  | .error e => .error e
  | .ok none => .ok (session, effects)
  | .ok (some (f, delay)) =>
    (runFrom r o outcome (number + 1)).map fun (last, more) =>
      (last, effects ++ [.note (.retrying o.command number f.code delay), .pause delay] ++ more)
termination_by o.maxRetries.toNat - number.toNat
decreasing_by
  have hlt : number < o.maxRetries := number_lt_of_backoff h
  have h1 : number.toNat < o.maxRetries.toNat := hlt
  have h2 : o.maxRetries.toNat < 2 ^ 32 := o.maxRetries.toNat_lt
  have h3 : (number + 1).toNat = number.toNat + 1 := by
    rw [UInt32.toNat_add]
    exact Nat.mod_eq_of_lt (by simpa using Nat.lt_of_le_of_lt h1 h2)
  omega

/-- A whole run. -/
def run (r : Runner) (o : RunOptions) (outcome : Nat → LaunchOutcome) :
    Except Duration.TooLong (Session × List Effect) :=
  r.runFrom o outcome 0

end Runner

end Watchdog
