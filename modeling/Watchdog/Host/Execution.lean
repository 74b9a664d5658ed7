import Watchdog.Host.Machine
import Watchdog.Run.Runner

/-!
# Executions

A run on a machine: how each launch comes out there, and how long the run takes.
-/

namespace Watchdog

namespace LaunchOutcome

/-- How long an attempt lasts, from the launch on. -/
def elapsed : LaunchOutcome → Duration
  | failed _ => ⟨0⟩
  | started _ _ _ moves => moves.foldl (fun d m => match m with
    | .elapse e => d + e
    | _ => d) ⟨0⟩

end LaunchOutcome

namespace Host

/-- A run that is over. -/
structure Execution where
  session : Session
  effects : List Effect
  /-- How long it paused between launches. -/
  paused : Duration
  /-- How long it took in all. -/
  elapsed : Duration

namespace Machine

/-- The time of every launch, in milliseconds since the epoch. -/
def epoch : UInt64 := 1700000000000

/-- How a launch comes out on the machine. -/
def launch (m : Machine) (setting : Setting) (slowSink : Option Duration) (spec : LaunchSpec) :
    LaunchOutcome :=
  match m.start spec with
  | .error e => .failed (LaunchFailure.ofError e)
  | .ok b =>
    let start := Attempt.start setting pid ⟨0⟩ epoch
    let scene := Scene.opening m.refusesSignals m.keepsStatuses m.tosses slowSink start b
    .started pid ⟨0⟩ epoch scene.allMoves

/-- A run on the machine; the first launches fail as told. -/
def execute (m : Machine) (r : Runner) (o : RunOptions) (failures : List LaunchFailure)
    (slowSink : Option Duration) : Except Duration.TooLong Execution := do
  let launched := m.launch (r.setting o) slowSink o.launchSpec
  let outcome (n : Nat) : LaunchOutcome :=
    match failures[n]? with
    | some f => .failed f
    | none => launched
  let (session, effects) ← r.run o outcome
  let pauses := effects.filterMap fun e => match e with
    | .pause d => some d
    | _ => none
  let paused := pauses.foldl (· + ·) ⟨0⟩
  return ⟨session, effects, paused, paused + (outcome pauses.length).elapsed⟩

end Machine

end Host

end Watchdog
