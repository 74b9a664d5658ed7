import Watchdog.Outcome.Verdict

/-!
# Reports

The record of one command: the verdict, how it ended, all its output, when it started and how long
it took.  It has a text on one line and a JSON form.
-/

namespace Watchdog

/-- The record of one command. -/
structure Report where
  ok : Bool
  error : Option Failure
  exitCode : Option Int32
  signal : Option String
  launchFailure : Option LaunchFailure
  stdout : String
  stderr : String
  /-- Milliseconds since the epoch. -/
  timestamp : UInt64
  /-- Whole milliseconds, as decimal text. -/
  duration : String
deriving Repr, DecidableEq

namespace Report

/-- The report on a command that ended in `state`. -/
def ofState (state : TerminalState) (stdout : String) (timestamp : UInt64) (platform : Platform) :
    Report :=
  let verdict := state.verdict platform
  { ok := verdict.ok
    error := verdict.failure?
    exitCode := state.exitCode
    signal := state.signal
    launchFailure := state.launchFailure
    stdout := stdout
    stderr := verdict.stderrInstead?.getD state.stderr
    timestamp := timestamp
    duration := toString state.elapsed.millis }

def errorTag? (r : Report) : Option String := r.error.map Failure.tag

/-- The duration as a number; a text that is none counts as zero. -/
def durationMillis (r : Report) : UInt64 :=
  match Numeral.readUInt64 r.duration.toList with
  | .ok n => n
  | .error _ => 0

/-! ## Text -/

/-- How the command ended. -/
def endText (r : Report) : String :=
  match r.launchFailure, r.signal, r.exitCode with
  | some f, _, _ => f.text
  | none, some name, _ => "signal " ++ name
  | none, none, some code => "exit " ++ toString code.toInt
  | none, none, none => "no exit status"

/-- The report on one line. -/
def summary (r : Report) : String :=
  let detail := " (" ++ r.endText ++ ", " ++ r.duration ++ "ms)"
  match r.error with
  | some failure => if r.ok then "ok" ++ detail else "failed: " ++ failure.tag ++ detail
  | none => "ok" ++ detail

/-! ## JSON -/

/-- The fields in the order in which they are written; `error` is left out when there is none. -/
def toJson (r : Report) : Json :=
  .obj <|
    [("ok", .bool r.ok)] ++
    (match r.error with
      | some failure => [("error", failure.toJson)]
      | none => []) ++
    [ ("exitCode", .ofOption (fun code => .num code.toInt) r.exitCode),
      ("signalCode", .ofOption .str r.signal),
      ("spawnError", .ofOption LaunchFailure.toJson r.launchFailure),
      ("stdout", .str r.stdout),
      ("stderr", .str r.stderr),
      ("timestamp", .num r.timestamp.toNat),
      ("duration", .str r.duration) ]

end Report

end Watchdog
