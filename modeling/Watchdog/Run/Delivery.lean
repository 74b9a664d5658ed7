import Watchdog.Run.Effect
import Watchdog.Run.LogFiles

/-!
# Where the text goes

A run hands text to a receiver for each stream.  Receivers either keep all of it or append it to the
log files, where a failure is noted and otherwise ignored.
-/

namespace Watchdog

namespace Effect

/-- The text handed to the receiver of a stream, in order. -/
def sunk (stream : Stream) (effects : List Effect) : List String :=
  effects.filterMap fun e => match e with
    | .sink s text => if s = stream then some text else none
    | _ => none

/-- The same as one text. -/
def sunkText (stream : Stream) (effects : List Effect) : String := String.join (sunk stream effects)

/-- What was noted, in order. -/
def notes (effects : List Effect) : List Note :=
  effects.filterMap fun e => match e with
    | .note n => some n
    | _ => none

/-- The launches asked for, in order. -/
def launches (effects : List Effect) : List LaunchSpec :=
  effects.filterMap fun e => match e with
    | .launch spec => some spec
    | _ => none

end Effect

namespace LogFiles

/-- Appends the text of a run to the log files, and notes where that was not possible. -/
def receive (paths : LogPaths) (l : LogFiles) : List Effect → LogFiles × List Effect
  | [] => (l, [])
  | .sink stream text :: rest =>
    match l.append stream text with
    | .ok l =>
      let (last, more) := l.receive paths rest
      (last, .sink stream text :: more)
    | .error e =>
      let (last, more) := l.receive paths rest
      (last, .sink stream text :: .note (.appendFailed (paths.path stream) (.system e)) :: more)
  | e :: rest =>
    let (last, more) := l.receive paths rest
    (last, e :: more)

end LogFiles

end Watchdog
