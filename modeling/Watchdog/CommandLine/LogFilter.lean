import Watchdog.Run.Effect

/-!
# Which notes are shown

A filter is a list of directives, divided by commas: a level for everything, `target=level` for the
notes of one part of the program, or a target alone for all its notes.  Of the directives that fit
a note the one with the longest target decides; without one the note is not shown.
-/

namespace Watchdog.CommandLine

/-- How much a note has to matter to be shown; higher thresholds show more. -/
abbrev Threshold := Nat

namespace Threshold

def warn : Threshold := 2

def all : Threshold := 5

/-- The thresholds by name. -/
def names : List (String × Threshold) :=
  [ ("off", 0), ("error", 1), ("warn", 2), ("info", 3), ("debug", 4), ("trace", 5),
    ("0", 0), ("1", 1), ("2", 2), ("3", 3), ("4", 4), ("5", 5), ("", 1) ]

/-- The threshold of that name, in either case. -/
def read? (text : String) : Option Threshold := (names.find? (·.1 == text.toLower)).map (·.2)

/-- The lowest threshold that shows a level. -/
def ofLevel : Level → Threshold
  | .warn => 2
  | .debug => 4
  | .trace => 5

end Threshold

/-- A directive; the empty target fits every note. -/
structure Directive where
  target : String
  threshold : Threshold
deriving Repr, DecidableEq

namespace Directive

/-- Reads one directive. -/
def read? (text : String) : Option Directive :=
  match text.splitOn "=" with
  | [word] =>
    match Threshold.read? word with
    | some threshold => some ⟨"", threshold⟩
    | none => some ⟨word, Threshold.all⟩
  | [target, level] =>
    if target.isEmpty then none else (Threshold.read? level).map fun threshold => ⟨target, threshold⟩
  | _ => none

end Directive

abbrev LogFilter := List Directive

namespace LogFilter

/-- Shows what goes wrong. -/
def usual : LogFilter := [⟨"", Threshold.warn⟩]

/-- The filter that the environment asks for, if any. -/
def asked? (value : Option String) : Option String := value.filter fun v => !v.isEmpty

/-- Reads a filter; one that cannot be read is replaced by the usual one. -/
def read (text : String) : LogFilter :=
  match (text.splitOn ",").filter fun d => !d.isEmpty with
  | [] => [⟨"", 1⟩]
  | directives => (directives.mapM Directive.read?).getD usual

/-- The filter for a value of the environment. -/
def ofEnv (value : Option String) : LogFilter :=
  match asked? value with
  | some text => read text
  | none => usual

/-- The threshold for the notes of a target: that of the longest target that fits. -/
def threshold (f : LogFilter) (target : String) : Threshold :=
  (f.foldl (fun (best : Option Directive) d =>
    if !target.startsWith d.target then best
    else
      match best with
      | some b => if b.target.length ≤ d.target.length then some d else some b
      | none => some d) none).elim 0 Directive.threshold

/-- A note is shown. -/
def shows (f : LogFilter) (n : Note) : Bool := Threshold.ofLevel n.level ≤ f.threshold n.target

end LogFilter

end Watchdog.CommandLine
