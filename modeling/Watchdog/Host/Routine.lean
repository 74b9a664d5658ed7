import Watchdog.Host.Behaviour
import Watchdog.Launch.Options
import Watchdog.Text.Utf8

/-!
# Routines

A command whose doings are laid down step by step.  Some steps depend on how it was started: they
print its arguments, its directory or a variable.
-/

namespace Watchdog.Host

/-- One step of a routine. -/
inductive Step where
  | write (stream : Stream) (bytes : List UInt8)
  | printVariable (name : String)
  | printDir
  | printArgs
  | pause (d : Duration)
  | closeStdout
  | ignoreTerminate
  /-- Leaves a process behind that holds these streams open for a while. -/
  | leave (holds : Holds) (ignoresTerminate : Bool)

structure Routine where
  steps : List Step
  ending : Ending

/-- How a routine was started. -/
structure Circumstances where
  env : Environment
  dir : String
  args : List String

namespace Routine

/-- How long a process that is left behind stays. -/
def stay : Duration := .ofMillis 3000

/-- What a routine has done: its acts, latest first, the streams it holds, and whether it ignores
being asked to stop. -/
structure Progress where
  acts : List Act
  holds : Holds
  ignoresTerminate : Bool

namespace Progress

def add (p : Progress) (a : Act) : Progress := { p with acts := a :: p.acts }

/-- Writes, unless the stream has been closed. -/
def write (p : Progress) (stream : Stream) (bytes : List UInt8) : Progress :=
  if p.holds.get stream && !bytes.isEmpty then p.add (.write stream bytes) else p

def print (p : Progress) (text : String) : Progress := p.write .stdout (Utf8.encode text)

def step (c : Circumstances) (p : Progress) : Step → Progress
  | .write stream bytes => p.write stream bytes
  | .printVariable name => p.print ((c.env.value? name).getD "<unset>" ++ "\n")
  | .printDir => p.print (c.dir ++ "\n")
  | .printArgs => c.args.foldl (fun p arg => p.print ("<" ++ arg ++ ">\n")) p
  | .pause d => p.add (.sleep d)
  | .closeStdout =>
    if p.holds.stdout then { p.add (.close .stdout) with holds := p.holds.drop .stdout } else p
  | .ignoreTerminate => { p with ignoresTerminate := true }
  | .leave holds ignores =>
    p.add (.leave ⟨holds.stdout && p.holds.stdout, holds.stderr && p.holds.stderr⟩
      (ignores || p.ignoresTerminate) [.sleep stay])

end Progress

/-- What the routine does in its circumstances.  A signal to itself that has no effect lets it
exit. -/
def behaviour (r : Routine) (c : Circumstances) : Behaviour :=
  let p := r.steps.foldl (Progress.step c) ⟨[], .both, false⟩
  let ending := match r.ending with
    | .signaled n =>
      if Signal.harmless n || (n == Signal.terminate && p.ignoresTerminate) then .exited 0
      else if Signal.stopping n then .never
      else .signaled n
    | ending => ending
  ⟨p.acts.reverse, ending⟩

end Routine

end Watchdog.Host
