/-!
# When to stop waiting

A command that ended well is done at once.  One that ended badly may still have written its last
words, so it is done only when its standard output has ended too, in whichever order the two come.
-/

namespace Watchdog

/-- Which of the two ends have been seen. -/
structure Barrier where
  exitSeen : Bool
  stdoutEndSeen : Bool
deriving Repr, DecidableEq

namespace Barrier

/-- Nothing seen yet. -/
def start : Barrier := ⟨false, false⟩

/-- The command has ended; `clean` if it ended well.  Also says whether it is done. -/
def exit (b : Barrier) (clean : Bool) : Bool × Barrier :=
  (clean || b.stdoutEndSeen, { b with exitSeen := true })

/-- Standard output has ended.  Also says whether the command is done. -/
def stdoutEnd (b : Barrier) : Bool × Barrier :=
  (b.exitSeen, { b with stdoutEndSeen := true })

end Barrier

end Watchdog
