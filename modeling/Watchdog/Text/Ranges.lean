/-!
# Tables of code points

A property of characters is a list of runs, each given by its first and last code point.
-/

namespace Watchdog.Text

/-- The code point lies in one of the runs. -/
def inRanges (runs : List (Nat × Nat)) (c : Char) : Bool :=
  runs.any fun run => run.1 ≤ c.toNat && c.toNat ≤ run.2

end Watchdog.Text
