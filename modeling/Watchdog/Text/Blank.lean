import Watchdog.Text.Ranges

/-!
# White space

The property `White_Space`: what may stand between a colour code and a count, and what is trimmed
off a number taken from the environment.
-/

namespace Watchdog.Text

/-- The runs of `White_Space`. -/
def blankRanges : List (Nat × Nat) :=
  [ (0x09, 0x0D), (0x20, 0x20), (0x85, 0x85), (0xA0, 0xA0), (0x1680, 0x1680), (0x2000, 0x200A),
    (0x2028, 0x2029), (0x202F, 0x202F), (0x205F, 0x205F), (0x3000, 0x3000) ]

/-- A white-space character, line breaks included. -/
def isBlank (c : Char) : Bool := inRanges blankRanges c

/-- Removes white space at both ends. -/
def trimBlank (s : List Char) : List Char :=
  ((s.dropWhile isBlank).reverse.dropWhile isBlank).reverse

end Watchdog.Text
