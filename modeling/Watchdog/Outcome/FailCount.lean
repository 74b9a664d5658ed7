import Watchdog.Text.Blank
import Watchdog.Text.Digit
import Watchdog.Text.Numeral
import Watchdog.Text.Search

/-!
# Counts of failed tests

A test runner that ends with code 1 prints, in red, how many tests failed.  The leftmost red number
before the word counts; one that is not written in ASCII digits or does not fit 64 bits counts as
none.
-/

namespace Watchdog

namespace FailCount

open Watchdog.Text

/-- The escape sequence that begins red text. -/
def red : List Char := "\x1b[31m".toList

/-- The digits of a red count at the beginning of the text. -/
def digits? (s : List Char) : Option (List Char) := do
  let s ← dropLiteral red s
  let s := s.dropWhile isBlank
  if (s.takeWhile isDigit).isEmpty then none
  else
    let _ ← dropLiteral " fail".toList (s.dropWhile isDigit)
    some (s.takeWhile isDigit)

end FailCount

/-- The number of failed tests that an error output reports. -/
def failCount? (stderr : String) : Option UInt64 :=
  (Text.firstMatch FailCount.digits? stderr.toList).bind fun digits =>
    (Numeral.readUInt64 digits).toOption

end Watchdog
