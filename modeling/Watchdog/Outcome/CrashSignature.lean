import Watchdog.Text.Digit
import Watchdog.Text.Lowercase
import Watchdog.Text.Search

/-!
# Crash signatures

Programs that crash say so on their error output, in one of six forms:

1. `thread <number> panic: <message>` and a line end;
2. `panic(<anything on the line>): <message>` and a line end;
3. to 5. one of three phrases anywhere;
6. `panic: <message> at address`.

The forms are tried in this order over the whole text.  Of several places where a form fits, the
leftmost counts, and there the longest text that the form leaves open.  The message reported is
the first line of what was found, in lower case.
-/

namespace Watchdog

namespace CrashSignature

open Watchdog.Text

/-- A character that ends a line. -/
def isLineEnd (c : Char) : Bool := c == '\r' || c == '\n'

/-- The rest of the line, if the line ends. -/
def restOfLine? (s : List Char) : Option (List Char) :=
  match s.dropWhile (!isLineEnd ·) with
  | [] => none
  | _ :: _ => some (s.takeWhile (!isLineEnd ·))

/-- Among the places of the line where `read` succeeds, the last: the text before it and what was
read.  `before` is the text already passed, backwards; only `\n` ends the line here. -/
def lastInLine {α : Type} (read : List Char → Option α) (before : List Char)
    (best : Option (List Char × α)) (s : List Char) : Option (List Char × α) :=
  let best := match read s with
    | some a => some (before.reverse, a)
    | none => best
  match s with
  | [] => best
  | c :: rest => if c = '\n' then best else lastInLine read (c :: before) best rest
termination_by s.length

/-- The first form, at the beginning of the text. -/
def threadPanic? (s : List Char) : Option (List Char) := do
  let s ← dropLiteral "thread ".toList s
  if (s.takeWhile isDigit).isEmpty then none
  else
    let s ← dropLiteral " panic: ".toList (s.dropWhile isDigit)
    restOfLine? s

/-- The end of the second form: the closing bracket and the message. -/
def panicMessage? (s : List Char) : Option (List Char) := do
  let s ← dropLiteral "): ".toList s
  restOfLine? s

/-- The second form, at the beginning of the text. -/
def genericPanic? (s : List Char) : Option (List Char) := do
  let s ← dropLiteral "panic(".toList s
  (lastInLine panicMessage? [] none s).map (·.2)

/-- A phrase, at the beginning of the text. -/
def phrase? (phrase : List Char) (s : List Char) : Option (List Char) :=
  (dropLiteral phrase s).map fun _ => phrase

/-- The last form, at the beginning of the text. -/
def addressPanic? (s : List Char) : Option (List Char) := do
  let s ← dropLiteral "panic: ".toList s
  (lastInLine (dropLiteral " at address".toList) [] none s).map (·.1)

/-- The forms in the order in which they are tried. -/
def forms : List (List Char → Option (List Char)) :=
  [ threadPanic?,
    genericPanic?,
    phrase? "Segmentation fault at address".toList,
    phrase? "Internal assertion failure".toList,
    phrase? "Illegal instruction at address".toList,
    addressPanic? ]

/-- What the first form that fits anywhere leaves open. -/
def raw? (s : List Char) : Option (List Char) :=
  forms.findSome? (firstMatch · s)

/-- The text before the first line break, written as such or as a backslash and an `n`. -/
def firstLine : List Char → List Char
  | [] => []
  | '\n' :: _ => []
  | '\\' :: 'n' :: _ => []
  | c :: rest => c :: firstLine rest

end CrashSignature

/-- The crash that an error output reports. -/
def crashMessage? (stderr : String) : Option String :=
  (CrashSignature.raw? stderr.toList).map fun raw =>
    String.ofList (Text.lower (CrashSignature.firstLine raw))

end Watchdog
