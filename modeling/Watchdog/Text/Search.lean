/-!
# Searching text

A scan of a text looks at every suffix, from the whole text on, and takes the first one at which
something can be read.  The first suffix is the one with the shortest text before it.
-/

namespace Watchdog.Text

/-- What the first suffix that `read` accepts gives. -/
def firstMatch {α : Type} (read : List Char → Option α) : List Char → Option α
  | [] => read []
  | c :: rest =>
    match read (c :: rest) with
    | some a => some a
    | none => firstMatch read rest

/-- The text after `lit`, if the text begins with `lit`. -/
def dropLiteral : List Char → List Char → Option (List Char)
  | [], s => some s
  | _ :: _, [] => none
  | l :: lit, c :: s => if l = c then dropLiteral lit s else none

end Watchdog.Text
