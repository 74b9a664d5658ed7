import Watchdog.Text.Hidden

/-!
# Quoted text for messages

A string as it is shown to a developer: between quotes, with the characters that could not be seen
written by their code point.  Paths escape the apostrophe as well.
-/

namespace Watchdog.Text

/-- The hexadecimal digits of a code point, as few as possible. -/
def hexDigits (n : Nat) : List Char := Nat.toDigits 16 n

/-- A character inside quotes. -/
def spellChar (escapeApostrophe : Bool) (c : Char) : List Char :=
  if c = '\x00' then ['\\', '0']
  else if c = '\t' then ['\\', 't']
  else if c = '\r' then ['\\', 'r']
  else if c = '\n' then ['\\', 'n']
  else if c = '"' then ['\\', '"']
  else if c = '\\' then ['\\', '\\']
  else if c = '\'' then if escapeApostrophe then ['\\', '\''] else [c]
  else if isHidden c then ['\\', 'u', '\x7b'] ++ hexDigits c.toNat ++ ['\x7d']
  else [c]

def quoteWith (escapeApostrophe : Bool) (s : String) : String :=
  String.ofList (['"'] ++ s.toList.flatMap (spellChar escapeApostrophe) ++ ['"'])

/-- A string in quotes. -/
def quoteText (s : String) : String := quoteWith false s

/-- A path in quotes. -/
def quotePath (s : String) : String := quoteWith true s

end Watchdog.Text
