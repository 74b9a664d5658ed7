/-!
# JSON texts

Values, and the two texts of a value: compact, without any blank, and pretty, with two blanks per
level.  Keys keep their order.  In strings the quote, the backslash and the controls below the
space are escaped, and nothing else.
-/

namespace Watchdog

/-- A JSON value; numbers are whole. -/
inductive Json where
  | null
  | bool (b : Bool)
  | num (n : Int)
  | str (s : String)
  | arr (items : List Json)
  | obj (fields : List (String × Json))

namespace Json

/-- A digit below sixteen, in lower case. -/
def hexDigit (n : Nat) : Char :=
  Char.ofNat (if n < 10 then '0'.toNat + n else 'a'.toNat + (n - 10))

/-- A character as it stands in a string. -/
def escapeChar (c : Char) : List Char :=
  if c = '"' then ['\\', '"']
  else if c = '\\' then ['\\', '\\']
  else if c = '\n' then ['\\', 'n']
  else if c = '\r' then ['\\', 'r']
  else if c = '\t' then ['\\', 't']
  else if c = '\x08' then ['\\', 'b']
  else if c = '\x0c' then ['\\', 'f']
  else if c.toNat < 0x20 then
    ['\\', 'u', '0', '0', hexDigit (c.toNat / 16), hexDigit (c.toNat % 16)]
  else [c]

/-- A string between its quotes. -/
def quote (s : String) : String :=
  (s.toList.foldl (fun acc c => (escapeChar c).foldl String.push acc) "\"").push '"'

mutual

/-- The text without blanks. -/
def compact : Json → String
  | null => "null"
  | bool true => "true"
  | bool false => "false"
  | num n => toString n
  | str s => quote s
  | arr items => "[" ++ compactItems items ++ "]"
  | obj fields => "\x7b" ++ compactFields fields ++ "\x7d"

def compactItems : List Json → String
  | [] => ""
  | [v] => compact v
  | v :: rest => compact v ++ "," ++ compactItems rest

def compactFields : List (String × Json) → String
  | [] => ""
  | [(k, v)] => quote k ++ ":" ++ compact v
  | (k, v) :: rest => quote k ++ ":" ++ compact v ++ "," ++ compactFields rest

end

/-- A new line at a level. -/
def newline (level : Nat) : String := "\n" ++ "".pushn ' ' (2 * level)

mutual

/-- The text with a line per item, for a value that stands at `level`. -/
def prettyAt (level : Nat) : Json → String
  | null => "null"
  | bool true => "true"
  | bool false => "false"
  | num n => toString n
  | str s => quote s
  | arr [] => "[]"
  | arr (v :: rest) => "[" ++ prettyItems (level + 1) (v :: rest) ++ newline level ++ "]"
  | obj [] => "\x7b\x7d"
  | obj (f :: rest) => "\x7b" ++ prettyFields (level + 1) (f :: rest) ++ newline level ++ "\x7d"

def prettyItems (level : Nat) : List Json → String
  | [] => ""
  | [v] => newline level ++ prettyAt level v
  | v :: rest => newline level ++ prettyAt level v ++ "," ++ prettyItems level rest

def prettyFields (level : Nat) : List (String × Json) → String
  | [] => ""
  | [(k, v)] => newline level ++ quote k ++ ": " ++ prettyAt level v
  | (k, v) :: rest =>
    newline level ++ quote k ++ ": " ++ prettyAt level v ++ "," ++ prettyFields level rest

end

/-- The text over several lines. -/
def pretty (v : Json) : String := prettyAt 0 v

/-- An optional value, absent as `null`. -/
def ofOption {α : Type} (f : α → Json) : Option α → Json
  | none => null
  | some a => f a

end Json

end Watchdog
