/-!
# Reading numbers

Whole numbers as a user writes them: an optional sign and ASCII digits, nothing else, within the
range of the type asked for.  Digits are read from the left and the first fault wins, so a number
that has already grown too large is reported as such whatever follows.
-/

namespace Watchdog

/-- Why a text is no number of the type asked for. -/
inductive NumeralError where
  | empty
  | invalidDigit
  | tooLarge
  | tooSmall
deriving Repr, DecidableEq

namespace NumeralError

def message : NumeralError → String
  | empty => "cannot parse integer from empty string"
  | invalidDigit => "invalid digit found in string"
  | tooLarge => "number too large to fit in target type"
  | tooSmall => "number too small to fit in target type"

end NumeralError

namespace Numeral

/-- The value of an ASCII digit. -/
def digitValue? (c : Char) : Option Nat :=
  if '0' ≤ c ∧ c ≤ '9' then some (c.toNat - '0'.toNat) else none

/-- Reads digits after the value `acc`, up to `limit`; `past` is the fault of going beyond it. -/
def readDigits (limit : Nat) (past : NumeralError) (acc : Nat) :
    List Char → Except NumeralError Nat
  | [] => .ok acc
  | c :: rest =>
    match digitValue? c with
    | none => .error .invalidDigit
    | some d => if acc * 10 + d ≤ limit then readDigits limit past (acc * 10 + d) rest else .error past

/-- Digits of which there is at least one. -/
def readDigits1 (limit : Nat) (past : NumeralError) : List Char → Except NumeralError Nat
  | [] => .error .invalidDigit
  | cs => readDigits limit past 0 cs

/-- A number without sign or with `+`, at most `limit`. -/
def readNat (limit : Nat) : List Char → Except NumeralError Nat
  | [] => .error .empty
  | '+' :: cs => readDigits1 limit .tooLarge cs
  | cs => readDigits1 limit .tooLarge cs

/-- A number with an optional sign, from `-low` to `high`. -/
def readInt (low high : Nat) : List Char → Except NumeralError Int
  | [] => .error .empty
  | '+' :: cs => (readDigits1 high .tooLarge cs).map Int.ofNat
  | '-' :: cs => (readDigits1 low .tooSmall cs).map fun n => -(n : Int)
  | cs => (readDigits1 high .tooLarge cs).map Int.ofNat

/-- A number below 2^64. -/
def readUInt64 (s : List Char) : Except NumeralError UInt64 :=
  (readNat 18446744073709551615 s).map Nat.toUInt64

/-- A number of 64 bits with sign. -/
def readInt64 (s : List Char) : Except NumeralError Int :=
  readInt 9223372036854775808 9223372036854775807 s

end Numeral

end Watchdog
