/-!
# Lengths of time

A length of time is a number of nanoseconds.  Lengths are limited to 64 bits of whole seconds, and
the only operation that could pass the limit, multiplying, says so.
-/

namespace Watchdog

/-- A length of time. -/
structure Duration where
  nanos : Nat
deriving Repr, DecidableEq, Inhabited

namespace Duration

/-- The first number of nanoseconds that is too long: 2^64 seconds. -/
def limit : Nat := 18446744073709551616 * 1000000000

def ofMillis (n : Nat) : Duration := ⟨n * 1000000⟩

def ofMicros (n : Nat) : Duration := ⟨n * 1000⟩

def ofSeconds (n : Nat) : Duration := ⟨n * 1000000000⟩

/-- Whole milliseconds, the rest dropped. -/
def millis (d : Duration) : Nat := d.nanos / 1000000

instance : LE Duration := ⟨fun a b => a.nanos ≤ b.nanos⟩

instance : LT Duration := ⟨fun a b => a.nanos < b.nanos⟩

instance (a b : Duration) : Decidable (a ≤ b) := inferInstanceAs (Decidable (a.nanos ≤ b.nanos))

instance (a b : Duration) : Decidable (a < b) := inferInstanceAs (Decidable (a.nanos < b.nanos))

instance : Add Duration := ⟨fun a b => ⟨a.nanos + b.nanos⟩⟩

/-- The time from `a` to `b`, none if `b` is earlier. -/
instance : Sub Duration := ⟨fun a b => ⟨a.nanos - b.nanos⟩⟩

/-- A product that no length of time can hold. -/
inductive TooLong where
  | mk
deriving Repr, DecidableEq

def TooLong.message (_ : TooLong) : String := "overflow when multiplying duration by scalar"

/-- The length `k` times, if that is still a length. -/
def times (d : Duration) (k : Nat) : Except TooLong Duration :=
  if d.nanos * k < limit then .ok ⟨d.nanos * k⟩ else .error .mk

/-! ## Text

The largest of seconds, milliseconds, microseconds and nanoseconds that the length reaches is its
unit; the rest follows the point without trailing zeros. -/

/-- A number as `width` decimals, without trailing zeros. -/
def decimals (part : Nat) (width : Nat) : List Char :=
  let digits := Nat.toDigits 10 part
  let padded := List.replicate (width - digits.length) '0' ++ digits
  (padded.reverse.dropWhile (· == '0')).reverse

/-- A number of units of `size` nanoseconds with up to `width` decimals. -/
def inUnits (nanos size width : Nat) (unit : String) : String :=
  let rest := if nanos % size = 0 then [] else '.' :: decimals (nanos % size) width
  toString (nanos / size) ++ String.ofList rest ++ unit

/-- The length for a reader. -/
def text (d : Duration) : String :=
  if 1000000000 ≤ d.nanos then inUnits d.nanos 1000000000 9 "s"
  else if 1000000 ≤ d.nanos then inUnits d.nanos 1000000 6 "ms"
  else if 1000 ≤ d.nanos then inUnits d.nanos 1000 3 "µs"
  else inUnits d.nanos 1 0 "ns"

end Duration

end Watchdog
