import Watchdog.Text.Utf8

/-!
# The text of one output stream

Collects the pieces read from a stream.  The text grows by whole characters only; the beginning of
a character that has not arrived completely is held back until the next piece or the end.
-/

namespace Watchdog

/-- The text of a stream so far, and the bytes held back. -/
structure StreamBuffer where
  text : String
  pending : List UInt8
deriving Repr, DecidableEq

namespace StreamBuffer

/-- Nothing read yet. -/
def empty : StreamBuffer := ⟨"", []⟩

instance : Inhabited StreamBuffer := ⟨empty⟩

/-- The text of the first `size` of the bytes held back, where they are one. -/
def certain (pending : List UInt8) (size : Nat) : String :=
  match Utf8.check (pending.take size) with
  | .ok text => text
  | .error _ => ""

/-- Reads all that is certain of the bytes held back, after `decoded`: each turn reads up to the
first fault and replaces it if it is an ill-formed part. -/
def decode (decoded : String) (pending : List UInt8) : String × List UInt8 :=
  match h : Utf8.check pending with
  | .ok text => (decoded ++ text, [])
  | .error ⟨valid, none⟩ => (decoded ++ certain pending valid, pending.drop valid)
  | .error ⟨valid, some size⟩ =>
    decode ((decoded ++ certain pending valid).push Utf8.replacement) (pending.drop (valid + size))
termination_by pending.length
decreasing_by
  obtain ⟨hvalid, hsize⟩ := Utf8.fault_of_checkFrom h
  simp only [ne_eq, Option.some.injEq] at hvalid hsize
  simp only [List.length_drop]
  omega

/-- Adds a piece; gives the text that it made certain. -/
def push (b : StreamBuffer) (bytes : List UInt8) : String × StreamBuffer :=
  let (new, pending) := decode "" (b.pending ++ bytes)
  (new, ⟨b.text ++ new, pending⟩)

/-- Ends the stream: the whole text, and an empty buffer. -/
def finish (b : StreamBuffer) : String × StreamBuffer :=
  (b.text ++ Utf8.lossy b.pending, empty)

end StreamBuffer

end Watchdog
