import Watchdog.Proofs.StreamBuffer.Chunks

/-!
# What a stream buffer holds back

A stream buffer lags behind its stream by less than one character.  Whatever pieces have come since
the last end, the bytes held back are a beginning of the form of a single character, and the text is
that of the bytes before them.  Both are read off the two invariants of a buffer (`Withholds` and
`Holds`); the second needs that what is held back leaves the text before it as it is
(`Utf8.exists_eq_lossy_of_append`).

A piece is read in turns, each up to the next fault (`turn`).  A turn that is followed by another
has taken an ill-formed part away, which is never empty, so that reading ends whatever the bytes are
(`turns_eq_decode`).
-/

namespace Watchdog.StreamBuffer

open Utf8 (lossy)

/-! ## Turns of reading -/

/-- What one turn of reading does with the bytes that are left. -/
structure Turn where
  /-- The text that it makes certain. -/
  text : String
  /-- So many of the bytes are taken away. -/
  size : Nat
  /-- Another turn follows. -/
  again : Bool
deriving Repr, DecidableEq

/-- The turn that reads `left`: up to the first fault, and past it if that is an ill-formed part. -/
def turn (left : List UInt8) : Turn :=
  match Utf8.check left with
  | .ok text => ⟨text, left.length, false⟩
  | .error ⟨valid, none⟩ => ⟨certain left valid, valid, false⟩
  | .error ⟨valid, some size⟩ =>
    ⟨(certain left valid).push Utf8.replacement, valid + size, true⟩

/-- What reading comes to, after `decoded`; `none` if `n` turns do not end it. -/
def turns (n : Nat) (decoded : String) (left : List UInt8) : Option (String × List UInt8) :=
  match n with
  | 0 => none
  | n + 1 =>
    if (turn left).again then
      turns n (decoded ++ (turn left).text) (left.drop (turn left).size)
    else some (decoded ++ (turn left).text, left.drop (turn left).size)

/-- A turn takes only bytes that are there. -/
lemma turn_size_le (left : List UInt8) : (turn left).size ≤ left.length := by
  fun_cases turn left with
  | case1 text h => exact Nat.le_refl _
  | case2 valid h =>
    have hlt := (Utf8.fault_of_checkFrom h).1
    dsimp only at hlt ⊢
    omega
  | case3 valid size h =>
    have hlt := (Utf8.fault_of_checkFrom h).1
    have hle := (Utf8.Fault.size_of_standsAt (Utf8.check_error h).2).2
    rw [List.length_drop] at hle
    dsimp only at hlt hle ⊢
    omega

/-- A turn that is followed by another has taken an ill-formed part away. -/
lemma turn_size_pos {left : List UInt8} (h : (turn left).again = true) : 0 < (turn left).size := by
  revert h
  fun_cases turn left with
  | case1 text h => exact nofun
  | case2 valid h => exact nofun
  | case3 valid size h =>
    intro _
    have hpos := (Utf8.Fault.size_of_standsAt (Utf8.check_error h).2).1
    exact Nat.add_pos_right valid hpos

/-- Reading goes by turns. -/
lemma decode_eq (decoded : String) (left : List UInt8) :
    decode decoded left =
      if (turn left).again then decode (decoded ++ (turn left).text) (left.drop (turn left).size)
      else (decoded ++ (turn left).text, left.drop (turn left).size) := by
  fun_cases decode decoded left with
  | case1 text h =>
    have hturn : turn left = ⟨text, left.length, false⟩ := by rw [turn, h]
    rw [hturn, List.drop_length]
    rfl
  | case2 valid h =>
    have hturn : turn left = ⟨certain left valid, valid, false⟩ := by rw [turn, h]
    rw [hturn]
    rfl
  | case3 valid size h =>
    have hturn : turn left =
        ⟨(certain left valid).push Utf8.replacement, valid + size, true⟩ := by rw [turn, h]
    rw [hturn, if_pos rfl, ← String.append_singleton, String.append_assoc,
      String.append_singleton]

/-- As many turns as there are bytes, and one more, end the reading. -/
lemma turns_eq_decode {n : Nat} (decoded : String) {left : List UInt8} (h : left.length < n) :
    turns n decoded left = some (decode decoded left) := by
  induction n generalizing decoded left with
  | zero => exact absurd h (Nat.not_lt_zero _)
  | succ n ih =>
    rw [turns, decode_eq]
    split
    · rename_i hagain
      have hle := turn_size_le left
      have hpos := turn_size_pos hagain
      exact ih _ (by rw [List.length_drop]; omega)
    · rfl

/-- A piece returns the text of what was held back and the piece, up to what is held back now. -/
lemma exists_push_eq (b : StreamBuffer) (piece : List UInt8) :
    ∃ start, b.pending ++ piece = start ++ (b.push piece).2.pending ∧
      (b.push piece).1 = lossy start := by
  have hdecode : (b.push piece).1 ++ lossy (b.push piece).2.pending =
      lossy (b.pending ++ piece) := by
    have hall := decode_append_lossy "" (b.pending ++ piece) []
    rwa [List.append_nil, List.append_nil, String.empty_append] at hall
  rw [pending_push] at hdecode ⊢
  exact Utf8.exists_eq_lossy_of_append hdecode

/-! ## Calls -/

/-- The buffer after calls. -/
def after (b : StreamBuffer) : List Op → StreamBuffer
  | [] => b
  | .push bytes :: ops => after (b.push bytes).2 ops
  | .finish :: ops => after b.finish.2 ops

/-- The bytes pushed since the last end, or after `bytes` if there was none. -/
def since (bytes : List UInt8) : List Op → List UInt8
  | [] => bytes
  | .push more :: ops => since (bytes ++ more) ops
  | .finish :: ops => since [] ops

/-- What an empty buffer has and each piece keeps holds after all calls, of the bytes since the last
end. -/
lemma invariant_after {P : StreamBuffer → List UInt8 → Prop} (hempty : P empty [])
    (hpush : ∀ b bytes piece, P b bytes → P (b.push piece).2 (bytes ++ piece)) {b : StreamBuffer}
    (bytes : List UInt8) (h : P b bytes) (ops : List Op) : P (after b ops) (since bytes ops) := by
  induction ops generalizing b bytes with
  | nil => exact h
  | cons op ops ih =>
    cases op with
    | push piece => exact ih _ (hpush b bytes piece h)
    | finish => exact ih [] hempty

/-! ## What is promised -/

/-- What is promised of a buffer that has got `bytes` since the last end. -/
structure Withholding (b : StreamBuffer) (bytes : List UInt8) : Prop where
  /-- Held back is nothing, or a beginning of the form of one character that is not all of it, -/
  within : b.pending = [] ∨ Utf8.Within b.pending
  few : b.pending.length ≤ 3
  /-- and something is held back exactly where the bytes stop within a character. -/
  held_iff : b.pending ≠ [] ↔ Utf8.EndsWithin bytes
  /-- The text is that of the bytes before what is held back. -/
  text : ∃ start, bytes = start ++ b.pending ∧ b.text = lossy start
  /-- The text of all the bytes is the same, with one replacement for what is held back. -/
  whole : lossy bytes = b.text ++ if b.pending = [] then "" else String.singleton Utf8.replacement
  cut_iff : lossy bytes = b.text ++ String.singleton Utf8.replacement ↔ b.pending ≠ []
  /-- A piece returns what the text gains by it, -/
  gained : ∀ piece, (b.push piece).2.text = b.text ++ (b.push piece).1
  /-- and that is the text of what was held back and the piece, up to what is held back now. -/
  returned : ∀ piece, ∃ start, b.pending ++ piece = start ++ (b.push piece).2.pending ∧
    (b.push piece).1 = lossy start
  /-- A turn takes only bytes that are there, and at least one if another turn follows, -/
  progress : ∀ left, (turn left).size ≤ left.length ∧
    ((turn left).again = true → 0 < (turn left).size)
  /-- so that reading a piece ends after one turn more than there are bytes, if not before. -/
  ends : ∀ piece n, (b.pending ++ piece).length < n →
    turns n "" (b.pending ++ piece) = some ((b.push piece).1, (b.push piece).2.pending)

/-- **Less than a character is held back.**  Whatever pieces have come since the last end, the bytes
are those of the text, and after them a beginning of the form of one character that is not all of
it, or nothing; each piece returns what the text gains by it; and each turn of reading a piece that
is followed by another takes a byte away, so that reading ends. -/
theorem withholding_of_ops (ops : List Op) : Withholding (after empty ops) (since [] ops) := by
  have hholds : (after empty ops).Holds (since [] ops) :=
    invariant_after holds_empty (fun _ _ piece h => h.push piece) [] holds_empty ops
  have hwithholds : (after empty ops).Withholds (since [] ops) :=
    invariant_after withholds_empty (fun _ _ piece h => h.push piece) [] withholds_empty ops
  have htidy : (after empty ops).Tidy :=
    invariant_after (P := fun b _ => b.Tidy) tidy_empty (fun b _ piece _ => tidy_push b piece) []
      tidy_empty ops
  generalize after empty ops = b, since [] ops = bytes at *
  have hnow : b.text ++ lossy b.pending = lossy bytes := hholds.finish
  have hwhole := hnow.symm.trans htidy.finish_eq
  have hwithin := htidy.imp_right Utf8.within_iff_standsAt.mpr
  constructor
  case within => exact hwithin
  case few =>
    obtain hnone | hpart := hwithin
    · rw [hnone]
      exact Nat.zero_le 3
    · exact hpart.length_le
  case held_iff => rw [hwithholds, Utf8.unfinishedPart_ne_nil_iff]
  case text =>
    rw [hwithholds] at hnow ⊢
    exact Utf8.exists_eq_lossy_of_append hnow
  case whole => exact hwhole
  case cut_iff =>
    rw [hwhole, String.append_right_inj]
    split <;> simp_all
  case gained => exact fun _ => rfl
  case returned => exact b.exists_push_eq
  case progress => exact fun left => ⟨turn_size_le left, turn_size_pos⟩
  case ends => exact fun piece n h => turns_eq_decode "" h

/-- The first two bytes of a sign of three are broken off by its first byte once more, which is then
held back in their place. -/
example :
    let b := after empty [.push [0x41, 0xE2, 0x82], .push [0xE2]]
    b.text = "A\uFFFD" ∧ b.pending = [0xE2] := by
  decide +kernel

end Watchdog.StreamBuffer
