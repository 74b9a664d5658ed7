import Watchdog.Proofs.Utf8.Unfinished
import Watchdog.Session.StreamBuffer

/-!
# The text of a stream does not depend on how it is cut

A stream buffer reads its bytes piece by piece and holds back what is not certain yet.  Its
invariant looks ahead: whatever bytes are still to come, the text so far and the text of the bytes
held back with the ones to come are the text of all of them (`Holds`).  A piece keeps the invariant
because what it makes certain is read in the same way with or without the bytes that follow, and
at the end nothing is to come.
-/

namespace Watchdog.StreamBuffer

open Utf8 (lossy encode LossyText)

/-- What can be done to a buffer. -/
inductive Op where
  | push (bytes : List UInt8)
  | finish
deriving Repr, DecidableEq

/-- The texts returned at each end. -/
def finished (b : StreamBuffer) : List Op → List String
  | [] => []
  | .push bytes :: ops => finished (b.push bytes).2 ops
  | .finish :: ops => b.finish.1 :: finished b.finish.2 ops

/-- The bytes pushed up to each end since the one before it, the first after `bytes`. -/
def stretches (bytes : List UInt8) : List Op → List (List UInt8)
  | [] => []
  | .push more :: ops => stretches (bytes ++ more) ops
  | .finish :: ops => bytes :: stretches [] ops

/-- The buffer stands for these bytes, whatever is to come. -/
def Holds (b : StreamBuffer) (bytes : List UInt8) : Prop :=
  ∀ more, b.text ++ lossy (b.pending ++ more) = lossy (bytes ++ more)

lemma certain_append_lossy {pending : List UInt8} {f : Utf8.Fault}
    (h : Utf8.check pending = .error f) (more : List UInt8) :
    certain pending f.validUpTo ++ lossy (pending.drop f.validUpTo ++ more) =
      lossy (pending ++ more) := by
  obtain ⟨⟨start, hstart⟩, -⟩ := Utf8.check_error h
  have hcertain : certain pending f.validUpTo = start := by rw [certain, hstart]
  conv_rhs => rw [← List.take_append_drop f.validUpTo pending, List.append_assoc]
  rw [hcertain, Utf8.lossy_append_of_check hstart]

/-- What is decoded and what stays behind give the same text as before, whatever is to come. -/
lemma decode_append_lossy (decoded : String) (pending more : List UInt8) :
    (decode decoded pending).1 ++ lossy ((decode decoded pending).2 ++ more) =
      decoded ++ lossy (pending ++ more) := by
  fun_induction decode decoded pending with
  | case1 decoded pending text h =>
    rw [Utf8.lossy_append_of_check h, String.append_assoc, List.nil_append]
  | case2 decoded pending valid h =>
    rw [String.append_assoc, certain_append_lossy h]
  | case3 decoded pending valid size h ih =>
    obtain ⟨-, hstands⟩ := Utf8.check_error h
    have hpart := Utf8.lossy_append_of_standsAt hstands more
    rw [ih, ← certain_append_lossy h more, hpart, ← List.drop_drop, ← String.append_singleton]
    simp only [String.append_assoc]

lemma holds_empty : Holds empty [] := fun more => by
  simp [empty]

lemma Holds.push {b : StreamBuffer} {bytes : List UInt8} (h : Holds b bytes) (piece : List UInt8) :
    Holds (b.push piece).2 (bytes ++ piece) := by
  intro more
  have hdecode := decode_append_lossy "" (b.pending ++ piece) more
  calc (b.text ++ (decode "" (b.pending ++ piece)).1) ++
        lossy ((decode "" (b.pending ++ piece)).2 ++ more)
      = b.text ++ lossy (b.pending ++ (piece ++ more)) := by
        rw [String.append_assoc, hdecode, String.empty_append, List.append_assoc]
    _ = lossy (bytes ++ piece ++ more) := by
        rw [h, List.append_assoc]

/-- At the end nothing is to come. -/
lemma Holds.finish {b : StreamBuffer} {bytes : List UInt8} (h : Holds b bytes) :
    b.finish.1 = lossy bytes := by
  have hnone := h []
  rwa [List.append_nil, List.append_nil] at hnone

/-! ## What is held back -/

/-- Nothing is held back but the beginning of a character. -/
def Tidy (b : StreamBuffer) : Prop := b.pending = [] ∨ Utf8.Fault.standsAt none b.pending

lemma tidy_empty : Tidy empty := .inl rfl

/-- What stays behind is what reading from the front leaves over. -/
lemma decode_snd_eq (decoded : String) (pending : List UInt8) :
    (decode decoded pending).2 = Utf8.unfinishedPart pending := by
  fun_induction decode decoded pending with
  | case1 decoded pending text h => exact (Utf8.unfinishedPart_of_checkFrom h).symm
  | case2 decoded pending valid h =>
    rw [Utf8.unfinishedPart_of_check h,
      Utf8.unfinishedPart_of_standsAt_none (Utf8.check_error h).2]
  | case3 decoded pending valid size h ih =>
    rw [ih, Utf8.unfinishedPart_of_check h, Utf8.unfinishedPart_of_standsAt (Utf8.check_error h).2,
      List.drop_drop]

lemma pending_push (b : StreamBuffer) (piece : List UInt8) :
    (b.push piece).2.pending = Utf8.unfinishedPart (b.pending ++ piece) :=
  decode_snd_eq "" (b.pending ++ piece)

/-- Whatever was held back before, a piece leaves nothing but the beginning of a character. -/
lemma tidy_push (b : StreamBuffer) (piece : List UInt8) : Tidy (b.push piece).2 := by
  rw [Tidy, pending_push, ← Utf8.within_iff_standsAt]
  exact Utf8.unfinishedPart_eq_nil_or_within _

/-- What is held back adds one replacement to the text at the end. -/
lemma Tidy.finish_eq {b : StreamBuffer} (h : Tidy b) :
    b.finish.1 =
      b.text ++ if b.pending = [] then "" else String.singleton Utf8.replacement := by
  obtain hnone | hpart := h.imp_right Utf8.within_iff_standsAt.mpr
  · rw [StreamBuffer.finish, hnone, Utf8.lossy_nil, if_pos rfl]
  · rw [StreamBuffer.finish, if_neg hpart.1, Utf8.lossy_of_within hpart]

lemma Tidy.finish {b : StreamBuffer} (h : Tidy b) :
    b.finish.1 = b.text ∨ b.finish.1 = b.text ++ String.singleton Utf8.replacement := by
  rw [h.finish_eq]
  split
  · exact .inl String.append_empty
  · exact .inr rfl

/-- Held back is what all the bytes leave over. -/
def Withholds (b : StreamBuffer) (bytes : List UInt8) : Prop :=
  b.pending = Utf8.unfinishedPart bytes

lemma withholds_empty : Withholds empty [] := by
  rw [Withholds, Utf8.unfinishedPart]
  rfl

lemma Withholds.push {b : StreamBuffer} {bytes : List UInt8} (h : Withholds b bytes)
    (piece : List UInt8) : Withholds (b.push piece).2 (bytes ++ piece) := by
  rw [Withholds, pending_push, h, ← Utf8.unfinishedPart_append]

/-! ## Calls -/

lemma finished_of_holds {b : StreamBuffer} {bytes : List UInt8} (h : Holds b bytes)
    (ops : List Op) : finished b ops = (stretches bytes ops).map lossy := by
  induction ops generalizing b bytes with
  | nil => rfl
  | cons op ops ih =>
    cases op with
    | push piece => exact ih (h.push piece)
    | finish =>
      rw [finished, stretches, List.map_cons, h.finish]
      exact congrArg _ (ih holds_empty)

lemma stretches_push (bytes : List UInt8) (chunks : List (List UInt8)) :
    stretches bytes (chunks.map .push ++ [.finish]) = [bytes ++ chunks.flatten] := by
  induction chunks generalizing bytes with
  | nil => simp [stretches]
  | cons chunk chunks ih =>
    rw [List.map_cons, List.cons_append, stretches, ih, List.flatten_cons, List.append_assoc]

/-- **Reading in pieces is reading at once.**  However the bytes are cut, each end returns the text
of the bytes since the end before it; that text is the one in which each maximal ill-formed part is
replaced once, and for the bytes of a text it is that text.  Each end leaves an empty buffer. -/
theorem finished_eq_lossy_of_stretches (ops : List Op) :
    finished empty ops = (stretches [] ops).map lossy ∧
    (∀ bytes text, LossyText bytes text ↔ text = (lossy bytes).toList) ∧
    (∀ (s : String) (chunks : List (List UInt8)), chunks.flatten = encode s →
      finished empty (chunks.map .push ++ [.finish]) = [s]) ∧
    ∀ b : StreamBuffer, b.finish.2 = empty := by
  refine ⟨finished_of_holds holds_empty ops, Utf8.lossyText_iff, ?_, fun _ => rfl⟩
  intro s chunks hchunks
  rw [finished_of_holds holds_empty, stretches_push, List.nil_append, hchunks, List.map_singleton,
    Utf8.lossy_encode]

end Watchdog.StreamBuffer
