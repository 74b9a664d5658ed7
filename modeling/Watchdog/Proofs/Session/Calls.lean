import Mathlib.Tactic.Common
import Watchdog.Session

/-!
# Sessions as histories

A session is driven by calls, in any order.  `replay` is what a list of calls makes of a session;
the lemmas say how each part of a session depends on that list.  Pieces of output change nothing but
the two texts (`Keeps`), and only settling settles.
-/

namespace Watchdog.Session

/-- What can be done to a session. -/
inductive Call where
  | markStarted (now : Duration) (epoch : UInt64)
  | launchFailed (f : LaunchFailure)
  | chunk (stream : Stream) (bytes : List UInt8)
  | recordExit (now : Duration) (parts : ExitParts)
  | exitUnknown (now : Duration)
  | stdoutEnded
  | settle (now : Duration)
deriving Repr, DecidableEq

/-- What a call makes of a session. -/
def apply (s : Session) : Call → Session
  | .markStarted now epoch => s.markStarted now epoch
  | .launchFailed f => s.launchFailed f
  | .chunk stream bytes => (s.chunk stream bytes).2
  | .recordExit now parts => (s.recordExit now parts).2
  | .exitUnknown now => (s.exitUnknown now).2
  | .stdoutEnded => s.stdoutEnded.2
  | .settle now => (s.settle now).2

/-- What calls, one after the other, make of a session. -/
def replay (s : Session) (calls : List Call) : Session := calls.foldl apply s

@[simp] lemma replay_nil (s : Session) : s.replay [] = s := rfl

@[simp] lemma replay_cons (s : Session) (c : Call) (calls : List Call) :
    s.replay (c :: calls) = (s.apply c).replay calls := rfl

@[simp] lemma replay_append (s : Session) (calls more : List Call) :
    s.replay (calls ++ more) = (s.replay calls).replay more := List.foldl_append

/-- Where each call puts what it tells in the place of what was known, the last that was told
remains. -/
lemma replay_last {α : Type} {known : Session → Option α} {told? : Call → Option α}
    (h : ∀ s c, known (s.apply c) = (told? c).or (known s)) (s : Session) (calls : List Call) :
    known (s.replay calls) = (calls.filterMap told?).getLast?.or (known s) := by
  induction calls generalizing s with
  | nil => rfl
  | cons c calls ih =>
    rw [replay_cons, ih, h]
    cases htold : told? c with
    | none => rw [List.filterMap_cons_none htold, Option.none_or]
    | some a =>
      rw [List.filterMap_cons_some htold, List.getLast?_cons]
      cases (calls.filterMap told?).getLast? <;> rfl

/-! ## Pieces of output -/

/-- Nothing but the two texts differs. -/
def Keeps (s t : Session) : Prop := { t with stdout := s.stdout, stderr := s.stderr } = s

/-- The end of the command as the session knows it. -/
def exitParts (s : Session) : ExitParts := ⟨s.exitCode, s.signal⟩

lemma Keeps.exitParts_eq {s t : Session} (h : s.Keeps t) : t.exitParts = s.exitParts := by
  rw [← h]
  rfl

lemma Keeps.duration_eq {s t : Session} (h : s.Keeps t) : t.duration = s.duration := by
  rw [← h]

lemma Keeps.settled_eq {s t : Session} (h : s.Keeps t) : t.settled = s.settled := by
  rw [← h]

lemma Keeps.refl (s : Session) : s.Keeps s := rfl

lemma Keeps.trans {s t u : Session} (h : s.Keeps t) (h' : t.Keeps u) : s.Keeps u := by
  simp only [Keeps] at *
  rw [← h, ← h']

lemma keeps_chunk (s : Session) (stream : Stream) (bytes : List UInt8) :
    s.Keeps (s.chunk stream bytes).2 := by
  cases stream <;> rfl

/-- Hands over pieces, one after the other. -/
def absorb (s : Session) (pieces : List (Stream × List UInt8)) : Session :=
  s.replay (pieces.map fun p => .chunk p.1 p.2)

lemma absorb_append (s : Session) (pieces more : List (Stream × List UInt8)) :
    s.absorb (pieces ++ more) = (s.absorb pieces).absorb more := by
  simp [absorb]

lemma keeps_absorb (s : Session) (pieces : List (Stream × List UInt8)) :
    s.Keeps (s.absorb pieces) := by
  induction pieces generalizing s with
  | nil => exact Keeps.refl s
  | cons p pieces ih => exact (keeps_chunk s p.1 p.2).trans (ih _)

/-- The pieces that go to a stream. -/
def piecesOn (stream : Stream) (pieces : List (Stream × List UInt8)) : List (List UInt8) :=
  (pieces.filter (·.1 = stream)).map Prod.snd

@[simp] lemma piecesOn_nil (stream : Stream) : piecesOn stream [] = [] := rfl

@[simp] lemma piecesOn_append (stream : Stream) (pieces more : List (Stream × List UInt8)) :
    piecesOn stream (pieces ++ more) = piecesOn stream pieces ++ piecesOn stream more := by
  simp [piecesOn]

@[simp] lemma piecesOn_cons (stream : Stream) (p : Stream × List UInt8)
    (pieces : List (Stream × List UInt8)) :
    piecesOn stream (p :: pieces) =
      if p.1 = stream then p.2 :: piecesOn stream pieces else piecesOn stream pieces := by
  by_cases h : p.1 = stream <;> simp [piecesOn, h]

@[simp] lemma piecesOn_map (stream s : Stream) (queue : List (List UInt8)) :
    piecesOn stream (queue.map (s, ·)) = if s = stream then queue else [] := by
  induction queue with
  | nil => simp
  | cons bytes queue ih =>
    rw [List.map_cons, piecesOn_cons, ih]
    split <;> rfl

/-! ## Settling and the barrier -/

/-- Measuring changes nothing but the time measured. -/
lemma measure_eq (s : Session) (now : Duration) :
    s.measure now = { s with duration := s.duration.or (s.started.map (now - ·)) } := by
  unfold measure
  cases s with
  | mk _ _ _ _ _ duration => cases duration <;> rfl

/-- Settling changes nothing but the mark of it and the time measured. -/
lemma settle_eq (s : Session) (now : Duration) :
    s.settle now = (!s.settled,
      { s with
        settled := true
        duration := if s.settled then s.duration
          else s.duration.or (s.started.map (now - ·)) }) := by
  unfold settle
  cases s with
  | mk _ _ _ _ _ _ _ _ _ settled => cases settled <;> simp [measure_eq]

/-- The end of the command is enough if it is a clean one, or if standard output has ended. -/
lemma recordExit_fst (s : Session) (now : Duration) (parts : ExitParts) :
    (s.recordExit now parts).1 = (parts.clean || s.barrier.stdoutEndSeen) := by
  simp [recordExit, measure_eq, Barrier.exit]

lemma exitUnknown_fst (s : Session) (now : Duration) :
    (s.exitUnknown now).1 = s.barrier.stdoutEndSeen := by
  simp [exitUnknown, measure_eq, Barrier.exit]

namespace Call

/-- The end of the command is told. -/
def isExit : Call → Bool
  | recordExit _ _ => true
  | exitUnknown _ => true
  | _ => false

/-- The end of standard output is told. -/
def isStdoutEnd : Call → Bool
  | stdoutEnded => true
  | _ => false

def isSettle : Call → Bool
  | settle _ => true
  | _ => false

end Call

lemma settled_apply (s : Session) (c : Call) :
    (s.apply c).settled = (s.settled || c.isSettle) := by
  cases c with
  | chunk stream bytes => cases stream <;> simp [apply, chunk, Call.isSettle]
  | _ =>
    simp [apply, markStarted, launchFailed, recordExit, exitUnknown, stdoutEnded, measure_eq,
      settle_eq, Call.isSettle]

/-- A session has settled exactly if it was told to. -/
lemma settled_replay (s : Session) (calls : List Call) :
    (s.replay calls).settled = (s.settled || calls.any Call.isSettle) := by
  induction calls generalizing s with
  | nil => simp
  | cons c calls ih => rw [replay_cons, ih, settled_apply, List.any_cons, Bool.or_assoc]

lemma barrier_apply (s : Session) (c : Call) :
    (s.apply c).barrier =
      ⟨s.barrier.exitSeen || c.isExit, s.barrier.stdoutEndSeen || c.isStdoutEnd⟩ := by
  cases c with
  | chunk stream bytes => cases stream <;> simp [apply, chunk, Call.isExit, Call.isStdoutEnd]
  | _ =>
    simp [apply, markStarted, launchFailed, recordExit, exitUnknown, stdoutEnded, measure_eq,
      settle_eq, Barrier.exit, Barrier.stdoutEnd, Call.isExit, Call.isStdoutEnd]

/-- The barrier knows which of the two ends were told, in whichever order. -/
lemma barrier_replay (s : Session) (calls : List Call) :
    (s.replay calls).barrier =
      ⟨s.barrier.exitSeen || calls.any Call.isExit,
        s.barrier.stdoutEndSeen || calls.any Call.isStdoutEnd⟩ := by
  induction calls generalizing s with
  | nil => simp
  | cons c calls ih => simp only [replay_cons, ih, barrier_apply, List.any_cons, Bool.or_assoc]

/-! ## The end of the command -/

/-- The end that a call tells, if it is known. -/
def Call.exit? : Call → Option ExitParts
  | recordExit _ parts => some parts
  | _ => none

lemma exitParts_apply (s : Session) (c : Call) :
    (s.apply c).exitParts = c.exit?.getD s.exitParts := by
  cases c with
  | chunk stream bytes => cases stream <;> rfl
  | _ =>
    simp [apply, exitParts, Call.exit?, markStarted, launchFailed, recordExit, exitUnknown,
      stdoutEnded, measure_eq, settle_eq]

/-- A session knows the last end that it was told. -/
lemma exitParts_replay (s : Session) (calls : List Call) :
    (s.replay calls).exitParts = (calls.filterMap Call.exit?).getLast?.getD s.exitParts := by
  have hlast := @replay_last _ (fun s => some s.exitParts) Call.exit?
    (fun s c => by rw [exitParts_apply, Option.or_some]) s calls
  rwa [Option.or_some, Option.some_inj] at hlast

/-- A session that is told of no known end knows of none. -/
lemma exitParts_replay_of_none {s : Session} {calls : List Call}
    (h : ∀ c ∈ calls, c.exit? = none) : (s.replay calls).exitParts = s.exitParts := by
  rw [exitParts_replay, List.filterMap_eq_nil_iff.mpr h]
  rfl

/-- A session that is told of one end, once or more, knows it. -/
lemma exitParts_replay_of_some {s : Session} {calls : List Call} {parts : ExitParts}
    (honly : ∀ c ∈ calls, ∀ p, c.exit? = some p → p = parts)
    (h : ∃ c ∈ calls, c.exit? = some parts) : (s.replay calls).exitParts = parts := by
  rw [exitParts_replay]
  cases hlast : (calls.filterMap Call.exit?).getLast? with
  | none =>
    obtain ⟨c, hc, hexit⟩ := h
    rw [List.getLast?_eq_none_iff, List.filterMap_eq_nil_iff] at hlast
    exact nomatch (hlast c hc).symm.trans hexit
  | some p =>
    obtain ⟨c, hc, hexit⟩ := List.mem_filterMap.mp (List.mem_of_getLast? hlast)
    exact honly c hc p hexit

end Watchdog.Session
