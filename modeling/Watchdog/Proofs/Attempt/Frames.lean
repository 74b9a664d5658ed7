import Mathlib.Tactic.Common
import Watchdog.Proofs.Handle.Operations
import Watchdog.Proofs.Session.Calls
import Watchdog.Run.Attempt

/-!
# What the steps of an attempt leave alone

Each function that a step is made of changes a few parts of an attempt.  The equations here say
which: the result is the attempt itself with these parts replaced, so that all other parts can be
read off.  What was recorded in the history is left as it is computed.
-/

namespace Watchdog.Attempt

/-! ## Moves -/

/-- One move; one that is not possible is passed over. -/
def next (a : Attempt) (m : Move) : Attempt := (a.step? m).getD a

lemma next_of_step {a b : Attempt} {m : Move} (h : a.step? m = some b) : a.next m = b := by
  rw [next, h, Option.getD_some]

lemma next_of_impossible {a : Attempt} {m : Move} (h : a.step? m = none) : a.next m = a := by
  rw [next, h, Option.getD_none]

@[simp] lemma play_nil (a : Attempt) : a.play [] = a := rfl

@[simp] lemma play_cons (a : Attempt) (m : Move) (moves : List Move) :
    a.play (m :: moves) = (a.next m).play moves := rfl

@[simp] lemma play_append (a : Attempt) (moves more : List Move) :
    a.play (moves ++ more) = (a.play moves).play more := List.foldl_append

/-! ## Channels -/

/-- A channel that is ready although its queue is empty has met its end. -/
lemma eq_of_ready {c : Channel} (hready : ready c = true) (hqueue : c.queued = []) :
    c = ⟨[], true, true⟩ := by
  cases c
  simp_all [ready]

@[simp] lemma channel_setChannel (a : Attempt) (s t : Stream) (c : Channel) :
    (a.setChannel s c).channel t = if t = s then c else a.channel t := by
  cases s <;> cases t <;> rfl

/-- A channel is set and nothing else. -/
lemma setChannel_eq (a : Attempt) (s : Stream) (c : Channel) :
    a.setChannel s c =
      { a with stdout := (a.setChannel s c).stdout, stderr := (a.setChannel s c).stderr } := by
  cases s <;> rfl

/-! ## Pieces, the group, the end -/

lemma absorb_eq (a : Attempt) (s : Stream) (bytes : List UInt8) :
    a.absorb s bytes =
      { a with
        session := (a.session.chunk s bytes).2
        history := (a.absorb s bytes).history } := rfl

@[simp] lemma channel_absorb (a : Attempt) (s t : Stream) (bytes : List UInt8) :
    (a.absorb s bytes).channel t = a.channel t := by
  rw [absorb_eq]
  cases t <;> rfl

lemma reapGroup_eq (a : Attempt) (answer : SignalAnswer) :
    a.reapGroup answer =
      { a with
        handle := (a.reapGroup answer).handle
        history := (a.reapGroup answer).history } := by
  unfold reapGroup
  dsimp only
  split
  · rfl
  · split <;> rfl

@[simp] lemma channel_reapGroup (a : Attempt) (answer : SignalAnswer) (s : Stream) :
    (a.reapGroup answer).channel s = a.channel s := by
  rw [reapGroup_eq]
  cases s <;> rfl

/-- Signalling the group does not touch the process itself. -/
lemma child_reapGroup (a : Attempt) (answer : SignalAnswer) :
    (a.reapGroup answer).handle.child = a.handle.child := by
  have hgroup : (a.handle.terminateGroup answer).handle.child = a.handle.child := by
    rw [Handle.handle_terminateGroup]
  unfold reapGroup
  dsimp only
  split
  · rfl
  · split <;> exact hgroup

lemma drainOrFinish_eq (a : Attempt) (since : Duration) :
    a.drainOrFinish since =
      { a with
        phase := if a.stdout.listening || a.stderr.listening then .draining since else .done
        history := (a.drainOrFinish since).history } := by
  unfold drainOrFinish
  split <;> rfl

@[simp] lemma channel_drainOrFinish (a : Attempt) (since : Duration) (s : Stream) :
    (a.drainOrFinish since).channel s = a.channel s := by
  rw [drainOrFinish_eq]
  cases s <;> rfl

lemma settle_eq (a : Attempt) :
    a.settle =
      { a with
        session := (a.session.settle a.now).2
        phase := a.settle.phase
        history := a.settle.history } := by
  unfold settle
  dsimp only
  split
  · rfl
  · rw [drainOrFinish_eq]

@[simp] lemma channel_settle (a : Attempt) (s : Stream) : a.settle.channel s = a.channel s := by
  rw [settle_eq]
  cases s <;> rfl

lemma phase_settle (a : Attempt) : a.settle.phase ≠ .selecting := by
  unfold settle
  dsimp only
  split
  · exact nofun
  · rw [drainOrFinish_eq]
    dsimp only
    split <;> exact nofun

lemma foldl_absorb_eq (a : Attempt) (s : Stream) (pieces : List (List UInt8)) :
    pieces.foldl (fun a bytes => a.absorb s bytes) a =
      { a with
        session := a.session.absorb (pieces.map (s, ·))
        history := (pieces.foldl (fun a bytes => a.absorb s bytes) a).history } := by
  induction pieces generalizing a with
  | nil => rfl
  | cons bytes pieces ih =>
    rw [List.foldl_cons, ih, absorb_eq]
    rfl

lemma collect_eq (a : Attempt) (s : Stream) :
    a.collect s =
      { a.setChannel s { a.channel s with queued := [] } with
        session := a.session.absorb ((a.channel s).queued.map (s, ·))
        history := (a.collect s).history } := by
  rw [collect]
  dsimp only
  rw [foldl_absorb_eq, setChannel_eq]

end Watchdog.Attempt
