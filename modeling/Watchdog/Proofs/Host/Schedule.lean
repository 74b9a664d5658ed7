import Mathlib.Tactic.Common
import Watchdog.Host.Scene
import Watchdog.Proofs.Attempt.Frames

/-!
# Scenes are schedules

What is proved of attempts holds for all moves in any order.  A scene picks one order, and this is to
be one that the attempt can go through: a branch is ready in the scene exactly if the attempt can
take it (`possible_iff`), and where the attempt may take any of several the scene may as well, since
the toss alone decides which of them is the first (`Fair`).  The attempt of a scene is at every
moment what the moves so far have made of it (`attempt_play`), and it is over when the scene is,
unless its process was stopped for good (`next?_eq_none_iff`).
-/

namespace Watchdog.Host

open Attempt (play_append)

/-- The moves that take a branch in a scene. -/
inductive Branch.Moves (s : Scene) : Branch → Move → Prop
  | output (stream : Stream) : Branch.Moves s (.output stream) (.take stream)
  | exit (answer : SignalAnswer) : Branch.Moves s .exit (.takeExit answer)
  | timer {time : Duration} {m : Move} : s.timer? = some (time, m) → Branch.Moves s .timer m

lemma Tosses.exists_draw {k n : Nat} (hk : k < n) (hn : n ≤ 4) : ∃ t : Tosses, t.draw n = k := by
  refine ⟨⟨UInt64.ofNat (k * 2 ^ 33)⟩, ?_⟩
  have hsize : k * 2 ^ 33 < UInt64.size := by
    rw [UInt64.size]
    omega
  have hhigh : (UInt64.ofNat (k * 2 ^ 33) >>> 33).toNat = k := by
    rw [UInt64.toNat_shiftRight, UInt64.toNat_ofNat_of_lt' hsize, Nat.shiftRight_eq_div_pow]
    exact Nat.mul_div_cancel k (by decide)
  rw [draw, hhigh, Nat.mod_eq_of_lt hk]

namespace Scene

variable {s : Scene} {b : Branch} {m : Move}

/-! ## Which branch is taken -/

lemma phase_of_mem_branches (h : b ∈ s.branches) :
    s.attempt.phase = .selecting ∨ b ≠ .exit ∧ ∃ since, s.attempt.phase = .draining since := by
  rw [branches] at h
  split at h
  · exact .inl ‹_›
  · refine .inr ⟨?_, _, ‹_›⟩
    rintro rfl
    simp at h
  · exact nomatch h

lemma length_branches_le (s : Scene) : s.branches.length ≤ 4 := by
  rw [branches]
  split <;> simp

/-- What is ready is what the attempt can take. -/
lemma possible_iff (hb : b ∈ s.branches) (hm : b.Moves s m) :
    (s.attempt.step? m).isSome = true ↔ s.isReady b = true := by
  cases hm with
  | output stream =>
    obtain hphase | ⟨-, since, hphase⟩ := phase_of_mem_branches hb
    all_goals
      rw [Attempt.step?, hphase, isReady]
      cases Attempt.ready (s.attempt.channel stream) <;> simp
  | exit answer =>
    obtain hphase | ⟨hnot, -⟩ := phase_of_mem_branches hb
    · simp [Attempt.step?, isReady, hphase]
    · exact absurd rfl hnot
  | timer htimer =>
    rw [isReady, htimer]
    unfold timer? at htimer
    obtain hphase | ⟨-, since, hphase⟩ := phase_of_mem_branches hb
    all_goals
      rw [hphase] at htimer
      cases htimer
      simp [Attempt.step?, hphase]

/-- What is promised of the choice between the branches. -/
structure Fair (s : Scene) : Prop where
  /-- Nothing is taken that is not ready. -/
  ready : ∀ start b, s.choose start = some b → b ∈ s.branches ∧ s.isReady b = true
  /-- Whatever is ready is what is taken for some toss. -/
  first : ∀ b ∈ s.branches, s.isReady b = true →
    ∃ tosses : Tosses, s.choose (tosses.draw s.branches.length) = some b
  /-- Nothing is taken only where nothing is ready, however the toss comes out. -/
  idle : ∀ start, s.choose start = none ↔ ∀ b ∈ s.branches, s.isReady b = false

lemma mem_drop_append_take {α : Type} {l : List α} {a : α} (n : Nat) :
    a ∈ l.drop n ++ l.take n ↔ a ∈ l := by
  rw [List.mem_append, or_comm, ← List.mem_append, List.take_append_drop]

/-- **Any ready branch may be taken, and no other.** -/
theorem fair (s : Scene) : Fair s where
  ready start b h :=
    ⟨(mem_drop_append_take start).mp (List.mem_of_find?_eq_some h), List.find?_some h⟩
  first b hb hready := by
    obtain ⟨before, rest, hsplit⟩ := List.append_of_mem hb
    obtain ⟨tosses, hdraw⟩ : ∃ tosses : Tosses, tosses.draw s.branches.length = before.length :=
      Tosses.exists_draw (by simp [hsplit]) s.length_branches_le
    refine ⟨tosses, ?_⟩
    rw [hdraw, choose, hsplit, List.drop_left, List.cons_append, List.find?_cons_of_pos hready]
  idle start := by
    rw [choose, List.find?_eq_none]
    constructor
    · exact fun hnone b hb => by simpa using hnone b ((mem_drop_append_take start).mpr hb)
    · exact fun hnone b hb => by simpa using hnone b ((mem_drop_append_take start).mp hb)

/-! ## The moves of a scene -/

/-- The attempt of the scene is what its moves have made of `origin`. -/
def Plays (origin : Attempt) (s : Scene) : Prop := s.attempt = origin.play s.moves.reverse

namespace Plays

variable {origin : Attempt} {t : Scene}

/-! What else there is in a scene does not matter. -/

lemma setMembers (h : Plays origin s) (members : List Member) :
    Plays origin { s with members := members } := h

lemma setComing (h : Plays origin s) (coming : List Event) :
    Plays origin { s with coming := coming } := h

lemma setSlowSink (h : Plays origin s) (slowSink : Option Duration) :
    Plays origin { s with slowSink := slowSink } := h

lemma setTosses (h : Plays origin s) (tosses : Tosses) :
    Plays origin { s with tosses := tosses } := h

lemma move (h : Plays origin s) (m : Move) : Plays origin (s.move m) := by
  have hmoves : (s.move m).moves.reverse = s.moves.reverse ++ [m] := List.reverse_cons
  rw [Plays, hmoves, play_append, ← h]
  rfl

lemma endStreams (h : Plays origin s) : Plays origin s.endStreams := by
  have hone : ∀ {s : Scene} (stream : Stream), Plays origin s →
      Plays origin (if s.held stream || (s.attempt.channel stream).ended then s
        else s.move (.streamEnd stream)) := by
    intro s stream h
    split
    · exact h
    · exact h.move _
  exact hone .stderr (hone .stdout h)

lemma arrive (h : Plays origin s) (stream : Stream) (pieces : List (List UInt8)) :
    Plays origin (pieces.foldl (fun s l => s.move (.arrive stream l)) s) := by
  induction pieces generalizing s with
  | nil => exact h
  | cons piece pieces ih => exact ih (h.move _)

lemma happen (h : Plays origin s) (e : Event) : Plays origin (s.happen e) := by
  unfold Scene.happen
  cases e.change with
  | born holds ignores => exact h
  | write stream bytes =>
    dsimp only
    split
    · exact h.arrive stream _
    · exact h
  | close stream => exact endStreams h
  | ends ending =>
    dsimp only
    split
    · refine endStreams ?_
      split
      · exact (h.setMembers _).move _
      · exact h.setMembers _
    · exact h
  | haltWatcher =>
    dsimp only
    split <;> exact h
  | resumeWatcher =>
    dsimp only
    split <;> exact h

lemma waitUntil (h : Plays origin s) (time : Duration) : Plays origin (s.waitUntil time) := by
  unfold Scene.waitUntil
  split
  · exact h
  · exact h.move _

lemma passUntil (h : Plays origin s) (time : Duration) (events : List Event) :
    Plays origin (s.passUntil time events) := by
  induction events generalizing s with
  | nil => exact (h.setComing []).waitUntil time
  | cons e rest ih =>
    rw [Scene.passUntil]
    split
    · exact ih ((h.waitUntil e.time).happen e)
    · exact (h.setComing _).waitUntil time

lemma take (h : Plays origin s) (stream : Stream) : Plays origin (s.take stream) := by
  have htaken := h.move (.take stream)
  unfold Scene.take
  dsimp only
  split
  · split
    · exact (htaken.setSlowSink none).passUntil _ _
    · split
      · exact htaken
      · exact htaken.passUntil _ _
  · exact htaken

lemma takeExit (h : Plays origin s) : Plays origin s.takeExit := by
  unfold Scene.takeExit
  split
  · exact h.move _
  · split
    · exact h.move _
    · dsimp only
      split
      · exact ((h.move _).setMembers _).endStreams
      · exact h.move _

lemma takeBranch (h : Plays origin s) (b : Branch) : Plays origin (s.takeBranch b) := by
  cases b with
  | output stream => exact h.take stream
  | exit => exact h.takeExit
  | timer =>
    unfold Scene.takeBranch
    dsimp only
    split
    · exact h.move _
    · exact h

lemma nextEvent? (h : Plays origin s) (hnext : s.nextEvent? = some t) :
    Plays origin t := by
  unfold Scene.nextEvent? at hnext
  split at hnext
  · cases hnext
  · cases hnext
    exact ((h.waitUntil _).setComing _).happen _

lemma await? (h : Plays origin s) (hnext : s.await? = some t) : Plays origin t := by
  unfold Scene.await? at hnext
  split at hnext
  · cases hnext
  · cases hnext
    exact (h.waitUntil _).move _
  · split at hnext
    · cases hnext
      exact (h.waitUntil _).move _
    · exact h.nextEvent? hnext

lemma next? (h : Plays origin s) (hnext : s.next? = some t) : Plays origin t := by
  unfold Scene.next? at hnext
  split at hnext
  · exact nomatch hnext
  · split at hnext
    · exact h.nextEvent? hnext
    · split at hnext
      · obtain rfl := Option.some.inj hnext
        exact h.move _
      · dsimp only at hnext
        split at hnext
        · obtain rfl := Option.some.inj hnext
          exact (h.setTosses _).takeBranch _
        · exact (h.setTosses _).await? hnext

end Plays

/-- **A scene is one schedule of its attempt.**  However far it is played, its attempt is what the
moves have made of the one it began with. -/
theorem attempt_play (refusesSignals keepsStatuses : Bool) (tosses : Tosses)
    (slowSink : Option Duration) (start : Attempt) (b : Behaviour) (fuel : Nat) :
    let s := (opening refusesSignals keepsStatuses tosses slowSink start b).play fuel
    s.attempt = start.play s.moves.reverse := by
  have hplay : ∀ (fuel : Nat) {s : Scene}, Plays start s → Plays start (s.play fuel) := by
    intro fuel
    induction fuel with
    | zero => exact fun h => h
    | succ fuel ih =>
      intro s h
      rw [play]
      split
      · exact ih (h.next? ‹_›)
      · exact h
  exact hplay fuel rfl

/-! ## The end of a scene -/

lemma nextEvent?_eq_none_iff (s : Scene) : s.nextEvent? = none ↔ s.coming = [] := by
  unfold nextEvent?
  split <;> simp [*]

/-- While a timer runs something is bound to happen. -/
lemma await?_ne_none (h : s.timer? ≠ none) : s.await? ≠ none := by
  unfold await?
  split
  · exact absurd ‹_› h
  · exact Option.some_ne_none _
  · rename_i hcoming
    split
    · exact Option.some_ne_none _
    · rw [ne_eq, nextEvent?_eq_none_iff, hcoming]
      exact List.cons_ne_nil _ _

lemma next?_ne_none (hphase : s.attempt.phase ≠ .done) (hhalted : s.halted = false) :
    s.next? ≠ none := by
  unfold next?
  split
  · exact absurd ‹_› hphase
  · rw [hhalted, if_neg Bool.false_ne_true]
    split
    · exact Option.some_ne_none _
    · rename_i hkilling
      dsimp only
      split
      · exact Option.some_ne_none _
      · -- the timer is that of the scene before the toss
        refine await?_ne_none ?_
        cases hwaits : s.attempt.phase with
        | selecting => simp [timer?, hwaits]
        | draining since => simp [timer?, hwaits]
        | killing => exact absurd hwaits hkilling
        | done => exact absurd hwaits hphase

/-- **The end of a scene.**  A scene goes on until its attempt is over, unless the attempt has been
stopped and nobody is left to let it go on. -/
theorem next?_eq_none_iff (s : Scene) :
    s.next? = none ↔ s.attempt.phase = .done ∨ s.halted = true ∧ s.coming = [] := by
  by_cases hphase : s.attempt.phase = .done
  · simp [next?, hphase]
  · cases hhalted : s.halted with
    | false => simp [next?_ne_none hphase hhalted, hphase]
    | true =>
      have hnext : s.next? = s.nextEvent? := by
        unfold next?
        split
        · exact absurd ‹_› hphase
        · rw [if_pos hhalted]
      simp [hnext, nextEvent?_eq_none_iff, hphase]

end Scene

end Watchdog.Host
