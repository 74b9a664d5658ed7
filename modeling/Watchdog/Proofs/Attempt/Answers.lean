import Watchdog.Proofs.Attempt.Output

/-!
# What the system answers to signals

An attempt asks the handle on its process for two things, and the system answers: the signal was
sent, or it was refused; the handle itself may have nothing to do.  None of it reaches the session.
Two attempts that differ in what the handle has done so far and in the platform (`core`), and whose
moves differ in the answers only (`Move.granted`), know the same at every moment.  The processes
themselves may differ from the kill on, when nobody asks for them any more (`Resembles`).
-/

namespace Watchdog

/-- The same move where the system answers that all went well. -/
def Move.granted : Move → Move
  | .takeExit _ => .takeExit .delivered
  | .kill _ => .kill (.ended none)
  | m => m

namespace Attempt

variable {a b : Attempt}

/-! ## The core of an attempt -/

/-- An attempt without what it has done to the outside and what only that depends on. -/
def core (a : Attempt) : Attempt :=
  { a with
    setting := { a.setting with platform := .current }
    handle := .new none a.handle.child
    history := [] }

@[simp] lemma core_phase (a : Attempt) : a.core.phase = a.phase := rfl

@[simp] lemma core_now (a : Attempt) : a.core.now = a.now := rfl

@[simp] lemma core_session (a : Attempt) : a.core.session = a.session := rfl

@[simp] lemma core_channel (a : Attempt) (s : Stream) : a.core.channel s = a.channel s := by
  cases s <;> rfl

lemma core_setChannel (a : Attempt) (s : Stream) (c : Channel) :
    (a.setChannel s c).core = a.core.setChannel s c := by
  cases s <;> rfl

lemma core_absorb (a : Attempt) (s : Stream) (bytes : List UInt8) :
    (a.absorb s bytes).core = (a.core.absorb s bytes).core := by
  rw [absorb_eq, absorb_eq a.core]
  rfl

lemma core_drainOrFinish (a : Attempt) (since : Duration) :
    (a.drainOrFinish since).core = (a.core.drainOrFinish since).core := by
  rw [drainOrFinish_eq, drainOrFinish_eq a.core]
  rfl

lemma core_settle (a : Attempt) : a.settle.core = a.core.settle.core := by
  unfold settle
  dsimp only [core_session, core_now]
  split
  · rfl
  · exact core_drainOrFinish _ _

lemma core_settleIf (settles : Bool) (a : Attempt) :
    (a.settleIf settles).core = (a.core.settleIf settles).core := by
  cases settles with
  | true => exact core_settle a
  | false => rfl

lemma core_reapGroup (a : Attempt) (answer : SignalAnswer) :
    (a.reapGroup answer).core = a.core := by
  rw [core, child_reapGroup, reapGroup_eq]
  rfl

lemma core_takeWaiting (a : Attempt) (s : Stream) :
    (a.takeWaiting s).core = (a.core.takeWaiting s).core := by
  unfold takeWaiting
  dsimp only
  rw [core_channel]
  split
  · rw [core_absorb, core_setChannel]
  · cases s with
    | stdout => exact core_settleIf _ _
    | stderr => rfl

lemma core_takeDraining (a : Attempt) (since : Duration) (s : Stream) :
    (a.takeDraining since s).core = (a.core.takeDraining since s).core := by
  unfold takeDraining
  dsimp only
  rw [core_channel]
  split
  · rw [core_absorb, core_setChannel]
  · rw [core_drainOrFinish, core_setChannel]

/-- Waiting depends on the process and not on what its handle has done to it. -/
lemma wait_core (a : Attempt) :
    a.core.handle.wait none =
      (.new none (a.handle.wait none).1.child, (a.handle.wait none).2) := by
  unfold Handle.wait
  dsimp only [core, Handle.new]
  split <;> simp [*]

lemma core_acceptExit (a : Attempt) (answer answer' : SignalAnswer) :
    (a.acceptExit answer).core = (a.core.acceptExit answer').core := by
  unfold acceptExit
  rw [wait_core]
  dsimp only
  split <;>
    rw [core_settleIf, core_reapGroup, core_settleIf _ (reapGroup _ _), core_reapGroup] <;> rfl

/-- A guarded step is the same for both if its guard is. -/
lemma core_guarded {p q : Prop} [Decidable p] [Decidable q] {a b c d : Attempt} (hguard : p ↔ q)
    (hstep : c.core = d.core) (hrest : a.core = b.core) :
    ((if p then some c else none).getD a).core = ((if q then some d else none).getD b).core := by
  by_cases h : p
  · rw [if_pos h, if_pos (hguard.mp h)]
    exact hstep
  · rw [if_neg h, if_neg (mt hguard.mpr h)]
    exact hrest

/-- Every move but the kill treats an attempt as it treats its core. -/
lemma core_next {m : Move} (hkill : ∀ answer, m = .kill answer → a.phase ≠ .killing) :
    (a.next m).core = (a.core.next m.granted).core := by
  cases m with
  | elapse d => rfl
  | arrive stream bytes =>
    simp only [next, step?, Move.granted, core_phase, core_channel, enqueue]
    split
    · rfl
    · cases stream <;> rfl
  | streamEnd stream =>
    simp only [next, step?, Move.granted, core_phase, core_channel]
    split
    · rfl
    · cases stream <;> rfl
  | childEnd status => exact core_guarded Iff.rfl rfl rfl
  | take stream =>
    simp only [next, step?, Move.granted, core_phase, core_channel]
    split
    · rfl
    · split
      · exact core_takeWaiting _ _
      · exact core_takeDraining _ _ _
      · rfl
  | takeExit answer => exact core_guarded Iff.rfl (core_acceptExit a answer _) rfl
  | takeDeadline =>
    refine core_guarded Iff.rfl ?_ rfl
    rw [core_settle, core_settle (note _ _)]
    rfl
  | kill answer =>
    have hphase := hkill answer rfl
    have hnot : a.core.phase ≠ .killing := hphase
    rw [next, next, step?, Move.granted, step?, if_neg hphase, if_neg hnot]
    rfl
  | takeGraceEnd =>
    simp only [next, step?, Move.granted, core_phase]
    split
    · exact core_guarded Iff.rfl rfl rfl
    · rfl

/-! ## Resembling attempts -/

/-- `b` differs from `a` in what it has done to the outside and what only that depends on; once
everything is over, the process may be another as well. -/
def Resembles (a b : Attempt) : Prop :=
  b.core = a.core ∨ a.phase = .done ∧ b.phase = .done ∧ b.session = a.session

lemma Resembles.session (h : a.Resembles b) : b.session = a.session := by
  obtain hcore | ⟨-, -, hsession⟩ := h
  · rw [← core_session, hcore, core_session]
  · exact hsession

lemma Resembles.phase (h : a.Resembles b) : b.phase = a.phase := by
  obtain hcore | ⟨ha, hb, -⟩ := h
  · rw [← core_phase, hcore, core_phase]
  · rw [ha, hb]

/-- The kill hands over what the queues hold and depends on nothing else. -/
lemma session_killAndCollect (h : b.core = a.core) (answer answer' : KillAnswer) :
    (b.killAndCollect answer').session = (a.killAndCollect answer).session := by
  have hqueued : ∀ s, b.channel s = a.channel s := fun s => by
    rw [← core_channel, h, core_channel]
  have hstdout : b.stdout = a.stdout := hqueued .stdout
  have hstderr : b.stderr = a.stderr := hqueued .stderr
  have hsession : b.session = a.session := Resembles.session (.inl h)
  rw [(hands_killAndCollect a answer).session, (hands_killAndCollect b answer').session, hstdout,
    hstderr, hsession]

lemma Resembles.next {m m' : Move} (h : a.Resembles b) (hm : m'.granted = m.granted) :
    (a.next m).Resembles (b.next m') := by
  obtain hcore | ⟨ha, hb, hsession⟩ := h
  · by_cases hkill : a.phase = .killing ∧ ∃ answer, m = .kill answer
    · obtain ⟨hphase, answer, rfl⟩ := hkill
      have hphase' : b.phase = .killing := (Resembles.phase (.inl hcore)).trans hphase
      cases m' with
      | kill answer' =>
        right
        have hnext : a.next (.kill answer) = a.killAndCollect answer := by
          simp [Attempt.next, step?, hphase]
        have hnext' : b.next (.kill answer') = b.killAndCollect answer' := by
          simp [Attempt.next, step?, hphase']
        rw [hnext, hnext']
        exact ⟨rfl, rfl, session_killAndCollect hcore _ _⟩
      | _ => cases hm
    · left
      have hnot : ∀ answer, m = .kill answer → a.phase ≠ .killing := fun answer hm hphase =>
        hkill ⟨hphase, answer, hm⟩
      have hnot' : ∀ answer, m' = .kill answer → b.phase ≠ .killing := by
        rintro answer rfl hphase
        have hphase' : a.phase = .killing := (Resembles.phase (.inl hcore)).symm.trans hphase
        cases m with
        | kill answer => exact hnot answer rfl hphase'
        | _ => cases hm
      rw [core_next hnot, core_next hnot', hcore, hm]
  · right
    have hpass := passes_of_done ha m
    have hpass' := passes_of_done hb m'
    exact ⟨hpass.phase.trans ha, hpass'.phase.trans hb,
      by rw [hpass.session, hpass'.session, hsession]⟩

/-- **Answers do not matter.**  Attempts that resemble each other go on to do so when they go through
the same moves, whatever the system answers in each. -/
theorem Resembles.play {moves moves' : List Move} (h : a.Resembles b)
    (hmoves : moves'.map Move.granted = moves.map Move.granted) :
    (a.play moves).Resembles (b.play moves') := by
  induction moves generalizing a b moves' with
  | nil =>
    obtain rfl := List.map_eq_nil_iff.mp hmoves
    exact h
  | cons m moves ih =>
    obtain ⟨m', rest, rfl, hm, hrest⟩ := List.map_eq_cons_iff.mp hmoves
    rw [play_cons, play_cons]
    exact ih (h.next hm) hrest

end Attempt
end Watchdog
