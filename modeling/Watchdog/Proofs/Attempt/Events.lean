import Watchdog.Proofs.Attempt.Frames

/-!
# What an attempt takes while it waits

While an attempt waits it takes events, one at a time: a piece or the end of a stream, the end of
the command, or the deadline.  `taken?` says which event a move takes, `Takes` what the attempt
makes of it before it may stop waiting, and `next_of_taken` that this is what the move does.
-/

namespace Watchdog.Attempt

/-- What can be taken while waiting. -/
inductive Event where
  | piece (stream : Stream) (bytes : List UInt8)
  | ended (stream : Stream)
  /-- The command has ended; waiting for it gave this. -/
  | exit (ending : Except IoError WaitStatus)
  | deadline

namespace Event

def isExit : Event → Bool
  | exit _ => true
  | _ => false

def isStdoutEnd : Event → Bool
  | ended .stdout => true
  | _ => false

/-- What the session is told of it. -/
def calls (now : Duration) : Event → List Session.Call
  | piece stream bytes => [.chunk stream bytes]
  | ended .stdout => [.stdoutEnded]
  | ended .stderr => []
  | exit (.ok status) => [.recordExit now status.parts]
  | exit (.error _) => [.exitUnknown now]
  | deadline => []

end Event

/-- The event that a move takes. -/
def taken? (a : Attempt) (m : Move) : Option Event :=
  if a.phase = .selecting ∧ (a.step? m).isSome then
    match m with
    | .take stream =>
      match (a.channel stream).queued with
      | bytes :: _ => some (.piece stream bytes)
      | [] => some (.ended stream)
    | .takeExit _ => some (.exit (a.handle.wait none).2)
    | .takeDeadline => some .deadline
    | _ => none
  else none

/-- The events that moves take, with the time of each. -/
def taken (a : Attempt) : List Move → List (Duration × Event)
  | [] => []
  | m :: moves => (a.taken? m).toList.map (a.now, ·) ++ (a.next m).taken moves

/-! ## Taking an event -/

/-- An event is all that is needed to stop waiting, given what the session knows. -/
def decides (a : Attempt) : Event → Bool
  | .piece _ _ => false
  | .ended .stdout => a.session.barrier.exitSeen
  | .ended .stderr => false
  | .exit (.ok status) => status.parts.clean || a.session.barrier.stdoutEndSeen
  | .exit (.error _) => a.session.barrier.stdoutEndSeen
  | .deadline => true

/-- What is left of a channel when an event has been taken from it. -/
def Event.leaves (e : Event) (stream : Stream) (c : Channel) : Channel :=
  match e with
  | .piece s _ => if stream = s then { c with queued := c.queued.tail } else c
  | .ended s => if stream = s then { c with listening := false } else c
  | _ => c

/-- `b` is what taking the event `e` makes of `a`, before the waiting may end. -/
structure Takes (a : Attempt) (e : Event) (b : Attempt) : Prop where
  waiting : a.phase = .selecting
  phase : b.phase = .selecting
  now : b.now = a.now
  setting : b.setting = a.setting
  session : b.session = a.session.replay (e.calls a.now)
  exitSeen : b.exitSeen = (a.exitSeen || e.isExit)
  channel : ∀ stream, b.channel stream = e.leaves stream (a.channel stream)
  child : b.handle.child = if e.isExit then (a.handle.wait none).1.child else a.handle.child
  /-- The event was there to be taken. -/
  offered : match e with
    | .piece stream bytes =>
      (a.channel stream).listening = true ∧ (a.channel stream).queued.head? = some bytes
    | .ended stream => a.channel stream = ⟨[], true, true⟩
    | .exit ending =>
      a.exitSeen = false ∧ a.handle.child ≠ .running ∧ ending = (a.handle.wait none).2
    | .deadline => a.session.started.getD ⟨0⟩ + a.setting.timeout ≤ a.now

lemma takes_piece {a : Attempt} {stream : Stream} {bytes : List UInt8} {rest : List (List UInt8)}
    (hphase : a.phase = .selecting) (hready : ready (a.channel stream) = true)
    (hqueue : (a.channel stream).queued = bytes :: rest) :
    a.Takes (.piece stream bytes) (a.takeWaiting stream) := by
  have htake : a.takeWaiting stream =
      (a.setChannel stream { a.channel stream with queued := rest }).absorb stream bytes := by
    simp only [takeWaiting, hqueue]
  have hlistening : (a.channel stream).listening = true := by
    simp only [ready, Bool.and_eq_true] at hready
    exact hready.1
  rw [htake]
  constructor
  case channel =>
    intro s
    rw [channel_absorb, channel_setChannel]
    simp only [Event.leaves]
    split <;> simp_all
  case offered => exact ⟨hlistening, by rw [hqueue]; rfl⟩
  case waiting => exact hphase
  all_goals rw [absorb_eq, setChannel_eq]
  all_goals simp [hphase, Event.calls, Session.apply, Event.isExit]

lemma takes_ended {a : Attempt} {stream : Stream} (hphase : a.phase = .selecting)
    (hready : ready (a.channel stream) = true) (hqueue : (a.channel stream).queued = []) :
    ∃ b, a.Takes (.ended stream) b ∧
      a.takeWaiting stream = b.settleIf (a.decides (.ended stream)) := by
  have hchannel := eq_of_ready hready hqueue
  have hset : ∀ s, (a.setChannel stream { a.channel stream with listening := false }).channel s =
      Event.leaves (.ended stream) s (a.channel s) := by
    intro s
    rw [channel_setChannel, Event.leaves]
    split <;> simp_all
  cases stream with
  | stdout =>
    refine ⟨{ a.setChannel .stdout { a.channel .stdout with listening := false } with
      session := a.session.stdoutEnded.2 }, ?_, ?_⟩
    · constructor
      case channel => exact fun s => (by cases s <;> rfl : _ = _).trans (hset s)
      case offered => exact hchannel
      case waiting => exact hphase
      all_goals rw [setChannel_eq]
      all_goals simp [hphase, Event.calls, Session.apply, Event.isExit]
    · simp only [takeWaiting, hqueue]
      rfl
  | stderr =>
    refine ⟨a.setChannel .stderr { a.channel .stderr with listening := false }, ?_, ?_⟩
    · constructor
      case channel => exact hset
      case offered => exact hchannel
      case waiting => exact hphase
      all_goals rw [setChannel_eq]
      all_goals simp [hphase, Event.calls, Event.isExit]
    · simp only [takeWaiting, hqueue]
      rfl

lemma takes_exit {a : Attempt} (answer : SignalAnswer) (hphase : a.phase = .selecting)
    (hseen : a.exitSeen = false) (hchild : a.handle.child ≠ .running) :
    ∃ b, a.Takes (.exit (a.handle.wait none).2) b ∧
      a.acceptExit answer = b.settleIf (a.decides (.exit (a.handle.wait none).2)) := by
  cases hwait : (a.handle.wait none).2 with
  | ok status =>
    refine ⟨({ a with
      handle := (a.handle.wait none).1
      exitSeen := true
      session := (a.session.recordExit a.now status.parts).2 } : Attempt).reapGroup answer, ?_, ?_⟩
    · constructor
      case offered => exact ⟨hseen, hchild, hwait.symm⟩
      case child => exact child_reapGroup _ _
      case channel => exact fun s => (channel_reapGroup _ answer s).trans (by cases s <;> rfl)
      case waiting => exact hphase
      all_goals rw [reapGroup_eq]
      all_goals simp [hphase, hseen, Event.calls, Session.apply, Event.isExit]
    · simp only [acceptExit, hwait, decides, Session.recordExit_fst]
  | error e =>
    refine ⟨({ a with
      handle := (a.handle.wait none).1
      exitSeen := true
      session := (a.session.exitUnknown a.now).2
      history := .note (.waitFailed a.setting.command e) :: a.history } : Attempt).reapGroup answer,
      ?_, ?_⟩
    · constructor
      case offered => exact ⟨hseen, hchild, hwait.symm⟩
      case child => exact child_reapGroup _ _
      case channel => exact fun s => (channel_reapGroup _ answer s).trans (by cases s <;> rfl)
      case waiting => exact hphase
      all_goals rw [reapGroup_eq]
      all_goals simp [hphase, hseen, Event.calls, Session.apply, Event.isExit]
    · simp only [acceptExit, hwait, decides, note, record, Session.exitUnknown_fst]

lemma takes_deadline {a : Attempt} (hphase : a.phase = .selecting)
    (hlate : a.session.started.getD ⟨0⟩ + a.setting.timeout ≤ a.now) :
    a.Takes .deadline (a.note (.deadlineReached a.setting.command a.setting.timeout)) where
  waiting := hphase
  phase := hphase
  now := rfl
  setting := rfl
  session := rfl
  exitSeen := (Bool.or_false _).symm
  channel := fun s => by cases s <;> rfl
  child := rfl
  offered := hlate

/-- **What a taken event does.**  It goes to the session and leaves its source, and the waiting ends
exactly if the event is all that was needed. -/
theorem next_of_taken {a : Attempt} {m : Move} {e : Event} (h : a.taken? m = some e) :
    ∃ b, a.Takes e b ∧ a.next m = b.settleIf (a.decides e) := by
  unfold taken? at h
  split at h
  case isFalse => cases h
  rename_i hpossible
  obtain ⟨hphase, hstep⟩ := hpossible
  cases m with
  | take stream =>
    have hready : ready (a.channel stream) = true := by
      cases hr : ready (a.channel stream) with
      | true => rfl
      | false => simp [step?, hr] at hstep
    have hnext : a.next (.take stream) = a.takeWaiting stream := by
      simp [next, step?, hready, hphase]
    rw [hnext]
    dsimp only at h
    split at h
    · rename_i bytes rest hqueue
      obtain rfl := Option.some.inj h
      exact ⟨_, takes_piece hphase hready hqueue, rfl⟩
    · rename_i hqueue
      obtain rfl := Option.some.inj h
      exact takes_ended hphase hready hqueue
  | takeExit answer =>
    obtain rfl := Option.some.inj h
    have hguard : a.phase = .selecting ∧ a.exitSeen = false ∧ a.handle.child ≠ .running := by
      simpa [step?] using hstep
    have hnext : a.next (.takeExit answer) = a.acceptExit answer := by
      simp [next, step?, hguard]
    rw [hnext]
    exact takes_exit answer hphase hguard.2.1 hguard.2.2
  | takeDeadline =>
    obtain rfl := Option.some.inj h
    have hguard : a.phase = .selecting ∧
        a.session.started.getD ⟨0⟩ + a.setting.timeout ≤ a.now := by
      simpa [step?] using hstep
    have hnext : a.next .takeDeadline =
        (a.note (.deadlineReached a.setting.command a.setting.timeout)).settle := by
      simp [next, step?, hguard]
    rw [hnext]
    exact ⟨_, takes_deadline hphase hguard.2, rfl⟩
  | _ => cases h

end Watchdog.Attempt
