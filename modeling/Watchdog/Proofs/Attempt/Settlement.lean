import Mathlib.Data.List.Induction
import Watchdog.Proofs.Attempt.Passing

/-!
# When the waiting ends

Whether an attempt may stop waiting can be read off the events it has taken (`decided`): a clean
end of the command is enough, so is any end of the command together with the end of standard output,
and so is the deadline.  An attempt keeps this knowledge in several places: the barrier of its
session, its own mark that the end of the command was taken, and the channel of standard output.
`Waits` and `Over` say how they hang together with the events while the waiting lasts and after it.
Each move preserves one of the two or leads from the first to the second.
-/

namespace Watchdog.Attempt

namespace Event

/-- The command has ended well. -/
def isCleanExit : Event → Bool
  | exit (.ok status) => status.parts.clean
  | _ => false

def isDeadline : Event → Bool
  | deadline => true
  | _ => false

end Event

/-- These events are enough to stop waiting. -/
def decided (events : List Event) : Bool :=
  events.any Event.isCleanExit ||
    (events.any Event.isExit && events.any Event.isStdoutEnd) ||
    events.any Event.isDeadline

lemma decided_append (events more : List Event) (h : decided events = true) :
    decided (events ++ more) = true := by
  simp only [decided, List.any_append, Bool.or_eq_true, Bool.and_eq_true] at h ⊢
  tauto

/-- What was taken, without the times. -/
def events (taken : List (Duration × Event)) : List Event := taken.map Prod.snd

/-- What the session is told of it. -/
def told (taken : List (Duration × Event)) : List Session.Call :=
  taken.flatMap fun p => p.2.calls p.1

lemma countP_isExit_calls (e : Event) (now : Duration) :
    (e.calls now).countP Session.Call.isExit = e.isExit.toNat := by
  rcases e with _ | ⟨_ | _⟩ | ⟨_ | _⟩ | _ <;> rfl

lemma countP_isStdoutEnd_calls (e : Event) (now : Duration) :
    (e.calls now).countP Session.Call.isStdoutEnd = e.isStdoutEnd.toNat := by
  rcases e with _ | ⟨_ | _⟩ | ⟨_ | _⟩ | _ <;> rfl

lemma isSettle_calls (e : Event) (now : Duration) :
    (e.calls now).any Session.Call.isSettle = false := by
  rcases e with _ | ⟨_ | _⟩ | ⟨_ | _⟩ | _ <;> rfl

/-- Calls of some kind are told as often as there are events that bring them about. -/
lemma countP_told {f : Session.Call → Bool} {g : Event → Bool}
    (h : ∀ (e : Event) (now : Duration), (e.calls now).countP f = (g e).toNat)
    (taken : List (Duration × Event)) : (told taken).countP f = (events taken).countP g := by
  induction taken with
  | nil => rfl
  | cons p taken ih =>
    rw [told, List.flatMap_cons, List.countP_append, h, events, List.map_cons, List.countP_cons]
    rw [told, events] at ih
    rw [ih, Nat.add_comm]
    cases g p.2 <;> rfl

lemma any_told {f : Session.Call → Bool} {g : Event → Bool}
    (h : ∀ (e : Event) (now : Duration), (e.calls now).countP f = (g e).toNat)
    (taken : List (Duration × Event)) : (told taken).any f = (events taken).any g := by
  rw [Bool.eq_iff_iff, List.any_eq_true, List.any_eq_true, ← List.countP_pos_iff,
    ← List.countP_pos_iff, countP_told h]

/-- The barrier of a session that was told of the events, and of nothing else, knows of them. -/
lemma barrier_told {s : Session} (taken : List (Duration × Event)) (h : s.barrier = .start) :
    (s.replay (told taken)).barrier =
      ⟨(events taken).any Event.isExit, (events taken).any Event.isStdoutEnd⟩ := by
  rw [Session.barrier_replay, h, any_told countP_isExit_calls, any_told countP_isStdoutEnd_calls]
  rfl

lemma settled_told {s : Session} (taken : List (Duration × Event)) (h : s.settled = false) :
    (s.replay (told taken)).settled = false := by
  have hnever : (told taken).any Session.Call.isSettle = false := by
    simp [told, List.any_flatMap, isSettle_calls]
  rw [Session.settled_replay, h, hnever, Bool.or_false]

/-! ## The invariants -/

/-- Where the waiting begins. -/
structure Fresh (origin : Attempt) : Prop where
  phase : origin.phase = .selecting
  barrier : origin.session.barrier = .start
  settled : origin.session.settled = false
  exitParts : origin.session.exitParts = ⟨none, none⟩
  exitSeen : origin.exitSeen = false
  listening : (origin.channel .stdout).listening = true
  child : origin.handle.child = .running

/-- What holds of an attempt, with what it has taken, while the waiting lasts. -/
structure Waits (origin : Attempt) (taken : List (Duration × Event)) (a : Attempt) : Prop where
  phase : a.phase = .selecting
  undecided : decided (events taken) = false
  setting : a.setting = origin.setting
  session : a.session = origin.session.replay (told taken)
  exitSeen : a.exitSeen = (events taken).any Event.isExit
  /-- Standard output is listened to until its end has been taken. -/
  listening : (a.channel .stdout).listening = !(events taken).any Event.isStdoutEnd
  exit_once : (events taken).countP Event.isExit ≤ 1
  stdoutEnd_once : (events taken).countP Event.isStdoutEnd ≤ 1
  /-- A process has been waited for exactly if its status was taken. -/
  reaped : ∀ status, a.handle.child = .reaped status ↔ .exit (.ok status) ∈ events taken

/-- What holds after it. -/
structure Over (origin : Attempt) (taken : List (Duration × Event)) (a : Attempt) : Prop where
  phase : a.phase ≠ .selecting
  /-- It was over as soon as the events were enough, and the session settled then. -/
  settled : ∃ before now e pieces, taken = before ++ [(now, e)] ∧
    decided (events before) = false ∧ decided (events taken) = true ∧
    a.session = ((origin.session.replay (told taken)).settle now).2.absorb pieces
  setting : a.setting = origin.setting
  listening : (events taken).any Event.isStdoutEnd = true → (a.channel .stdout).listening = false
  exit_once : (events taken).countP Event.isExit ≤ 1
  stdoutEnd_once : (events taken).countP Event.isStdoutEnd ≤ 1

variable {origin a b : Attempt} {taken : List (Duration × Event)} {e : Event} {m : Move}

lemma fresh_start (setting : Setting) (pid : UInt32) (now : Duration) (epoch : UInt64) :
    (start setting pid now epoch).Fresh :=
  ⟨rfl, rfl, rfl, rfl, rfl, rfl, rfl⟩

lemma Fresh.waits (h : origin.Fresh) : origin.Waits [] origin where
  phase := h.phase
  undecided := rfl
  setting := rfl
  session := rfl
  exitSeen := h.exitSeen
  listening := h.listening
  exit_once := Nat.zero_le _
  stdoutEnd_once := Nat.zero_le _
  reaped := fun status => by simp [h.child, events]

/-- The attempt ends the waiting exactly when the events with the new one are enough. -/
lemma Waits.decides_eq (h : origin.Waits taken a) (hbarrier : origin.session.barrier = .start)
    (e : Event) : a.decides e = decided (events taken ++ [e]) := by
  have hknown := barrier_told taken hbarrier
  rw [← h.session] at hknown
  have hundecided := h.undecided
  simp only [decided, List.any_append, List.any_cons, List.any_nil, Bool.or_false] at hundecided ⊢
  revert hundecided hknown
  generalize (events taken).any Event.isCleanExit = clean
  generalize (events taken).any Event.isExit = exit
  generalize (events taken).any Event.isStdoutEnd = stdoutEnd
  generalize (events taken).any Event.isDeadline = deadline
  intro hknown hundecided
  simp only [Bool.or_eq_false_iff, Bool.and_eq_false_imp] at hundecided
  obtain ⟨⟨rfl, hnotBoth⟩, rfl⟩ := hundecided
  cases e with
  | ended stream =>
    cases stream <;> cases exit <;>
      simp_all [decides, Event.isCleanExit, Event.isExit, Event.isStdoutEnd, Event.isDeadline]
  | exit ending =>
    cases ending <;> cases exit <;>
      simp_all [decides, Event.isCleanExit, Event.isExit, Event.isStdoutEnd, Event.isDeadline]
  | _ =>
    cases exit <;>
      simp_all [decides, Event.isCleanExit, Event.isExit, Event.isStdoutEnd, Event.isDeadline]

/-! ## Each move keeps the invariants -/

lemma events_append (taken : List (Duration × Event)) (now : Duration) (e : Event) :
    events (taken ++ [(now, e)]) = events taken ++ [e] := by
  simp [events]

lemma told_append (taken : List (Duration × Event)) (now : Duration) (e : Event) :
    told (taken ++ [(now, e)]) = told taken ++ e.calls now := by
  simp [told]

/-- Waiting for a process that has ended fetches its status if there is one. -/
lemma child_wait {h : Handle} (hended : h.child ≠ .running) (status : WaitStatus) :
    (h.wait none).1.child = .reaped status ↔ (h.wait none).2 = .ok status := by
  unfold Handle.wait
  cases hchild : h.child with
  | running => exact absurd hchild hended
  | exited s => simp
  | reaped s => simp [hchild]
  | vanished => simp [hchild]

lemma Waits.pass (h : origin.Waits taken a) (hpass : a.Passes m b) : origin.Waits taken b where
  phase := hpass.phase.trans h.phase
  undecided := h.undecided
  setting := hpass.setting.trans h.setting
  session := hpass.session.trans h.session
  exitSeen := hpass.exitSeen.trans h.exitSeen
  listening := by rw [hpass.channel]; exact h.listening
  exit_once := h.exit_once
  stdoutEnd_once := h.stdoutEnd_once
  reaped := fun status => by
    rw [← h.reaped status]
    obtain hchild | ⟨hrunning, hnot⟩ := hpass.child
    · rw [hchild]
    · simp [hrunning, hnot status]

lemma countP_append_le_one {f : Event → Bool} {events : List Event}
    (honce : events.countP f ≤ 1) (h : f e = true → events.any f = false) :
    (events ++ [e]).countP f ≤ 1 := by
  rw [List.countP_append, List.countP_singleton]
  split
  · rename_i he
    have hnone : events.countP f = 0 := by
      rw [List.countP_eq_zero]
      simpa using h he
    omega
  · exact honce

/-- The end of the command is taken once. -/
lemma Waits.exit_once_take (h : origin.Waits taken a) (htakes : a.Takes e b) :
    (events taken ++ [e]).countP Event.isExit ≤ 1 := by
  refine countP_append_le_one h.exit_once fun hexit => ?_
  cases e with
  | exit ending => rw [← h.exitSeen]; exact htakes.offered.1
  | _ => exact nomatch hexit

/-- The end of standard output is taken once. -/
lemma Waits.stdoutEnd_once_take (h : origin.Waits taken a) (htakes : a.Takes e b) :
    (events taken ++ [e]).countP Event.isStdoutEnd ≤ 1 := by
  refine countP_append_le_one h.stdoutEnd_once fun hend => ?_
  cases e with
  | ended stream =>
    cases stream with
    | stdout =>
      have hlistening := h.listening
      rw [show a.channel .stdout = ⟨[], true, true⟩ from htakes.offered] at hlistening
      simpa using hlistening
    | stderr => exact nomatch hend
  | _ => exact nomatch hend

lemma Waits.listening_take (h : origin.Waits taken a) (htakes : a.Takes e b) :
    (b.channel .stdout).listening = !(events taken ++ [e]).any Event.isStdoutEnd := by
  rw [htakes.channel .stdout, List.any_append, Bool.not_or, ← h.listening]
  cases e with
  | piece stream bytes => cases stream <;> simp [Event.leaves, Event.isStdoutEnd]
  | ended stream => cases stream <;> simp [Event.leaves, Event.isStdoutEnd]
  | _ => simp [Event.leaves, Event.isStdoutEnd]

lemma Waits.take (h : origin.Waits taken a) (htakes : a.Takes e b)
    (hnot : decided (events taken ++ [e]) = false) :
    origin.Waits (taken ++ [(a.now, e)]) b := by
  constructor
  case phase => exact htakes.phase
  case setting => exact htakes.setting.trans h.setting
  case session =>
    rw [htakes.session, h.session, told_append, Session.replay_append]
  all_goals rw [events_append]
  case undecided => exact hnot
  case exitSeen => rw [htakes.exitSeen, h.exitSeen]; simp
  case listening => exact h.listening_take htakes
  case exit_once => exact h.exit_once_take htakes
  case stdoutEnd_once => exact h.stdoutEnd_once_take htakes
  case reaped =>
    intro status
    rw [htakes.child, List.mem_append, List.mem_singleton, ← h.reaped status]
    cases e with
    | exit ending =>
      obtain ⟨hseen, hended, rfl⟩ := htakes.offered
      have hnever : a.handle.child ≠ .reaped status := fun hreaped => by
        have hmem := (h.reaped status).mp hreaped
        have hexit : (events taken).any Event.isExit = true := List.any_eq_true.mpr ⟨_, hmem, rfl⟩
        rw [← h.exitSeen, hseen] at hexit
        exact nomatch hexit
      simp [Event.isExit, child_wait hended, hnever, eq_comm]
    | _ => simp [Event.isExit]

/-- The event that is all that was needed ends the waiting. -/
lemma Waits.over (h : origin.Waits taken a) (htakes : a.Takes e b)
    (hdecided : decided (events taken ++ [e]) = true) :
    origin.Over (taken ++ [(a.now, e)]) b.settle := by
  constructor
  case phase => exact phase_settle b
  case settled =>
    refine ⟨taken, a.now, e, [], rfl, h.undecided, by rw [events_append, hdecided], ?_⟩
    rw [settle_eq, htakes.session, h.session, htakes.now, told_append, Session.replay_append]
    rfl
  case setting => rw [settle_eq, htakes.setting, h.setting]
  case listening =>
    rw [events_append, channel_settle, h.listening_take htakes]
    intro hend
    rw [hend]
    rfl
  all_goals rw [events_append]
  case exit_once => exact h.exit_once_take htakes
  case stdoutEnd_once => exact h.stdoutEnd_once_take htakes

lemma Over.step (h : origin.Over taken a) (m : Move) : origin.Over taken (a.next m) := by
  obtain ⟨hphase, pieces, hhands⟩ := next_of_settled h.phase m
  constructor
  case phase => exact hphase
  case settled =>
    obtain ⟨before, now, e, earlier, htaken, hbefore, hdecided, hsession⟩ := h.settled
    refine ⟨before, now, e, earlier ++ pieces, htaken, hbefore, hdecided, ?_⟩
    rw [hhands.session, hsession, Session.absorb_append]
  case setting => exact hhands.setting.trans h.setting
  case listening =>
    intro hend
    obtain hsame | ⟨hbefore, -⟩ := (hhands.flow .stdout).listening
    · rw [hsame, h.listening hend]
    · have hlistening := h.listening hend
      rw [hbefore] at hlistening
      exact nomatch hlistening
  case exit_once => exact h.exit_once
  case stdoutEnd_once => exact h.stdoutEnd_once

lemma taken_append (a : Attempt) (moves more : List Move) :
    a.taken (moves ++ more) = a.taken moves ++ (a.play moves).taken more := by
  induction moves generalizing a with
  | nil => rfl
  | cons m moves ih => simp only [List.cons_append, Attempt.taken, ih, play_cons, List.append_assoc]

/-- Where neither a clean end nor the deadline ended the waiting, both ends were taken. -/
lemma Over.both_ends (h : origin.Over taken a)
    (hclean : (events taken).any Event.isCleanExit = false)
    (hdeadline : (events taken).any Event.isDeadline = false) :
    (events taken).any Event.isExit = true ∧ (events taken).any Event.isStdoutEnd = true ∧
      (a.channel .stdout).listening = false := by
  obtain ⟨-, -, -, -, -, -, hdecided, -⟩ := h.settled
  rw [decided, hclean, hdeadline, Bool.false_or, Bool.or_false, Bool.and_eq_true] at hdecided
  exact ⟨hdecided.1, hdecided.2, h.listening hdecided.2⟩

/-- Whatever happens, the attempt waits or it is over. -/
lemma waits_or_over (h : origin.Fresh) (moves : List Move) :
    origin.Waits (origin.taken moves) (origin.play moves) ∨
      origin.Over (origin.taken moves) (origin.play moves) := by
  induction moves using List.reverseRecOn with
  | nil => exact .inl h.waits
  | append_singleton moves m ih =>
    have hplay : origin.play (moves ++ [m]) = (origin.play moves).next m := play_append ..
    rw [hplay, taken_append, Attempt.taken, Attempt.taken, List.append_nil]
    obtain hwaits | hover := ih
    · cases htaken : (origin.play moves).taken? m with
      | none =>
        left
        simpa using hwaits.pass (passes_of_taken_eq_none hwaits.phase htaken)
      | some e =>
        obtain ⟨b, htakes, hnext⟩ := next_of_taken htaken
        rw [hnext, hwaits.decides_eq h.barrier, settleIf]
        cases hdecided : decided (events (origin.taken moves) ++ [e]) with
        | false => exact .inl (hwaits.take htakes hdecided)
        | true => exact .inr (hwaits.over htakes hdecided)
    · right
      have hnone : (origin.play moves).taken? m = none := by simp [taken?, hover.phase]
      simpa [hnone] using hover.step m

/-- An attempt that waits no longer takes nothing more and keeps all but the two texts. -/
lemma keeps_of_settled (h : a.phase ≠ .selecting) (more : List Move) :
    (a.play more).phase ≠ .selecting ∧ a.taken more = [] ∧
      a.session.Keeps (a.play more).session := by
  induction more generalizing a with
  | nil => exact ⟨h, rfl, Session.Keeps.refl _⟩
  | cons m more ih =>
    obtain ⟨hphase, pieces, hhands⟩ := next_of_settled h m
    obtain ⟨hlast, hnone, hkeeps⟩ := ih hphase
    have hnothing : a.taken? m = none := by simp [taken?, h]
    refine ⟨hlast, by simp [Attempt.taken, hnothing, hnone], ?_⟩
    have hone : a.session.Keeps (a.next m).session := by
      rw [hhands.session]
      exact Session.keeps_absorb _ _
    exact hone.trans hkeeps

/-! ## The policy -/

/-- What is promised of the waiting, whatever moves an attempt goes through. -/
structure Settlement (origin : Attempt) (moves : List Move) : Prop where
  /-- The waiting is over exactly if the events taken are enough. -/
  over_iff : (origin.play moves).phase ≠ .selecting ↔ decided (events (origin.taken moves)) = true
  /-- It was over with the first event that made them enough. -/
  first : ∀ before p after, origin.taken moves = before ++ p :: after →
    decided (events before) = false
  /-- The session is told at most once of each of the two ends. -/
  exit_once : (told (origin.taken moves)).countP Session.Call.isExit ≤ 1
  stdoutEnd_once : (told (origin.taken moves)).countP Session.Call.isStdoutEnd ≤ 1
  /-- Until then the session is told of the events taken, and of nothing else. -/
  waiting : (origin.play moves).phase = .selecting →
    (origin.play moves).session = origin.session.replay (told (origin.taken moves)) ∧
      (origin.play moves).session.settled = false
  /-- Until then an end that has come and was not taken can be taken, and so can the deadline. -/
  offers : (origin.play moves).phase = .selecting →
    ((events (origin.taken moves)).any Event.isExit = false →
      (origin.play moves).handle.child ≠ .running → ∀ answer,
        ∃ ending, (origin.play moves).taken? (.takeExit answer) = some (.exit ending)) ∧
    ((events (origin.taken moves)).any Event.isStdoutEnd = false →
      ((origin.play moves).channel .stdout).ended = true →
      ((origin.play moves).channel .stdout).queued = [] →
        (origin.play moves).taken? (.take .stdout) = some (.ended .stdout)) ∧
    ((origin.play moves).session.started.getD ⟨0⟩ + (origin.play moves).setting.timeout ≤
      (origin.play moves).now → (origin.play moves).taken? .takeDeadline = some .deadline)
  /-- With the last event the session settles; from then on it gets pieces of output only, and
  settling it once more changes nothing. -/
  settled : (origin.play moves).phase ≠ .selecting →
    (∃ before now e pieces, origin.taken moves = before ++ [(now, e)] ∧
      let s := origin.session.replay (told (origin.taken moves))
      (s.settle now).1 = true ∧
        (origin.play moves).session = (s.settle now).2.absorb pieces) ∧
    (origin.play moves).session.settled = true ∧
      ∀ later, (origin.play moves).session.settle later = (false, (origin.play moves).session)
  /-- Whatever follows changes nothing but the two texts. -/
  kept : (origin.play moves).phase ≠ .selecting → ∀ more,
    (origin.play (moves ++ more)).phase ≠ .selecting ∧
      origin.taken (moves ++ more) = origin.taken moves ∧
      (origin.play moves).session.Keeps (origin.play (moves ++ more)).session
  /-- A clean end of the command waits for nothing. -/
  clean : (events (origin.taken moves)).any Event.isCleanExit = true →
    (origin.play moves).phase ≠ .selecting
  /-- Any other end of the command waits for the end of standard output, or for the deadline. -/
  unclean : (origin.play moves).phase ≠ .selecting →
    (events (origin.taken moves)).any Event.isCleanExit = false →
    (events (origin.taken moves)).any Event.isDeadline = false →
    (events (origin.taken moves)).any Event.isExit = true ∧
      (events (origin.taken moves)).any Event.isStdoutEnd = true ∧
      ((origin.play moves).channel .stdout).listening = false

lemma undecided_of_append {events : List Event} (more : List Event)
    (h : decided (events ++ more) = false) : decided events = false := by
  cases hdecided : decided events with
  | false => rfl
  | true => rw [decided_append events more hdecided] at h; exact nomatch h

/-- Nothing that has come is overlooked while the waiting lasts. -/
lemma Waits.offers (h : origin.Waits taken a) :
    ((events taken).any Event.isExit = false → a.handle.child ≠ .running → ∀ answer,
        ∃ ending, a.taken? (.takeExit answer) = some (.exit ending)) ∧
    ((events taken).any Event.isStdoutEnd = false → (a.channel .stdout).ended = true →
      (a.channel .stdout).queued = [] → a.taken? (.take .stdout) = some (.ended .stdout)) ∧
    (a.session.started.getD ⟨0⟩ + a.setting.timeout ≤ a.now →
      a.taken? .takeDeadline = some .deadline) := by
  refine ⟨fun hexit hchild answer => ?_, fun hend hended hqueue => ?_, fun hdue => ?_⟩
  · have hseen : a.exitSeen = false := h.exitSeen.trans hexit
    exact ⟨(a.handle.wait none).2, by simp [taken?, step?, h.phase, hseen, hchild]⟩
  · have hlistening : (a.channel .stdout).listening = true := by rw [h.listening, hend]; rfl
    have hready : ready (a.channel .stdout) = true := by simp [ready, hlistening, hended]
    simp [taken?, step?, h.phase, hready, hqueue]
  · simp [taken?, step?, h.phase, hdue]

lemma Waits.settlement {moves : List Move} (hfresh : origin.Fresh)
    (h : origin.Waits (origin.taken moves) (origin.play moves)) : Settlement origin moves where
  over_iff := by simp [h.phase, h.undecided]
  first := fun before p after htaken => by
    have hundecided := h.undecided
    rw [htaken, events, List.map_append] at hundecided
    exact undecided_of_append _ hundecided
  exit_once := by rw [countP_told countP_isExit_calls]; exact h.exit_once
  stdoutEnd_once := by rw [countP_told countP_isStdoutEnd_calls]; exact h.stdoutEnd_once
  waiting := fun _ => ⟨h.session, by rw [h.session, settled_told _ hfresh.settled]⟩
  offers := fun _ => h.offers
  settled := fun hphase => absurd h.phase hphase
  kept := fun hphase => absurd h.phase hphase
  clean := fun hclean => by
    have hundecided := h.undecided
    rw [decided, hclean] at hundecided
    exact nomatch hundecided
  unclean := fun hphase => absurd h.phase hphase

lemma Over.settlement {moves : List Move} (hfresh : origin.Fresh)
    (h : origin.Over (origin.taken moves) (origin.play moves)) : Settlement origin moves := by
  obtain ⟨before, now, e, pieces, htaken, hbefore, hdecided, hsession⟩ := h.settled
  constructor
  case over_iff => simp [h.phase, hdecided]
  case first =>
    intro start p after hsplit
    have hstart : before = start ++ (p :: after).dropLast := by
      have hlast := congrArg List.dropLast (htaken.symm.trans hsplit)
      rwa [List.dropLast_concat, List.dropLast_append_of_ne_nil (List.cons_ne_nil p after)]
        at hlast
    rw [hstart, events, List.map_append] at hbefore
    exact undecided_of_append _ hbefore
  case exit_once =>
    rw [countP_told countP_isExit_calls]
    exact h.exit_once
  case stdoutEnd_once =>
    rw [countP_told countP_isStdoutEnd_calls]
    exact h.stdoutEnd_once
  case waiting => exact fun hphase => absurd hphase h.phase
  case offers => exact fun hphase => absurd hphase h.phase
  case settled =>
    have hsettled : (origin.play moves).session.settled = true := by
      rw [hsession, (Session.keeps_absorb _ _).settled_eq, Session.settle_eq]
    refine fun _ => ⟨⟨before, now, e, pieces, htaken, ?_, hsession⟩, hsettled, fun later => ?_⟩
    · rw [Session.settle_eq, settled_told _ hfresh.settled]
      rfl
    · rw [Session.settle, if_pos hsettled]
  case kept =>
    intro _ more
    obtain ⟨hphase, hnone, hkeeps⟩ := keeps_of_settled h.phase more
    rw [play_append, taken_append, hnone, List.append_nil]
    exact ⟨hphase, rfl, hkeeps⟩
  case clean => exact fun _ => h.phase
  case unclean => exact fun _ => h.both_ends

/-- **When the waiting ends.**  Whatever moves a launched attempt goes through, the waiting ends
with the first event after which a clean end of the command, any end of it together with the end of
standard output, or the deadline has been taken.  Each of the two ends reaches the session at most
once, the session settles once, and what comes later adds to the two texts and changes nothing
else.  While the waiting lasts, neither end is overlooked once it has come, nor is the deadline. -/
theorem settlement_of_moves (setting : Setting) (pid : UInt32) (now : Duration) (epoch : UInt64)
    (moves : List Move) : Settlement (start setting pid now epoch) moves := by
  have hfresh := fresh_start setting pid now epoch
  obtain hwaits | hover := waits_or_over hfresh moves
  · exact hwaits.settlement hfresh
  · exact hover.settlement hfresh

end Watchdog.Attempt
