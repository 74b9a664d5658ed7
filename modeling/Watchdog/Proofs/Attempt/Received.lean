import Watchdog.Proofs.Attempt.History
import Watchdog.Proofs.Attempt.Output

/-!
# What has been received when the waiting ends

When the waiting ends, the queues may hold pieces that were not taken yet.  There are two ways on.
A command that is to be killed leaves its queues to be collected, and all they hold is shown.  After
any other command the streams are drained, for a limited time: of several things that are ready any
one may be taken first, so the end of that time may come before pieces that have long been there.
Then they are shown nowhere, and what they say does not count.
-/

namespace Watchdog.Attempt

open Utf8 (lossy)

variable {a b : Attempt} {since : Duration}

/-! ## Ways on -/

/-- There is nothing to drain when both ends have been taken. -/
lemma phase_drainOrFinish_cases (a : Attempt) (since : Duration) :
    (a.drainOrFinish since).phase = .draining since ∨
      (a.drainOrFinish since).phase = .done ∧
        ∀ stream, ((a.drainOrFinish since).channel stream).listening = false := by
  rw [drainOrFinish_eq]
  dsimp only
  split
  · exact .inl rfl
  · rename_i hlistening
    rw [Bool.not_eq_true, Bool.or_eq_false_iff] at hlistening
    refine .inr ⟨rfl, fun stream => ?_⟩
    cases stream with
    | stdout => exact hlistening.1
    | stderr => exact hlistening.2

/-- Settling leads to the kill or to draining, or to the end if both streams have ended. -/
lemma phase_settle_cases (a : Attempt) :
    a.settle.phase = .killing ∨ a.settle.phase = .draining a.now ∨
      a.settle.phase = .done ∧ ∀ stream, (a.settle.channel stream).listening = false := by
  unfold settle
  dsimp only
  split
  · exact .inl rfl
  · exact .inr (phase_drainOrFinish_cases _ a.now)

/-- The move that ends the waiting takes an event and settles. -/
lemma settles_of_settling {m : Move} (hwaiting : a.phase = .selecting)
    (hsettles : (a.next m).phase ≠ .selecting) :
    ∃ e b, a.taken? m = some e ∧ a.Takes e b ∧ a.next m = b.settle := by
  cases htaken : a.taken? m with
  | none => exact absurd ((passes_of_taken_eq_none hwaiting htaken).phase.trans hwaiting) hsettles
  | some e =>
    obtain ⟨b, htakes, hnext⟩ := next_of_taken htaken
    cases hdecides : a.decides e with
    | false =>
      rw [hnext, hdecides] at hsettles
      exact absurd htakes.phase hsettles
    | true => exact ⟨e, b, rfl, htakes, by rw [hnext, hdecides]; rfl⟩

/-- It leaves the attempt at one of the three, at its own time. -/
lemma phase_next_of_settling {m : Move} (hwaiting : a.phase = .selecting)
    (hsettles : (a.next m).phase ≠ .selecting) :
    (a.next m).now = a.now ∧
      ((a.next m).phase = .killing ∨ (a.next m).phase = .draining (a.next m).now ∨
        (a.next m).phase = .done ∧ ∀ stream, ((a.next m).channel stream).listening = false) := by
  obtain ⟨_, b, _, htakes, hnext⟩ := settles_of_settling hwaiting hsettles
  have hnow : b.settle.now = b.now := by rw [settle_eq]
  rw [hnext, hnow]
  exact ⟨htakes.now, phase_settle_cases b⟩

/-- Collecting leaves nothing in the queues. -/
lemma queued_killAndCollect (a : Attempt) (answer : KillAnswer) (stream : Stream) :
    ((a.killAndCollect answer).channel stream).queued = [] := by
  have hconserved := ((hands_killAndCollect a answer).flow stream).conserved
  cases stream <;> simpa [arriving, channel] using hconserved

/-- A command that is to be killed is killed, and then nothing is left in the queues. -/
lemma next_of_killing (h : a.phase = .killing) (m : Move) :
    (a.next m).phase = .killing ∨
      (a.next m).phase = .done ∧ ∀ stream, ((a.next m).channel stream).queued = [] := by
  have hstays : a.Passes m (a.next m) → (a.next m).phase = .killing := fun hpass =>
    hpass.phase.trans h
  cases m with
  | elapse d => exact .inl (hstays (passes_elapse a d))
  | arrive stream bytes => exact .inl (hstays (passes_arrive a stream bytes))
  | streamEnd stream => exact .inl (hstays (passes_streamEnd a stream))
  | childEnd status => exact .inl (hstays (passes_childEnd a status))
  | kill answer =>
    right
    have hnext : a.next (.kill answer) = a.killAndCollect answer := by simp [next, step?, h]
    rw [hnext]
    exact ⟨rfl, queued_killAndCollect a answer⟩
  | _ => exact .inl (hstays (passes_of_impossible (by simp [step?, h])))

/-- Draining goes on until both ends have been taken, or until its time is over. -/
lemma next_of_draining (h : a.phase = .draining since) (m : Move) :
    (a.next m).phase = .draining since ∨
      (a.next m).phase = .done ∧
        ((∀ stream, ((a.next m).channel stream).listening = false) ∨
          m = .takeGraceEnd ∧ since + a.setting.drainGrace ≤ a.now) := by
  have hstays : a.Passes m (a.next m) → (a.next m).phase = .draining since := fun hpass =>
    hpass.phase.trans h
  cases m with
  | elapse d => exact .inl (hstays (passes_elapse a d))
  | arrive stream bytes => exact .inl (hstays (passes_arrive a stream bytes))
  | streamEnd stream => exact .inl (hstays (passes_streamEnd a stream))
  | childEnd status => exact .inl (hstays (passes_childEnd a status))
  | take stream =>
    cases hready : ready (a.channel stream) with
    | false => exact .inl (hstays (passes_of_impossible (by simp [step?, hready])))
    | true =>
      have hnext : a.next (.take stream) = a.takeDraining since stream := by
        simp [next, step?, h, hready]
      rw [hnext]
      unfold takeDraining
      dsimp only
      split
      · left
        rw [absorb_eq, setChannel_eq]
        exact h
      · exact (phase_drainOrFinish_cases _ since).imp_right fun hover => ⟨hover.1, .inl hover.2⟩
  | takeGraceEnd =>
    by_cases hover : since + a.setting.drainGrace ≤ a.now
    · right
      have hnext : a.next .takeGraceEnd = a.finish := by simp [next, step?, h, hover]
      rw [hnext]
      exact ⟨rfl, .inr ⟨rfl, hover⟩⟩
    · exact .inl (hstays (passes_of_impossible (by simp [step?, h, hover])))
  | _ => exact .inl (hstays (passes_of_impossible (by simp [step?, h])))

/-- If nothing is taken until the time for draining is over, its end can be taken, and the queues
are left as they are. -/
lemma play_grace_over (h : a.phase = .draining a.now) :
    (a.play [.elapse a.setting.drainGrace, .takeGraceEnd]).phase = .done ∧
      ∀ stream, (a.play [.elapse a.setting.drainGrace, .takeGraceEnd]).channel stream =
        a.channel stream := by
  have hplay : a.play [.elapse a.setting.drainGrace, .takeGraceEnd] =
      ({ a with now := a.now + a.setting.drainGrace } : Attempt).finish := by
    have hdue : a.now + a.setting.drainGrace ≤ a.now + a.setting.drainGrace := Nat.le_refl _
    simp [next, step?, h, hdue]
  rw [hplay]
  exact ⟨rfl, fun stream => by cases stream <;> rfl⟩

/-! ## To the end -/

/-- When everything is over, the queues stay as they are. -/
lemma channel_of_done (h : a.phase = .done) (moves : List Move) (stream : Stream) :
    ((a.play moves).channel stream).queued = (a.channel stream).queued ∧
      ((a.play moves).channel stream).listening = (a.channel stream).listening := by
  induction moves generalizing a with
  | nil => exact ⟨rfl, rfl⟩
  | cons m moves ih =>
    have hpass := passes_of_done h m
    have harriving : a.arriving m stream = [] := by
      cases m <;> simp [arriving, step?, h]
    obtain ⟨hqueued, hlistening⟩ := ih (hpass.phase.trans h)
    rw [play_cons, hqueued, hlistening, hpass.channel, harriving, List.append_nil]
    exact ⟨rfl, rfl⟩

lemma queued_of_killing {moves : List Move} (h : a.phase = .killing)
    (hdone : (a.play moves).phase = .done) (stream : Stream) :
    ((a.play moves).channel stream).queued = [] := by
  induction moves generalizing a with
  | nil =>
    rw [play_nil, h] at hdone
    exact nomatch hdone
  | cons m moves ih =>
    obtain hstays | ⟨hover, hqueued⟩ := next_of_killing h m
    · exact ih hstays hdone
    · rw [play_cons, (channel_of_done hover moves stream).1, hqueued]

/-- Draining ends with the ends of both streams, or with the end of its time at some move. -/
lemma ends_of_draining {moves : List Move} (h : a.phase = .draining since)
    (hdone : (a.play moves).phase = .done) :
    (∀ stream, ((a.play moves).channel stream).listening = false) ∨
      ∃ before after, moves = before ++ .takeGraceEnd :: after ∧
        (a.play before).phase = .draining since ∧
        since + (a.play before).setting.drainGrace ≤ (a.play before).now := by
  induction moves generalizing a with
  | nil =>
    rw [play_nil, h] at hdone
    exact nomatch hdone
  | cons m moves ih =>
    obtain hstays | ⟨hover, hclosed | ⟨rfl, htime⟩⟩ := next_of_draining h m
    · obtain hclosed | ⟨before, after, rfl, hdraining, htime⟩ := ih hstays hdone
      · exact .inl hclosed
      · exact .inr ⟨m :: before, after, rfl, hdraining, htime⟩
    · left
      intro stream
      rw [play_cons, (channel_of_done hover moves stream).2, hclosed]
    · exact .inr ⟨[], moves, rfl, h, htime⟩

/-! ## What is shown -/

lemma arrived_append (a : Attempt) (stream : Stream) (moves more : List Move) :
    a.arrived stream (moves ++ more) =
      a.arrived stream moves ++ (a.play moves).arrived stream more := by
  induction moves generalizing a with
  | nil => rfl
  | cons m moves ih =>
    rw [List.cons_append, arrived, arrived, ih, play_cons, List.append_assoc]

/-- Of two ways to cut the same bytes in two, the first part of one begins the first part of the
other exactly if its rest is at least as long. -/
lemma prefix_iff_of_append_eq {shown left put later : List UInt8}
    (h : shown ++ left = put ++ later) : put <+: shown ↔ left.length ≤ later.length := by
  have hlength := congrArg List.length h
  rw [List.length_append, List.length_append] at hlength
  constructor
  · intro hbegins
    have hle := hbegins.length_le
    omega
  · intro hle
    exact List.prefix_of_prefix_length_le (h ▸ List.prefix_append put later)
      (List.prefix_append shown left) (by omega)

/-- The move that ends the waiting puts nothing into a queue. -/
lemma arriving_of_settling {m : Move} (hwaiting : a.phase = .selecting)
    (hsettles : (a.next m).phase ≠ .selecting) (stream : Stream) : a.arriving m stream = [] := by
  obtain ⟨_, _, htaken, _, _⟩ := settles_of_settling hwaiting hsettles
  exact (arriving_of_taken htaken stream).1

lemma tidy_play {stream : Stream} (h : (a.session.buffer stream).Tidy) (moves : List Move) :
    ((a.play moves).session.buffer stream).Tidy := by
  induction moves generalizing a with
  | nil => exact h
  | cons m moves ih =>
    obtain ⟨calls, hsession, -, -⟩ := exists_calls a m
    have hnext : ((a.next m).session.buffer stream).Tidy := by
      rw [hsession]
      exact Session.tidy_replay calls h
    exact ih hnext

lemma setting_play (setting : Setting) (pid : UInt32) (now : Duration) (epoch : UInt64)
    (moves : List Move) : ((start setting pid now epoch).play moves).setting = setting := by
  obtain hwaits | hover := waits_or_over (fresh_start setting pid now epoch) moves
  · exact hwaits.setting
  · exact hover.setting

/-- What is promised of the output of an attempt whose waiting ended with the move `m`: `shown` are
the bytes of each stream that the report shows. -/
structure Received (origin : Attempt) (before : List Move) (m : Move) (after : List Move)
    (shown : Stream → List UInt8) : Prop where
  stdout : ∀ epoch, ((origin.play (before ++ m :: after)).session.report origin.setting.timeout
    origin.setting.platform epoch).stdout = lossy (shown .stdout)
  stderr : ∀ epoch, ((origin.play (before ++ m :: after)).session.report origin.setting.timeout
    origin.setting.platform epoch).stderr = lossy (shown .stderr)
  /-- The receivers were handed the text that is shown, but for what was held back to the end. -/
  sunk : ∀ stream,
    let text := Effect.sunkText stream (origin.play (before ++ m :: after)).effects
    lossy (shown stream) = text ∨ lossy (shown stream) = text ++ String.singleton Utf8.replacement
  /-- What had been put into a queue, and what followed, is shown or has been left behind. -/
  conserved : ∀ stream,
    shown stream ++ ((origin.play (before ++ m :: after)).channel stream).queued.flatten =
      (origin.arrived stream before).flatten ++
        (((origin.play before).next m).arrived stream after).flatten
  /-- Of a command that was killed nothing was left behind. -/
  killed : ((origin.play before).next m).phase = .killing → ∀ stream,
    ((origin.play (before ++ m :: after)).channel stream).queued = []
  /-- Of any other one nothing was, or the time for draining came to its end. -/
  drained : ((origin.play before).next m).phase ≠ .killing →
    (∀ stream, ((origin.play (before ++ m :: after)).channel stream).queued = []) ∨
      ∃ during rest, after = during ++ .takeGraceEnd :: rest ∧
        (((origin.play before).next m).play during).phase = .draining (origin.play before).now ∧
        (origin.play before).now + origin.setting.drainGrace ≤
          (((origin.play before).next m).play during).now
  /-- What is in the queues when draining begins can be lost as it is, whatever time is allowed:
  nothing need be taken before that time is over. -/
  lost : ((origin.play before).next m).phase = .draining (origin.play before).now →
    (origin.play (before ++ [m, .elapse origin.setting.drainGrace, .takeGraceEnd])).phase = .done ∧
      ∀ stream,
        (origin.play (before ++ [m, .elapse origin.setting.drainGrace, .takeGraceEnd])).channel
          stream = ((origin.play before).next m).channel stream
  /-- All that had been put into a queue is shown exactly if no more was left behind than came
  afterwards. -/
  all_iff : ∀ stream, (origin.arrived stream before).flatten <+: shown stream ↔
    ((origin.play (before ++ m :: after)).channel stream).queued.flatten.length ≤
      (((origin.play before).next m).arrived stream after).flatten.length

/-- **What had been received may be lost in the end.**  Of a command that is killed all is shown
that its readers had put into the queues when the waiting ended, and all is handed to the receivers.
Of any other command so is all that is taken before the time for draining is over; but the end of
that time may be taken before pieces that were there when the waiting ended, and those are lost. -/
theorem received_of_done (setting : Setting) (pid : UInt32) (now : Duration) (epoch : UInt64)
    (before : List Move) (m : Move) (after : List Move)
    (hwaiting : ((start setting pid now epoch).play before).phase = .selecting)
    (hsettles : (((start setting pid now epoch).play before).next m).phase ≠ .selecting)
    (hdone : ((start setting pid now epoch).play (before ++ m :: after)).phase = .done) :
    ∃ shown, Received (start setting pid now epoch) before m after shown := by
  set origin := start setting pid now epoch with horigin
  set last := origin.play (before ++ m :: after) with hlast
  have hplay : last = ((origin.play before).next m).play after := by
    rw [hlast, play_append, play_cons]
  have hcarries : ∀ stream, ∃ given, last.Carries stream given
      (origin.arrived stream (before ++ m :: after)).flatten :=
    fun stream => (carries_start setting pid now epoch stream).play _
  choose shown hshown using hcarries
  have hfinish : ∀ stream, (last.session.buffer stream).finish.1 = lossy (shown stream) :=
    fun stream => (hshown stream).holds.finish
  have hconserved : ∀ stream, shown stream ++ (last.channel stream).queued.flatten =
      (origin.arrived stream before).flatten ++
        (((origin.play before).next m).arrived stream after).flatten := fun stream => by
    rw [(hshown stream).conserved, arrived_append, arrived,
      arriving_of_settling hwaiting hsettles, List.nil_append, List.flatten_append]
  have hclosed : (∀ stream, (last.channel stream).listening = false) →
      ∀ stream, (last.channel stream).queued = [] := fun hlistening stream =>
    ((hshown stream).closed (hlistening stream)).1
  obtain ⟨hnow, hway⟩ := phase_next_of_settling hwaiting hsettles
  refine ⟨shown, ?_⟩
  constructor
  case stdout => exact fun _ => hfinish .stdout
  case stderr =>
    intro epoch'
    have hlaunched : last.session.launchFailure = none := launchFailure_play origin _
    exact (Session.stderr_report hlaunched _ _ _).trans (hfinish .stderr)
  case sunk =>
    intro stream
    have htidy : (last.session.buffer stream).Tidy :=
      tidy_play (by cases stream <;> exact StreamBuffer.tidy_empty) _
    rw [sunkText_effects, ← hfinish stream]
    exact htidy.finish
  case conserved => exact hconserved
  case killed =>
    intro hkilling
    rw [hplay] at hdone
    rw [← hlast, hplay]
    exact queued_of_killing hkilling hdone
  case drained =>
    intro hnot
    obtain hkilling | hdraining | ⟨hover, hlistening⟩ := hway
    · exact absurd hkilling hnot
    · rw [hplay] at hdone
      obtain hends | ⟨during, rest, hafter, hphase, htime⟩ := ends_of_draining hdraining hdone
      · exact .inl (hclosed (by rw [hplay]; exact hends))
      · right
        have hsetting : (((origin.play before).next m).play during).setting = setting := by
          have hthere := setting_play setting pid now epoch (before ++ m :: during)
          rwa [play_append, play_cons] at hthere
        rw [hnow] at hphase htime
        exact ⟨during, rest, hafter, hphase, by rwa [hsetting] at htime⟩
    · refine .inl (hclosed fun stream => ?_)
      rw [hplay, (channel_of_done hover after stream).2, hlistening]
  case lost =>
    intro hdraining
    have hsetting : ((origin.play before).next m).setting = setting := by
      have hthere := setting_play setting pid now epoch (before ++ [m])
      rwa [play_append, play_cons] at hthere
    rw [← hnow] at hdraining
    have hover := play_grace_over hdraining
    rw [hsetting] at hover
    rwa [play_append, play_cons]
  case all_iff =>
    intro stream
    exact prefix_iff_of_append_eq (hconserved stream)

/-- A command that reports a crash and exits with code 3; its standard output ends before the report
has been taken from the queue. -/
def crashInQueue : List Move :=
  [.arrive .stderr (Utf8.encode "thread 1 panic: boom\n"), .childEnd (some (.exited 3)),
    .streamEnd .stdout, .streamEnd .stderr, .takeExit .delivered]

/-- The time for draining is over, and its end is taken before the report of the crash. -/
def graceOverFirst : List Move := [.elapse (.ofMillis 100), .takeGraceEnd]

/-- The crash had been received when the waiting ended, and neither the report nor the verdict shows
anything of it. -/
theorem crash_lost_at_grace_end :
    let origin := start ⟨"sh", .ofMillis 1000, .current, .ofMillis 100⟩ 7 ⟨0⟩ 0
    let r := (origin.play (crashInQueue ++ .take .stdout :: graceOverFirst)).session.report
      (.ofMillis 1000) .current 0
    (origin.play crashInQueue).phase = .selecting ∧
      ((origin.play crashInQueue).next (.take .stdout)).phase ≠ .selecting ∧
      (origin.play (crashInQueue ++ .take .stdout :: graceOverFirst)).phase = .done ∧
      crashMessage? (lossy (origin.arrived .stderr crashInQueue).flatten) = some "boom" ∧
      (∃ shown, Received origin crashInQueue (.take .stdout) graceOverFirst shown ∧
        ¬ (origin.arrived .stderr crashInQueue).flatten <+: shown .stderr) ∧
      r.stderr = "" ∧ r.error = some (.code "3") := by
  intro origin r
  have hwaiting : (origin.play crashInQueue).phase = .selecting := by decide +kernel
  have hsettles : ((origin.play crashInQueue).next (.take .stdout)).phase ≠ .selecting := by
    decide +kernel
  have hdone : (origin.play (crashInQueue ++ .take .stdout :: graceOverFirst)).phase = .done := by
    decide +kernel
  obtain ⟨shown, hreceived⟩ := received_of_done ⟨"sh", .ofMillis 1000, .current, .ofMillis 100⟩ 7
    ⟨0⟩ 0 crashInQueue (.take .stdout) graceOverFirst hwaiting hsettles hdone
  have hlost : ¬ (origin.arrived .stderr crashInQueue).flatten <+: shown .stderr := by
    rw [hreceived.all_iff]
    decide +kernel
  exact ⟨hwaiting, hsettles, hdone, by decide +kernel, ⟨shown, hreceived, hlost⟩, by decide +kernel,
    by decide +kernel⟩

end Watchdog.Attempt
