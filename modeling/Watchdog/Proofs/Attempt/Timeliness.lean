import Watchdog.Proofs.Attempt.Deadline

/-!
# Who took too long

The verdict that a command took too long is formed when everything is over, from what the session
knows then: whether there is an end of the command, and the time measured.  The time is measured at
the first end of the command that is taken, or else when the waiting ends, and does not change
afterwards (`duration_told`).  Without an end of the command only the deadline ends the waiting, and
the deadline is not taken early (`due_of_mem_taken`).  So the verdict is never given to a command
that took less than its time limit, and an end that was taken in time is what is reported.
-/

namespace Watchdog.Attempt

variable {origin a : Attempt} {taken : List (Duration × Event)} {e : Event}

/-! ## The time of an event -/

/-- An event that was taken was there at its time, and the attempt was waiting for it. -/
lemma offered_of_mem_taken {moves : List Move} {t : Duration} (h : (t, e) ∈ a.taken moves) :
    ∃ before m after, moves = before ++ m :: after ∧ (a.play before).taken? m = some e ∧
      t = (a.play before).now := by
  induction moves generalizing a with
  | nil => exact nomatch h
  | cons m moves ih =>
    rw [Attempt.taken, List.mem_append] at h
    obtain hnow | hlater := h
    · obtain ⟨e', he', hpair⟩ := List.mem_map.mp hnow
      obtain ⟨rfl, rfl⟩ := Prod.mk.inj hpair
      exact ⟨[], m, moves, rfl, Option.mem_toList.mp he', rfl⟩
    · obtain ⟨before, m', after, rfl, htaken, ht⟩ := ih hlater
      exact ⟨m :: before, m', after, rfl, htaken, ht⟩

/-- What the session is told of an event leaves the start alone; the time is measured if the event
is the end of the command, unless it has been measured. -/
lemma measured_calls {s : Session} {began : Duration} (hstarted : s.started = some began)
    (now : Duration) (e : Event) :
    (s.replay (e.calls now)).started = some began ∧
      (s.replay (e.calls now)).duration =
        s.duration.or (if e.isExit then some (now - began) else none) := by
  rcases e with ⟨_ | _⟩ | ⟨_ | _⟩ | ⟨_ | _⟩ | _ <;>
    simp [Event.calls, Event.isExit, Session.apply, Session.chunk, Session.stdoutEnded,
      Session.recordExit, Session.exitUnknown, Session.measure_eq, hstarted]

/-- The time measured is that from the start to the first end of the command that was taken. -/
lemma duration_told {s : Session} {began : Duration} (hstarted : s.started = some began)
    (taken : List (Duration × Event)) :
    (s.replay (told taken)).started = some began ∧
      (s.replay (told taken)).duration =
        s.duration.or ((taken.find? (·.2.isExit)).map (·.1 - began)) := by
  induction taken generalizing s with
  | nil => exact ⟨hstarted, Option.or_none.symm⟩
  | cons p taken ih =>
    obtain ⟨hstart, hduration⟩ := measured_calls hstarted p.1 p.2
    obtain ⟨hlast, hmeasured⟩ := ih hstart
    rw [told, List.flatMap_cons, Session.replay_append]
    refine ⟨hlast, hmeasured.trans ?_⟩
    rw [hduration, List.find?_cons]
    cases p.2.isExit with
    | true => rw [if_pos rfl, Option.map_some, Option.or_assoc, Option.some_or]
    | false => rw [if_neg Bool.false_ne_true, Option.or_none]

/-! ## What is known of the end -/

lemma isExit_eq_false_of_forall (h : ∀ t ending, (t, .exit ending) ∉ taken) :
    ∀ p ∈ taken, p.2.isExit = false := by
  rintro ⟨t, e⟩ hp
  cases e with
  | exit ending => exact absurd hp (h t ending)
  | _ => rfl

/-- The end of the command is taken once, so there is nothing of the kind before or after it. -/
lemma split_at_exit {t : Duration} {ending : Except IoError WaitStatus}
    (honce : (events taken).countP Event.isExit ≤ 1) (h : (t, .exit ending) ∈ taken) :
    ∃ before after, taken = before ++ (t, .exit ending) :: after ∧
      (∀ p ∈ before, p.2.isExit = false) ∧ ∀ p ∈ after, p.2.isExit = false := by
  obtain ⟨before, after, rfl⟩ := List.append_of_mem h
  rw [events, List.countP_map, List.countP_append, List.countP_cons_of_pos (by rfl)] at honce
  refine ⟨before, after, rfl, fun p hp => ?_, fun p hp => ?_⟩
  · have hnone : before.countP (Event.isExit ∘ Prod.snd) = 0 := by omega
    simpa using List.countP_eq_zero.mp hnone p hp
  · have hnone : after.countP (Event.isExit ∘ Prod.snd) = 0 := by omega
    simpa using List.countP_eq_zero.mp hnone p hp

/-- A session that was told of one end of the command has its status and its time. -/
lemma known_of_exit {s : Session} {began t : Duration} {status : WaitStatus}
    (hstarted : s.started = some began) (hunmeasured : s.duration = none)
    (honce : (events taken).countP Event.isExit ≤ 1) (h : (t, .exit (.ok status)) ∈ taken) :
    (s.replay (told taken)).exitParts = status.parts ∧
      (s.replay (told taken)).duration = some (t - began) := by
  obtain ⟨before, after, htaken, hbefore, hafter⟩ := split_at_exit honce h
  constructor
  · have hmem : .exit (.ok status) ∈ events taken := List.mem_map.mpr ⟨_, h, rfl⟩
    refine Session.exitParts_replay_of_some (fun c hc parts hexit => ?_) (mem_told_of_exit hmem)
    obtain ⟨other, hother, rfl⟩ := exit?_of_mem_told hc hexit
    obtain ⟨p, hp, hpexit⟩ := List.mem_map.mp hother
    have hisExit : p.2.isExit = true := by rw [hpexit]; rfl
    rw [htaken, List.mem_append, List.mem_cons] at hp
    obtain hp | rfl | hp := hp
    · rw [hbefore p hp] at hisExit
      exact nomatch hisExit
    · obtain rfl : status = other := by simpa using hpexit
      rfl
    · rw [hafter p hp] at hisExit
      exact nomatch hisExit
  · have hfind : taken.find? (·.2.isExit) = some (t, .exit (.ok status)) := by
      have hnone : before.find? (·.2.isExit) = none := by simpa using hbefore
      rw [htaken, List.find?_append, hnone, Option.none_or, List.find?_cons_of_pos (by rfl)]
    rw [(duration_told hstarted taken).2, hunmeasured, hfind]
    rfl

/-- A session that was told of no end of the command knows nothing new of it. -/
lemma known_of_no_exit {s : Session} {began : Duration} (hstarted : s.started = some began)
    (h : ∀ p ∈ taken, p.2.isExit = false) :
    (s.replay (told taken)).exitParts = s.exitParts ∧
      (s.replay (told taken)).duration = s.duration := by
  constructor
  · refine Session.exitParts_replay_of_none fun c hc => ?_
    cases hexit : c.exit? with
    | none => rfl
    | some parts =>
      obtain ⟨status, hmem, -⟩ := exit?_of_mem_told hc hexit
      obtain ⟨p, hp, hpexit⟩ := List.mem_map.mp hmem
      have hnot := h p hp
      rw [hpexit] at hnot
      exact nomatch hnot
  · have hfind : taken.find? (·.2.isExit) = none := by simpa using h
    rw [(duration_told hstarted taken).2, hfind, Option.map_none, Option.or_none]

/-- Where no end of the command was taken, only the deadline can end the waiting. -/
lemma eq_deadline_of_decided {before : List Event} (hbefore : decided before = false)
    (hdecided : decided (before ++ [e]) = true)
    (hexit : (before ++ [e]).any Event.isExit = false) : e = .deadline := by
  have hclean : (before ++ [e]).any Event.isCleanExit = false := by
    rw [List.any_eq_false] at hexit ⊢
    intro e' he' hclean
    refine hexit e' he' ?_
    cases e' with
    | exit ending => rfl
    | _ => cases hclean
  rw [decided, hclean, hexit, Bool.false_and, Bool.false_or, Bool.false_or, List.any_append,
    List.any_cons, List.any_nil, Bool.or_false, Bool.or_eq_true] at hdecided
  obtain hearlier | hlast := hdecided
  · rw [decided, hearlier, Bool.or_true] at hbefore
    cases hbefore
  · cases e with
    | deadline => rfl
    | _ => cases hlast

/-- The deadline is never taken before its time. -/
lemma due_of_mem_taken {began t : Duration} {moves : List Move} (hfresh : origin.Fresh)
    (hstarted : origin.session.started = some began) (h : (t, .deadline) ∈ origin.taken moves) :
    began + origin.setting.timeout ≤ t := by
  obtain ⟨before, m, after, -, htaken, rfl⟩ := offered_of_mem_taken h
  obtain ⟨b, htakes, -⟩ := next_of_taken htaken
  have hdue : (origin.play before).session.started.getD ⟨0⟩ + (origin.play before).setting.timeout ≤
      (origin.play before).now := htakes.offered
  obtain hwaits | hover := waits_or_over hfresh before
  · rwa [hwaits.session, (duration_told hstarted _).1, hwaits.setting, Option.getD_some] at hdue
  · exact absurd htakes.waiting hover.phase

/-- When the waiting is over, the session knows the end of the command as it was told; what was not
measured until then is measured with the last event. -/
lemma Over.known {began : Duration} (h : origin.Over taken a) (hfresh : origin.Fresh)
    (hstarted : origin.session.started = some began) :
    ∃ before now e, taken = before ++ [(now, e)] ∧ decided (events before) = false ∧
      decided (events taken) = true ∧
      a.session.exitParts = (origin.session.replay (told taken)).exitParts ∧
      a.session.duration =
        (origin.session.replay (told taken)).duration.or (some (now - began)) := by
  obtain ⟨before, now, e, pieces, htaken, hbefore, hdecided, hsession⟩ := h.settled
  have hkeeps := Session.keeps_absorb ((origin.session.replay (told taken)).settle now).2 pieces
  rw [← hsession] at hkeeps
  refine ⟨before, now, e, htaken, hbefore, hdecided, hkeeps.exitParts_eq.trans ?_,
    hkeeps.duration_eq.trans ?_⟩
  · exact Session.exitParts_apply _ (.settle now)
  · rw [Session.settle_eq, settled_told taken hfresh.settled, (duration_told hstarted taken).1]
    rfl

/-! ## The session when it is asked -/

section

variable {began : Duration} {moves : List Move}

/-- An end of the command that was taken is known ever after, with the time until then. -/
lemma session_of_exit {t : Duration} {status : WaitStatus} (hfresh : origin.Fresh)
    (hstarted : origin.session.started = some began) (hunmeasured : origin.session.duration = none)
    (h : (t, .exit (.ok status)) ∈ origin.taken moves) :
    (origin.play moves).session.exitParts = status.parts ∧
      (origin.play moves).session.duration = some (t - began) := by
  obtain hwaits | hover := waits_or_over hfresh moves
  · rw [hwaits.session]
    exact known_of_exit hstarted hunmeasured hwaits.exit_once h
  · obtain ⟨-, now, -, -, -, -, hparts, hduration⟩ := hover.known hfresh hstarted
    obtain ⟨hexit, htime⟩ := known_of_exit hstarted hunmeasured hover.exit_once h
    rw [htime, Option.some_or] at hduration
    exact ⟨hparts.trans hexit, hduration⟩

/-- Without an end of the command it is the deadline that ends the waiting, and the time until then
is measured. -/
lemma session_of_no_exit (hfresh : origin.Fresh) (hstarted : origin.session.started = some began)
    (hunmeasured : origin.session.duration = none) (hphase : (origin.play moves).phase ≠ .selecting)
    (h : ∀ p ∈ origin.taken moves, p.2.isExit = false) :
    (origin.play moves).session.exitParts = ⟨none, none⟩ ∧
      ∃ t, (origin.play moves).session.duration = some (t - began) ∧
        began + origin.setting.timeout ≤ t := by
  obtain hwaits | hover := waits_or_over hfresh moves
  · exact absurd hwaits.phase hphase
  obtain ⟨before, t, e, htaken, hbefore, hdecided, hparts, hduration⟩ := hover.known hfresh hstarted
  obtain ⟨hnone, hunknown⟩ := known_of_no_exit hstarted h
  rw [hunknown, hunmeasured, Option.none_or] at hduration
  refine ⟨hparts.trans (hnone.trans hfresh.exitParts), t, hduration, ?_⟩
  have hexit : (events before ++ [e]).any Event.isExit = false := by
    rw [← events_append before t, ← htaken]
    simpa [events] using h
  rw [htaken, events_append] at hdecided
  obtain rfl := eq_deadline_of_decided hbefore hdecided hexit
  have hmem : (t, .deadline) ∈ origin.taken moves := by
    rw [htaken]
    exact List.mem_append_right before (List.mem_singleton_self _)
  exact due_of_mem_taken hfresh hstarted hmem

end

/-! ## The verdict -/

/-- What is promised of the report on an attempt that began at `began`. -/
structure Timely (began : Duration) (origin : Attempt) (moves : List Move) (r : Report) : Prop where
  /-- A command that counts as one that took too long took its time limit at least. -/
  late : (origin.play moves).phase ≠ .selecting → r.error = some .timeout →
    ∃ d, (origin.play moves).session.duration = some d ∧ origin.setting.timeout ≤ d
  /-- An end taken in time is reported, whatever it was and whatever ended the waiting. -/
  early : ∀ t ending, (t, .exit ending) ∈ origin.taken moves → t - began < origin.setting.timeout →
    ∃ status, ending = .ok status ∧ r.exitCode = status.code? ∧ r.signal = status.signal? ∧
      r.error ≠ some .timeout
  /-- Where no end was taken, the command took too long unless it reported a crash. -/
  unseen : (origin.play moves).phase ≠ .selecting →
    (∀ t ending, (t, .exit ending) ∉ origin.taken moves) →
    r.exitCode = none ∧ r.signal = none ∧
      r.error = some ((crashMessage? r.stderr).elim .timeout .crash)

/-- **Nobody is said to have taken too long who did not.**  Whatever moves a launched attempt goes
through, if waiting for the command yields a status with a code or a signal, then a command that
counts as one that took too long ran for its time limit; a command whose end was taken in time is
reported with its end and never counts so, not even if it was asked to stop and its standard output
was held open until the deadline; and without an end there is none in the report, and the command
counts so unless its error output speaks of a crash. -/
theorem timely_of_known_endings (setting : Setting) (pid : UInt32) (began : Duration)
    (epoch : UInt64) (moves : List Move)
    (h : ∀ t ending, (t, .exit ending) ∈ (start setting pid began epoch).taken moves →
      ∃ status, ending = .ok status ∧ status.parts ≠ ⟨none, none⟩) (epoch' : UInt64) :
    let origin := start setting pid began epoch
    Timely began origin moves
      ((origin.play moves).session.report setting.timeout setting.platform epoch') := by
  intro origin
  have hfresh : origin.Fresh := fresh_start setting pid began epoch
  have hstarted : origin.session.started = some began := rfl
  set a := origin.play moves
  set r := a.session.report setting.timeout setting.platform epoch'
  have hlaunched : a.session.launchFailure = none := launchFailure_play origin moves
  have herror : r.error = some .timeout ↔
      crashMessage? a.session.stderr.finish.1 = none ∧
        ((a.session.exitCode = none ∧ a.session.signal = none) ∨
          (a.session.signal = some "SIGTERM" ∧ setting.timeout ≤ a.session.duration.getD ⟨0⟩)) :=
    TerminalState.failure?_verdict_eq_timeout_iff hlaunched setting.platform
  have hunmeasured : origin.session.duration = none := rfl
  constructor
  case late =>
    intro hphase htimeout
    by_cases hexit : ∃ t ending, (t, .exit ending) ∈ origin.taken moves
    · obtain ⟨t, ending, hmem⟩ := hexit
      obtain ⟨status, rfl, hknown⟩ := h t ending hmem
      obtain ⟨hparts, hduration⟩ := session_of_exit hfresh hstarted hunmeasured hmem
      obtain ⟨-, ⟨hcode, hsignal⟩ | ⟨-, hlate⟩⟩ := herror.mp htimeout
      · exact absurd (hparts.symm.trans (by rw [Session.exitParts, hcode, hsignal])) hknown
      · rw [hduration, Option.getD_some] at hlate
        exact ⟨_, hduration, hlate⟩
    · obtain ⟨-, t, hduration, hdue⟩ := session_of_no_exit hfresh hstarted hunmeasured hphase
        (isExit_eq_false_of_forall (by simpa using hexit))
      exact ⟨_, hduration, Nat.le_sub_of_add_le (by rw [Nat.add_comm]; exact hdue)⟩
  case early =>
    intro t ending hmem hintime
    obtain ⟨status, rfl, hknown⟩ := h t ending hmem
    obtain ⟨hparts, hduration⟩ := session_of_exit hfresh hstarted hunmeasured hmem
    obtain ⟨hcode, hsignal⟩ := ExitParts.mk.inj hparts
    refine ⟨status, rfl, hcode, hsignal, fun htimeout => ?_⟩
    obtain ⟨-, ⟨hnocode, hnosignal⟩ | ⟨-, hlate⟩⟩ := herror.mp htimeout
    · exact hknown (hparts.symm.trans (by rw [Session.exitParts, hnocode, hnosignal]))
    · rw [hduration, Option.getD_some] at hlate
      exact Nat.not_le.mpr hintime hlate
  case unseen =>
    intro hphase hnever
    obtain ⟨hparts, -⟩ := session_of_no_exit hfresh hstarted hunmeasured hphase
      (isExit_eq_false_of_forall hnever)
    obtain ⟨hcode, hsignal⟩ := ExitParts.mk.inj hparts
    have hverdict : (a.session.terminalState setting.timeout
        a.session.stderr.finish.1).verdict setting.platform = _ :=
      TerminalState.verdict_of_no_end hcode hsignal hlaunched setting.platform
    simp only [r, Session.report, Report.ofState, hverdict]
    exact ⟨hcode, hsignal, rfl⟩

/-- A command that is asked to stop at half of its time limit and leaves its standard output
open. -/
def stoppedWithOpenOutput : List Move :=
  [.elapse (.ofMillis 50), .childEnd (some (.signaled Signal.terminate)), .takeExit .delivered,
    .elapse (.ofMillis 50), .takeDeadline, .streamEnd .stderr, .take .stderr]

theorem timely_of_stoppedWithOpenOutput :
    let origin := start ⟨"sh", .ofMillis 100, .current, .ofMillis 100⟩ 7 ⟨0⟩ 0
    let r := (origin.play stoppedWithOpenOutput).session.report (.ofMillis 100) .current 0
    (∀ t ending, (t, .exit ending) ∈ origin.taken stoppedWithOpenOutput →
      ∃ status, ending = .ok status ∧ status.parts ≠ ⟨none, none⟩) ∧
    (.ofMillis 50, .exit (.ok (.signaled Signal.terminate))) ∈
      origin.taken stoppedWithOpenOutput ∧
    (events (origin.taken stoppedWithOpenOutput)).getLast? = some .deadline ∧
    Timely ⟨0⟩ origin stoppedWithOpenOutput r ∧ r.signal = some "SIGTERM" ∧
      r.error ≠ some .timeout := by
  intro origin r
  have htaken : origin.taken stoppedWithOpenOutput =
      [(.ofMillis 50, .exit (.ok (.signaled Signal.terminate))), (.ofMillis 100, .deadline)] := by
    cbv
  have hknown : ∀ t ending, (t, .exit ending) ∈ origin.taken stoppedWithOpenOutput →
      ∃ status, ending = .ok status ∧ status.parts ≠ ⟨none, none⟩ := by
    intro t ending hmem
    rw [htaken] at hmem
    obtain ⟨-, rfl⟩ : t = .ofMillis 50 ∧ ending = .ok (.signaled Signal.terminate) := by
      simpa using hmem
    exact ⟨_, rfl, by decide +kernel⟩
  have htimely := timely_of_known_endings ⟨"sh", .ofMillis 100, .current, .ofMillis 100⟩ 7 ⟨0⟩ 0
    stoppedWithOpenOutput hknown 0
  have hmem : (.ofMillis 50, .exit (.ok (.signaled Signal.terminate))) ∈
      origin.taken stoppedWithOpenOutput := by rw [htaken]; exact List.mem_cons_self
  obtain ⟨status, hstatus, -, hsignal, hnot⟩ := htimely.early _ _ hmem (by decide +kernel)
  obtain rfl := Except.ok.inj hstatus
  exact ⟨hknown, hmem, by rw [htaken]; rfl, htimely, hsignal, hnot⟩

end Watchdog.Attempt
