import Watchdog.Proofs.Attempt.Output

/-!
# What the deadline loses

When the deadline is taken, the command may have ended already without its end having been taken:
of several things that are ready any one may be taken first.  The attempt then goes on to kill the
command.  Killing finds that the command has ended and sends no signal, but the status it finds is
not told to the session.  So the status of the command is reported exactly if it had been taken
before the deadline, and otherwise the command counts as one that ran too long.
-/

namespace Watchdog

/-- A command without a known end has failed: with the crash its error output speaks of, or else
by taking too long. -/
lemma TerminalState.verdict_of_no_end {state : TerminalState} (hcode : state.exitCode = none)
    (hsignal : state.signal = none) (hlaunched : state.launchFailure = none)
    (platform : Platform) :
    state.verdict platform =
      .failed ((crashMessage? state.stderr).elim .timeout .crash) none := by
  unfold verdict clean ofExitCode
  rw [hcode, hsignal, hlaunched]
  cases crashMessage? state.stderr <;> rfl

namespace Attempt

variable {origin a : Attempt} {taken : List (Duration × Event)}

/-- What the session is told of an end whose status is known. -/
lemma exit?_of_mem_told {c : Session.Call} {parts : ExitParts} (hc : c ∈ told taken)
    (hexit : c.exit? = some parts) :
    ∃ status, .exit (.ok status) ∈ events taken ∧ parts = status.parts := by
  obtain ⟨⟨now, e⟩, he, hc⟩ := List.mem_flatMap.mp hc
  have hmem : e ∈ events taken := List.mem_map.mpr ⟨_, he, rfl⟩
  rcases e with _ | ⟨_ | _⟩ | ⟨_ | status⟩ | _ <;> simp only [Event.calls, List.mem_singleton,
    List.not_mem_nil] at hc <;> subst hc
  case exit.ok => exact ⟨status, hmem, (Option.some.inj hexit).symm⟩
  all_goals cases hexit

lemma mem_told_of_exit {status : WaitStatus} (h : .exit (.ok status) ∈ events taken) :
    ∃ c ∈ told taken, c.exit? = some status.parts := by
  obtain ⟨⟨now, e⟩, he, rfl⟩ := List.mem_map.mp h
  exact ⟨.recordExit now status.parts, List.mem_flatMap.mpr ⟨_, he, by simp [Event.calls]⟩, rfl⟩

/-- While the waiting lasts the session knows the end of the command exactly if its status has been
fetched. -/
lemma Waits.exitParts_eq (hfresh : origin.Fresh) (h : origin.Waits taken a) :
    a.session.exitParts =
      match a.handle.child with
      | .reaped status => status.parts
      | _ => ⟨none, none⟩ := by
  rw [h.session]
  split
  · rename_i status hchild
    have hmem := (h.reaped status).mp hchild
    refine Session.exitParts_replay_of_some (fun c hc parts hexit => ?_) (mem_told_of_exit hmem)
    obtain ⟨other, hother, rfl⟩ := exit?_of_mem_told hc hexit
    have hsame := (h.reaped other).mpr hother
    rw [hchild, ChildState.reaped.injEq] at hsame
    rw [hsame]
  · rename_i hnever
    rw [← hfresh.exitParts]
    refine Session.exitParts_replay_of_none fun c hc => ?_
    cases hexit : c.exit? with
    | none => rfl
    | some parts =>
      obtain ⟨status, hmem, -⟩ := exit?_of_mem_told hc hexit
      exact absurd ((h.reaped status).mpr hmem) (hnever status)

/-- Taking the deadline ends the waiting and tells the session nothing of the command. -/
lemma next_takeDeadline (h : (a.step? .takeDeadline).isSome = true) :
    a.phase = .selecting ∧ (a.next .takeDeadline).phase ≠ .selecting ∧
      (a.next .takeDeadline).session.exitParts = a.session.exitParts := by
  have hphase : a.phase = .selecting := by
    by_contra hnot
    simp [step?, hnot] at h
  have htaken : a.taken? .takeDeadline = some .deadline := by
    rw [taken?, if_pos ⟨hphase, h⟩]
  obtain ⟨b, htakes, hnext⟩ := next_of_taken htaken
  rw [hnext, decides, settleIf, if_pos rfl]
  refine ⟨hphase, phase_settle b, ?_⟩
  rw [settle_eq, htakes.session]
  exact Session.exitParts_apply a.session (.settle b.now)

/-- What is known of the command after the deadline was taken by `a`, whenever it is looked at. -/
structure AfterDeadline (a last : Attempt) : Prop where
  /-- A status that had been fetched is known. -/
  fetched : ∀ status, a.handle.child = .reaped status → last.session.exitParts = status.parts
  /-- One that was there to be fetched is not: it would have to tell nothing. -/
  lost : ∀ status, a.handle.child = .exited status →
    (last.session.exitParts = status.parts ↔ status.parts = ⟨none, none⟩)
  /-- The report then has no end of the command, and the command counts as a failure: a crash that
  its error output speaks of, or a timeout. -/
  report : (∀ status, a.handle.child ≠ .reaped status) → ∀ timeout platform epoch,
    let r := last.session.report timeout platform epoch
    r.ok = false ∧ r.exitCode = none ∧ r.signal = none ∧
      r.error = some ((crashMessage? last.session.stderr.finish.1).elim .timeout .crash)

/-- **The deadline loses an end that was not taken yet.**  Whenever the deadline is taken, and
whatever comes before and after it, the end of the command is reported exactly if its status had
been fetched by then.  A command that has ended, even well, and whose status is there to be fetched,
is reported as one that took too long, or as a crash if its error output speaks of one. -/
theorem exit_of_deadline (setting : Setting) (pid : UInt32) (now : Duration) (epoch : UInt64)
    (before more : List Move)
    (h : (((start setting pid now epoch).play before).step? .takeDeadline).isSome = true) :
    AfterDeadline ((start setting pid now epoch).play before)
      ((start setting pid now epoch).play (before ++ .takeDeadline :: more)) := by
  set origin := start setting pid now epoch with horigin
  set a := origin.play before with ha
  have hfresh : origin.Fresh := fresh_start setting pid now epoch
  obtain ⟨hphase, hover, hnext⟩ := next_takeDeadline h
  have hwaits : origin.Waits (origin.taken before) a := by
    obtain hwaits | hover := waits_or_over hfresh before
    · exact hwaits
    · exact absurd hphase hover.phase
  have hplay : origin.play (before ++ .takeDeadline :: more) = (a.next .takeDeadline).play more :=
    play_append ..
  -- what follows the waiting leaves the end of the command as it was known then
  have hparts : (origin.play (before ++ .takeDeadline :: more)).session.exitParts =
      match a.handle.child with
      | .reaped status => status.parts
      | _ => ⟨none, none⟩ := by
    rw [hplay, (keeps_of_settled hover more).2.2.exitParts_eq, hnext, hwaits.exitParts_eq hfresh]
  have hlaunched : (origin.play (before ++ .takeDeadline :: more)).session.launchFailure = none :=
    launchFailure_play origin _
  constructor
  case fetched =>
    intro status hchild
    rw [hparts, hchild]
  case lost =>
    intro status hchild
    rw [hparts, hchild, eq_comm]
  case report =>
    intro hnever timeout platform epoch'
    have hnone : (origin.play (before ++ .takeDeadline :: more)).session.exitParts =
        ⟨none, none⟩ := by
      rw [hparts]
      split
      · exact absurd ‹_› (hnever _)
      · rfl
    obtain ⟨hcode, hsignal⟩ := ExitParts.mk.inj hnone
    have hverdict : ((origin.play (before ++ .takeDeadline :: more)).session.terminalState timeout
        (origin.play (before ++ .takeDeadline :: more)).session.stderr.finish.1).verdict platform =
          _ := TerminalState.verdict_of_no_end hcode hsignal hlaunched platform
    simp only [Session.report, Report.ofState, hverdict]
    exact ⟨rfl, hcode, hsignal, rfl⟩

/-- A command that exits with code 0 while a slow receiver keeps the attempt busy past the
deadline. -/
def busyPastDeadline : List Move :=
  [.arrive .stdout [0x61], .elapse (.ofMillis 2), .take .stdout, .childEnd (some (.exited 0)),
    .streamEnd .stdout, .streamEnd .stderr, .elapse (.ofMillis 500)]

/-- It is reported as a timeout, without its code. -/
theorem clean_exit_lost_at_deadline :
    let a := (start ⟨"sh", .ofMillis 100, .current, .ofMillis 100⟩ 7 ⟨0⟩ 0).play busyPastDeadline
    let last := (start ⟨"sh", .ofMillis 100, .current, .ofMillis 100⟩ 7 ⟨0⟩ 0).play
      (busyPastDeadline ++ .takeDeadline :: [.kill (.ended none)])
    a.handle.child = .exited (.exited 0) ∧ (a.step? .takeDeadline).isSome = true ∧
      last.phase = .done ∧ AfterDeadline a last ∧
      last.session.exitParts ≠ (WaitStatus.exited 0).parts ∧
      (last.session.report (.ofMillis 100) .current 0).error = some .timeout := by
  intro a last
  have hstep : (a.step? .takeDeadline).isSome = true := by decide +kernel
  have hafter : AfterDeadline a last :=
    exit_of_deadline ⟨"sh", .ofMillis 100, .current, .ofMillis 100⟩ 7 ⟨0⟩ 0 busyPastDeadline
      [.kill (.ended none)] hstep
  have hchild : a.handle.child = .exited (.exited 0) := by decide +kernel
  have hparts : last.session.exitParts ≠ (WaitStatus.exited 0).parts := fun hsame =>
    absurd ((hafter.lost _ hchild).mp hsame) (by decide +kernel)
  obtain ⟨-, -, -, herror⟩ := hafter.report (by rw [hchild]; exact nofun) (.ofMillis 100) .current 0
  refine ⟨hchild, hstep, by decide +kernel, hafter, hparts, herror.trans ?_⟩
  decide +kernel

end Attempt

end Watchdog
