import Mathlib.Data.List.Basic
import Mathlib.Data.List.Induction
import Watchdog.Proofs.Session.Report

/-!
# A session is its history

Whatever a session is told, in whatever order and however often, each of its answers and each of its
parts can be read off the calls made so far (`History`).  The answers come from the barrier and the
mark of settling, which know only what was told at all; the end of the command and the start are the
last ones told.

The measured time is the one part that looks at the order of calls.  A call measures what has passed
since the last start before it (`elapsedAt`), the first to do so decides, and telling a session to
settle once more does nothing, not even that (`measuredAt`).
-/

namespace Watchdog

/-- A clean end is code 0 and no signal. -/
lemma ExitParts.clean_iff (parts : ExitParts) : parts.clean = true ↔ parts = ⟨some 0, none⟩ := by
  cases parts
  simp [ExitParts.clean]

namespace Session

/-! ## What was told at all -/

lemma any_isStdoutEnd (calls : List Call) :
    calls.any Call.isStdoutEnd = true ↔ .stdoutEnded ∈ calls := by
  rw [List.any_eq_true]
  constructor
  · rintro ⟨c, hc, hend⟩
    cases c with
    | stdoutEnded => exact hc
    | _ => exact nomatch hend
  · exact fun hc => ⟨_, hc, rfl⟩

lemma any_isExit (calls : List Call) :
    calls.any Call.isExit = true ↔
      ∃ now, .exitUnknown now ∈ calls ∨ ∃ parts, .recordExit now parts ∈ calls := by
  rw [List.any_eq_true]
  constructor
  · rintro ⟨c, hc, hexit⟩
    cases c with
    | recordExit now parts => exact ⟨now, .inr ⟨parts, hc⟩⟩
    | exitUnknown now => exact ⟨now, .inl hc⟩
    | _ => exact nomatch hexit
  · rintro ⟨now, hc | ⟨parts, hc⟩⟩
    · exact ⟨_, hc, rfl⟩
    · exact ⟨_, hc, rfl⟩

lemma any_isSettle (calls : List Call) :
    calls.any Call.isSettle = false ↔ ∀ now, .settle now ∉ calls := by
  rw [List.any_eq_false]
  constructor
  · exact fun hnever now hc => hnever _ hc rfl
  · intro hnever c hc hsettle
    cases c with
    | settle now => exact hnever now hc
    | _ => exact nomatch hsettle

lemma lastFailure?_eq_none_iff (calls : List Call) :
    lastFailure? calls = none ↔ ∀ f, .launchFailed f ∉ calls := by
  rw [lastFailure?, List.getLast?_eq_none_iff, List.filterMap_eq_nil_iff]
  constructor
  · exact fun hnever f hc => nomatch hnever _ hc
  · intro hnever c hc
    cases c with
    | launchFailed f => exact absurd hc (hnever f)
    | _ => rfl

/-! ## The start -/

/-- The start that a call tells. -/
def Call.start? : Call → Option Duration
  | markStarted now _ => some now
  | _ => none

/-- The last start that calls tell. -/
def lastStart? (calls : List Call) : Option Duration := (calls.filterMap Call.start?).getLast?

lemma started_apply (s : Session) (c : Call) : (s.apply c).started = c.start?.or s.started := by
  cases c with
  | chunk stream bytes => cases stream <;> rfl
  | _ =>
    simp [apply, Call.start?, markStarted, launchFailed, recordExit, exitUnknown, stdoutEnded,
      measure_eq, settle_eq]

lemma started_replay (s : Session) (calls : List Call) :
    (s.replay calls).started = (lastStart? calls).or s.started :=
  replay_last started_apply s calls

lemma isSome_lastStart? (calls : List Call) :
    (lastStart? calls).isSome = true ↔ ∃ now epoch, .markStarted now epoch ∈ calls := by
  rw [lastStart?, Option.isSome_iff_ne_none, ne_eq, List.getLast?_eq_none_iff,
    List.filterMap_eq_nil_iff]
  push Not
  constructor
  · rintro ⟨c, hc, hstart⟩
    cases c with
    | markStarted now epoch => exact ⟨now, epoch, hc⟩
    | _ => exact absurd rfl hstart
  · rintro ⟨now, epoch, hc⟩
    exact ⟨_, hc, nofun⟩

/-! ## The measured time -/

/-- The time on the clock of a call that tells the end of the command or ends the waiting. -/
def Call.clock? : Call → Option Duration
  | recordExit now _ => some now
  | exitUnknown now => some now
  | settle now => some now
  | _ => none

/-- The time from the last start to such a call. -/
def elapsedAt (earlier : List Call) (c : Call) : Option Duration :=
  (lastStart? earlier).bind fun began => c.clock?.map (· - began)

/-- What a call measures that comes after these: only the first settling counts. -/
def measuredAt (earlier : List Call) (c : Call) : Option Duration :=
  if c.isSettle && earlier.any Call.isSettle then none else elapsedAt earlier c

/-- The time measured is what the first call measures that measures anything. -/
def MeasuredFirst (time : List Call → Call → Option Duration) (calls : List Call) : Prop :=
  ∀ d, (new.replay calls).duration = some d ↔
    ∃ before c after, calls = before ++ c :: after ∧ time before c = some d ∧
      ∀ start c' rest, before = start ++ c' :: rest → time start c' = none

/-- A call measures unless that has been done; what has passed is counted from the start known. -/
lemma duration_apply (s : Session) (c : Call) :
    (s.apply c).duration = s.duration.or
      (if c.isSettle && s.settled then none
        else s.started.bind fun began => c.clock?.map (· - began)) := by
  cases hstarted : s.started <;> cases hsettled : s.settled <;> cases c with
  | chunk stream bytes => cases stream <;> simp [apply, chunk, Call.clock?]
  | _ =>
    simp [apply, markStarted, launchFailed, recordExit, exitUnknown, stdoutEnded, measure_eq,
      settle_eq, Call.clock?, Call.isSettle, hstarted, hsettled]

lemma duration_concat (calls : List Call) (c : Call) :
    (new.replay (calls ++ [c])).duration =
      (new.replay calls).duration.or (measuredAt calls c) := by
  have hstarted : (new.replay calls).started = lastStart? calls :=
    (started_replay new calls).trans Option.or_none
  have hsettled : (new.replay calls).settled = calls.any Call.isSettle :=
    (settled_replay new calls).trans (Bool.false_or _)
  rw [replay_append, replay_cons, replay_nil, duration_apply, hstarted, hsettled, measuredAt,
    elapsedAt]

/-- What has been measured stays. -/
lemma duration_kept {s : Session} {d : Duration} (h : s.duration = some d) (more : List Call) :
    (s.replay more).duration = some d := by
  induction more generalizing s with
  | nil => exact h
  | cons c more ih => exact ih (by rw [duration_apply, h, Option.some_or])

/-- A call of a longer history is the last one or one of those before. -/
lemma concat_eq_append_cons_iff {calls before after : List Call} {c c' : Call} :
    calls ++ [c] = before ++ c' :: after ↔
      (after = [] ∧ calls = before ∧ c = c') ∨
        ∃ rest, after = rest ++ [c] ∧ calls = before ++ c' :: rest := by
  constructor
  · intro h
    obtain rfl | ⟨rest, last, rfl⟩ := after.eq_nil_or_concat'
    · obtain ⟨rfl, hlast⟩ := List.append_inj' h rfl
      exact .inl ⟨rfl, rfl, List.head_eq_of_cons_eq hlast⟩
    · rw [← List.cons_append, ← List.append_assoc] at h
      obtain ⟨rfl, hlast⟩ := List.append_inj' h rfl
      exact .inr ⟨rest, by rw [hlast], rfl⟩
  · rintro (⟨rfl, rfl, rfl⟩ | ⟨rest, rfl, rfl⟩)
    · rfl
    · rw [List.append_assoc, List.cons_append]

/-- Nothing has been measured as long as no call measured anything. -/
lemma duration_eq_none_iff (calls : List Call) :
    (new.replay calls).duration = none ↔
      ∀ before c after, calls = before ++ c :: after → measuredAt before c = none := by
  induction calls using List.reverseRecOn with
  | nil => simp [new]
  | append_singleton calls c ih =>
    rw [duration_concat, Option.or_eq_none_iff, ih]
    constructor
    · rintro ⟨hearlier, hlast⟩ before c' after hsplit
      obtain ⟨-, rfl, rfl⟩ | ⟨rest, -, hcalls⟩ := concat_eq_append_cons_iff.mp hsplit
      · exact hlast
      · exact hearlier before c' rest hcalls
    · intro hnone
      refine ⟨fun before c' after hcalls => ?_, hnone calls c [] rfl⟩
      exact hnone before c' (after ++ [c]) (concat_eq_append_cons_iff.mpr (.inr ⟨_, rfl, hcalls⟩))

/-- The first call that measures decides. -/
lemma measuredFirst (calls : List Call) : MeasuredFirst measuredAt calls := by
  intro d
  induction calls using List.reverseRecOn with
  | nil => simp [new]
  | append_singleton calls c ih =>
    rw [duration_concat, Option.or_eq_some_iff, ih, duration_eq_none_iff]
    constructor
    · rintro (⟨before, c', after, hcalls, hd, hfirst⟩ | ⟨hnone, hd⟩)
      · exact ⟨before, c', after ++ [c],
          concat_eq_append_cons_iff.mpr (.inr ⟨_, rfl, hcalls⟩), hd, hfirst⟩
      · exact ⟨calls, c, [], rfl, hd, hnone⟩
    · rintro ⟨before, c', after, hsplit, hd, hfirst⟩
      obtain ⟨-, rfl, rfl⟩ | ⟨rest, -, hcalls⟩ := concat_eq_append_cons_iff.mp hsplit
      · exact .inr ⟨hfirst, hd⟩
      · exact .inl ⟨before, c', rest, hcalls, hd, hfirst⟩

/-! ## Questions to a session -/

lemma needsForceKill_iff (s : Session) :
    s.needsForceKill = true ↔ s.started.isSome = true ∧ s.exitParts = ⟨none, none⟩ := by
  simp [needsForceKill, exitParts, and_assoc]

lemma duration_report (s : Session) (timeout : Duration) (platform : Platform) (epoch : UInt64) :
    (s.report timeout platform epoch).duration = toString (s.duration.getD ⟨0⟩).millis := rfl

lemma ok_report_iff (s : Session) (timeout : Duration) (platform : Platform) (epoch : UInt64) :
    (s.report timeout platform epoch).ok = true ↔
      s.launchFailure = none ∧ s.exitParts = ⟨some 0, none⟩ := by
  rw [report, Report.ofState, TerminalState.ok_verdict]
  simp [TerminalState.clean, terminalState, exitParts, and_comm, and_left_comm]

/-! ## The history -/

/-- What is promised of a session that has been told these calls. -/
structure History (calls : List Call) : Prop where
  /-- An end with a status is enough if it is a clean one, or if standard output had ended. -/
  recordExit : ∀ now parts, ((new.replay calls).recordExit now parts).1 = true ↔
    parts = ⟨some 0, none⟩ ∨ .stdoutEnded ∈ calls
  /-- One without a status is enough if standard output had ended. -/
  exitUnknown : ∀ now, ((new.replay calls).exitUnknown now).1 = true ↔ .stdoutEnded ∈ calls
  /-- The end of standard output is enough if the command had ended, with or without a status. -/
  stdoutEnded : (new.replay calls).stdoutEnded.1 = true ↔
    ∃ now, .exitUnknown now ∈ calls ∨ ∃ parts, .recordExit now parts ∈ calls
  /-- Settling counts the first time. -/
  settle : ∀ now, ((new.replay calls).settle now).1 = true ↔ ∀ earlier, .settle earlier ∉ calls
  /-- The end of the command is the last one told. -/
  exit : (new.replay calls).exitParts = (lastExit? calls).getD ⟨none, none⟩
  /-- An end of which nothing is known does not change it. -/
  exit_kept : ∀ now, ((new.replay calls).exitUnknown now).2.exitParts = (new.replay calls).exitParts
  needsForceKill : (new.replay calls).needsForceKill = true ↔
    (∃ now epoch, .markStarted now epoch ∈ calls) ∧
      ∀ parts, lastExit? calls = some parts → parts = ⟨none, none⟩
  duration : MeasuredFirst measuredAt calls
  duration_kept : ∀ d, (new.replay calls).duration = some d → ∀ more,
    (new.replay (calls ++ more)).duration = some d
  unmeasured : (new.replay calls).duration = none → ∀ timeout platform epoch,
    ((new.replay calls).report timeout platform epoch).duration = "0"
  ok : ∀ timeout platform epoch,
    ((new.replay calls).report timeout platform epoch).ok = true ↔
      (∀ f, .launchFailed f ∉ calls) ∧ lastExit? calls = some ⟨some 0, none⟩

/-- **A session is its history.**  Whatever calls a session has been told, each answer says what had
come before, the end of the command is the last one told, the time is measured by the first call
that measures and stays, and the report is a good one exactly if no launch failed and the last end
told was a clean one. -/
theorem history_of_calls (calls : List Call) : History calls := by
  have hbarrier : (new.replay calls).barrier =
      ⟨calls.any Call.isExit, calls.any Call.isStdoutEnd⟩ := by
    rw [barrier_replay]
    rfl
  have hexit : (new.replay calls).exitParts = (lastExit? calls).getD ⟨none, none⟩ :=
    exitParts_replay new calls
  constructor
  case recordExit =>
    intro now parts
    rw [recordExit_fst, hbarrier, Bool.or_eq_true, any_isStdoutEnd, ExitParts.clean_iff]
  case exitUnknown =>
    intro now
    rw [exitUnknown_fst, hbarrier, any_isStdoutEnd]
  case stdoutEnded =>
    rw [Session.stdoutEnded, Barrier.stdoutEnd, hbarrier, any_isExit]
  case settle =>
    intro now
    rw [settle_eq, settled_replay, Bool.not_eq_true', Bool.or_eq_false_iff, any_isSettle]
    exact and_iff_right rfl
  case exit => exact hexit
  case exit_kept => exact fun now => exitParts_apply _ (.exitUnknown now)
  case needsForceKill =>
    rw [needsForceKill_iff, hexit, started_replay, ← isSome_lastStart?, new, Option.or_none]
    refine and_congr_right' ?_
    cases lastExit? calls with
    | none => simp
    | some parts => simp
  case duration => exact measuredFirst calls
  case duration_kept =>
    intro d hd more
    rw [replay_append]
    exact Session.duration_kept hd more
  case unmeasured =>
    intro hnone timeout platform epoch
    rw [duration_report, hnone]
    rfl
  case ok =>
    intro timeout platform epoch
    rw [ok_report_iff, hexit, launchFailure_replay, ← lastFailure?_eq_none_iff, new, Option.or_none]
    refine and_congr_right' ?_
    cases lastExit? calls with
    | none => simp
    | some parts => simp

/-- The command is known to have been asked to stop and the session settles, both before the start
is told; after it the session is told to settle once more. -/
def settledBeforeStart : List Call :=
  [.recordExit ⟨0⟩ ⟨none, some "SIGTERM"⟩, .settle ⟨0⟩, .markStarted ⟨0⟩ 0, .settle (.ofMillis 4)]

/-- The time is not measured by whichever end or settling is told first after a start: settling once
more measures nothing, and the report does not speak of the time limit that had passed by then. -/
theorem unmeasured_of_settledBeforeStart :
    ¬ MeasuredFirst elapsedAt settledBeforeStart ∧
      ((new.replay settledBeforeStart).report (.ofMillis 1) .current 0).duration = "0" ∧
      ((new.replay settledBeforeStart).report (.ofMillis 1) .current 0).error =
        some (.signal "SIGTERM") := by
  have hnone : (new.replay settledBeforeStart).duration = none := by decide +kernel
  refine ⟨fun hfirst => ?_, by decide +kernel, by decide +kernel⟩
  have hsome : (new.replay settledBeforeStart).duration = some (.ofMillis 4) := by
    refine (hfirst _).mpr ⟨settledBeforeStart.take 3, .settle (.ofMillis 4), [], rfl, rfl, ?_⟩
    -- no start has been told before the third call, and that one is neither an end nor a settling
    rintro start c' rest hsplit
    obtain _ | ⟨first, _ | ⟨second, _ | ⟨third, start⟩⟩⟩ := start
    all_goals
      simp only [settledBeforeStart, List.take_succ_cons, List.take_zero, List.nil_append,
        List.cons_append, List.cons.injEq] at hsplit
    · rfl
    · obtain ⟨rfl, -⟩ := hsplit
      rfl
    · obtain ⟨rfl, rfl, -⟩ := hsplit
      rfl
    · simp at hsplit
  rw [hnone] at hsome
  exact nomatch hsome

end Session

end Watchdog
