import Watchdog.Proofs.Outcome.Verdict
import Watchdog.Proofs.Session.Calls
import Watchdog.Proofs.StreamBuffer.Chunks

/-!
# What a report depends on

Of all that a session is told, in whichever order, a report shows little: the bytes of each stream,
the last failed launch, the last known end of the command, and the times.  Each of these is read off
the calls without running them (`bytesOn`, `lastFailure?`, `lastExit?`), and a lemma says that the
session has it.  Two histories that agree on them have reports that agree in all but the times
(`reports_of_alike`); of the measured times they need only agree whether the time limit was reached.
-/

namespace Watchdog.Session

open Utf8 (lossy)

/-! ## The bytes of the streams -/

/-- The piece that a call hands over. -/
def Call.piece? : Call → Option (Stream × List UInt8)
  | chunk stream bytes => some (stream, bytes)
  | _ => none

lemma buffer_apply_of_piece {s : Session} {c : Call} {stream : Stream} {bytes : List UInt8}
    (h : c.piece? = some (stream, bytes)) (t : Stream) :
    (s.apply c).buffer t =
      if stream = t then ((s.buffer t).push bytes).2 else s.buffer t := by
  cases c with
  | chunk stream bytes =>
    obtain ⟨rfl, rfl⟩ := Prod.mk.inj (Option.some.inj h)
    cases stream <;> cases t <;> rfl
  | _ => exact nomatch h

lemma buffer_apply_of_none {s : Session} {c : Call} (h : c.piece? = none) (t : Stream) :
    (s.apply c).buffer t = s.buffer t := by
  cases c with
  | chunk stream bytes => exact nomatch h
  | _ => cases t <;> simp [apply, buffer, markStarted, launchFailed, recordExit, exitUnknown,
      stdoutEnded, measure_eq, settle_eq]

/-- What each piece keeps of a buffer and its bytes holds after all the pieces of the stream, and
those of the other do not touch it. -/
lemma invariant_replay {P : StreamBuffer → List UInt8 → Prop}
    (hpush : ∀ b bytes piece, P b bytes → P (b.push piece).2 (bytes ++ piece)) {s : Session}
    {stream : Stream} (bytes : List UInt8) (calls : List Call) (h : P (s.buffer stream) bytes) :
    P ((s.replay calls).buffer stream)
      (bytes ++ (piecesOn stream (calls.filterMap Call.piece?)).flatten) := by
  induction calls generalizing s bytes with
  | nil => simpa using h
  | cons c calls ih =>
    rw [replay_cons]
    cases hpiece : c.piece? with
    | none =>
      rw [List.filterMap_cons_none hpiece]
      exact ih _ (by rwa [buffer_apply_of_none hpiece])
    | some p =>
      have hbuffer := buffer_apply_of_piece (s := s) hpiece stream
      rw [List.filterMap_cons_some hpiece, piecesOn_cons]
      by_cases hstream : p.1 = stream
      · rw [if_pos hstream] at hbuffer ⊢
        rw [List.flatten_cons, ← List.append_assoc]
        exact ih _ (by rw [hbuffer]; exact hpush _ _ _ h)
      · rw [if_neg hstream] at hbuffer ⊢
        exact ih _ (by rwa [hbuffer])

/-- The buffer of a stream stands for all that was handed over on that stream, and for nothing of
the other. -/
lemma holds_replay {s : Session} {stream : Stream} {bytes : List UInt8} (calls : List Call)
    (h : (s.buffer stream).Holds bytes) :
    ((s.replay calls).buffer stream).Holds
      (bytes ++ (piecesOn stream (calls.filterMap Call.piece?)).flatten) :=
  invariant_replay (fun _ _ piece hb => hb.push piece) bytes calls h

/-- A session holds back nothing but the beginning of a character on either stream. -/
lemma tidy_replay {s : Session} {stream : Stream} (calls : List Call)
    (h : (s.buffer stream).Tidy) : ((s.replay calls).buffer stream).Tidy :=
  invariant_replay (P := fun b _ => b.Tidy) (fun b _ piece _ => StreamBuffer.tidy_push b piece) []
    calls h

/-- All bytes of a stream that calls hand over. -/
def bytesOn (stream : Stream) (calls : List Call) : List UInt8 :=
  (piecesOn stream (calls.filterMap Call.piece?)).flatten

/-- Held back on a stream is what its bytes leave over. -/
lemma withholds_replay_new (stream : Stream) (calls : List Call) :
    ((new.replay calls).buffer stream).Withholds (bytesOn stream calls) := by
  have hempty : (new.buffer stream).Withholds [] := by
    cases stream <;> exact StreamBuffer.withholds_empty
  exact invariant_replay (fun _ _ piece hb => hb.push piece) [] calls hempty

lemma finish_replay_new (stream : Stream) (calls : List Call) :
    ((new.replay calls).buffer stream).finish.1 = lossy (bytesOn stream calls) := by
  have hempty : (new.buffer stream).Holds [] := by cases stream <;> exact StreamBuffer.holds_empty
  exact (holds_replay calls hempty).finish

/-! ## The last failed launch and the last end -/

/-- The failed launch that a call tells. -/
def Call.failure? : Call → Option LaunchFailure
  | launchFailed f => some f
  | _ => none

/-- The last failed launch that calls tell. -/
def lastFailure? (calls : List Call) : Option LaunchFailure :=
  (calls.filterMap Call.failure?).getLast?

/-- The last end of the command that calls tell, if it is known. -/
def lastExit? (calls : List Call) : Option ExitParts := (calls.filterMap Call.exit?).getLast?

lemma launchFailure_apply (s : Session) (c : Call) :
    (s.apply c).launchFailure = c.failure?.or s.launchFailure := by
  cases c with
  | chunk stream bytes => cases stream <;> rfl
  | _ =>
    simp [apply, Call.failure?, markStarted, launchFailed, recordExit, exitUnknown, stdoutEnded,
      measure_eq, settle_eq]

lemma launchFailure_replay (s : Session) (calls : List Call) :
    (s.replay calls).launchFailure = (lastFailure? calls).or s.launchFailure :=
  replay_last launchFailure_apply s calls

/-! ## Reports -/

/-- The report on a command that was started shows the text of its error output. -/
lemma stderr_report {s : Session} (hlaunched : s.launchFailure = none) (timeout : Duration)
    (platform : Platform) (epoch : UInt64) :
    (s.report timeout platform epoch).stderr = s.stderr.finish.1 := by
  rw [report, Report.ofState]
  dsimp only
  rw [TerminalState.stderrInstead?_verdict, terminalState, hlaunched]
  rfl

/-- The error output that a report shows, given its text: the diagnostic of a failed launch stands
in its place, unless the message speaks of a timeout. -/
def shownError (failure : Option LaunchFailure) (text : String) : String :=
  match failure with
  | some f => if mentionsTimeout f.message then text else f.diagnostic
  | none => text

/-- What the calls amount to when they have all been made. -/
def total (calls : List Call) (timeout : Duration) : TerminalState :=
  let parts := (lastExit? calls).getD ⟨none, none⟩
  { exitCode := parts.code
    signal := parts.signal
    launchFailure := lastFailure? calls
    stderr := lossy (bytesOn .stderr calls)
    duration := (new.replay calls).duration
    timeout := timeout }

lemma terminalState_replay_new (calls : List Call) (timeout : Duration) :
    (new.replay calls).terminalState timeout (new.replay calls).stderr.finish.1 =
      total calls timeout := by
  have hstderr : (new.replay calls).stderr.finish.1 = lossy (bytesOn .stderr calls) :=
    finish_replay_new .stderr calls
  have hparts : (⟨(new.replay calls).exitCode, (new.replay calls).signal⟩ : ExitParts) =
      (lastExit? calls).getD ⟨none, none⟩ := exitParts_replay new calls
  have hfailure : (new.replay calls).launchFailure = lastFailure? calls := by
    rw [launchFailure_replay]
    exact Option.or_none
  rw [terminalState, total, hstderr, hfailure, ← hparts]

/-- A report is formed from what the calls amount to. -/
lemma report_replay_new (calls : List Call) (timeout : Duration) (platform : Platform)
    (epoch : UInt64) :
    (new.replay calls).report timeout platform epoch =
      Report.ofState (total calls timeout) (lossy (bytesOn .stdout calls))
        ((new.replay calls).startedAt.getD epoch) platform := by
  have hstdout : (new.replay calls).stdout.finish.1 = lossy (bytesOn .stdout calls) :=
    finish_replay_new .stdout calls
  rw [report, terminalState_replay_new, hstdout]

lemma stderr_ofState_total (calls : List Call) (timeout : Duration) (stdout : String)
    (timestamp : UInt64) (platform : Platform) :
    (Report.ofState (total calls timeout) stdout timestamp platform).stderr =
      shownError (lastFailure? calls) (lossy (bytesOn .stderr calls)) := by
  have hinstead := TerminalState.stderrInstead?_verdict (total calls timeout) platform
  rw [Report.ofState, hinstead]
  dsimp only [total]
  cases lastFailure? calls with
  | none => rfl
  | some f =>
    rw [Option.bind_some]
    dsimp only [shownError]
    cases mentionsTimeout f.message <;> rfl

/-- The histories agree on all that a report shows except the times, and on whether the time limit
was reached; a time that was not measured counts as none. -/
structure Alike (timeout : Duration) (calls calls' : List Call) : Prop where
  bytes : ∀ stream, bytesOn stream calls = bytesOn stream calls'
  failure : lastFailure? calls = lastFailure? calls'
  exit : (lastExit? calls).getD ⟨none, none⟩ = (lastExit? calls').getD ⟨none, none⟩
  late : timeout ≤ (new.replay calls).duration.getD ⟨0⟩ ↔
    timeout ≤ (new.replay calls').duration.getD ⟨0⟩

/-- What is promised of the texts of a report, whatever the session was told. -/
structure Texts (calls : List Call) (r : Report) : Prop where
  stdout : r.stdout = lossy (bytesOn .stdout calls)
  stderr : r.stderr = shownError (lastFailure? calls) (lossy (bytesOn .stderr calls))

/-- **A report does not depend on cuts and order.**  Sessions that were told the same bytes of each
stream, the same last failed launch and the same last end of the command have reports that differ at
most in the times, however the bytes were cut and mixed and whatever else was told, as long as both
or neither reached the time limit.  Both reports show the text of standard output, and the text of
the error output unless the diagnostic of a failed launch stands in its place; it does unless the
message of the failure says `timed out` or `timed-out` somewhere, in any case. -/
theorem reports_of_alike (timeout : Duration) (platform : Platform) (epoch epoch' : UInt64)
    (calls calls' : List Call) (h : Alike timeout calls calls') :
    let r := (new.replay calls).report timeout platform epoch
    let r' := (new.replay calls').report timeout platform epoch'
    { r with timestamp := r'.timestamp, duration := r'.duration } = r' ∧
      Texts calls r ∧ Texts calls' r' ∧
      ∀ f : LaunchFailure, mentionsTimeout f.message = true ↔
        ∃ before word after, f.message.toList = before ++ word ++ after ∧ SaysTimedOut word := by
  intro r r'
  have hr : r = Report.ofState (total calls timeout) (lossy (bytesOn .stdout calls))
      ((new.replay calls).startedAt.getD epoch) platform := report_replay_new ..
  have hr' : r' = Report.ofState (total calls' timeout) (lossy (bytesOn .stdout calls'))
      ((new.replay calls').startedAt.getD epoch') platform := report_replay_new ..
  have hverdict : (total calls timeout).verdict platform =
      (total calls' timeout).verdict platform := by
    have hsame : total calls timeout =
        { total calls' timeout with duration := (new.replay calls).duration } := by
      rw [total, total, h.exit, h.failure, h.bytes .stderr]
    rw [hsame]
    exact TerminalState.verdict_eq_of_late_iff _ h.late platform
  refine ⟨?_, ?_, ?_, fun f => mentionsTimeout_iff f.message⟩
  · rw [hr, hr']
    simp only [Report.ofState, hverdict, h.bytes .stdout]
    simp only [total, h.exit, h.failure, h.bytes .stderr]
  · rw [hr]
    exact ⟨rfl, stderr_ofState_total ..⟩
  · rw [hr']
    exact ⟨rfl, stderr_ofState_total ..⟩

/-- A sign on each stream, told in one piece after the end of the command. -/
def signsAtOnce : List Call :=
  [.markStarted ⟨5⟩ 70, .recordExit ⟨9⟩ ⟨some 3, none⟩, .stdoutEnded, .settle ⟨9⟩,
    .chunk .stderr [0xC3, 0x89], .chunk .stdout [0xE2, 0x82, 0xAC]]

/-- The same signs cut and mixed, with other ends of the command told before the last one. -/
def signsInPieces : List Call :=
  [.chunk .stdout [0xE2], .markStarted ⟨0⟩ 4, .chunk .stderr [0xC3],
    .recordExit ⟨3⟩ ⟨none, some "SIGTERM"⟩, .chunk .stdout [0x82], .chunk .stderr [],
    .recordExit ⟨6⟩ ⟨some 3, none⟩, .exitUnknown ⟨7⟩, .chunk .stderr [0x89], .chunk .stdout [0xAC]]

theorem reports_of_signs :
    Alike (.ofMillis 1) signsAtOnce signsInPieces ∧
      let r := (new.replay signsAtOnce).report (.ofMillis 1) .current 0
      let r' := (new.replay signsInPieces).report (.ofMillis 1) .current 0
      { r with timestamp := r'.timestamp, duration := r'.duration } = r' ∧
        r.timestamp ≠ r'.timestamp ∧ r'.stdout = "€" ∧ r'.stderr = "É" ∧
        r'.error = some (.code "3") := by
  have halike : Alike (.ofMillis 1) signsAtOnce signsInPieces := by
    refine ⟨fun stream => ?_, rfl, rfl, ?_⟩
    · cases stream <;> rfl
    · decide +kernel
  obtain ⟨hsame, -, htexts, -⟩ :=
    reports_of_alike (.ofMillis 1) .current 0 0 signsAtOnce signsInPieces halike
  refine ⟨halike, hsame, by decide +kernel, htexts.stdout.trans ?_, htexts.stderr.trans ?_, ?_⟩
  all_goals decide +kernel

end Watchdog.Session
