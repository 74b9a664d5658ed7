import Mathlib.Data.List.Induction
import Watchdog.Proofs.Attempt.Settlement
import Watchdog.Proofs.Session.Report

/-!
# No output is lost, repeated or moved

The bytes of a stream go from its reader into a queue, from the queue to the session, and there into
a buffer.  At every moment what the buffer stands for, followed by what the queue holds, is what the
reader has put in (`Carries`).  A reader cuts its stream as it likes but puts all of it in, in
order, before it marks the end (`ReadsFrom`).  So a report shows a beginning of each stream, and the
whole of a stream whose end was taken.
-/

namespace Watchdog

namespace Attempt

open Session (piecesOn)
open Utf8 (lossy)

/-! ## One move -/

/-- The piece that an event brings, if any. -/
def Event.pieces : Event → List (Stream × List UInt8)
  | piece stream bytes => [(stream, bytes)]
  | _ => []

/-- What is told of an event hands over its piece and nothing else. -/
lemma pieces_calls (e : Event) (now : Duration) :
    (e.calls now).filterMap Session.Call.piece? = e.pieces := by
  rcases e with _ | ⟨_ | _⟩ | ⟨_ | _⟩ | _ <;> rfl

lemma failures_calls (e : Event) (now : Duration) :
    (e.calls now).filterMap Session.Call.failure? = [] := by
  rcases e with _ | ⟨_ | _⟩ | ⟨_ | _⟩ | _ <;> rfl

lemma flow_of_takes {a b : Attempt} {e : Event} (h : a.Takes e b) (stream : Stream) :
    Flow (piecesOn stream e.pieces) [] false (a.channel stream) (b.channel stream) := by
  rw [h.channel stream]
  have hoffered := h.offered
  cases e with
  | piece s bytes =>
    obtain ⟨-, hhead⟩ := hoffered
    by_cases hs : s = stream
    · subst hs
      obtain ⟨rest, hqueue⟩ := List.head?_eq_some_iff.mp hhead
      exact ⟨by simp [Event.leaves, Event.pieces, hqueue], by simp [Event.leaves],
        .inl (by simp [Event.leaves])⟩
    · exact ⟨by simp [Event.leaves, Event.pieces, hs, Ne.symm hs],
        by simp [Event.leaves, Ne.symm hs], .inl (by simp [Event.leaves, Ne.symm hs])⟩
  | ended s =>
    by_cases hs : s = stream
    · subst hs
      rw [hoffered]
      exact ⟨by simp [Event.leaves, Event.pieces], by simp [Event.leaves],
        .inr ⟨rfl, by simp [Event.leaves]⟩⟩
    · exact ⟨by simp [Event.leaves, Event.pieces, Ne.symm hs],
        by simp [Event.leaves, Ne.symm hs], .inl (by simp [Event.leaves, Ne.symm hs])⟩
  | _ => exact ⟨by simp [Event.leaves, Event.pieces], by simp [Event.leaves], .inl rfl⟩

/-- A move that takes an event puts nothing into a queue. -/
lemma arriving_of_taken {a : Attempt} {m : Move} {e : Event} (h : a.taken? m = some e)
    (stream : Stream) : a.arriving m stream = [] ∧ a.ending m stream = false := by
  cases m with
  | arrive s bytes => simp [taken?] at h
  | streamEnd s => simp [taken?] at h
  | _ => exact ⟨rfl, rfl⟩

/-- What a move hands over comes from the queues, and the session is told of no failed launch. -/
lemma exists_calls (a : Attempt) (m : Move) :
    ∃ calls, (a.next m).session = a.session.replay calls ∧
      calls.filterMap Session.Call.failure? = [] ∧
      ∀ stream, Flow (piecesOn stream (calls.filterMap Session.Call.piece?))
        (a.arriving m stream) (a.ending m stream)
        (a.channel stream) ((a.next m).channel stream) := by
  by_cases hphase : a.phase = .selecting
  · cases htaken : a.taken? m with
    | none =>
      have hhands := (passes_of_taken_eq_none hphase htaken).hands
      exact ⟨[], hhands.session, rfl, hhands.flow⟩
    | some e =>
      obtain ⟨b, htakes, hnext⟩ := next_of_taken htaken
      have hflow : ∀ stream, Flow (piecesOn stream e.pieces) (a.arriving m stream)
          (a.ending m stream) (a.channel stream) (b.channel stream) := fun stream => by
        obtain ⟨harriving, hending⟩ := arriving_of_taken htaken stream
        rw [harriving, hending]
        exact flow_of_takes htakes stream
      rw [hnext]
      cases a.decides e with
      | false =>
        refine ⟨e.calls a.now, htakes.session, failures_calls e a.now, ?_⟩
        rwa [pieces_calls]
      | true =>
        -- settling tells the session once more, and hands over nothing
        refine ⟨e.calls a.now ++ [.settle b.now], ?_, ?_, ?_⟩
        · rw [settleIf, if_pos rfl, settle_eq, htakes.session, Session.replay_append]
          rfl
        · rw [List.filterMap_append, failures_calls]
          rfl
        · intro stream
          rw [List.filterMap_append, pieces_calls, List.filterMap_cons_none rfl,
            List.filterMap_nil, List.append_nil, settleIf, if_pos rfl, channel_settle]
          exact hflow stream
  · obtain ⟨-, pieces, hhands⟩ := next_of_settled hphase m
    refine ⟨_, hhands.session, ?_, ?_⟩
    · simp [Session.Call.failure?]
    · rw [List.filterMap_map]
      simpa [Function.comp_def, Session.Call.piece?] using hhands.flow

/-! ## All moves

What the reader of a stream has put into its queue, and what has become of it. -/

/-- The pieces that moves add to the queue of a stream. -/
def arrived (a : Attempt) (stream : Stream) : List Move → List (List UInt8)
  | [] => []
  | m :: moves => a.arriving m stream ++ (a.next m).arrived stream moves

/-- All that was put into the queue of a stream has been handed over or is still there, in order;
the end is taken when all has been handed over. -/
structure Carries (a : Attempt) (stream : Stream) (given arrived : List UInt8) : Prop where
  holds : (a.session.buffer stream).Holds given
  conserved : given ++ (a.channel stream).queued.flatten = arrived
  closed : (a.channel stream).listening = false →
    (a.channel stream).queued = [] ∧ (a.channel stream).ended = true

lemma arriving_of_ended {a : Attempt} {stream : Stream} (h : (a.channel stream).ended = true)
    (m : Move) : a.arriving m stream = [] := by
  unfold arriving
  split
  · rename_i s bytes
    by_cases hs : s = stream
    · subst hs
      simp [step?, h]
    · simp [hs]
  · rfl

lemma Carries.next {a : Attempt} {stream : Stream} {given bytes : List UInt8}
    (h : a.Carries stream given bytes) (m : Move) :
    ∃ given', (a.next m).Carries stream given' (bytes ++ (a.arriving m stream).flatten) := by
  obtain ⟨calls, hsession, -, hflow⟩ := exists_calls a m
  have hstream := hflow stream
  refine ⟨given ++ (piecesOn stream (calls.filterMap Session.Call.piece?)).flatten, ?_, ?_, ?_⟩
  · rw [hsession]
    exact Session.holds_replay calls h.holds
  · rw [List.append_assoc, ← List.flatten_append, hstream.conserved, List.flatten_append,
      ← List.append_assoc, h.conserved]
  · intro hclosed
    obtain hsame | ⟨-, hnow⟩ := hstream.listening
    · obtain ⟨hqueue, hended⟩ := h.closed (hsame ▸ hclosed)
      have hconserved := hstream.conserved
      rw [hqueue, arriving_of_ended hended, List.append_nil, List.append_eq_nil_iff] at hconserved
      exact ⟨hconserved.2, by rw [hstream.ended, hended, Bool.true_or]⟩
    · rw [hnow]
      exact ⟨rfl, rfl⟩

lemma Carries.play {a : Attempt} {stream : Stream} {given bytes : List UInt8}
    (h : a.Carries stream given bytes) (moves : List Move) :
    ∃ given', (a.play moves).Carries stream given' (bytes ++ (a.arrived stream moves).flatten) := by
  induction moves generalizing a given bytes with
  | nil => exact ⟨given, by simpa [arrived] using h⟩
  | cons m moves ih =>
    obtain ⟨_, hnext⟩ := h.next m
    rw [arrived, List.flatten_append, ← List.append_assoc]
    exact ih hnext

lemma carries_start (setting : Setting) (pid : UInt32) (now : Duration) (epoch : UInt64)
    (stream : Stream) : (start setting pid now epoch).Carries stream [] [] := by
  cases stream <;> exact ⟨StreamBuffer.holds_empty, rfl, nofun⟩

lemma Carries.begins {a : Attempt} {stream : Stream} {given arrived : List UInt8}
    (h : a.Carries stream given arrived) : given <+: arrived :=
  ⟨_, h.conserved⟩

lemma Carries.eq_of_closed {a : Attempt} {stream : Stream} {given arrived : List UInt8}
    (h : a.Carries stream given arrived) (hclosed : (a.channel stream).listening = false) :
    given = arrived := by
  rw [← h.conserved, (h.closed hclosed).1, List.flatten_nil, List.append_nil]

/-! ## Readers -/

/-- What a reader does. -/
inductive Read where
  | piece (bytes : List UInt8)
  | ended
deriving Repr, DecidableEq

/-- What a move is for the reader of a stream. -/
def read? (stream : Stream) : Move → Option Read
  | .arrive s bytes => if s = stream then some (.piece bytes) else none
  | .streamEnd s => if s = stream then some .ended else none
  | _ => none

/-- What the reader of a stream does in the course of moves. -/
def reads (stream : Stream) (moves : List Move) : List Read := moves.filterMap (read? stream)

/-- The reader cuts a stream of these bytes into pieces, in order; it meets the end after the last
of them, if it comes that far. -/
def ReadsFrom (bytes : List UInt8) (reads : List Read) : Prop :=
  ∃ pieces : List (List UInt8),
    (reads = pieces.map .piece ∧ pieces.flatten <+: bytes) ∨
    (reads = pieces.map .piece ++ [.ended] ∧ pieces.flatten = bytes)

lemma ReadsFrom.of_piece {bytes piece : List UInt8} {reads : List Read}
    (h : ReadsFrom bytes (.piece piece :: reads)) :
    ∃ rest, bytes = piece ++ rest ∧ ReadsFrom rest reads := by
  obtain ⟨pieces, ⟨hreads, rest, hbytes⟩ | ⟨hreads, hbytes⟩⟩ := h
  · cases pieces with
    | nil => exact nomatch hreads
    | cons first pieces =>
      obtain ⟨hfirst, hlater⟩ := List.cons.inj hreads
      obtain rfl := Read.piece.inj hfirst
      refine ⟨pieces.flatten ++ rest, ?_, pieces, .inl ⟨hlater, List.prefix_append ..⟩⟩
      rw [← hbytes, List.flatten_cons, List.append_assoc]
  · cases pieces with
    | nil => exact nomatch hreads
    | cons first pieces =>
      obtain ⟨hfirst, hlater⟩ := List.cons.inj hreads
      obtain rfl := Read.piece.inj hfirst
      exact ⟨pieces.flatten, by rw [← hbytes, List.flatten_cons], pieces, .inr ⟨hlater, rfl⟩⟩

lemma ReadsFrom.of_ended {bytes : List UInt8} {reads : List Read}
    (h : ReadsFrom bytes (.ended :: reads)) : bytes = [] := by
  obtain ⟨pieces, ⟨hreads, -⟩ | ⟨hreads, hbytes⟩⟩ := h
  · cases pieces <;> exact nomatch hreads
  · cases pieces with
    | nil => exact hbytes.symm
    | cons first pieces => exact nomatch hreads

lemma arrived_of_ended {a : Attempt} {stream : Stream} (h : (a.channel stream).ended = true)
    (moves : List Move) : a.arrived stream moves = [] := by
  induction moves generalizing a with
  | nil => rfl
  | cons m moves ih =>
    obtain ⟨calls, -, -, hflow⟩ := exists_calls a m
    rw [arrived, arriving_of_ended h, List.nil_append]
    exact ih (by rw [(hflow stream).ended, h, Bool.true_or])

/-- Nothing happens to an attempt that is done. -/
lemma passes_of_done {a : Attempt} (h : a.phase = .done) (m : Move) : a.Passes m (a.next m) := by
  cases m with
  | elapse d => exact passes_elapse a d
  | arrive stream bytes => exact passes_arrive a stream bytes
  | streamEnd stream => exact passes_streamEnd a stream
  | childEnd status => exact passes_childEnd a status
  | _ => exact passes_of_impossible (by simp [step?, h])

lemma arrived_of_done {a : Attempt} (h : a.phase = .done) (stream : Stream) (moves : List Move) :
    a.arrived stream moves = [] ∧
      ((a.play moves).channel stream).ended = (a.channel stream).ended := by
  induction moves generalizing a with
  | nil => exact ⟨rfl, rfl⟩
  | cons m moves ih =>
    have hpass := passes_of_done h m
    have harriving : a.arriving m stream = [] := by
      cases m <;> simp [arriving, step?, h]
    have hending : a.ending m stream = false := by
      cases m <;> simp [ending, step?, h]
    obtain ⟨harrived, hended⟩ := ih (hpass.phase.trans h)
    refine ⟨by rw [arrived, harriving, harrived, List.append_nil], ?_⟩
    rw [play_cons, hended, hpass.channel, hending, Bool.or_false]

lemma eq_arrive_of_read {stream : Stream} {m : Move} {bytes : List UInt8}
    (h : read? stream m = some (.piece bytes)) : m = .arrive stream bytes := by
  cases m <;> simp_all [read?]

lemma eq_streamEnd_of_read {stream : Stream} {m : Move} (h : read? stream m = some .ended) :
    m = .streamEnd stream := by
  cases m <;> simp_all [read?]

lemma arriving_of_no_read {a : Attempt} {stream : Stream} {m : Move} (h : read? stream m = none) :
    a.arriving m stream = [] ∧ a.ending m stream = false := by
  cases m <;> simp_all [read?, arriving, ending]

/-- What a reader puts in is a beginning of its stream, and all of it once it has marked the end. -/
lemma arrived_of_readsFrom {a : Attempt} {stream : Stream} {bytes : List UInt8} {moves : List Move}
    (h : ReadsFrom bytes (reads stream moves)) (hopen : (a.channel stream).ended = false) :
    (a.arrived stream moves).flatten <+: bytes ∧
      (((a.play moves).channel stream).ended = true →
        (a.arrived stream moves).flatten = bytes) := by
  induction moves generalizing a bytes with
  | nil => exact ⟨List.nil_prefix, fun hended => by simp [hopen] at hended⟩
  | cons m moves ih =>
    by_cases hdone : a.phase = .done
    · obtain ⟨harrived, hended⟩ := arrived_of_done hdone stream (m :: moves)
      rw [harrived, hended, hopen]
      exact ⟨List.nil_prefix, nofun⟩
    obtain ⟨calls, -, -, hflow⟩ := exists_calls a m
    have hended := (hflow stream).ended
    rw [hopen, Bool.false_or] at hended
    rw [arrived, play_cons]
    cases hread : read? stream m with
    | none =>
      obtain ⟨harriving, hending⟩ := arriving_of_no_read (a := a) hread
      rw [reads, List.filterMap_cons_none hread] at h
      rw [harriving, List.nil_append]
      exact ih h (hended.trans hending)
    | some r =>
      rw [reads, List.filterMap_cons_some hread] at h
      cases r with
      | piece piece =>
        obtain ⟨rest, rfl, hrest⟩ := h.of_piece
        obtain rfl := eq_arrive_of_read hread
        have harriving : a.arriving (.arrive stream piece) stream = [piece] := by
          simp [arriving, step?, hdone, hopen]
        obtain ⟨hbegins, hwhole⟩ := ih hrest hended
        rw [harriving, List.singleton_append, List.flatten_cons]
        exact ⟨(List.prefix_append_right_inj piece).mpr hbegins,
          fun hlast => by rw [hwhole hlast]⟩
      | ended =>
        obtain rfl := h.of_ended
        obtain rfl := eq_streamEnd_of_read hread
        have hending : a.ending (.streamEnd stream) stream = true := by
          simp [ending, step?, hdone, hopen]
        have hnone := arrived_of_ended (hended.trans hending) moves
        rw [hnone]
        exact ⟨List.prefix_rfl, fun _ => rfl⟩

/-! ## The report -/

lemma launchFailure_play (a : Attempt) (moves : List Move) :
    (a.play moves).session.launchFailure = a.session.launchFailure := by
  induction moves generalizing a with
  | nil => rfl
  | cons m moves ih =>
    obtain ⟨calls, hsession, hnone, -⟩ := exists_calls a m
    rw [play_cons, ih, hsession, Session.launchFailure_replay, Session.lastFailure?, hnone]
    rfl

lemma report_of_carries {a : Attempt} {out err fromOut fromErr : List UInt8}
    (hout : a.Carries .stdout out fromOut) (herr : a.Carries .stderr err fromErr)
    (timeout : Duration) (platform : Platform) (epoch : UInt64) :
    a.session.report timeout platform epoch =
      Report.ofState (a.session.terminalState timeout (lossy err)) (lossy out)
        (a.session.startedAt.getD epoch) platform := by
  have houtText : a.session.stdout.finish.1 = lossy out := hout.holds.finish
  have herrText : a.session.stderr.finish.1 = lossy err := herr.holds.finish
  rw [Session.report, houtText, herrText]

/-- What is promised of the output of an attempt whose streams carry these bytes: the report shows
the bytes `shown`. -/
structure Output (bytes : Stream → List UInt8) (origin : Attempt) (moves : List Move)
    (shown : Stream → List UInt8) : Prop where
  /-- Nothing is skipped, repeated or moved to the other stream. -/
  begins : ∀ stream, shown stream <+: bytes stream
  /-- A stream whose end was taken is shown to its end. -/
  closed : ∀ stream, ((origin.play moves).channel stream).listening = false →
    shown stream = bytes stream
  /-- So is the standard output of a command that ended badly before the deadline was taken. -/
  unclean : (origin.play moves).phase ≠ .selecting →
    (events (origin.taken moves)).any Event.isCleanExit = false →
    (events (origin.taken moves)).any Event.isDeadline = false →
    shown .stdout = bytes .stdout
  /-- The verdict is formed from the text of the error output. -/
  report : ∀ epoch,
    (origin.play moves).session.report origin.setting.timeout origin.setting.platform epoch =
      Report.ofState
        ((origin.play moves).session.terminalState origin.setting.timeout (lossy (shown .stderr)))
        (lossy (shown .stdout)) ((origin.play moves).session.startedAt.getD epoch)
        origin.setting.platform
  stdout : ∀ epoch, ((origin.play moves).session.report origin.setting.timeout
    origin.setting.platform epoch).stdout = lossy (shown .stdout)
  stderr : ∀ epoch, ((origin.play moves).session.report origin.setting.timeout
    origin.setting.platform epoch).stderr = lossy (shown .stderr)

/-- **No output is lost, repeated or moved.**  If the readers of a launched attempt put the bytes of
its two streams into the queues, cut in any way and mixed with anything else that happens, the
report shows a beginning of each stream, and the verdict is formed from the beginning shown of the
error output.  A stream whose end was taken is shown whole, and so is the standard output of a
command that ended badly before the deadline was taken. -/
theorem output_of_readsFrom (setting : Setting) (pid : UInt32) (now : Duration) (epoch : UInt64)
    (moves : List Move) (bytes : Stream → List UInt8)
    (h : ∀ stream, ReadsFrom (bytes stream) (reads stream moves)) :
    ∃ shown, Output bytes (start setting pid now epoch) moves shown := by
  set origin := start setting pid now epoch with horigin
  have hfresh : origin.Fresh := fresh_start setting pid now epoch
  have hcarries : ∀ stream, ∃ given,
      (origin.play moves).Carries stream given (origin.arrived stream moves).flatten :=
    fun stream => (carries_start setting pid now epoch stream).play moves
  choose shown hshown using hcarries
  have harrived : ∀ stream, (origin.arrived stream moves).flatten <+: bytes stream ∧
      (((origin.play moves).channel stream).ended = true →
        (origin.arrived stream moves).flatten = bytes stream) := fun stream =>
    arrived_of_readsFrom (h stream) (by cases stream <;> rfl)
  have hclosed : ∀ stream, ((origin.play moves).channel stream).listening = false →
      shown stream = bytes stream := fun stream hlistening => by
    rw [(hshown stream).eq_of_closed hlistening]
    exact (harrived stream).2 ((hshown stream).closed hlistening).2
  have hreport := report_of_carries (hshown .stdout) (hshown .stderr) origin.setting.timeout
    origin.setting.platform
  refine ⟨shown, ?_, hclosed, ?_, hreport, ?_, ?_⟩
  · exact fun stream => (hshown stream).begins.trans (harrived stream).1
  · intro hphase hclean hdeadline
    obtain hwaits | hover := waits_or_over hfresh moves
    · exact absurd hwaits.phase hphase
    · exact hclosed .stdout (hover.both_ends hclean hdeadline).2.2
  · intro epoch'
    rw [hreport epoch']
    rfl
  · intro epoch'
    have hlaunched : (origin.play moves).session.launchFailure = none :=
      launchFailure_play origin moves
    exact (Session.stderr_report hlaunched _ _ _).trans (hshown .stderr).holds.finish

/-- A sign cut in two, with the end of the command between the halves. -/
def splitSign : List Move :=
  [.arrive .stdout [0xE2, 0x82], .take .stdout, .childEnd (some (.exited 3)), .takeExit .delivered,
    .arrive .stdout [0xAC], .streamEnd .stdout, .take .stdout, .take .stdout]

def splitSignBytes : Stream → List UInt8
  | .stdout => [0xE2, 0x82, 0xAC]
  | .stderr => [0x21]

theorem output_of_splitSign :
    (∀ stream, ReadsFrom (splitSignBytes stream) (reads stream splitSign)) ∧
      ∃ shown, Output splitSignBytes
          (start ⟨"sh", .ofMillis 100, .current, .ofMillis 100⟩ 7 ⟨0⟩ 0) splitSign shown ∧
        shown .stdout = splitSignBytes .stdout := by
  have hreads : ∀ stream, ReadsFrom (splitSignBytes stream) (reads stream splitSign) := by
    intro stream
    cases stream with
    | stdout => exact ⟨[[0xE2, 0x82], [0xAC]], .inr ⟨rfl, rfl⟩⟩
    | stderr => exact ⟨[], .inl ⟨rfl, List.nil_prefix⟩⟩
  obtain ⟨shown, houtput⟩ := output_of_readsFrom ⟨"sh", .ofMillis 100, .current, .ofMillis 100⟩
    7 ⟨0⟩ 0 splitSign splitSignBytes hreads
  exact ⟨hreads, shown, houtput, houtput.closed .stdout (by decide +kernel)⟩

end Attempt

end Watchdog
