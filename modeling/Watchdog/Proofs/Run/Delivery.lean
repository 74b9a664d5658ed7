import Watchdog.Proofs.Session.Report
import Watchdog.Run.Delivery

/-!
# Where the text goes

The same bytes of a stream are seen three times: piece by piece as text for the receiver, as the
text that the session has so far, and as the text that is reported in the end.  What a session hands
over when it is told of something is what its text gains by it (`sunk_delivers`), so that the first
two stay in step.  The third differs from them at the end only: bytes that stop within a character
are shown by one replacement, which no receiver ever sees.  Whether they do is a property of the
bytes, however they were cut (`Utf8.EndsWithin`).  A log file, as far as it can be written, gains
what the receiver sees.
-/

namespace Watchdog

/-! ## The text handed over -/

namespace Effect

@[simp] lemma sunk_append (stream : Stream) (effects more : List Effect) :
    sunk stream (effects ++ more) = sunk stream effects ++ sunk stream more :=
  List.filterMap_append

@[simp] lemma sunkText_append (stream : Stream) (effects more : List Effect) :
    sunkText stream (effects ++ more) = sunkText stream effects ++ sunkText stream more := by
  rw [sunkText, sunk_append, String.join_append]
  rfl

lemma sunkText_cons (stream : Stream) (e : Effect) (effects : List Effect) :
    sunkText stream (e :: effects) = sunkText stream [e] ++ sunkText stream effects :=
  sunkText_append stream [e] effects

lemma sunk_sink (stream s : Stream) (text : String) :
    sunk stream [.sink s text] = if s = stream then [text] else [] := by
  by_cases h : s = stream <;> simp [sunk, h]

lemma sunkText_sink (stream s : Stream) (text : String) :
    sunkText stream [.sink s text] = if s = stream then text else "" := by
  rw [sunkText, sunk_sink]
  split <;> simp

end Effect

namespace Session

/-- What a call hands over. -/
def Call.delivers (c : Call) (s : Session) : List Effect :=
  match c with
  | chunk stream bytes => (s.deliver stream bytes).1
  | _ => []

/-- What calls hand over, one after the other. -/
def delivered (s : Session) : List Call → List Effect
  | [] => []
  | c :: calls => c.delivers s ++ (s.apply c).delivered calls

lemma delivered_append (s : Session) (calls more : List Call) :
    s.delivered (calls ++ more) = s.delivered calls ++ (s.replay calls).delivered more := by
  induction calls generalizing s with
  | nil => rfl
  | cons c calls ih =>
    rw [List.cons_append, delivered, delivered, ih, replay_cons, List.append_assoc]

lemma delivers_of_none {c : Call} (h : c.piece? = none) (s : Session) : c.delivers s = [] := by
  cases c with
  | chunk stream bytes => exact nomatch h
  | _ => rfl

/-- A piece adds what it makes certain to the text of its stream. -/
lemma text_chunk (s : Session) (stream t : Stream) (bytes : List UInt8) :
    ((s.chunk stream bytes).2.buffer t).text =
      (s.buffer t).text ++ if stream = t then (s.chunk stream bytes).1 else "" := by
  cases stream <;> cases t <;> simp [chunk, buffer, StreamBuffer.push]

/-- A call hands over what it adds to the texts, unless that is nothing. -/
lemma sunk_delivers (c : Call) (s : Session) (stream : Stream) :
    "" ∉ Effect.sunk stream (c.delivers s) ∧
      ((s.apply c).buffer stream).text =
        (s.buffer stream).text ++ Effect.sunkText stream (c.delivers s) := by
  cases c with
  | chunk t bytes =>
    have htext := text_chunk s t stream bytes
    rw [Call.delivers, deliver]
    dsimp only [apply]
    split
    · rename_i hempty
      rw [String.isEmpty_iff] at hempty
      rw [htext, hempty, ite_self]
      exact ⟨List.not_mem_nil, rfl⟩
    · rename_i hsome
      rw [String.isEmpty_iff] at hsome
      rw [htext, Effect.sunkText_sink, Effect.sunk_sink]
      refine ⟨?_, rfl⟩
      split
      · simpa using Ne.symm hsome
      · exact List.not_mem_nil
  | _ => exact ⟨List.not_mem_nil, by rw [buffer_apply_of_none rfl]; exact String.append_empty.symm⟩

/-- No empty text is handed over. -/
lemma empty_notMem_delivered (s : Session) (calls : List Call) (stream : Stream) :
    "" ∉ Effect.sunk stream (s.delivered calls) := by
  induction calls generalizing s with
  | nil => exact List.not_mem_nil
  | cons c calls ih =>
    rw [delivered, Effect.sunk_append, List.mem_append]
    exact not_or_intro (sunk_delivers c s stream).1 (ih _)

/-- What is handed over is what the texts have gained. -/
lemma text_replay (s : Session) (calls : List Call) (stream : Stream) :
    ((s.replay calls).buffer stream).text =
      (s.buffer stream).text ++ Effect.sunkText stream (s.delivered calls) := by
  induction calls generalizing s with
  | nil => exact String.append_empty.symm
  | cons c calls ih =>
    rw [replay_cons, ih, (sunk_delivers c s stream).2, delivered, Effect.sunkText_append,
      String.append_assoc]

end Session

/-! ## The log files -/

/-- The text of a file; there is none in the place of a directory. -/
def FileEntry.text : FileEntry → String
  | file text => text
  | _ => ""

lemma FileEntry.text_of_append {e e' : FileEntry} {text : String} (h : e.append text = .ok e') :
    e'.text = e.text ++ text := by
  cases e with
  | absent => obtain rfl := Except.ok.inj h; exact String.empty_append.symm
  | file old => obtain rfl := Except.ok.inj h; rfl
  | directory => exact nomatch h

namespace LogFiles

/-- What stands in the file of a stream. -/
def entry (l : LogFiles) : Stream → FileEntry
  | .stdout => l.stdout
  | .stderr => l.stderr

def setEntry (l : LogFiles) (stream : Stream) (e : FileEntry) : LogFiles :=
  match stream with
  | .stdout => { l with stdout := e }
  | .stderr => { l with stderr := e }

@[simp] lemma entry_setEntry (l : LogFiles) (s t : Stream) (e : FileEntry) :
    (l.setEntry s e).entry t = if s = t then e else l.entry t := by
  cases s <;> cases t <;> rfl

lemma append_eq (l : LogFiles) (stream : Stream) (text : String) :
    l.append stream text =
      if !l.dirExists then .error .noEntry
      else ((l.entry stream).append text).map (l.setEntry stream) := by
  cases stream <;> rfl

/-- Appending for a stream changes its file and not the other. -/
lemma entry_of_append {l l' : LogFiles} {stream : Stream} {text : String}
    (h : l.append stream text = .ok l') :
    (l.entry stream).append text = .ok (l'.entry stream) ∧
      ∀ s, stream ≠ s → l'.entry s = l.entry s := by
  rw [append_eq] at h
  split at h
  · exact nomatch h
  · cases happend : (l.entry stream).append text with
    | error e => rw [happend] at h; exact nomatch h
    | ok e =>
      rw [happend] at h
      obtain rfl := Except.ok.inj h
      exact ⟨by simp, fun s hs => by simp [hs]⟩

lemma text_of_append {l l' : LogFiles} {stream : Stream} {text : String}
    (h : l.append stream text = .ok l') (s : Stream) :
    (l'.entry s).text = (l.entry s).text ++ if stream = s then text else "" := by
  obtain ⟨hentry, hother⟩ := entry_of_append h
  by_cases hs : stream = s
  · rw [← hs, if_pos rfl, FileEntry.text_of_append hentry]
  · rw [if_neg hs, hother s hs, String.append_empty]

/-- Text that can all be appended to the file of a stream stands at its end. -/
lemma text_receive (paths : LogPaths) (l : LogFiles) (effects : List Effect) (stream : Stream)
    (h : ∀ e, .note (.appendFailed (paths.path stream) e) ∉ (l.receive paths effects).2) :
    ((l.receive paths effects).1.entry stream).text =
      (l.entry stream).text ++ Effect.sunkText stream effects := by
  fun_induction receive paths l effects with
  | case1 l => exact String.append_empty.symm
  | case2 l s text rest l' happend last more hrest ih =>
    rw [hrest] at ih
    rw [ih fun e he => h e (List.mem_cons_of_mem _ he), text_of_append happend,
      Effect.sunkText_cons, Effect.sunkText_sink, String.append_assoc]
  | case3 l s text rest e happend last more hrest ih =>
    rw [hrest] at ih
    have hnot : ¬ s = stream := fun hs => by
      rw [hs] at h
      exact h _ (List.mem_cons_of_mem _ List.mem_cons_self)
    rw [ih fun e he => h e (List.mem_cons_of_mem _ (List.mem_cons_of_mem _ he)),
      Effect.sunkText_cons, Effect.sunkText_sink, if_neg hnot, String.empty_append]
  | case4 l e rest hnot last more hrest ih =>
    rw [hrest] at ih
    have hnone : Effect.sunkText stream [e] = "" := by
      cases e with
      | sink s text => exact absurd rfl (hnot s text)
      | _ => rfl
    rw [ih fun e he => h e (List.mem_cons_of_mem _ he), Effect.sunkText_cons, hnone,
      String.empty_append]

end LogFiles

/-! ## What is promised -/

namespace Session

/-- What is promised of the receivers, whatever a session is told. -/
structure Delivery (calls : List Call) : Prop where
  nonempty : ∀ stream, "" ∉ Effect.sunk stream (new.delivered calls)
  /-- At every moment the texts handed over add up to the text of the stream. -/
  text : ∀ stream, Effect.sunkText stream (new.delivered calls) =
    ((new.replay calls).buffer stream).text
  /-- What has been handed over stays as it is, whatever the session is told afterwards. -/
  kept : ∀ stream more, Effect.sunk stream (new.delivered calls) <+:
    Effect.sunk stream (new.delivered (calls ++ more))
  /-- What is captured in the end is what was handed over. -/
  whole : ∀ stream, ¬ Utf8.EndsWithin (bytesOn stream calls) →
    ((new.replay calls).buffer stream).finish.1 = Effect.sunkText stream (new.delivered calls)
  /-- One replacement is added where the bytes of the stream stop within a character. -/
  cut : ∀ stream, Utf8.EndsWithin (bytesOn stream calls) →
    ((new.replay calls).buffer stream).finish.1 =
      Effect.sunkText stream (new.delivered calls) ++ String.singleton Utf8.replacement
  /-- The report shows what is captured of standard output. -/
  stdout : ∀ timeout platform epoch, ((new.replay calls).report timeout platform epoch).stdout =
    ((new.replay calls).buffer .stdout).finish.1
  /-- So it does of the error output, unless a diagnostic stands in its place. -/
  stderr : ∀ timeout platform epoch, ((new.replay calls).report timeout platform epoch).stderr =
    shownError (lastFailure? calls) ((new.replay calls).buffer .stderr).finish.1
  /-- A log file for which no failure is noted has gained what was handed over. -/
  logged : ∀ stream (paths : LogPaths) (l : LogFiles),
    (∀ e, .note (.appendFailed (paths.path stream) e) ∉
      (l.receive paths (new.delivered calls)).2) →
    ((l.receive paths (new.delivered calls)).1.entry stream).text =
      (l.entry stream).text ++ Effect.sunkText stream (new.delivered calls)

/-- **The receivers see what is reported.**  Whatever a session is told, in whichever order, the
receiver of a stream is handed texts that are not empty and add up, at every moment, to the text of
the stream; what is captured in the end is that text, with one replacement after it if the bytes of
the stream stop within a character; and a log file that can be written gains that text. -/
theorem delivery_of_calls (calls : List Call) : Delivery calls := by
  have htext : ∀ stream, Effect.sunkText stream (new.delivered calls) =
      ((new.replay calls).buffer stream).text := fun stream => by
    have hempty : (new.buffer stream).text = "" := by cases stream <;> rfl
    rw [text_replay, hempty, String.empty_append]
  have hfinish : ∀ stream, ((new.replay calls).buffer stream).finish.1 =
      Effect.sunkText stream (new.delivered calls) ++
        if ((new.replay calls).buffer stream).pending = [] then ""
        else String.singleton Utf8.replacement := fun stream => by
    have htidy : ((new.replay calls).buffer stream).Tidy :=
      tidy_replay calls (by cases stream <;> exact StreamBuffer.tidy_empty)
    rw [htidy.finish_eq, htext]
  have hpending : ∀ stream, ((new.replay calls).buffer stream).pending ≠ [] ↔
      Utf8.EndsWithin (bytesOn stream calls) := fun stream => by
    rw [withholds_replay_new stream calls, Utf8.unfinishedPart_ne_nil_iff]
  constructor
  case nonempty => exact empty_notMem_delivered new calls
  case text => exact htext
  case kept =>
    intro stream more
    rw [delivered_append, Effect.sunk_append]
    exact List.prefix_append _ _
  case whole =>
    intro stream hwhole
    rw [hfinish, if_pos (not_not.mp (mt (hpending stream).mp hwhole)), String.append_empty]
  case cut =>
    intro stream hcut
    rw [hfinish, if_neg ((hpending stream).mpr hcut)]
  case stdout => exact fun _ _ _ => rfl
  case stderr =>
    intro timeout platform epoch
    rw [report_replay_new, stderr_ofState_total, finish_replay_new]
  case logged => exact fun stream paths l => l.text_receive paths _ stream

/-- The first two bytes of a sign of three are held back and shown by one replacement. -/
example :
    let calls : List Call := [.chunk .stdout [0x41, 0xE2], .stdoutEnded, .chunk .stdout [0x82]]
    new.delivered calls = [.sink .stdout "A"] ∧ (new.replay calls).stdout.finish.1 = "A\uFFFD" := by
  decide +kernel

end Session

end Watchdog
