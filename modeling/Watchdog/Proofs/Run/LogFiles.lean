import Mathlib.Data.List.Induction
import Watchdog.Proofs.Run.Delivery

/-!
# Log files as append-only logs

Each of the two files is opened anew for every text, so that what it holds depends on what has
become of its path in between: it may have been removed, it may have a directory in its place, and
the directory for it may still be missing.  Whatever happens in whichever order, the file of a
stream holds the texts for it since its path was last free, and the two streams do not touch each
other (`AppendOnly`).

A text is lost only where there is no place for a file.  That the directory is missing is one such
case; but then nothing stands at either path (`Housed`), so that no file lacks a text that came
after it was made.  Histories begin with both paths free; every state that can be is the end of such
a one (`Housed.exists_history`).
-/

namespace Watchdog

lemma FileEntry.append_eq (e : FileEntry) (text : String) :
    e.append text =
      if e = .directory then .error .isDirectory else .ok (.file (e.text ++ text)) := by
  cases e with
  | absent => simp [append, FileEntry.text]
  | file old => rfl
  | directory => rfl

namespace LogFiles

/-! ## Histories -/

/-- What happens to the log files. -/
inductive Event where
  /-- The receiver of a stream is handed a text. -/
  | text (stream : Stream) (text : String)
  | clean
  | makeDir
  /-- A directory is put in the place of a file. -/
  | block (stream : Stream)
deriving Repr, DecidableEq

def step (l : LogFiles) : Event → LogFiles
  | .text stream text => l.sink stream text
  | .clean => l.clean.1
  | .makeDir => l.makeDir
  | .block stream => l.block stream

/-- What events, one after the other, make of the log files. -/
def after (l : LogFiles) (events : List Event) : LogFiles := events.foldl step l

@[simp] lemma after_nil (l : LogFiles) : l.after [] = l := rfl

@[simp] lemma after_cons (l : LogFiles) (e : Event) (events : List Event) :
    l.after (e :: events) = (l.step e).after events := rfl

@[simp] lemma after_append (l : LogFiles) (events more : List Event) :
    l.after (events ++ more) = (l.after events).after more := List.foldl_append

lemma after_concat (l : LogFiles) (events : List Event) (e : Event) :
    l.after (events ++ [e]) = (l.after events).step e := after_append l events [e]

/-- The text that an event has for a stream. -/
def Event.text? (stream : Stream) : Event → Option String
  | text s t => if s = stream then some t else none
  | _ => none

/-- The texts that arrive for a stream, in order. -/
def textsOn (stream : Stream) (events : List Event) : List String :=
  events.filterMap (Event.text? stream)

lemma join_textsOn_concat (stream : Stream) (events : List Event) (e : Event) :
    String.join (textsOn stream (events ++ [e])) =
      String.join (textsOn stream events) ++ (e.text? stream).getD "" := by
  rw [textsOn, List.filterMap_append, String.join_append]
  cases h : e.text? stream <;> simp [h, textsOn]

/-! ## What an event does -/

/-- A text goes to the end of its file, unless there is no place for one. -/
lemma sink_eq (l : LogFiles) (stream : Stream) (text : String) :
    l.sink stream text =
      if l.dirExists = false ∨ l.entry stream = .directory then l
      else l.setEntry stream (.file ((l.entry stream).text ++ text)) := by
  rw [sink, append_eq, FileEntry.append_eq]
  cases l.dirExists with
  | false => rfl
  | true =>
    by_cases h : l.entry stream = .directory
    · simp [h, Except.map]
    · simp [h, Except.map]

/-- The first directory in the place of a file ends the cleaning. -/
lemma clean_eq (l : LogFiles) :
    l.clean =
      if l.entry .stdout = .directory then (l, .error .isDirectory)
      else if l.entry .stderr = .directory then
        (l.setEntry .stdout .absent, .error .isDirectory)
      else ((l.setEntry .stdout .absent).setEntry .stderr .absent, .ok ()) := by
  obtain ⟨dirExists, stdout, stderr⟩ := l
  cases stdout <;> cases stderr <;> rfl

lemma entry_block (l : LogFiles) (stream s : Stream) :
    (l.block stream).entry s = if stream = s then .directory else l.entry s := by
  cases stream <;> cases s <;> rfl

@[simp] lemma dirExists_setEntry (l : LogFiles) (stream : Stream) (e : FileEntry) :
    (l.setEntry stream e).dirExists = l.dirExists := by
  cases stream <;> rfl

lemma clean_snd_iff (l : LogFiles) :
    l.clean.2 = .ok () ↔ ∀ stream, l.entry stream ≠ .directory := by
  rw [clean_eq]
  constructor
  · intro hok stream hdirectory
    cases stream with
    | stdout =>
      rw [if_pos hdirectory] at hok
      cases hok
    | stderr =>
      rw [if_pos hdirectory] at hok
      split at hok <;> cases hok
  · intro hfree
    rw [if_neg (hfree .stdout), if_neg (hfree .stderr)]

/-- Cleaning removes what stands at a path, or leaves it. -/
lemma entry_clean (l : LogFiles) (stream : Stream) :
    l.clean.1.entry stream = .absent ∨ l.clean.1.entry stream = l.entry stream := by
  rw [clean_eq]
  split
  · exact .inr rfl
  · split <;> cases stream <;> simp

/-- After this event there is a directory for the files. -/
def Event.makesDir : Event → Bool
  | makeDir => true
  | block _ => true
  | _ => false

/-- No event removes the directory. -/
lemma dirExists_step (l : LogFiles) (e : Event) :
    (l.step e).dirExists = (l.dirExists || e.makesDir) := by
  cases e with
  | text s t =>
    have hnot : (Event.text s t).makesDir = false := rfl
    rw [step, sink_eq, hnot, Bool.or_false]
    split
    · rfl
    · exact dirExists_setEntry ..
  | clean =>
    have hnot : Event.clean.makesDir = false := rfl
    rw [step, clean_eq, hnot, Bool.or_false]
    split
    · rfl
    · split <;> simp
  | makeDir => exact (Bool.or_true _).symm
  | block s => cases s <;> exact (Bool.or_true _).symm

lemma dirExists_after (l : LogFiles) (events : List Event) :
    (l.after events).dirExists = (l.dirExists || events.any Event.makesDir) := by
  induction events generalizing l with
  | nil => exact (Bool.or_false _).symm
  | cons e events ih => rw [after_cons, ih, dirExists_step, List.any_cons, Bool.or_assoc]

/-- Where something stands at a path there is a directory for it. -/
def Housed (l : LogFiles) : Prop := ∀ stream, l.entry stream ≠ .absent → l.dirExists = true

lemma housed_fresh (dirExists : Bool) : (fresh dirExists).Housed := by
  intro stream hstands
  cases stream <;> exact absurd rfl hstands

lemma Housed.step {l : LogFiles} (h : l.Housed) (e : Event) : (l.step e).Housed := by
  intro stream hstands
  by_cases hstood : l.entry stream = .absent
  · cases e with
    | text s t =>
      rw [LogFiles.step, sink_eq] at hstands ⊢
      split at hstands
      · exact absurd hstood hstands
      · rename_i hplace
        rw [if_neg hplace, dirExists_setEntry]
        simpa using mt Or.inl hplace
    | clean =>
      obtain hremoved | hleft := l.entry_clean stream
      · exact absurd hremoved hstands
      · exact absurd (hleft.trans hstood) hstands
    | makeDir => rfl
    | block s => cases s <;> rfl
  · rw [dirExists_step, h stream hstood, Bool.true_or]

lemma Housed.after {l : LogFiles} (h : l.Housed) (events : List Event) :
    (l.after events).Housed := by
  induction events generalizing l with
  | nil => exact h
  | cons e events ih => exact ih (h.step e)

/-- What puts this entry at a free path. -/
def Event.making (stream : Stream) : FileEntry → List Event
  | .absent => []
  | .file content => [.text stream content]
  | .directory => [.block stream]

/-- Histories that begin with two free paths leave out no state of the files. -/
lemma Housed.exists_history {l : LogFiles} (h : l.Housed) :
    ∃ dirExists events, (fresh dirExists).after events = l := by
  obtain ⟨dirExists, stdout, stderr⟩ := l
  cases dirExists with
  | true =>
    refine ⟨true, Event.making .stdout stdout ++ Event.making .stderr stderr, ?_⟩
    cases stdout <;> cases stderr <;> rfl
  | false =>
    have hfree : ∀ stream, (LogFiles.mk false stdout stderr).entry stream = .absent := by
      intro stream
      by_contra hstands
      cases h stream hstands
    obtain rfl : stdout = .absent := hfree .stdout
    obtain rfl : stderr = .absent := hfree .stderr
    exact ⟨false, [], rfl⟩

/-- Unless the path of a stream is free afterwards, an event has put a directory there or has added
its text to what stood there. -/
lemma entry_step {l : LogFiles} (h : l.Housed) (stream : Stream) (e : Event) :
    (l.step e).entry stream = .absent ∨
      (l.step e).entry stream =
        if e = .block stream ∨ l.entry stream = .directory then .directory
        else .file ((l.entry stream).text ++ (e.text? stream).getD "") := by
  have hsame : (l.step e).entry stream = l.entry stream → e ≠ .block stream →
      e.text? stream = none →
      (l.step e).entry stream = .absent ∨
        (l.step e).entry stream =
          if e = .block stream ∨ l.entry stream = .directory then .directory
          else .file ((l.entry stream).text ++ (e.text? stream).getD "") := by
    intro hentry hblock htext
    rw [hentry, htext]
    cases l.entry stream <;> simp [hblock, FileEntry.text]
  cases e with
  | text s t =>
    rw [LogFiles.step, sink_eq] at hsame ⊢
    by_cases hs : s = stream
    · subst hs
      split
      · rename_i hlost
        obtain hmissing | hdirectory := hlost
        · left
          by_contra hstands
          rw [h s hstands] at hmissing
          cases hmissing
        · right
          rw [if_pos (.inr hdirectory), hdirectory]
      · rename_i hplace
        right
        rw [entry_setEntry, if_pos rfl, if_neg]
        · simp [Event.text?]
        · simpa using (not_or.mp hplace).2
    · refine hsame ?_ Event.noConfusion (if_neg hs)
      split
      · rfl
      · rw [entry_setEntry, if_neg hs]
  | clean =>
    obtain hremoved | hleft := l.entry_clean stream
    · exact .inl hremoved
    · exact hsame hleft Event.noConfusion rfl
  | makeDir => exact hsame (by cases stream <;> rfl) Event.noConfusion rfl
  | block s =>
    by_cases hs : s = stream
    · right
      rw [LogFiles.step, entry_block, if_pos hs, if_pos (.inl (by rw [hs]))]
    · refine hsame ?_ (fun heq => hs (Event.block.inj heq)) rfl
      rw [LogFiles.step, entry_block, if_neg hs]

/-! ## Since a path was free -/

/-- Nothing stood at the path of a stream after the earlier events, and something did ever since. -/
structure Since (start : LogFiles) (stream : Stream) (earlier recent : List Event) : Prop where
  absent : (start.after earlier).entry stream = .absent
  present : ∀ first rest, recent = first ++ rest → first ≠ [] →
    (start.after (earlier ++ first)).entry stream ≠ .absent

/-- A history has a last moment at which the path was free, if it was free at first. -/
lemma exists_since {start : LogFiles} {stream : Stream} (h : start.entry stream = .absent)
    (events : List Event) :
    ∃ earlier recent, events = earlier ++ recent ∧ start.Since stream earlier recent := by
  induction events using List.reverseRecOn with
  | nil =>
    refine ⟨[], [], rfl, h, fun first rest hfirst hne => ?_⟩
    exact absurd (List.append_eq_nil_iff.mp hfirst.symm).1 hne
  | append_singleton events e ih =>
    by_cases hfree : (start.after (events ++ [e])).entry stream = .absent
    · refine ⟨events ++ [e], [], (List.append_nil _).symm, hfree, fun first rest hfirst hne => ?_⟩
      exact absurd (List.append_eq_nil_iff.mp hfirst.symm).1 hne
    · obtain ⟨earlier, recent, rfl, hsince⟩ := ih
      refine ⟨earlier, recent ++ [e], List.append_assoc .., hsince.absent, ?_⟩
      intro first rest hfirst hne
      obtain rfl | ⟨rest, last, rfl⟩ := rest.eq_nil_or_concat'
      · rw [List.append_nil] at hfirst
        rwa [← hfirst, ← List.append_assoc]
      · rw [← List.append_assoc] at hfirst
        exact hsince.present first rest (List.append_inj' hfirst rfl).1 hne

/-- What these events, the first of which took a free path, leave there: a directory, or a file with
all the texts for the stream. -/
def standing (stream : Stream) (recent : List Event) : FileEntry :=
  if recent = [] then .absent
  else if .block stream ∈ recent then .directory
  else .file (String.join (textsOn stream recent))

/-- What stands at a path that is not free came there since it was. -/
lemma Since.entry_eq {start : LogFiles} {stream : Stream} {earlier recent : List Event}
    (h : start.Since stream earlier recent) (hhoused : start.Housed) :
    (start.after (earlier ++ recent)).entry stream = standing stream recent := by
  induction recent using List.reverseRecOn with
  | nil => rw [List.append_nil, standing, if_pos rfl, h.absent]
  | append_singleton recent e ih =>
    have hentry := ih ⟨h.absent, fun first rest hfirst hne =>
      h.present first (rest ++ [e]) (by rw [hfirst, List.append_assoc]) hne⟩
    have hne : recent ++ [e] ≠ [] := by simp
    have hpresent := h.present (recent ++ [e]) [] (List.append_nil _).symm hne
    rw [← List.append_assoc, after_concat] at hpresent ⊢
    obtain hfree | hgained := entry_step (hhoused.after (earlier ++ recent)) stream e
    · exact absurd hfree hpresent
    · rw [hgained, hentry, standing, standing, if_neg hne, join_textsOn_concat]
      by_cases hblocked : .block stream ∈ recent
      · have hnonempty : recent ≠ [] := List.ne_nil_of_mem hblocked
        simp [hblocked, hnonempty]
      · by_cases hnone : recent = []
        · simp [hnone, FileEntry.text, textsOn, eq_comm]
        · simp [hblocked, hnone, FileEntry.text, eq_comm]

/-! ## What is promised -/

/-- A failed append is noted. -/
def isAppendFailed : Effect → Bool
  | .note (.appendFailed _ _) => true
  | _ => false

/-- What an effect of a run is to the log files. -/
def Event.ofEffect? : Effect → Option Event
  | .sink s t => some (.text s t)
  | _ => none

/-- A run hands its texts over one after the other, and goes on whatever becomes of them. -/
lemma receive_eq (l : LogFiles) (paths : LogPaths) (effects : List Effect) :
    (l.receive paths effects).1 = l.after (effects.filterMap Event.ofEffect?) ∧
      (l.receive paths effects).2.filter (!isAppendFailed ·) =
        effects.filter (!isAppendFailed ·) := by
  have hevent : ∀ s t, Event.ofEffect? (.sink s t) = some (.text s t) := fun _ _ => rfl
  fun_induction receive paths l effects with
  | case1 l => exact ⟨rfl, rfl⟩
  | case2 l s text rest l' happend last more hrest ih =>
    have hsink : l.sink s text = l' := by rw [sink, happend]
    rw [hrest] at ih
    constructor
    · rw [List.filterMap_cons_some (hevent s text), after_cons, step, hsink, ih.1]
    · rw [List.filter_cons_of_pos rfl, List.filter_cons_of_pos rfl, ih.2]
  | case3 l s text rest e happend last more hrest ih =>
    have hsink : l.sink s text = l := by rw [sink, happend]
    rw [hrest] at ih
    constructor
    · rw [List.filterMap_cons_some (hevent s text), after_cons, step, hsink, ih.1]
    · rw [List.filter_cons_of_pos rfl, List.filter_cons_of_neg (by simp [isAppendFailed]),
        List.filter_cons_of_pos rfl, ih.2]
  | case4 l e rest hnot last more hrest ih =>
    have hnone : Event.ofEffect? e = none := by
      cases e with
      | sink s text => exact absurd rfl (hnot s text)
      | _ => rfl
    rw [hrest] at ih
    rw [List.filterMap_cons_none hnone, List.filter_cons, List.filter_cons, ih.2]
    exact ⟨ih.1, rfl⟩

/-- What is promised of the log files after a history. -/
structure AppendOnly (start : LogFiles) (events : List Event) : Prop where
  /-- The directory is there if it was at first, or if it was made from outside. -/
  directory : (start.after events).dirExists = (start.dirExists || events.any Event.makesDir)
  /-- A path is free, or there stands what came since it was free: a directory, or else a file with
  the texts of its stream. -/
  holds : ∀ stream, ∃ earlier recent, events = earlier ++ recent ∧
    start.Since stream earlier recent ∧
    (start.after events).entry stream = standing stream recent
  /-- A text for which there is a place is written at the end of its file, which is made if need
  be. -/
  written : ∀ stream text, (start.after events).dirExists = true →
    (start.after events).entry stream ≠ .directory →
    ((start.after events).sink stream text).entry stream =
      .file (((start.after events).entry stream).text ++ text)
  /-- A text for which there is no place changes nothing. -/
  dropped : ∀ stream text, (start.after events).entry stream = .directory ∨
    (start.after events).dirExists = false →
    (start.after events).sink stream text = start.after events
  /-- A text leaves the other path and the directory as they are. -/
  apart : ∀ stream text, ((start.after events).sink stream text).dirExists =
      (start.after events).dirExists ∧
    ∀ other, stream ≠ other →
      ((start.after events).sink stream text).entry other = (start.after events).entry other
  /-- A run goes on whatever becomes of its texts: all that it did is there, apart from notes. -/
  unfailing : ∀ paths effects,
    ((start.after events).receive paths effects).1 =
      (start.after events).after (effects.filterMap Event.ofEffect?) ∧
    ((start.after events).receive paths effects).2.filter (!isAppendFailed ·) =
      effects.filter (!isAppendFailed ·)
  clean_ok_iff : (start.after events).clean.2 = .ok () ↔
    ∀ stream, (start.after events).entry stream ≠ .directory
  clean_absent : (start.after events).clean.2 = .ok () →
    ∀ stream, (start.after events).clean.1.entry stream = .absent

/-- **The log files are an append-only pair.**  Whatever texts arrive, however often the files are
removed, and whatever is done to their paths from outside, the file of each stream holds the texts
for it since its path was last free, in order; a text is written there unless there is no place for
a file; the texts of one stream never touch the other path; and cleaning leaves no file behind
unless a directory stands in the way. -/
theorem appendOnly_of_events (dirExists : Bool) (events : List Event) :
    AppendOnly (fresh dirExists) events := by
  constructor
  case directory => exact dirExists_after _ events
  case holds =>
    intro stream
    have hfree : (fresh dirExists).entry stream = .absent := by cases stream <;> rfl
    obtain ⟨earlier, recent, rfl, hsince⟩ := exists_since hfree events
    exact ⟨earlier, recent, rfl, hsince, hsince.entry_eq (housed_fresh dirExists)⟩
  case written =>
    intro stream text hdir hfree
    rw [sink_eq, if_neg (by simp [hdir, hfree]), entry_setEntry, if_pos rfl]
  case dropped =>
    intro stream text hlost
    rw [sink_eq, if_pos hlost.symm]
  case apart =>
    intro stream text
    rw [sink_eq]
    split
    · exact ⟨rfl, fun _ _ => rfl⟩
    · exact ⟨dirExists_setEntry .., fun other hother => by rw [entry_setEntry, if_neg hother]⟩
  case unfailing => exact fun paths effects => receive_eq _ paths effects
  case clean_ok_iff => exact clean_snd_iff _
  case clean_absent =>
    intro hok stream
    rw [clean_snd_iff] at hok
    rw [clean_eq, if_neg (hok .stdout), if_neg (hok .stderr)]
    cases stream <;> simp

example :
    (fresh true).after [.text .stdout "a", .clean, .text .stdout "b", .block .stderr,
      .text .stderr "c", .text .stdout "d"] = ⟨true, .file "bd", .directory⟩ := by
  decide

end LogFiles

end Watchdog
