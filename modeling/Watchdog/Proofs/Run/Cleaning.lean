import Watchdog.CommandLine.Program
import Watchdog.Proofs.Run.LogFiles

/-!
# What cleaning leaves behind

The two log files are removed one after the other, that of standard output first, and the first
removal that is refused ends the cleaning.  The two paths are therefore not alike.  What stands in
the way of the second file keeps nothing else from being removed; what stands in the way of the
first keeps the second where it is, and since nobody clears that path, no later cleaning removes it
either.  Its old text stays in front of whatever comes after (`entry_stderr_after`).

An error tells only that one of the paths could not be made free, not which, nor what is left.
`cleaning_of_paths` says both, for every state of the two paths.
-/

namespace Watchdog

/-- What stands there cannot be removed. -/
def FileEntry.Refused (entry : FileEntry) : Prop := ∃ e, entry.remove = .error e

lemma FileEntry.refused_iff {entry : FileEntry} : entry.Refused ↔ entry = .directory := by
  cases entry <;> simp [Refused, remove]

namespace LogFiles

variable {l : LogFiles} {stream : Stream} {e : Event}

/-! ## One cleaning -/

lemma clean_of_refused (h : (l.entry .stdout).Refused) : l.clean = (l, .error .isDirectory) := by
  rw [clean_eq, if_pos (FileEntry.refused_iff.mp h)]

lemma clean_snd_error_iff (l : LogFiles) :
    (∃ e, l.clean.2 = .error e) ↔ ∃ stream, (l.entry stream).Refused := by
  have hok := l.clean_snd_iff
  cases hclean : l.clean.2 with
  | ok =>
    have hfree := hok.mp hclean
    simp [FileEntry.refused_iff, hfree]
  | error e =>
    have hdirectory : ¬ ∀ stream, l.entry stream ≠ .directory := by simp [← hok, hclean]
    simpa [FileEntry.refused_iff] using hdirectory

/-- Where the first path can be made free, each of the two is dealt with for itself. -/
lemma entry_clean_of_not_refused (h : ¬ (l.entry .stdout).Refused) (stream : Stream) :
    l.clean.1.entry stream =
      if l.entry stream = .directory then l.entry stream else .absent := by
  have hstdout : l.entry .stdout ≠ .directory := mt FileEntry.refused_iff.mpr h
  rw [clean_eq, if_neg hstdout]
  by_cases hstderr : l.entry .stderr = .directory
  · cases stream <;> simp [hstdout, hstderr]
  · cases stream <;> simp [hstdout, hstderr]

lemma entry_clean_eq_file_iff (l : LogFiles) (stream : Stream) (text : String) :
    l.clean.1.entry stream = .file text ↔
      stream = .stderr ∧ (l.entry .stdout).Refused ∧ l.entry .stderr = .file text := by
  by_cases hrefused : (l.entry .stdout).Refused
  · rw [clean_of_refused hrefused]
    cases stream with
    | stdout => simp [FileEntry.refused_iff.mp hrefused]
    | stderr => simp [hrefused]
  · rw [entry_clean_of_not_refused hrefused]
    split
    · rename_i hdirectory
      simp [hdirectory, hrefused]
    · simp [hrefused]

/-! ## From one run to the next -/

/-- Only cleaning makes a path free. -/
lemma eq_clean_of_freed (hstands : l.entry stream ≠ .absent)
    (hfreed : (l.step e).entry stream = .absent) : e = .clean := by
  cases e with
  | clean => rfl
  | text s t =>
    rw [step, sink_eq] at hfreed
    split at hfreed
    · exact absurd hfreed hstands
    · rw [entry_setEntry] at hfreed
      split at hfreed
      · cases hfreed
      · exact absurd hfreed hstands
  | makeDir => cases stream <;> exact absurd hfreed hstands
  | block s =>
    rw [step, entry_block] at hfreed
    split at hfreed
    · cases hfreed
    · exact absurd hfreed hstands

lemma refused_step (hhoused : l.Housed) (h : (l.entry stream).Refused) (e : Event) :
    ((l.step e).entry stream).Refused ∨ e = .clean := by
  rw [FileEntry.refused_iff] at h ⊢
  obtain hfreed | hkept := entry_step hhoused stream e
  · exact .inr (eq_clean_of_freed (by simp [h]) hfreed)
  · exact .inl (by rw [hkept, if_pos (.inr h)])

/-- A file that cleaning leaves behind only grows. -/
lemma entry_stderr_after {old : String} {events : List Event} (hhoused : l.Housed)
    (hrefused : (l.entry .stdout).Refused) (hold : l.entry .stderr = .file old)
    (hevents : .block .stderr ∉ events) :
    ((l.after events).entry .stdout).Refused ∧
      (l.after events).entry .stderr = .file (old ++ String.join (textsOn .stderr events)) := by
  induction events using List.reverseRecOn with
  | nil => exact ⟨hrefused, by simp [hold, textsOn]⟩
  | append_singleton events e ih =>
    rw [List.mem_append, not_or, List.mem_singleton] at hevents
    obtain ⟨hblocked, hleft⟩ := ih hevents.1
    rw [after_concat, join_textsOn_concat, ← String.append_assoc]
    by_cases hclean : e = .clean
    · subst hclean
      rw [step, clean_of_refused hblocked]
      exact ⟨hblocked, by simpa [Event.text?] using hleft⟩
    · have hhoused' := hhoused.after events
      refine ⟨(refused_step hhoused' hblocked e).resolve_right hclean, ?_⟩
      obtain hfreed | hgained := entry_step hhoused' .stderr e
      · exact absurd (eq_clean_of_freed (by simp [hleft]) hfreed) hclean
      · rw [hgained, hleft, if_neg (by simpa [eq_comm] using hevents.2)]
        rfl

/-! ## What is promised -/

/-- What becomes of the two paths when they are cleaned. -/
structure Cleaning (l : LogFiles) : Prop where
  error_iff : (∃ e, l.clean.2 = .error e) ↔ ∃ stream, (l.entry stream).Refused
  /-- What is refused stays, -/
  refused : ∀ stream, (l.entry stream).Refused → l.clean.1.entry stream = l.entry stream
  /-- and all else goes, unless the path of standard output is the one that is refused. -/
  freed : ∀ stream, ¬ (l.entry stream).Refused → ¬ (l.entry .stdout).Refused →
    l.clean.1.entry stream = .absent
  /-- A file is left behind exactly if it is the second one and the first removal is refused. -/
  left_iff : ∀ stream text, l.clean.1.entry stream = .file text ↔
    stream = .stderr ∧ (l.entry .stdout).Refused ∧ l.entry .stderr = .file text
  /-- Later texts go to the end of a file left behind, however often it is cleaned again. -/
  stale : l.Housed → ∀ text, l.clean.1.entry .stderr = .file text →
    ∀ events, .block .stderr ∉ events →
      (l.clean.1.after events).entry .stderr =
        .file (text ++ String.join (textsOn .stderr events))
  /-- The program says that it has removed the files, or fails and says no such thing. -/
  told : ∀ (w : CommandLine.World) format, w.logs = l →
    (w.cleanLogs format).logs = l.clean.1 ∧
    ((∀ stream, ¬ (l.entry stream).Refused) ∧ (w.cleanLogs format).status = 0 ∧
        (w.cleanLogs format).stdout = CommandLine.World.cleaned w.logPaths format ∨
      (∃ stream, (l.entry stream).Refused) ∧ (w.cleanLogs format).status ≠ 0 ∧
        (w.cleanLogs format).stdout = "")

/-- **Cleaning removes what it can, except behind a refusal.**  Whatever stands at the two paths, an
error is told exactly if something could not be removed, and every file is gone afterwards except
that of error output behind a refused removal of that of standard output. -/
theorem cleaning_of_paths (l : LogFiles) : Cleaning l := by
  constructor
  case error_iff => exact l.clean_snd_error_iff
  case refused =>
    intro stream hrefused
    by_cases hfirst : (l.entry .stdout).Refused
    · rw [clean_of_refused hfirst]
    · rw [entry_clean_of_not_refused hfirst, if_pos (FileEntry.refused_iff.mp hrefused)]
  case freed =>
    intro stream hfree hfirst
    rw [entry_clean_of_not_refused hfirst, if_neg (mt FileEntry.refused_iff.mpr hfree)]
  case left_iff => exact l.entry_clean_eq_file_iff
  case stale =>
    intro hhoused text hleft events hevents
    obtain ⟨-, hrefused, hold⟩ := (l.entry_clean_eq_file_iff .stderr text).mp hleft
    rw [clean_of_refused hrefused]
    exact (entry_stderr_after hhoused hrefused hold hevents).2
  case told =>
    rintro w format rfl
    have herror := w.logs.clean_snd_error_iff
    rw [CommandLine.World.cleanLogs]
    rcases hclean : w.logs.clean with ⟨logs, answer⟩
    rw [hclean] at herror
    cases answer with
    | ok => exact ⟨rfl, .inl ⟨by simpa using herror, rfl, rfl⟩⟩
    | error e =>
      refine ⟨rfl, .inr ⟨herror.mp ⟨e, rfl⟩, ?_, rfl⟩⟩
      show (if w.stderrOpen then 1 else 101) ≠ 0
      split <;> decide

/-- A directory in the place of the first file keeps the second, whose text of an earlier run stands
before that of the next although it was cleaned in between. -/
theorem staleErrors_of_blockedOutput :
    let l := (fresh true).after [.text .stderr "old\n", .block .stdout]
    l.clean.2 = .error .isDirectory ∧ l.clean.1.entry .stderr = .file "old\n" ∧
      (l.clean.1.after [.clean, .text .stderr "new\n"]).entry .stderr = .file "old\nnew\n" := by
  intro l
  have hlaw := cleaning_of_paths l
  have hrefused : (l.entry .stdout).Refused := FileEntry.refused_iff.mpr rfl
  have hleft := (hlaw.left_iff .stderr "old\n").mpr ⟨rfl, hrefused, by decide⟩
  have hhoused : l.Housed := (housed_fresh true).after _
  refine ⟨by rw [clean_of_refused hrefused], hleft, ?_⟩
  exact hlaw.stale hhoused "old\n" hleft [.clean, .text .stderr "new\n"] (by decide)

end LogFiles

end Watchdog
