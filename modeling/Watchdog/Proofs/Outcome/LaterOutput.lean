import Watchdog.Proofs.Outcome.CrashMessage
import Watchdog.Proofs.Outcome.Verdict

/-!
# Output that comes later

How much of the error output is read before a command is judged depends on timing.  Once the header
of a crashed thread stands there, with its message and the end of the line, it no longer matters:
whatever follows, the message reported stays the same (`message_stays`).

The reason is that the whole report of such a crash lies on one line that has ended
(`Form.fits_thread_iff_endedLine`), and whether a line that has ended is such a report does not
depend on what comes after it.  So no place before the one that counts can turn into a report.
-/

namespace Watchdog

open Text

namespace CrashSignature

/-! ## Lines that have ended -/

lemma EndedLine.exists_lineEnd {line s : List Char} (h : EndedLine line s) :
    ∃ c ∈ s, isLineEnd c = true := by
  obtain ⟨e, rest, rfl, -, -, he⟩ := h
  exact ⟨e, by simp, isLineEnd_iff.2 he⟩

/-- Where a line has ended, what follows the text does not change the line. -/
lemma endedLine_append_iff {line s : List Char} (hend : ∃ c ∈ s, isLineEnd c = true)
    (t : List Char) : EndedLine line (s ++ t) ↔ EndedLine line s := by
  constructor
  · rintro ⟨e, rest, hcut, hr, hn, he⟩
    obtain ⟨c, hc, hc'⟩ := hend
    have hbeyond : c ∉ line := by
      rcases isLineEnd_iff.1 hc' with rfl | rfl
      · exact hr
      · exact hn
    rcases List.append_eq_append_iff.1 hcut with ⟨more, rfl, -⟩ | ⟨more, rfl, hmore⟩
    · exact absurd (List.mem_append_left _ hc) hbeyond
    · cases more with
      | nil => exact absurd (List.append_nil line ▸ hc) hbeyond
      | cons d more =>
        obtain ⟨rfl, -⟩ := List.cons.inj hmore
        exact ⟨e, more, rfl, hr, hn, he⟩
  · rintro ⟨e, rest, rfl, hr, hn, he⟩
    exact ⟨e, rest ++ t, by simp, hr, hn, he⟩

/-- A line may begin with anything that does not end it. -/
lemma endedLine_append_left_iff {start line s : List Char} (hr : '\r' ∉ start) (hn : '\n' ∉ start) :
    EndedLine (start ++ line) (start ++ s) ↔ EndedLine line s := by
  simp only [EndedLine, List.append_assoc, List.append_cancel_left_eq, List.mem_append, hr, hn,
    false_or]

/-! ## The crash of a thread -/

namespace Form

/-- The header of a crashed thread ends no line. -/
lemma threadHeader_onLine {digits : List Char} (hdigits : ∀ c ∈ digits, isDigit c = true) :
    '\r' ∉ "thread ".toList ++ digits ++ " panic: ".toList ∧
      '\n' ∉ "thread ".toList ++ digits ++ " panic: ".toList := by
  have hdigit : ∀ c, isDigit c = false → c ∉ digits := by
    intro c hc hmem
    rw [hdigits c hmem] at hc
    cases hc
  have hr : '\r' ∉ digits := hdigit _ (by decide)
  have hn : '\n' ∉ digits := hdigit _ (by decide)
  simp [hr, hn]

variable {s x raw : List Char}

/-- The crash of a thread is reported on one line that has ended. -/
lemma fits_thread_iff_endedLine :
    Fits thread s x raw ↔
      x = [] ∧ ∃ digits, digits ≠ [] ∧ (∀ c ∈ digits, isDigit c = true) ∧
        EndedLine ("thread ".toList ++ digits ++ " panic: ".toList ++ raw) s := by
  constructor
  · intro h
    cases h with
    | @thread digits _ ended hsome hdigits hline =>
      obtain ⟨hr, hn⟩ := threadHeader_onLine hdigits
      exact ⟨rfl, digits, hsome, hdigits, (endedLine_append_left_iff hr hn).2 hline⟩
  · rintro ⟨rfl, digits, hsome, hdigits, hline⟩
    obtain ⟨hr, hn⟩ := threadHeader_onLine hdigits
    obtain ⟨e, rest, hcut, -⟩ := id hline
    rw [List.append_assoc] at hcut
    subst hcut
    exact .thread hsome hdigits ((endedLine_append_left_iff hr hn).1 hline)

lemma fits_thread_append_iff (hend : ∃ c ∈ s, isLineEnd c = true) (t : List Char) :
    Fits thread (s ++ t) x raw ↔ Fits thread s x raw := by
  simp only [fits_thread_iff_endedLine, endedLine_append_iff hend]

/-- The crash that counts is the same in a longer text: what stands before it ends with its line,
so that no place there can become the header of an earlier one. -/
lemma Picks.append {before : List Char} (h : thread.Picks s before x raw) (t : List Char) :
    thread.Picks (s ++ t) before x raw := by
  obtain ⟨⟨rest, rfl, hfits⟩, hfirst, hlongest⟩ := h
  have hend : ∃ c ∈ rest, isLineEnd c = true := by
    obtain ⟨-, digits, -, -, hline⟩ := fits_thread_iff_endedLine.1 hfits
    exact hline.exists_lineEnd
  refine ⟨⟨rest ++ t, by simp, (fits_thread_append_iff hend t).2 hfits⟩, ?_, ?_⟩
  · rintro before' x' raw' ⟨rest', hcut, hfits'⟩
    by_contra hlt
    rw [List.append_assoc] at hcut
    obtain ⟨gap, -, rfl, rfl⟩ := exists_gap hcut.symm (Nat.lt_of_not_le hlt)
    rw [← List.append_assoc] at hfits'
    have hend' : ∃ c ∈ gap ++ rest, isLineEnd c = true := by
      obtain ⟨c, hc, hc'⟩ := hend
      exact ⟨c, List.mem_append_right _ hc, hc'⟩
    exact hlt (hfirst before' x' raw'
      ⟨gap ++ rest, by simp, (fits_thread_append_iff hend' t).1 hfits'⟩)
  · rintro x' raw' ⟨rest', hcut, hfits'⟩
    rw [List.append_assoc, List.append_cancel_left_eq] at hcut
    subst hcut
    exact hlongest x' raw' ⟨rest, rfl, (fits_thread_append_iff hend t).1 hfits'⟩

end Form

lemma raw?_append_of_picks {s before inside raw : List Char}
    (h : Form.thread.Picks s before inside raw) (t : List Char) : raw? (s ++ t) = some raw :=
  raw?_eq_some_iff.2 ⟨[], .thread, _, rfl, ⟨before, inside, h.append t⟩, by simp⟩

end CrashSignature

open CrashSignature

/-- **A crash once reported stays.**  If the crash of a thread is reported in `first`, that fixes the
message of every longer error output, and with it the verdict on every command that did not end well
and whose error output begins so. -/
theorem message_stays {first : String} {before inside raw : List Char}
    (h : Form.thread.Found first.toList before inside raw) :
    ∃ message, crashMessage? first = some message ∧
      (∀ more, crashMessage? (first ++ more) = some message) ∧
      ∀ (state : TerminalState) (platform : Platform), state.Ended →
        (∃ more, state.stderr = first ++ more) →
          state.verdict platform = .failed (.crash message) none := by
  have hfound : firstMatch Form.thread.reader first.toList ≠ none := by
    rw [ne_eq, Form.firstMatch_reader_eq_none_iff]
    exact fun hnone => hnone before inside raw h
  obtain ⟨raw, hread⟩ := Option.ne_none_iff_exists'.1 hfound
  obtain ⟨before, inside, hpicks⟩ := Form.firstMatch_reader_eq_some_iff.1 hread
  have hmore : ∀ more, crashMessage? (first ++ more) =
      some (String.ofList (Text.lower (firstLine raw))) := by
    intro more
    rw [crashMessage?, String.toList_append, raw?_append_of_picks hpicks, Option.map_some]
  refine ⟨_, ?_, hmore, ?_⟩
  · rw [← hmore "", String.append_empty]
  · rintro state platform hended ⟨more, hstderr⟩
    exact state.verdict_of_crash hended.not_clean hended.launched (hstderr ▸ hmore more) platform

/-- The line need not have ended with a newline, and the next crash is not waited for. -/
theorem stays_of_outOfMemory :
    Form.thread.Found "thread 7 panic: Out of Memory\r".toList [] [] "Out of Memory".toList ∧
      ∀ more, crashMessage? ("thread 7 panic: Out of Memory\r" ++ more) = some "out of memory" := by
  have hfound : Form.thread.Found "thread 7 panic: Out of Memory\r".toList [] []
      "Out of Memory".toList :=
    ⟨_, rfl, Form.fits_thread_iff.2 ⟨rfl, by decide +kernel⟩⟩
  have hmessage : crashMessage? "thread 7 panic: Out of Memory\r" = some "out of memory" := by
    decide +kernel
  obtain ⟨message, hfirst, hmore, -⟩ := message_stays hfound
  rw [hmessage] at hfirst
  exact ⟨hfound, hfirst ▸ hmore⟩

end Watchdog
