import Watchdog.Proofs.Outcome.CrashMessage
import Watchdog.Proofs.Outcome.Verdict
import Watchdog.Proofs.Text.Lowercase
import Watchdog.Report

/-!
# The summary is one line

The summary of a report tells how the command ended and, if it failed, of what.  Most of this is in
the words of this library; the rest is the name of a signal, code and message of a failed launch,
and the message of a crash.  The last comes out of an error output with any number of lines, and
still it has no line break: it is cut at the first one (`newline_notMem_firstLine`), and
lower-casing makes none of anything else (`Text.mem_of_mem_lower`).  So the summary is one line if
the names and texts given by the system are (`oneLine_summary`).
-/

namespace Watchdog

open Text

lemma isDigit_of_mem_toString {n : Nat} {c : Char} (hc : c ∈ (toString n).toList) :
    c.isDigit = true :=
  Nat.isDigit_of_mem_toDigits (by decide) (by decide) (Nat.toList_repr ▸ hc)

/-- A text without a line break. -/
def OneLine (text : String) : Prop := '\n' ∉ text.toList

instance (text : String) : Decidable (OneLine text) :=
  inferInstanceAs (Decidable ('\n' ∉ text.toList))

namespace OneLine

@[simp] lemma append_iff {s t : String} : OneLine (s ++ t) ↔ OneLine s ∧ OneLine t := by
  simp only [OneLine, String.toList_append, List.mem_append, not_or]

@[simp] lemma toString_nat (n : Nat) : OneLine (toString n) := by
  intro h
  exact absurd (isDigit_of_mem_toString h) (by decide)

@[simp] lemma toString_int (n : Int) : OneLine (toString n) := by
  cases n with
  | ofNat m => exact toString_nat m
  | negSucc m => exact append_iff.mpr ⟨by decide, toString_nat (m + 1)⟩

end OneLine

/-! ## The message of a crash -/

lemma CrashSignature.newline_notMem_firstLine (raw : List Char) : '\n' ∉ firstLine raw := by
  induction raw with
  | nil => exact List.not_mem_nil
  | cons c raw ih =>
    by_cases h : Breaks (c :: raw)
    · rw [firstLine_of_breaks h]
      exact List.not_mem_nil
    · have hc : '\n' ≠ c := by
        rintro rfl
        exact h (.inl ⟨raw, rfl⟩)
      rw [firstLine_of_not_breaks h, List.mem_cons, not_or]
      exact ⟨hc, ih⟩

lemma oneLine_crashMessage? {stderr message : String} (h : crashMessage? stderr = some message) :
    OneLine message := by
  obtain ⟨raw, -, rfl⟩ := Option.map_eq_some_iff.mp h
  rw [OneLine, String.toList_ofList]
  exact fun hn => CrashSignature.newline_notMem_firstLine raw (mem_of_mem_lower (by decide) hn)

/-! ## What a command failed of -/

namespace TerminalState

lemma oneLine_exitText (platform : Platform) (code : Int32) : OneLine (platform.exitText code) := by
  have hreasons : ∀ row ∈ Platform.exceptions, OneLine row.2 := by decide
  unfold Platform.exitText
  cases hreason : platform.exitReason? code with
  | none => exact OneLine.toString_int _
  | some reason => exact hreasons _ (Platform.mem_exceptions_of_exitReason? hreason)

lemma oneLine_tag {state : TerminalState} {platform : Platform} {failure : Failure}
    (hsignal : ∀ name, state.signal = some name → OneLine name)
    (h : (state.verdict platform).failure? = some failure) : OneLine failure.tag := by
  cases cause_of_failure h with
  | timeout => decide
  | launch => decide
  | crash hcrash => exact oneLine_crashMessage? hcrash
  | signal hname => exact hsignal _ hname
  | failing => exact OneLine.append_iff.mpr ⟨OneLine.toString_nat _, by decide⟩
  | code => exact OneLine.append_iff.mpr ⟨by decide, oneLine_exitText platform _⟩

end TerminalState

/-! ## Summaries -/

namespace Report

variable {state : TerminalState}

lemma oneLine_endText {r : Report} (hsignal : ∀ name, r.signal = some name → OneLine name)
    (hlaunch : ∀ f, r.launchFailure = some f → OneLine f.code ∧ OneLine f.message) :
    OneLine r.endText := by
  unfold endText
  cases hf : r.launchFailure with
  | some f =>
    obtain ⟨hcode, hmessage⟩ := hlaunch f hf
    simp only [LaunchFailure.text, OneLine.append_iff]
    exact ⟨⟨hcode, by decide⟩, hmessage⟩
  | none =>
    cases hname : r.signal with
    | some name => exact OneLine.append_iff.mpr ⟨by decide, hsignal name hname⟩
    | none =>
      cases r.exitCode with
      | some code => exact OneLine.append_iff.mpr ⟨by decide, OneLine.toString_int _⟩
      | none => decide

/-- A summary consists of the tag and the end, and of words around them. -/
lemma oneLine_summary_of_parts {r : Report}
    (htag : ∀ failure, r.error = some failure → OneLine failure.tag) (hend : OneLine r.endText)
    (hduration : OneLine r.duration) : OneLine r.summary := by
  have hdetail : OneLine (" (" ++ r.endText ++ ", " ++ r.duration ++ "ms)") := by
    simp only [OneLine.append_iff, hend, hduration, and_true]
    decide
  unfold summary
  cases herror : r.error with
  | none => exact OneLine.append_iff.mpr ⟨by decide, hdetail⟩
  | some failure =>
    dsimp only
    split
    · exact OneLine.append_iff.mpr ⟨by decide, hdetail⟩
    · exact OneLine.append_iff.mpr
        ⟨OneLine.append_iff.mpr ⟨by decide, htag failure herror⟩, hdetail⟩

/-- **The summary is one line,** whatever the command printed, if the system names signals and
failed launches on one line; and no crash is reported with a message of several lines. -/
theorem oneLine_summary (hsignal : ∀ name, state.signal = some name → OneLine name)
    (hlaunch : ∀ f, state.launchFailure = some f → OneLine f.code ∧ OneLine f.message)
    (stdout : String) (timestamp : UInt64) (platform : Platform) :
    OneLine (ofState state stdout timestamp platform).summary ∧
      ∀ stderr message, crashMessage? stderr = some message → OneLine message :=
  ⟨oneLine_summary_of_parts (fun _ => TerminalState.oneLine_tag hsignal)
      (oneLine_endText hsignal hlaunch) (OneLine.toString_nat _),
    fun _ _ => oneLine_crashMessage?⟩

/-- Neither the lines of the error output nor those of the stack come into the summary. -/
theorem oneLine_of_busyFile :
    let f : LaunchFailure := ⟨"ETXTBSY", "Text file busy", some "frame 0\nframe 1"⟩
    let state : TerminalState :=
      ⟨none, some "SIGKILL", some f, "line 1\nline 2\n", none, .ofSeconds 12⟩
    let r := ofState state "line 3\nline 4\n" 0 .current
    (∀ name, state.signal = some name → OneLine name) ∧
      (∀ f, state.launchFailure = some f → OneLine f.code ∧ OneLine f.message) ∧
      OneLine r.summary ∧ ¬ OneLine r.stderr ∧ ¬ OneLine r.stdout := by
  intro f state r
  have hsignal : ∀ name, state.signal = some name → OneLine name := by
    rintro _ ⟨⟩
    decide
  have hlaunch : ∀ f, state.launchFailure = some f → OneLine f.code ∧ OneLine f.message := by
    rintro _ ⟨⟩
    decide
  exact ⟨hsignal, hlaunch, (oneLine_summary hsignal hlaunch _ 0 .current).1, by decide +kernel,
    by decide⟩

end Report

end Watchdog
