import Watchdog.Proofs.Outcome.CrashMessage
import Watchdog.Proofs.Report.Agreement
import Watchdog.Proofs.Text.Lowercase

/-!
# Tags that say nothing

What a command failed of is told in one word, the tag, and every output gives the same.  Five of the
six kinds of failure have a word for it whatever they carry.  The sixth is a crash, which is told by
its message alone, and nothing keeps a program from crashing without one: its header stands on the
error output and the line ends there, or the message begins with a line break (written as a
backslash and an `n`, since no other can stand in it).  Then the tag is empty.  `tag_of_failed` says
that this happens to no other command.
-/

namespace Watchdog

open Text

/-! ## Words for failures -/

lemma Signal.name_ne_empty (number : Int) : Signal.name number ≠ "" := by
  have htable : ∀ row ∈ table, row.2 ≠ "" := by decide
  unfold Signal.name
  cases hfind : table.find? (·.1 == number) with
  | some row => exact htable row (List.mem_of_find?_eq_some hfind)
  | none => simp [String.append_eq_empty_iff]

/-- Only what is told in the words of somebody else may be told in none. -/
lemma Failure.tag_eq_empty_iff (failure : Failure) :
    failure.tag = "" ↔ failure = .crash "" ∨ failure = .signal "" := by
  cases failure <;> simp [tag, String.append_eq_empty_iff]

/-! ## Crashes without a message -/

namespace CrashSignature

/-- The first line of the report is empty: there is no report, or it begins with a line break. -/
def IsBlank (raw : List Char) : Prop := raw = [] ∨ ['\\', 'n'] <+: raw

/-- The crash that the text reports has no message. -/
def ReportsBlank (s : List Char) : Prop := ∃ raw, Reports s raw ∧ IsBlank raw

lemma firstLine_eq_nil_iff {raw : List Char} : firstLine raw = [] ↔ raw = [] ∨ Breaks raw := by
  constructor
  · intro h
    cases raw with
    | nil => exact .inl rfl
    | cons c raw =>
      by_contra hnot
      rw [firstLine_of_not_breaks fun hbreaks => hnot (.inr hbreaks)] at h
      cases h
  · rintro (rfl | hbreaks)
    · rfl
    · exact firstLine_of_breaks hbreaks

namespace Form

variable {form : Form} {s before inside raw : List Char}

lemma phrase_mem_all_iff {text : List Char} :
    phrase text ∈ all ↔
      text = "Segmentation fault at address".toList ∨
        text = "Internal assertion failure".toList ∨
          text = "Illegal instruction at address".toList := by
  simp only [all, List.mem_cons, List.not_mem_nil, reduceCtorEq, phrase.injEq, false_or, or_false]

/-- No form reports more than a part of a line. -/
lemma Fits.newline_notMem (h : form.Fits s inside raw) (hform : form ∈ all) : '\n' ∉ raw := by
  cases h with
  | thread _ _ hline | generic _ hline =>
    obtain ⟨-, -, -, -, hn, -⟩ := hline
    exact hn
  | phrase rest => obtain rfl | rfl | rfl := phrase_mem_all_iff.mp hform <;> decide
  | address rest hinside => exact hinside

/-- The form leaves open what the message is. -/
def Open (form : Form) : Prop := form = thread ∨ form = generic ∨ form = address

/-- The other forms report the same phrase each time. -/
lemma Fits.open_of_isBlank (h : form.Fits s inside raw) (hform : form ∈ all)
    (hblank : IsBlank raw) : form.Open := by
  cases h with
  | thread => exact .inl rfl
  | generic => exact .inr (.inl rfl)
  | phrase rest =>
    unfold IsBlank at hblank
    obtain rfl | rfl | rfl := phrase_mem_all_iff.mp hform <;> exact absurd hblank (by decide)
  | address => exact .inr (.inr rfl)

end Form

variable {s raw : List Char}

/-- The form that a report comes from occurs in the text. -/
lemma Reports.exists_found (h : Reports s raw) :
    ∃ form ∈ Form.all, ∃ before inside, form.Found s before inside raw := by
  obtain ⟨earlier, form, later, hall, ⟨before, inside, hpicks⟩, -⟩ := h
  exact ⟨form, by simp [hall], before, inside, hpicks.found⟩

lemma Reports.newline_notMem (h : Reports s raw) : '\n' ∉ raw := by
  obtain ⟨form, hform, before, inside, rest, -, hfits⟩ := h.exists_found
  exact hfits.newline_notMem hform

lemma Reports.firstLine_eq_nil_iff (h : Reports s raw) : firstLine raw = [] ↔ IsBlank raw := by
  have hline : ¬ ['\n'] <+: raw := fun hbreak => h.newline_notMem (hbreak.subset (by simp))
  rw [CrashSignature.firstLine_eq_nil_iff, Breaks, IsBlank, or_iff_right hline]

lemma ReportsBlank.exists_found (h : ReportsBlank s) :
    ∃ form : Form, form.Open ∧
      ∃ before inside raw, form.Found s before inside raw ∧ IsBlank raw := by
  obtain ⟨raw, hreports, hblank⟩ := h
  obtain ⟨form, hform, before, inside, rest, hcut, hfits⟩ := hreports.exists_found
  exact ⟨form, hfits.open_of_isBlank hform hblank, before, inside, raw, ⟨rest, hcut, hfits⟩, hblank⟩

end CrashSignature

open CrashSignature

/-- A crash without a message is one whose report has no first line, as lower-casing takes nothing
away. -/
lemma crashMessage?_eq_empty_iff (stderr : String) :
    crashMessage? stderr = some "" ↔ ReportsBlank stderr.toList := by
  simp only [crashMessage?, Option.map_eq_some_iff, String.ofList_eq_empty_iff, lower_eq_nil_iff,
    raw?_eq_some_iff, ReportsBlank]
  exact exists_congr fun raw => and_congr_right Reports.firstLine_eq_nil_iff

/-- Only a crash report makes a failure of its message. -/
lemma TerminalState.failure?_verdict_eq_crash_iff (state : TerminalState) (platform : Platform)
    (message : String) :
    (state.verdict platform).failure? = some (.crash message) ↔
      ¬ state.clean = true ∧ state.launchFailure = none ∧
        crashMessage? state.stderr = some message := by
  have hcode : state.ofExitCode platform ≠ .crash message := by
    unfold ofExitCode
    repeat' split
    all_goals exact Failure.noConfusion
  cases state.ruling platform with
  | clean hclean h => simp [h, Verdict.failure?, hclean]
  | launchFailure f hlaunch h =>
    rw [h]
    split <;> simp [Verdict.failure?, hlaunch]
  | crash said hunclean hlaunched hcrash h =>
    simp [h, Verdict.failure?, hunclean, hlaunched, hcrash]
  | signal name hlaunched hcrash hsignal h =>
    rw [h]
    split <;> simp [Verdict.failure?, hcrash]
  | exitCode hunclean hlaunched hcrash hsignal h => simp [h, Verdict.failure?, hcrash, hcode]

/-- The name of a signal comes from the signal. -/
lemma TerminalState.signal_eq_of_failure? {state : TerminalState} {platform : Platform}
    {name : String} (h : (state.verdict platform).failure? = some (.signal name)) :
    state.signal = some name := by
  cases cause_of_failure h with
  | signal hname => exact hname

/-! ## Commands that failed -/

/-- How a report tells what its command failed of. -/
structure Tagged (state : TerminalState) (platform : Platform) (r : Report) (tag : String) :
    Prop where
  /-- Every output gives the tag. -/
  told : r.SaysFailed tag
  failure : ∃ failure, (state.verdict platform).failure? = some failure ∧ failure.tag = tag
  /-- It is empty exactly if the command was started and the crash it reports has no message. -/
  empty_iff : tag = "" ↔ state.launchFailure = none ∧ ReportsBlank state.stderr.toList
  /-- Such a crash is in one of the forms that leave the message open. -/
  found : tag = "" → ∃ form : Form, form.Open ∧ ∃ before inside raw,
    form.Found state.stderr.toList before inside raw ∧ IsBlank raw

/-- **A failure is told by a word,** unless it is a crash without a message. -/
theorem tag_of_failed {state : TerminalState} (platform : Platform)
    (hsignal : ∀ name, state.signal = some name → ∃ number, name = Signal.name number)
    (hfailed : (state.verdict platform).ok = false) (stdout : String) (timestamp : UInt64) :
    ∃ tag, Tagged state platform (Report.ofState state stdout timestamp platform) tag := by
  have hunclean : ¬ state.clean = true := by
    rw [← state.ok_verdict platform, hfailed]
    exact Bool.false_ne_true
  have hcause := Verdict.failure?_isSome (state.verdict platform)
  rw [hfailed, Bool.not_false, Option.isSome_iff_exists] at hcause
  obtain ⟨failure, hfailure⟩ := hcause
  -- Signals have names, so of what is told in the words of others only a crash may be empty.
  have hnamed : failure ≠ .signal "" := by
    rintro rfl
    obtain ⟨number, hname⟩ := hsignal "" (TerminalState.signal_eq_of_failure? hfailure)
    exact Signal.name_ne_empty number hname.symm
  have hempty : failure.tag = "" ↔
      state.launchFailure = none ∧ ReportsBlank state.stderr.toList := by
    have hcrash := state.failure?_verdict_eq_crash_iff platform ""
    rw [hfailure, Option.some.injEq] at hcrash
    rw [failure.tag_eq_empty_iff, or_iff_left hnamed, hcrash, and_iff_right hunclean,
      crashMessage?_eq_empty_iff]
  exact ⟨failure.tag, {
    told := Report.saysFailed hfailed hfailure
    failure := ⟨failure, hfailure, rfl⟩
    empty_iff := hempty
    found := fun h => (hempty.mp h).2.exists_found }⟩

/-- A thread that crashes with nothing to say leaves its command, which a signal ends, without a
tag. -/
theorem tag_of_silentCrash :
    let state : TerminalState :=
      ⟨none, some (Signal.name 6), none, "thread 7 panic: \n", some (.ofMillis 40), .ofSeconds 12⟩
    (state.verdict .current).ok = false ∧
      Tagged state .current (Report.ofState state "" 0 .current) "" ∧
      (Report.ofState state "" 0 .current).summary = "failed:  (signal SIGABRT, 40ms)" := by
  intro state
  have hfailed : (state.verdict .current).ok = false := state.ok_verdict .current
  have hblank : ReportsBlank state.stderr.toList :=
    (crashMessage?_eq_empty_iff _).mp (by decide +kernel)
  obtain ⟨tag, htagged⟩ := tag_of_failed .current
    (fun name hname => ⟨6, (Option.some.inj hname).symm⟩) hfailed "" 0
  obtain rfl : tag = "" := htagged.empty_iff.mpr ⟨rfl, hblank⟩
  exact ⟨hfailed, htagged, htagged.told.summary.trans (by decide +kernel)⟩

end Watchdog
