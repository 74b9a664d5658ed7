import Watchdog.Proofs.Outcome.Verdict

/-!
# What a rule hides from the verdict

The first rule that applies decides, so whatever only later rules look at is hidden: two commands
may differ there and still get the same verdict.  `Screening` says this of any two commands, on any
two platforms, rule by rule, and also what each rule does look at.  The lemmas before it are about
one command: what becomes of a request to stop, of an exit code and of a failed launch.
-/

namespace Watchdog

namespace TerminalState

variable {state : TerminalState}

/-! ## Signals -/

/-- The signal that asks a command to stop is the one whose meaning depends on the time taken. -/
lemma verdict_of_sigterm (hlaunched : state.launchFailure = none)
    (hcrash : crashMessage? state.stderr = none) (hsignal : state.signal = some "SIGTERM")
    (platform : Platform) :
    state.verdict platform =
      if state.timeout ≤ state.elapsed then .failed .timeout none
      else .failed (.signal "SIGTERM") none := by
  simp only [verdict_of_signal hlaunched hcrash hsignal, true_and]

/-! ## Exit codes -/

/-- The error output is read for exit code 1 only, and the platform for codes other than 0 and 1. -/
lemma ofExitCode_congr {s t : TerminalState} {p q : Platform} (hcode : s.exitCode = t.exitCode)
    (hcount : s.exitCode = some 1 → failCount? s.stderr = failCount? t.stderr)
    (hplatform : ∀ code, s.exitCode = some code → code ≠ 1 → p = q) :
    s.ofExitCode p = t.ofExitCode q := by
  unfold ofExitCode
  rw [← hcode]
  cases hs : s.exitCode with
  | none => rfl
  | some code =>
    dsimp only
    by_cases hone : code = 1
    · subst hone
      rw [if_pos rfl, if_pos rfl, hcount hs]
    · rw [if_neg hone, if_neg hone, hplatform code hs hone]

/-- Other codes are told by the reason that the platform has for them, else by number. -/
lemma ofExitCode_of_other {code : Int32} (hcode : state.exitCode = some code) (hone : code ≠ 1)
    (platform : Platform) :
    state.ofExitCode platform =
      .code ((platform.exitReason? code).getD (toString code.toInt)) := by
  simp only [ofExitCode, hcode, if_neg hone]

/-! ## Failed launches -/

lemma ofExitCode_ne_launch (state : TerminalState) (platform : Platform) :
    state.ofExitCode platform ≠ .launch := by
  unfold ofExitCode
  repeat' split
  all_goals exact Failure.noConfusion

/-- No other rule calls a command one that was not started. -/
lemma failure?_verdict_eq_launch_iff (state : TerminalState) (platform : Platform) :
    (state.verdict platform).failure? = some .launch ↔
      ∃ f, state.launchFailure = some f ∧ mentionsTimeout f.message = false := by
  cases state.ruling platform with
  | clean hclean h => simp [h, Verdict.failure?, (state.clean_iff.mp hclean).2.2]
  | launchFailure f hlaunch h =>
    cases hmention : mentionsTimeout f.message <;> simp [h, Verdict.failure?, hlaunch, hmention]
  | crash message _ hlaunched _ h => simp [h, Verdict.failure?, hlaunched]
  | signal name hlaunched _ _ h =>
    rw [h, hlaunched]
    split <;> simp [Verdict.failure?]
  | exitCode _ hlaunched _ _ h => simp [h, Verdict.failure?, hlaunched, ofExitCode_ne_launch]

/-- What replaces the error output comes from the failed launch that the verdict names. -/
lemma stderrInstead?_verdict_eq_some_iff (state : TerminalState) (platform : Platform)
    (text : String) :
    (state.verdict platform).stderrInstead? = some text ↔
      (state.verdict platform).failure? = some .launch ∧
        ∃ f, state.launchFailure = some f ∧ text = f.stack.getD f.message := by
  rw [failure?_verdict_eq_launch_iff, stderrInstead?_verdict]
  cases hlaunch : state.launchFailure with
  | none => simp
  | some f =>
    cases hmention : mentionsTimeout f.message with
    | true => simp [hmention]
    | false => simp [hmention, LaunchFailure.diagnostic, eq_comm (b := text)]

end TerminalState

/-! ## Two commands -/

/-- An end that no crash report explains. -/
structure TerminalState.EndedQuietly (state : TerminalState) : Prop extends state.Ended where
  quiet : crashMessage? state.stderr = none

/-- What is hidden from the verdicts on two commands, each on its own platform. -/
structure Screening (s t : TerminalState) (p q : Platform) : Prop where
  /-- Of a failed launch, the message and the stack are all that counts. -/
  launchFailure : ∀ f g, s.launchFailure = some f → t.launchFailure = some g →
    f.message = g.message → f.stack = g.stack →
      s.verdict p = t.verdict q ∧
        ((s.verdict p).failure? = some .timeout ∨ (s.verdict p).failure? = some .launch)
  success : (s.exitCode = some 0 ∧ s.signal = none ∧ s.launchFailure = none) →
    (t.exitCode = some 0 ∧ t.signal = none ∧ t.launchFailure = none) →
      s.verdict p = .success ∧ t.verdict q = .success
  /-- A crash report is all that counts where there is one. -/
  crash : ∀ message, s.Ended → t.Ended → crashMessage? s.stderr = some message →
    crashMessage? t.stderr = some message →
      s.verdict p = .failed (.crash message) none ∧ t.verdict q = .failed (.crash message) none
  /-- Of a signal only the name counts, and for the one that asks a command to stop, whether the
  time limit had been reached. -/
  signal : ∀ name, s.EndedQuietly → t.EndedQuietly → s.signal = some name →
    t.signal = some name → (name = "SIGTERM" →
      (s.timeout ≤ s.duration.getD ⟨0⟩ ↔ t.timeout ≤ t.duration.getD ⟨0⟩)) →
      s.verdict p = t.verdict q
  signalName : ∀ name, s.EndedQuietly → s.signal = some name → name ≠ "SIGTERM" →
    s.verdict p = .failed (.signal name) none
  /-- That signal means a timeout exactly from the time limit on, -/
  sigterm : s.EndedQuietly → s.signal = some "SIGTERM" →
    s.verdict p = if s.timeout ≤ s.duration.getD ⟨0⟩ then .failed .timeout none
      else .failed (.signal "SIGTERM") none
  /-- so whatever took longer took too long as well. -/
  sigterm_mono : s.EndedQuietly → t.EndedQuietly → s.signal = some "SIGTERM" →
    t.signal = some "SIGTERM" → t.timeout ≤ s.timeout →
    s.duration.getD ⟨0⟩ ≤ t.duration.getD ⟨0⟩ →
      s.verdict p = .failed .timeout none → t.verdict q = .failed .timeout none
  /-- Without a signal the time taken does not count.  The error output does for exit code 1 and the
  platform for codes other than 0 and 1. -/
  exitCode : s.EndedQuietly → t.EndedQuietly → s.signal = none → t.signal = none →
    s.exitCode = t.exitCode →
    (s.exitCode = some 1 → failCount? s.stderr = failCount? t.stderr) →
    (∀ code, s.exitCode = some code → code ≠ 0 → code ≠ 1 → p = q) →
      s.verdict p = t.verdict q
  /-- For such a code the platform may know a reason. -/
  otherCode : ∀ code, s.EndedQuietly → s.signal = none → s.exitCode = some code → code ≠ 1 →
    s.verdict p = .failed (.code ((p.exitReason? code).getD (toString code.toInt))) none
  ok : (s.verdict p).ok = true ↔ (s.verdict p).failure? = none
  /-- The error output is replaced exactly where the launch failed for another reason than time. -/
  stderrInstead : ∀ text, (s.verdict p).stderrInstead? = some text ↔
    (s.verdict p).failure? = some .launch ∧
      ∃ f, s.launchFailure = some f ∧ text = f.stack.getD f.message

/-- **The first rule that applies decides.**  Of any two commands, on any platforms: what only later
rules look at is hidden from the verdicts. -/
theorem screening (s t : TerminalState) (p q : Platform) : Screening s t p q := by
  constructor
  case launchFailure =>
    intro f g hf hg hmessage hstack
    have hdiagnostic : f.diagnostic = g.diagnostic := by
      rw [LaunchFailure.diagnostic, LaunchFailure.diagnostic, hmessage, hstack]
    rw [s.verdict_of_launchFailure hf, t.verdict_of_launchFailure hg, hmessage, hdiagnostic]
    refine ⟨rfl, ?_⟩
    cases mentionsTimeout g.message with
    | true => exact .inl rfl
    | false => exact .inr rfl
  case success =>
    intro hs ht
    exact ⟨s.verdict_of_clean (s.clean_iff.mpr hs) p, t.verdict_of_clean (t.clean_iff.mpr ht) q⟩
  case crash =>
    intro message hs ht hcrash hcrash'
    exact ⟨s.verdict_of_crash hs.not_clean hs.launched hcrash p,
      t.verdict_of_crash ht.not_clean ht.launched hcrash' q⟩
  case signal =>
    intro name hs ht hsignal hsignal' hlate
    rw [s.verdict_of_signal hs.launched hs.quiet hsignal,
      t.verdict_of_signal ht.launched ht.quiet hsignal']
    exact if_congr (and_congr_right hlate) rfl rfl
  case signalName =>
    intro name hs hsignal hother
    rw [s.verdict_of_signal hs.launched hs.quiet hsignal, if_neg fun h => hother h.1]
  case sigterm => exact fun hs hsignal => s.verdict_of_sigterm hs.launched hs.quiet hsignal p
  case sigterm_mono =>
    intro hs ht hsignal hsignal' htimeout hlonger hlate
    rw [s.verdict_of_sigterm hs.launched hs.quiet hsignal, ite_eq_left_iff] at hlate
    have hreached : s.timeout ≤ s.elapsed := by
      by_contra hnot
      exact Failure.noConfusion (Verdict.failed.inj (hlate hnot)).1
    have hreached' : t.timeout ≤ t.elapsed :=
      Nat.le_trans htimeout (Nat.le_trans hreached hlonger)
    rw [t.verdict_of_sigterm ht.launched ht.quiet hsignal', if_pos hreached']
  case exitCode =>
    intro hs ht hsignal hsignal' hcode hcount hplatform
    rw [s.verdict_of_exitCode hs.not_clean hs.launched hs.quiet hsignal,
      t.verdict_of_exitCode ht.not_clean ht.launched ht.quiet hsignal']
    congr 1
    refine TerminalState.ofExitCode_congr hcode hcount fun code hs' hone => ?_
    have hzero : code ≠ 0 := by
      rintro rfl
      exact hs.unclean ⟨hs', hsignal⟩
    exact hplatform code hs' hzero hone
  case otherCode =>
    intro code hs hsignal hcode hone
    rw [s.verdict_of_exitCode hs.not_clean hs.launched hs.quiet hsignal,
      s.ofExitCode_of_other hcode hone]
  case ok => cases s.verdict p <;> simp [Verdict.ok, Verdict.failure?]
  case stderrInstead => exact s.stderrInstead?_verdict_eq_some_iff p

/-- Without a measurement no time has passed, which is late where none was allowed. -/
example :
    (⟨some 3, some "SIGTERM", none, "", none, ⟨0⟩⟩ : TerminalState).verdict .current =
      .failed .timeout none := by
  decide +kernel

end Watchdog
