import Mathlib
import Watchdog.Outcome.Verdict
import Watchdog.Proofs.Text.Search

/-!
# What verdicts depend on

A verdict comes from the first of seven rules that applies.  First comes a lemma for each rule (the
last three of them are told apart in `TerminalState.ofExitCode`), and all together as the cases of
`TerminalState.Ruling`, so that no later proof has to open the verdict.  Each of the other lemmas
answers one question for all rules at once: what takes the place of the error output, when the
command counts as one that took too long, where a failure comes from (`TerminalState.Cause`), and how
much of the measured time matters.
-/

namespace Watchdog

/-! ## Messages that speak of a timeout -/

/-- A letter in either case is a letter that is that one in small. -/
lemma eqIgnoringCase_iff {small c : Char} (h : small.isLower = true) :
    eqIgnoringCase small c = true ↔ c.toLower = small := by
  have ha : 'a'.val.toNat = 97 := rfl
  have hz : 'z'.val.toNat = 122 := rfl
  have hA : 'A'.val.toNat = 65 := rfl
  have hZ : 'Z'.val.toNat = 90 := rfl
  have hdown : ('a'.val - 'A'.val).toNat = 32 := rfl
  have hup : ('A'.val - 'a'.val).toNat = 4294967264 := rfl
  have hc : c.val.toNat < 4294967296 := c.val.toNat_lt
  simp only [eqIgnoringCase, Bool.or_eq_true, beq_iff_eq, Char.isLower, Char.toUpper, Char.toLower,
    Bool.and_eq_true, decide_eq_true_eq, ge_iff_le, UInt32.le_iff_toNat_le, Char.ext_iff] at h ⊢
  split <;> split <;>
    simp only [← UInt32.toNat_inj, UInt32.toNat_add] <;> omega

/-- `timed out` or `timed-out`, in any case. -/
def SaysTimedOut (word : List Char) : Prop :=
  ∃ first sep last, word = first ++ sep :: last ∧
    first.map Char.toLower = ['t', 'i', 'm', 'e', 'd'] ∧ (sep = ' ' ∨ sep = '-') ∧
    last.map Char.toLower = ['o', 'u', 't']

lemma timedOut?_isSome_iff (text : List Char) :
    (timedOut? text).isSome = true ↔ ∃ word rest, text = word ++ rest ∧ SaysTimedOut word := by
  constructor
  · intro h
    unfold timedOut? at h
    split at h
    · rename_i t i m e d sep o u t' rest
      split at h
      · rename_i hall
        simp only [Bool.and_eq_true, List.all_cons, List.all_nil, Bool.or_eq_true, beq_iff_eq,
          and_true, and_assoc] at hall
        obtain ⟨ht, hi, hm, he, hd, ho, hu, ht', hsep⟩ := hall
        rw [eqIgnoringCase_iff (by decide)] at ht hi hm he hd ho hu ht'
        exact ⟨[t, i, m, e, d, sep, o, u, t'], rest, rfl, [t, i, m, e, d], sep, [o, u, t'], rfl,
          by simp [ht, hi, hm, he, hd], hsep, by simp [ho, hu, ht']⟩
      · exact nomatch h
    · exact nomatch h
  · rintro ⟨word, rest, rfl, first, sep, last, rfl, hfirst, hsep, hlast⟩
    simp only [List.map_eq_cons_iff, List.map_eq_nil_iff] at hfirst hlast
    obtain ⟨t, _, rfl, ht, i, _, rfl, hi, m, _, rfl, hm, e, _, rfl, he, d, _, rfl, hd, rfl⟩ :=
      hfirst
    obtain ⟨o, _, rfl, ho, u, _, rfl, hu, t', _, rfl, ht', rfl⟩ := hlast
    rw [← eqIgnoringCase_iff (by decide)] at ht hi hm he hd ho hu ht'
    simp [timedOut?, ht, hi, hm, he, hd, ho, hu, ht', hsep]

/-- A message speaks of a timeout if it says so anywhere. -/
lemma mentionsTimeout_iff (message : String) :
    mentionsTimeout message = true ↔
      ∃ before word after, message.toList = before ++ word ++ after ∧ SaysTimedOut word := by
  rw [mentionsTimeout, Option.isSome_iff_ne_none, ne_eq, Text.firstMatch_eq_none]
  simp only [not_forall, exists_prop, ← ne_eq, ← Option.isSome_iff_ne_none, timedOut?_isSome_iff]
  constructor
  · rintro ⟨before, _, hcut, word, after, rfl, hword⟩
    exact ⟨before, word, after, by rw [hcut, List.append_assoc], hword⟩
  · rintro ⟨before, word, after, hcut, hword⟩
    exact ⟨before, word ++ after, by rw [hcut, List.append_assoc], word, after, rfl, hword⟩

namespace TerminalState

variable {state : TerminalState}

/-! ## The rules

What each rule says of a state that no earlier rule has decided. -/

lemma clean_iff (state : TerminalState) :
    state.clean = true ↔
      state.exitCode = some 0 ∧ state.signal = none ∧ state.launchFailure = none := by
  simp [clean, and_assoc]

/-- Neither success nor a failed launch: the rules from the third on decide. -/
structure Ended (state : TerminalState) : Prop where
  unclean : ¬ (state.exitCode = some 0 ∧ state.signal = none)
  launched : state.launchFailure = none

lemma Ended.not_clean (h : state.Ended) : ¬ state.clean = true := by
  rw [clean_iff]
  exact fun hclean => h.unclean ⟨hclean.1, hclean.2.1⟩

lemma verdict_of_clean (hclean : state.clean = true) (platform : Platform) :
    state.verdict platform = .success := by
  rw [verdict, if_pos hclean]

lemma verdict_of_launchFailure {f : LaunchFailure} (hlaunch : state.launchFailure = some f)
    (platform : Platform) :
    state.verdict platform =
      if mentionsTimeout f.message then .failed .timeout none
      else .failed .launch (some f.diagnostic) := by
  have hunclean : ¬ state.clean = true := by simp [clean_iff, hlaunch]
  rw [verdict, if_neg hunclean, hlaunch]

lemma verdict_of_crash {message : String} (hunclean : ¬ state.clean = true)
    (hlaunched : state.launchFailure = none) (hcrash : crashMessage? state.stderr = some message)
    (platform : Platform) : state.verdict platform = .failed (.crash message) none := by
  rw [verdict, if_neg hunclean, hlaunched]
  simp only [hcrash]

lemma verdict_of_signal {name : String} (hlaunched : state.launchFailure = none)
    (hcrash : crashMessage? state.stderr = none) (hsignal : state.signal = some name)
    (platform : Platform) :
    state.verdict platform =
      if name = "SIGTERM" ∧ state.timeout ≤ state.elapsed then .failed .timeout none
      else .failed (.signal name) none := by
  have hunclean : ¬ state.clean = true := by simp [clean_iff, hsignal]
  rw [verdict, if_neg hunclean, hlaunched]
  simp only [hcrash, hsignal]

lemma verdict_of_exitCode (hunclean : ¬ state.clean = true)
    (hlaunched : state.launchFailure = none) (hcrash : crashMessage? state.stderr = none)
    (hsignal : state.signal = none) (platform : Platform) :
    state.verdict platform = .failed (state.ofExitCode platform) none := by
  rw [verdict, if_neg hunclean, hlaunched]
  simp only [hcrash, hsignal]

/-- The rule that decides about a command, why it does, and what it says. -/
inductive Ruling (state : TerminalState) (platform : Platform) : Prop where
  | clean (hclean : state.clean = true) (h : state.verdict platform = .success)
  | launchFailure (f : LaunchFailure) (hlaunch : state.launchFailure = some f)
      (h : state.verdict platform =
        if mentionsTimeout f.message then .failed .timeout none
        else .failed .launch (some f.diagnostic))
  | crash (message : String) (hunclean : ¬ state.clean = true)
      (hlaunched : state.launchFailure = none)
      (hcrash : crashMessage? state.stderr = some message)
      (h : state.verdict platform = .failed (.crash message) none)
  | signal (name : String) (hlaunched : state.launchFailure = none)
      (hcrash : crashMessage? state.stderr = none) (hsignal : state.signal = some name)
      (h : state.verdict platform =
        if name = "SIGTERM" ∧ state.timeout ≤ state.elapsed then .failed .timeout none
        else .failed (.signal name) none)
  | exitCode (hunclean : ¬ state.clean = true) (hlaunched : state.launchFailure = none)
      (hcrash : crashMessage? state.stderr = none) (hsignal : state.signal = none)
      (h : state.verdict platform = .failed (state.ofExitCode platform) none)

lemma ruling (state : TerminalState) (platform : Platform) : state.Ruling platform := by
  by_cases hclean : state.clean = true
  · exact .clean hclean (verdict_of_clean hclean platform)
  cases hlaunch : state.launchFailure with
  | some f => exact .launchFailure f hlaunch (verdict_of_launchFailure hlaunch platform)
  | none =>
    cases hcrash : crashMessage? state.stderr with
    | some message =>
      exact .crash message hclean hlaunch hcrash (verdict_of_crash hclean hlaunch hcrash platform)
    | none =>
      cases hsignal : state.signal with
      | some name =>
        exact .signal name hlaunch hcrash hsignal (verdict_of_signal hlaunch hcrash hsignal platform)
      | none =>
        exact .exitCode hclean hlaunch hcrash hsignal
          (verdict_of_exitCode hclean hlaunch hcrash hsignal platform)

/-! ## Success -/

/-- Success is a clean end and nothing else, whatever the error output says. -/
lemma ok_verdict (state : TerminalState) (platform : Platform) :
    (state.verdict platform).ok = state.clean := by
  unfold verdict
  cases state.clean with
  | true => rfl
  | false =>
    rw [if_neg Bool.false_ne_true]
    repeat' split
    all_goals rfl

/-! ## The error output -/

/-- Only a failed launch puts something else in the place of the error output, and not even that
does if its message speaks of a timeout. -/
lemma stderrInstead?_verdict (state : TerminalState) (platform : Platform) :
    (state.verdict platform).stderrInstead? =
      state.launchFailure.bind fun f =>
        if mentionsTimeout f.message then none else some f.diagnostic := by
  cases state.ruling platform with
  | clean hclean h => rw [h, (state.clean_iff.mp hclean).2.2]; rfl
  | launchFailure f hlaunch h =>
    rw [h, hlaunch, Option.bind_some]
    split <;> rfl
  | crash message _ hlaunched _ h => rw [h, hlaunched]; rfl
  | signal name hlaunched _ _ h =>
    rw [h, hlaunched]
    split <;> rfl
  | exitCode _ hlaunched _ _ h => rw [h, hlaunched]; rfl

/-! ## Taking too long -/

lemma ofExitCode_eq_timeout_iff (state : TerminalState) (platform : Platform) :
    state.ofExitCode platform = .timeout ↔ state.exitCode = none := by
  unfold ofExitCode
  repeat' split
  all_goals simp_all

/-- A command that was started took too long exactly if it reported no crash and either nothing is
known of its end, or it was asked to stop no earlier than at its time limit. -/
lemma failure?_verdict_eq_timeout_iff (hlaunched : state.launchFailure = none)
    (platform : Platform) :
    (state.verdict platform).failure? = some .timeout ↔
      crashMessage? state.stderr = none ∧
        ((state.exitCode = none ∧ state.signal = none) ∨
          (state.signal = some "SIGTERM" ∧ state.timeout ≤ state.elapsed)) := by
  cases state.ruling platform with
  | clean hclean h =>
    obtain ⟨hcode, hsignal, -⟩ := state.clean_iff.mp hclean
    simp [h, Verdict.failure?, hcode, hsignal]
  | launchFailure f hlaunch => simp [hlaunched] at hlaunch
  | crash message _ _ hcrash h => simp [h, Verdict.failure?, hcrash]
  | signal name _ hcrash hsignal h =>
    by_cases hlate : name = "SIGTERM" ∧ state.timeout ≤ state.elapsed
    · simp [h, Verdict.failure?, hcrash, hsignal, hlate]
    · simp [h, Verdict.failure?, hsignal, hlate]
  | exitCode _ _ hcrash hsignal h =>
    simp [h, Verdict.failure?, ofExitCode_eq_timeout_iff, hcrash, hsignal]

end TerminalState

/-! ## Where failures come from -/

namespace Platform

/-- An exit code in words: the exception that it stands for, else its number. -/
def exitText (platform : Platform) (code : Int32) : String :=
  (platform.exitReason? code).getD (toString code.toInt)

lemma exitText_one (platform : Platform) : platform.exitText 1 = "1" := by
  obtain ⟨windows⟩ := platform
  cases windows <;> decide

lemma mem_exceptions_of_exitReason? {platform : Platform} {code : Int32} {reason : String}
    (h : platform.exitReason? code = some reason) :
    (code.toUInt32.toNat, reason) ∈ exceptions := by
  unfold exitReason? at h
  split at h
  · obtain ⟨row, hrow, rfl⟩ := Option.map_eq_some_iff.mp h
    have hnumber : row.1 = code.toUInt32.toNat := by simpa using List.find?_some hrow
    rw [← hnumber]
    exact List.mem_of_find?_eq_some hrow
  · cases h

end Platform

namespace TerminalState

variable {state : TerminalState}

/-- What each failure takes from the state. -/
inductive Cause (state : TerminalState) (platform : Platform) : Failure → Prop
  | timeout : Cause state platform .timeout
  | launch : Cause state platform .launch
  | crash {message : String} :
    crashMessage? state.stderr = some message → Cause state platform (.crash message)
  | signal {name : String} : state.signal = some name → Cause state platform (.signal name)
  | failing {count : UInt64} :
    failCount? state.stderr = some count → Cause state platform (.failing count)
  | code {code : Int32} :
    state.exitCode = some code → Cause state platform (.code (platform.exitText code))

lemma cause_ofExitCode (state : TerminalState) (platform : Platform) :
    state.Cause platform (state.ofExitCode platform) := by
  unfold ofExitCode
  cases hcode : state.exitCode with
  | none => exact .timeout
  | some code =>
    dsimp only
    by_cases hone : code = 1
    · subst hone
      rw [if_pos rfl]
      cases hcount : failCount? state.stderr with
      | some count => exact .failing hcount
      | none =>
        rw [← platform.exitText_one]
        exact .code hcode
    · rw [if_neg hone]
      exact .code hcode

lemma cause_of_failure {platform : Platform} {f : Failure}
    (h : (state.verdict platform).failure? = some f) : state.Cause platform f := by
  cases state.ruling platform with
  | clean _ hverdict =>
    rw [hverdict] at h
    cases h
  | launchFailure _ _ hverdict =>
    rw [hverdict] at h
    split at h <;> obtain rfl := Option.some.inj h
    · exact .timeout
    · exact .launch
  | crash message _ _ hcrash hverdict =>
    rw [hverdict] at h
    obtain rfl := Option.some.inj h
    exact .crash hcrash
  | signal name _ _ hname hverdict =>
    rw [hverdict] at h
    split at h <;> obtain rfl := Option.some.inj h
    · exact .timeout
    · exact .signal hname
  | exitCode _ _ _ _ hverdict =>
    rw [hverdict] at h
    obtain rfl := Option.some.inj h
    exact cause_ofExitCode state platform

/-! ## Measured time -/

/-- Of the measured time only matters whether it reached the time limit. -/
lemma verdict_eq_of_late_iff (state : TerminalState) {duration : Option Duration}
    (h : state.timeout ≤ duration.getD ⟨0⟩ ↔ state.timeout ≤ state.elapsed) (platform : Platform) :
    ({ state with duration := duration } : TerminalState).verdict platform =
      state.verdict platform := by
  simp only [elapsed] at h
  by_cases hlate : state.timeout ≤ state.duration.getD ⟨0⟩
  · simp only [verdict, clean, ofExitCode, elapsed, hlate, h.mpr hlate]
  · simp only [verdict, clean, ofExitCode, elapsed, hlate, mt h.mp hlate]

end TerminalState

end Watchdog
