import Mathlib
import Watchdog.Proofs.Outcome.Verdict

/-!
# The count of failed tests

Behind exit code 1 the error output may tell how many tests failed.  The first red count in it
decides, even if it cannot be used and a later one could (`FirstRedCount`).  Its digits may be those
of any script, but only ASCII digits have a value here (`Counts`), and only values below 2^64 are
counts.  `verdict_of_counts` says what this means for the verdict: it is the count, or else the exit
code.  In the tag the count stands as in the error output, without the leading zeros.
-/

namespace Watchdog

/-! ## What digits are worth -/

namespace Numeral

lemma digitValue?_of_isDigit {c : Char} (h : c.isDigit = true) :
    digitValue? c = some (c.toNat - '0'.toNat) := by
  simp only [Char.isDigit, Bool.and_eq_true, decide_eq_true_eq] at h
  exact if_pos h

lemma digitValue?_of_not_isDigit {c : Char} (h : ¬ c.isDigit = true) : digitValue? c = none := by
  simp only [Char.isDigit, Bool.and_eq_true, decide_eq_true_eq] at h
  exact if_neg h

/-- Further digits make no value smaller. -/
lemma le_ofDigitChars (ds : List Char) (acc : Nat) : acc ≤ Nat.ofDigitChars 10 ds acc := by
  induction ds generalizing acc with
  | nil => rfl
  | cons d ds ih =>
    rw [Nat.ofDigitChars_cons]
    exact le_trans (by omega) (ih _)

/-- Reading stops at the first fault, and still it succeeds exactly if all are digits and their value
is within the limit. -/
lemma readDigits_eq_ok_iff {limit acc n : Nat} {past : NumeralError} (hacc : acc ≤ limit)
    (ds : List Char) :
    readDigits limit past acc ds = .ok n ↔
      (∀ c ∈ ds, c.isDigit = true) ∧ Nat.ofDigitChars 10 ds acc = n ∧ n ≤ limit := by
  induction ds generalizing acc with
  | nil =>
    simp only [readDigits, Except.ok.injEq, List.not_mem_nil, false_implies, implies_true,
      Nat.ofDigitChars_nil, true_and]
    exact ⟨fun h => ⟨h, h ▸ hacc⟩, fun h => h.1⟩
  | cons d ds ih =>
    rw [readDigits, Nat.ofDigitChars_cons, List.forall_mem_cons, Nat.mul_comm 10 acc]
    by_cases hd : d.isDigit = true
    · rw [digitValue?_of_isDigit hd]
      dsimp only
      split
      · rename_i hle
        rw [ih hle]
        simp only [hd, true_and]
      · rename_i hpast
        have hgrows := le_ofDigitChars ds (acc * 10 + (d.toNat - '0'.toNat))
        simp only [reduceCtorEq, false_iff]
        rintro ⟨-, rfl, hle⟩
        exact hpast (le_trans hgrows hle)
    · rw [digitValue?_of_not_isDigit hd]
      simp [hd]

lemma readNat_of_no_plus {limit : Nat} {ds : List Char} (hsome : ds ≠ []) (hplus : '+' ∉ ds) :
    readNat limit ds = readDigits limit .tooLarge 0 ds := by
  obtain ⟨d, ds, rfl⟩ := List.exists_cons_of_ne_nil hsome
  have hd : d ≠ '+' := fun h => hplus (h ▸ List.mem_cons_self)
  unfold readNat
  split <;> simp_all [readDigits1]

/-- A number of 64 bits is read from ASCII digits with its value, leading zeros allowed. -/
lemma readUInt64_eq_some_iff {ds : List Char} (hsome : ds ≠ []) (hplus : '+' ∉ ds) (n : UInt64) :
    (readUInt64 ds).toOption = some n ↔
      (∀ c ∈ ds, c.isDigit = true) ∧ Nat.ofDigitChars 10 ds 0 = n.toNat := by
  have hread : (readUInt64 ds).toOption = some n ↔
      readDigits 18446744073709551615 .tooLarge 0 ds = .ok n.toNat := by
    rw [readUInt64, readNat_of_no_plus hsome hplus]
    cases hvalue : readDigits 18446744073709551615 .tooLarge 0 ds with
    | error e => simp [Except.map, Except.toOption]
    | ok m =>
      have hm : m < UInt64.size := by
        have := ((readDigits_eq_ok_iff (Nat.zero_le _) ds).1 hvalue).2.2
        exact Nat.lt_succ_of_le this
      simp only [Except.map, Except.toOption, Option.some.injEq, Except.ok.injEq]
      constructor
      · rintro rfl
        exact (UInt64.toNat_ofNat_of_lt hm).symm
      · rintro rfl
        exact UInt64.ofNat_toNat
  rw [hread, readDigits_eq_ok_iff (Nat.zero_le _)]
  have hn : n.toNat ≤ 18446744073709551615 := Nat.le_of_lt_succ n.toNat_lt
  simp only [hn, and_true]

lemma exists_digitChar {c : Char} (h : c.isDigit = true) : ∃ d < 10, c = Nat.digitChar d := by
  obtain ⟨hlow, hhigh⟩ : 48 ≤ c.toNat ∧ c.toNat ≤ 57 := by
    simpa [Char.isDigit, UInt32.le_iff_toNat_le] using h
  refine ⟨c.toNat - 48, by omega, Char.toNat_inj.mp ?_⟩
  rw [Nat.toNat_digitChar_of_lt_ten (by omega)]
  omega

/-- Digits are the decimal form of their value behind leading zeros. -/
lemma eq_zeros_append {ds : List Char} (hsome : ds ≠ []) (hds : ∀ c ∈ ds, c.isDigit = true) :
    ∃ zeros, ds = List.replicate zeros '0' ++ Nat.toDigits 10 (Nat.ofDigitChars 10 ds 0) := by
  induction ds using List.reverseRecOn with
  | nil => exact absurd rfl hsome
  | append_singleton ds c ih =>
    obtain ⟨d, hd, rfl⟩ := exists_digitChar (hds c (by simp))
    have hvalue : Nat.ofDigitChars 10 (ds ++ [d.digitChar]) 0 =
        10 * Nat.ofDigitChars 10 ds 0 + d := by
      rw [Nat.ofDigitChars_append, Nat.ofDigitChars_cons_digitChar_of_lt_ten hd,
        Nat.ofDigitChars_nil]
    rw [hvalue]
    by_cases hfirst : ds = []
    · subst hfirst
      exact ⟨0, by simp [Nat.toDigits_of_lt_base hd]⟩
    · obtain ⟨zeros, hds'⟩ := ih hfirst fun c hc => hds c (List.mem_append_left _ hc)
      generalize Nat.ofDigitChars 10 ds 0 = value at hds'
      rcases Nat.eq_zero_or_pos value with rfl | hpos
      · -- What came before is zeros only.
        refine ⟨zeros + 1, ?_⟩
        rw [hds', Nat.mul_zero, Nat.zero_add, Nat.toDigits_of_lt_base hd, List.replicate_succ']
        rfl
      · have hquot : (10 * value + d) / 10 = value := by omega
        have hrem : (10 * value + d) % 10 = d := by omega
        refine ⟨zeros, ?_⟩
        rw [Nat.toDigits_of_base_le (by decide) (by omega), hquot, hrem, hds', List.append_assoc]

end Numeral

/-! ## Red counts -/

namespace FailCount

open Text

/-- The text begins with a red count in these digits, `blanks` before them. -/
def RedCount (blanks digits s : List Char) : Prop :=
  ∃ rest, s = red ++ (blanks ++ (digits ++ (" fail".toList ++ rest))) ∧
    (∀ c ∈ blanks, isBlank c = true) ∧ digits ≠ [] ∧ ∀ c ∈ digits, isDigit c = true

/-- No white space counts as a digit. -/
lemma isBlank_of_isDigit {c : Char} (h : isDigit c = true) : isBlank c = false := by
  have happart : ∀ run ∈ digitRanges, ∀ run' ∈ blankRanges, run.2 < run'.1 ∨ run'.2 < run.1 := by
    decide
  obtain ⟨run, hrun, hlow, hhigh⟩ := inRanges_iff.1 h
  rw [Bool.eq_false_iff, isBlank, ne_eq, inRanges_iff]
  rintro ⟨run', hrun', hlow', hhigh'⟩
  have := happart run hrun run' hrun'
  omega

lemma dropWhile_blanks {blanks digits : List Char} (hblanks : ∀ c ∈ blanks, isBlank c = true)
    (hsome : digits ≠ []) (hdigits : ∀ c ∈ digits, isDigit c = true) (t : List Char) :
    (blanks ++ (digits ++ t)).dropWhile isBlank = digits ++ t := by
  obtain ⟨d, digits, rfl⟩ := List.exists_cons_of_ne_nil hsome
  have hd := isBlank_of_isDigit (hdigits d List.mem_cons_self)
  rw [List.dropWhile_append_of_pos hblanks]
  exact List.dropWhile_cons_of_neg (by simp [hd])

lemma digits?_eq_some_iff {s digits : List Char} :
    digits? s = some digits ↔ ∃ blanks, RedCount blanks digits s := by
  constructor
  · intro h
    simp only [digits?, Option.bind_eq_bind, Option.bind_eq_some_iff, dropLiteral_eq_some] at h
    obtain ⟨t, rfl, h⟩ := h
    split at h
    · cases h
    · rename_i hsome
      obtain ⟨rest, hcut, hdigits⟩ := Option.bind_eq_some_iff.1 h
      rw [dropLiteral_eq_some] at hcut
      obtain rfl := Option.some.inj hdigits
      refine ⟨t.takeWhile isBlank, rest, ?_, fun c => List.mem_takeWhile_imp,
        by simpa using hsome, fun c => List.mem_takeWhile_imp⟩
      rw [← hcut, List.takeWhile_append_dropWhile, List.takeWhile_append_dropWhile]
  · rintro ⟨blanks, rest, rfl, hblanks, hsome, hdigits⟩
    have hword : " fail".toList.head? = some ' ' := rfl
    simp only [digits?, dropLiteral_append, dropWhile_blanks hblanks hsome hdigits,
      takeWhile_digits hdigits hword, dropWhile_digits hdigits hword, Option.bind_eq_bind,
      Option.bind_some]
    rw [if_neg (by simpa using hsome)]

/-- The leftmost red count of the text stands after `before`. -/
structure FirstRedCount (s before blanks digits : List Char) : Prop where
  found : ∃ rest, s = before ++ rest ∧ RedCount blanks digits rest
  first : ∀ before' blanks' digits' rest', s = before' ++ rest' →
    RedCount blanks' digits' rest' → before.length ≤ before'.length

lemma firstMatch_digits?_eq_some_iff {s digits : List Char} :
    firstMatch digits? s = some digits ↔ ∃ before blanks, FirstRedCount s before blanks digits := by
  rw [firstMatch_eq_some]
  constructor
  · rintro ⟨before, rest, hcut, hread, hfirst⟩
    obtain ⟨blanks, hcount⟩ := digits?_eq_some_iff.1 hread
    refine ⟨before, blanks, ⟨rest, hcut, hcount⟩, ?_⟩
    intro before' blanks' digits' rest' hcut' hcount'
    have hread' : digits? rest' = some digits' := digits?_eq_some_iff.2 ⟨blanks', hcount'⟩
    exact hfirst before' rest' hcut' (by simp [hread'])
  · rintro ⟨before, blanks, ⟨rest, hcut, hcount⟩, hfirst⟩
    refine ⟨before, rest, hcut, digits?_eq_some_iff.2 ⟨blanks, hcount⟩, ?_⟩
    intro before' rest' hcut' hread'
    obtain ⟨digits', hdigits'⟩ := Option.ne_none_iff_exists'.1 hread'
    obtain ⟨blanks', hcount'⟩ := digits?_eq_some_iff.1 hdigits'
    exact hfirst before' blanks' digits' rest' hcut' hcount'

/-- The leftmost red count has ASCII digits, worth `n`. -/
def Counts (stderr : String) (n : UInt64) : Prop :=
  ∃ before blanks digits, FirstRedCount stderr.toList before blanks digits ∧
    (∀ c ∈ digits, c.isDigit = true) ∧ Nat.ofDigitChars 10 digits 0 = n.toNat

lemma failCount?_eq_some_iff {stderr : String} {n : UInt64} :
    failCount? stderr = some n ↔ Counts stderr n := by
  have hread : ∀ before blanks digits, FirstRedCount stderr.toList before blanks digits →
      ((Numeral.readUInt64 digits).toOption = some n ↔
        (∀ c ∈ digits, c.isDigit = true) ∧ Nat.ofDigitChars 10 digits 0 = n.toNat) := by
    rintro before blanks digits ⟨⟨-, -, -, -, -, hsome, hdigits⟩, -⟩
    exact Numeral.readUInt64_eq_some_iff hsome (fun hplus => absurd (hdigits _ hplus) (by decide)) n
  simp only [failCount?, Option.bind_eq_some_iff, firstMatch_digits?_eq_some_iff, Counts]
  constructor
  · rintro ⟨digits, ⟨before, blanks, hfirst⟩, hvalue⟩
    exact ⟨before, blanks, digits, hfirst, (hread before blanks digits hfirst).1 hvalue⟩
  · rintro ⟨before, blanks, digits, hfirst, hvalue⟩
    exact ⟨digits, ⟨before, blanks, hfirst⟩, (hread before blanks digits hfirst).2 hvalue⟩

/-- The count stands in the error output in decimal form, behind leading zeros. -/
lemma Counts.exists_zeros {stderr : String} {n : UInt64} (h : Counts stderr n) :
    ∃ before blanks zeros, FirstRedCount stderr.toList before blanks
      (List.replicate zeros '0' ++ (toString n.toNat).toList) := by
  obtain ⟨before, blanks, digits, hfirst, hascii, hvalue⟩ := h
  have hsome : digits ≠ [] := by
    obtain ⟨-, -, -, -, -, hsome, -⟩ := hfirst.found
    exact hsome
  obtain ⟨zeros, hzeros⟩ := Numeral.eq_zeros_append hsome hascii
  rw [hvalue, ← Nat.toList_repr] at hzeros
  exact ⟨before, blanks, zeros, hzeros ▸ hfirst⟩

end FailCount

open FailCount

/-- **Behind exit code 1** stands the count of failed tests, if the error output gives one. -/
theorem verdict_of_counts {state : TerminalState} (hcode : state.exitCode = some 1)
    (hsignal : state.signal = none) (hlaunched : state.launchFailure = none)
    (hcrash : crashMessage? state.stderr = none) (platform : Platform) :
    (∀ n, state.verdict platform = .failed (.failing n) none ↔ Counts state.stderr n) ∧
    (state.verdict platform = .failed (.code "1") none ↔ ∀ n, ¬ Counts state.stderr n) ∧
    ∀ n, Counts state.stderr n →
      (Failure.failing n).tag = toString n.toNat ++ " failing" ∧
        ∃ before blanks zeros, FirstRedCount state.stderr.toList before blanks
          (List.replicate zeros '0' ++ (toString n.toNat).toList) := by
  have hunclean : ¬ state.clean = true := by simp [state.clean_iff, hcode]
  have hverdict := state.verdict_of_exitCode hunclean hlaunched hcrash hsignal platform
  simp only [TerminalState.ofExitCode, hcode] at hverdict
  refine ⟨?_, ?_, fun n hcounts => ⟨rfl, hcounts.exists_zeros⟩⟩
  all_goals
    simp only [hverdict, ← failCount?_eq_some_iff]
    cases failCount? state.stderr <;> simp

/-- Leading zeros and a line break before the number do not matter, nor does the later count. -/
theorem verdict_of_sevenFailing :
    let state : TerminalState :=
      ⟨some 1, none, none, "\x1b[31m\n 007 fail, \x1b[31m9 fail", none, .ofSeconds 12⟩
    state.exitCode = some 1 ∧ state.signal = none ∧ state.launchFailure = none ∧
      crashMessage? state.stderr = none ∧ Counts state.stderr 7 ∧
      state.verdict .current = .failed (.failing 7) none := by
  intro state
  have hcrash : crashMessage? state.stderr = none := by decide +kernel
  have hcount : failCount? state.stderr = some 7 := by decide +kernel
  have hcounts := failCount?_eq_some_iff.1 hcount
  have hcode : state.exitCode = some 1 := rfl
  obtain ⟨hverdict, -⟩ := verdict_of_counts hcode rfl rfl hcrash .current
  exact ⟨hcode, rfl, rfl, hcrash, hcounts, (hverdict 7).2 hcounts⟩

end Watchdog
