import Mathlib.Logic.Basic
import Watchdog.Launch.Backoff
import Watchdog.Proofs.Duration.Parts

/-!
# Pauses before the next launch

The policy answers a failed launch with a pause or none.  It gives up for two reasons only
(`backoff_eq_none_iff`).  Otherwise the pause is a product, which may be too long for a length of
time; that is the only way for the policy to fail (`backoff_eq_error_iff`), and a pause that is
granted is exact (`backoff_eq_some_iff`).
-/

namespace Watchdog

namespace RetryPolicy

variable {p : RetryPolicy} {f g : LaunchFailure} {attempt later : UInt32}

/-- A number below another one does not wrap around. -/
lemma toNat_succ {number most : UInt32} (h : number < most) :
    (number + 1).toNat = number.toNat + 1 := by
  have hlt : number.toNat < most.toNat := h
  have hfits := most.toNat_lt
  rw [UInt32.toNat_add]
  exact Nat.mod_eq_of_lt (by simpa using Nat.lt_of_le_of_lt hlt hfits)

/-- The command is launched again after its launch number `attempt` failed. -/
def Again (maxRetries : UInt32) (f : LaunchFailure) (attempt : UInt32) : Prop :=
  (f.code = "EBUSY" ∨ f.code = "UNKNOWN") ∧ attempt < maxRetries

lemma not_again_iff {maxRetries : UInt32} :
    ¬ Again maxRetries f attempt ↔
      f.code ≠ "EBUSY" ∧ f.code ≠ "UNKNOWN" ∨ maxRetries ≤ attempt := by
  rw [Again, not_and_or, not_or, UInt32.not_lt]

/-- The next number is the one that the pause is multiplied by. -/
lemma backoff_of_again (h : Again p.maxRetries f attempt) :
    p.backoff f attempt = (p.baseDelay.times (attempt.toNat + 1)).map some := by
  obtain ⟨hcode, hlt⟩ := h
  have hagain : ¬ (!f.transient || decide (p.maxRetries ≤ attempt)) = true := by
    simpa [LaunchFailure.transient, UInt32.not_le.mpr hlt, or_iff_not_imp_left] using hcode
  rw [backoff, if_neg hagain, toNat_succ hlt]

lemma backoff_of_not_again (h : ¬ Again p.maxRetries f attempt) :
    p.backoff f attempt = .ok none := by
  have hgive : (!f.transient || decide (p.maxRetries ≤ attempt)) = true := by
    simpa [LaunchFailure.transient] using not_again_iff.mp h
  rw [backoff, if_pos hgive]

lemma backoff_eq_some_iff {d : Duration} :
    p.backoff f attempt = .ok (some d) ↔ Again p.maxRetries f attempt ∧
      p.baseDelay.nanos * (attempt.toNat + 1) < Duration.limit ∧
        d.nanos = p.baseDelay.nanos * (attempt.toNat + 1) := by
  by_cases hagain : Again p.maxRetries f attempt
  · rw [backoff_of_again hagain, and_iff_right hagain, Duration.times]
    split
    case isTrue hfits =>
      obtain ⟨n⟩ := d
      simp [Except.map, hfits, eq_comm]
    case isFalse hlong => simp [Except.map, hlong]
  · simp [backoff_of_not_again hagain, hagain]

lemma backoff_eq_error_iff {e : Duration.TooLong} :
    p.backoff f attempt = .error e ↔ Again p.maxRetries f attempt ∧
      Duration.limit ≤ p.baseDelay.nanos * (attempt.toNat + 1) := by
  by_cases hagain : Again p.maxRetries f attempt
  · rw [backoff_of_again hagain, and_iff_right hagain, Duration.times]
    split
    case isTrue hfits => simp [Except.map, Nat.not_le.mpr hfits]
    case isFalse hlong => simp [Except.map, Nat.not_lt.mp hlong]
  · simp [backoff_of_not_again hagain, hagain]

lemma backoff_eq_none_iff : p.backoff f attempt = .ok none ↔ ¬ Again p.maxRetries f attempt := by
  refine ⟨fun h hagain => ?_, backoff_of_not_again⟩
  rw [backoff_of_again hagain, Duration.times] at h
  split at h <;> cases h

/-- What is answered when launch number `attempt` has failed. -/
structure Answered (base : Duration.Parts) (maxRetries : UInt32) (f : LaunchFailure)
    (attempt : UInt32) (answer : Except Duration.TooLong (Option Duration)) : Prop where
  /-- The command is given up for two reasons only. -/
  none_iff : answer = .ok none ↔
    f.code ≠ "EBUSY" ∧ f.code ≠ "UNKNOWN" ∨ maxRetries ≤ attempt
  /-- Otherwise there is a next number. -/
  next : answer ≠ .ok none → (attempt + 1).toNat = attempt.toNat + 1
  /-- A pause is exact to the nanosecond. -/
  some_iff : ∀ d, answer = .ok (some d) ↔ Again maxRetries f attempt ∧
    base.length.nanos * (attempt.toNat + 1) < 2 ^ 64 * 1000000000 ∧
      d.nanos = base.length.nanos * (attempt.toNat + 1)
  /-- Its whole seconds come from both words of the base delay. -/
  carried : ∀ d, answer = .ok (some d) →
    d.nanos / 1000000000 = base.seconds.toNat * (attempt.toNat + 1) +
        base.nanos.toNat * (attempt.toNat + 1) / 1000000000 ∧
      d.nanos % 1000000000 = base.nanos.toNat * (attempt.toNat + 1) % 1000000000
  /-- The only failure is a product of 2^64 seconds or more. -/
  error_iff : (∃ e, answer = .error e) ↔ Again maxRetries f attempt ∧
    2 ^ 64 * 1000000000 ≤ base.length.nanos * (attempt.toNat + 1)
  /-- Multiplying in fixed widths answers the same. -/
  fixed : answer ≠ .ok none → answer = match base.times? (attempt + 1) with
    | some q => .ok (some q.length)
    | none => .error .mk

lemma answered_backoff (base : Duration.Parts) (maxRetries : UInt32) (f : LaunchFailure)
    (attempt : UInt32) :
    Answered base maxRetries f attempt (backoff ⟨maxRetries, base.length⟩ f attempt) := by
  have hagain (h : backoff ⟨maxRetries, base.length⟩ f attempt ≠ .ok none) :
      Again maxRetries f attempt :=
    not_not.mp fun hnot => h (backoff_of_not_again hnot)
  constructor
  case none_iff => exact backoff_eq_none_iff.trans not_again_iff
  case next => exact fun h => toNat_succ (hagain h).2
  case some_iff => exact fun d => backoff_eq_some_iff
  case carried =>
    intro d h
    have hrest : base.nanos.toNat * (attempt.toNat + 1) % 1000000000 < 1000000000 :=
      Nat.mod_lt _ (by decide)
    rw [(backoff_eq_some_iff.mp h).2.2, base.nanos_times, Duration.Parts.secondsTimes]
    omega
  case error_iff =>
    constructor
    · rintro ⟨e, h⟩
      exact backoff_eq_error_iff.mp h
    · exact fun h => ⟨.mk, backoff_eq_error_iff.mpr h⟩
  case fixed =>
    intro h
    have htimes := base.times_length (attempt + 1)
    rw [toNat_succ (hagain h).2] at htimes
    rw [backoff_of_again (hagain h), htimes]
    cases base.times? (attempt + 1) <;> rfl

/-- Later pauses are longer. -/
lemma lt_of_backoff_of_lt {d d' : Duration} (hbase : 0 < p.baseDelay.nanos)
    (hlt : attempt < later) (h : p.backoff f attempt = .ok (some d))
    (h' : p.backoff g later = .ok (some d')) : d < d' := by
  have hnumber : attempt.toNat + 1 < later.toNat + 1 :=
    Nat.succ_lt_succ (UInt32.lt_iff_toNat_lt.mp hlt)
  show d.nanos < d'.nanos
  rw [(backoff_eq_some_iff.mp h).2.2, (backoff_eq_some_iff.mp h').2.2]
  exact Nat.mul_lt_mul_of_pos_left hnumber hbase

/-- No number of 32 bits makes the usual pause too long. -/
lemma usual_short (attempt : UInt32) :
    defaultBaseDelay.nanos * (attempt.toNat + 1) < Duration.limit := by
  have hattempt := attempt.toNat_lt
  show 1000 * 1000000 * (attempt.toNat + 1) < 18446744073709551616 * 1000000000
  omega

end RetryPolicy

end Watchdog
