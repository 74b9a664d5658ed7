import Watchdog.Duration
import Watchdog.Outcome.Failure

/-!
# Waiting before the next launch

A launch that failed for a passing reason is tried again a limited number of times; the pauses grow
by the same amount each time.
-/

namespace Watchdog

/-- How often to try again, and the first pause. -/
structure RetryPolicy where
  maxRetries : UInt32
  baseDelay : Duration
deriving Repr, DecidableEq

namespace RetryPolicy

/-- The first pause unless another is asked for. -/
def defaultBaseDelay : Duration := .ofMillis 1000

/-- The pause after the failed launch number `attempt`, counted from zero; `none` if that was the
last one. -/
def backoff (p : RetryPolicy) (f : LaunchFailure) (attempt : UInt32) :
    Except Duration.TooLong (Option Duration) :=
  if !f.transient || p.maxRetries ≤ attempt then .ok none
  else (p.baseDelay.times (attempt + 1).toNat).map some

/-- A pause is only ever granted within the limit. -/
theorem lt_of_backoff {p : RetryPolicy} {f : LaunchFailure} {attempt : UInt32} {d : Duration}
    (h : p.backoff f attempt = .ok (some d)) : attempt < p.maxRetries := by
  unfold backoff at h
  split at h
  · simp at h
  · rename_i hc
    simp only [Bool.or_eq_true, decide_eq_true_eq, not_or] at hc
    exact UInt32.not_le.1 hc.2

end RetryPolicy

end Watchdog
