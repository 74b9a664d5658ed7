import Watchdog.Proofs.Launch.Backoff
import Watchdog.Proofs.Runner.Retries

/-!
# Counting launches

Two numbers of fixed width decide about launching a command again: the number of the launch, which
grows by one each time, and the pause, which is a product.  The second is as the policy says
(`RetryPolicy.answered_backoff`).  The first never wraps, because it only grows while it is below
the number of retries (`Reaches.counted`).  `exactPauses_of_parts` puts the two together for every
run.
-/

namespace Watchdog

namespace Runner

variable {r : Runner} {o : RunOptions} {outcome : Nat → LaunchOutcome} {number : UInt32}
  {done : List Effect}

/-- The run comes to its launch number `number` when `done` is done. -/
inductive Reaches (r : Runner) (o : RunOptions) (outcome : Nat → LaunchOutcome) :
    UInt32 → List Effect → Prop
  | first : Reaches r o outcome 0 []
  | again {number : UInt32} {done : List Effect} {f : LaunchFailure} {delay : Duration} :
    Reaches r o outcome number done →
    r.backoff o (r.attempt o (outcome number.toNat)).1 number = .ok (some (f, delay)) →
    Reaches r o outcome (number + 1) (done ++ ((r.attempt o (outcome number.toNat)).2 ++
      [.note (.retrying o.command number f.code delay), .pause delay]))

/-- The number of a launch counts. -/
structure Counted (r : Runner) (o : RunOptions) (outcome : Nat → LaunchOutcome) (number : UInt32)
    (done : List Effect) : Prop where
  /-- The run goes on with this launch. -/
  left : r.run o outcome = (r.runFrom o outcome number).map fun p => (p.1, done ++ p.2)
  /-- As many launches were made before. -/
  launches : (Effect.launches done).length = number.toNat
  le : number ≤ o.maxRetries
  /-- If there is another launch, its number is the next. -/
  next : ∀ again, r.backoff o (r.attempt o (outcome number.toNat)).1 number = .ok (some again) →
    (number + 1).toNat = number.toNat + 1

lemma launches_attempt (r : Runner) (o : RunOptions) (l : LaunchOutcome) :
    Effect.launches (r.attempt o l).2 = [o.launchSpec] := by
  rw [← launches_filter_paces, paces_attempt]
  rfl

lemma Reaches.counted (h : Reaches r o outcome number done) : Counted r o outcome number done := by
  induction h with
  | first =>
    refine ⟨?_, rfl, UInt32.zero_le, fun again hagain => ?_⟩
    case refine_2 => exact RetryPolicy.toNat_succ (number_lt_of_backoff hagain)
    unfold run
    cases r.runFrom o outcome 0 <;> rfl
  | @again number done f delay _ hagain ih =>
    -- Only below the limit is there another launch, and below it there is a next number.
    have hlt : number < o.maxRetries := number_lt_of_backoff hagain
    have hnext : (number + 1).toNat = number.toNat + 1 := RetryPolicy.toNat_succ hlt
    constructor
    case left =>
      rw [ih.left, runFrom_of_pause hagain]
      cases r.runFrom o outcome (number + 1) with
      | error e => rfl
      | ok p => simp [Except.map]
    case launches =>
      have hlaunches := ih.launches
      rw [Effect.launches] at hlaunches
      rw [Effect.launches, List.filterMap_append, List.filterMap_append, ← Effect.launches,
        ← Effect.launches, launches_attempt, hnext]
      simpa [Effect.launches] using hlaunches
    case le =>
      rw [UInt32.le_iff_toNat_le, hnext]
      exact UInt32.lt_iff_toNat_lt.mp hlt
    case next => exact fun again h => RetryPolicy.toNat_succ (number_lt_of_backoff h)

/-- There is a launch that no other follows, as the numbers grow and the retries are used up. -/
lemma Reaches.exists_last (h : Reaches r o outcome number done) :
    ∃ last before, Reaches r o outcome last before ∧
      ∀ again, r.backoff o (r.attempt o (outcome last.toNat)).1 last ≠ .ok (some again) := by
  induction hleft : o.maxRetries.toNat - number.toNat generalizing number done with
  | zero =>
    refine ⟨number, done, h, fun again hagain => ?_⟩
    have hlt : number.toNat < o.maxRetries.toNat := number_lt_of_backoff hagain
    omega
  | succ left ih =>
    by_cases hlast : ∃ again,
        r.backoff o (r.attempt o (outcome number.toNat)).1 number = .ok (some again)
    · obtain ⟨⟨f, delay⟩, hagain⟩ := hlast
      have hnext := RetryPolicy.toNat_succ (number_lt_of_backoff hagain)
      exact ih (h.again hagain) (by omega)
    · exact ⟨number, done, h, fun again hagain => hlast ⟨again, hagain⟩⟩

/-- A run whose pauses have the usual base delay is never cut short. -/
lemma exists_run_eq (hbase : r.retryBaseDelay = RetryPolicy.defaultBaseDelay) :
    ∃ result, r.run o outcome = .ok result := by
  have hlast := lastLaunch_le o outcome
  have hmost := o.maxRetries.toNat_lt
  have hshort : r.retryBaseDelay.nanos * lastLaunch o outcome < Duration.limit := by
    rw [hbase]
    show 1000 * 1000000 * lastLaunch o outcome < 18446744073709551616 * 1000000000
    omega
  obtain ⟨effects, hrun, -⟩ := runFrom_eq (r := r) 0 (lastLaunch o outcome) (Nat.zero_add _) hshort
  exact ⟨_, hrun⟩

/-! ## The law -/

/-- What is promised of the pauses of a runner with this base delay, and of its runs. -/
structure ExactPauses (r : Runner) (o : RunOptions) (base : Duration.Parts) : Prop where
  answered : ∀ f attempt,
    RetryPolicy.Answered base o.maxRetries f attempt ((r.policy o).backoff f attempt)
  /-- Unless there are none at all, pauses get longer and longer. -/
  growing : 0 < base.length.nanos → ∀ {f g attempt later d d'}, attempt < later →
    (r.policy o).backoff f attempt = .ok (some d) →
    (r.policy o).backoff g later = .ok (some d') → d < d'
  /-- With the usual base delay nothing fails. -/
  usual : base.length = RetryPolicy.defaultBaseDelay →
    ∀ f attempt e, (r.policy o).backoff f attempt ≠ .error e
  completed : base.length = RetryPolicy.defaultBaseDelay →
    ∀ outcome, ∃ result, r.run o outcome = .ok result
  counted : ∀ outcome number done, r.Reaches o outcome number done →
    r.Counted o outcome number done
  /-- The count comes to an end. -/
  ended : ∀ outcome, ∃ last done, r.Reaches o outcome last done ∧
    ∀ again, r.backoff o (r.attempt o (outcome last.toNat)).1 last ≠ .ok (some again)

/-- **Pauses are exact,** and the numbers of launches never wrap. -/
theorem exactPauses_of_parts {r : Runner} (o : RunOptions) {base : Duration.Parts}
    (h : r.retryBaseDelay = base.length) : ExactPauses r o base := by
  constructor
  case answered =>
    intro f attempt
    rw [policy, h]
    exact RetryPolicy.answered_backoff base o.maxRetries f attempt
  case growing =>
    rw [← h]
    intro hbase f g attempt later d d' hlt hfirst hsecond
    exact RetryPolicy.lt_of_backoff_of_lt hbase hlt hfirst hsecond
  case usual =>
    intro husual f attempt e herror
    have hlong := (RetryPolicy.backoff_eq_error_iff.mp herror).2
    rw [policy, h, husual] at hlong
    exact absurd (RetryPolicy.usual_short attempt) (Nat.not_lt.mpr hlong)
  case completed => exact fun husual outcome => exists_run_eq (h.trans husual)
  case counted => exact fun outcome number done hreaches => hreaches.counted
  case ended => exact fun outcome => Reaches.first.exists_last

/-- Three times this delay is 2^64 seconds and two nanoseconds: the carry is what does not fit. -/
theorem exactPauses_of_thirdOfAll :
    let base : Duration.Parts := ⟨6148914691236517205, 333333334, by decide⟩
    let r : Runner := { Runner.standard with retryBaseDelay := base.length }
    let o := (RunOptions.new "sh").withMaxRetries 5
    let busy : LaunchFailure := ⟨"EBUSY", "resource busy", none⟩
    r.retryBaseDelay = base.length ∧ ExactPauses r o base ∧
      (r.policy o).backoff busy 1 =
        .ok (some ⟨12297829382473034410 * 1000000000 + 666666668⟩) ∧
      (r.policy o).backoff busy 2 = .error .mk := by
  intro base r o busy
  have hexact : ExactPauses r o base := exactPauses_of_parts o rfl
  refine ⟨rfl, hexact, ((hexact.answered busy 1).some_iff _).mpr ?_, ?_⟩
  · exact ⟨⟨.inl rfl, by decide⟩, by decide, by decide⟩
  · obtain ⟨⟨⟩, herror⟩ := (hexact.answered busy 2).error_iff.mpr
      ⟨⟨.inl rfl, by decide⟩, by decide⟩
    exact herror

end Runner

end Watchdog
