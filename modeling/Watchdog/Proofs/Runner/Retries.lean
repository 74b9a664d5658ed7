import Mathlib.Algebra.BigOperators.Group.List.Basic
import Mathlib.Data.Nat.Find
import Mathlib.Tactic.Ring
import Watchdog.Proofs.Attempt.Output
import Watchdog.Proofs.Attempt.History
import Watchdog.Proofs.Launch.Backoff
import Watchdog.Run.Runner

/-!
# How often a command is launched

A run launches its command until a launch does not fail for a passing reason, and at most as often
as it may.  The number of that last launch can be read off the outcomes (`lastLaunch`), and it says
all about the run: how many launches there are, the pauses between them, and whose session is
reported.  The proof follows the launches one by one: the one before the last leads to the next
after a pause, and the last ends the run.
-/

namespace Watchdog

namespace LaunchOutcome

/-- The launch fails for a reason that may pass. -/
def passing : LaunchOutcome → Bool
  | failed f => f.code = "EBUSY" ∨ f.code = "UNKNOWN"
  | started _ _ _ _ => false

end LaunchOutcome

/-- The pauses made, in order. -/
def Effect.pauses (effects : List Effect) : List Duration :=
  effects.filterMap fun e => match e with
    | .pause d => some d
    | _ => none

namespace Runner

variable {r : Runner} {o : RunOptions} {outcome : Nat → LaunchOutcome}

/-- The number, counted from zero, of the first launch that does not fail for a passing reason, or
the number of retries if that comes first. -/
def lastLaunch (o : RunOptions) (outcome : Nat → LaunchOutcome) : Nat :=
  Nat.find (p := fun k => (outcome k).passing = false ∨ k = o.maxRetries.toNat)
    ⟨o.maxRetries.toNat, .inr rfl⟩

/-- At the last launch there is a reason to stop. -/
lemma lastLaunch_spec (o : RunOptions) (outcome : Nat → LaunchOutcome) :
    (outcome (lastLaunch o outcome)).passing = false ∨
      lastLaunch o outcome = o.maxRetries.toNat :=
  Nat.find_spec (p := fun k => (outcome k).passing = false ∨ k = o.maxRetries.toNat) _

lemma lastLaunch_le (o : RunOptions) (outcome : Nat → LaunchOutcome) :
    lastLaunch o outcome ≤ o.maxRetries.toNat :=
  Nat.find_min' _ (.inr rfl)

/-- Before it there is none. -/
lemma passing_of_lt_lastLaunch {k : Nat} (h : k < lastLaunch o outcome) :
    (outcome k).passing = true := by
  have hneither := Nat.find_min _ h
  rw [not_or, Bool.not_eq_false] at hneither
  exact hneither.1

/-- What `count + 1` launches do, the first of them number `first`: a pause before each but the
first, as many times the base delay as there were launches before it. -/
def pacing (r : Runner) (o : RunOptions) (first count : Nat) : List Effect :=
  .launch o.launchSpec :: (List.range' first count).flatMap fun j =>
    [.pause ⟨r.retryBaseDelay.nanos * (j + 1)⟩, .launch o.launchSpec]

/-! ## One launch -/

lemma launchFailure_attempt (r : Runner) (o : RunOptions) (l : LaunchOutcome) :
    (r.attempt o l).1.launchFailure =
      match l with
      | .failed f => some f
      | .started _ _ _ _ => none := by
  cases l with
  | failed f => rfl
  | started pid now epoch moves => exact Attempt.launchFailure_play _ moves

/-- An attempt launches once, whatever then happens, and does not pause. -/
lemma paces_attempt (r : Runner) (o : RunOptions) (l : LaunchOutcome) :
    (r.attempt o l).2.filter Effect.paces = [.launch o.launchSpec] := by
  cases l with
  | failed f =>
    unfold attempt
    dsimp only
    split <;> rfl
  | started pid now epoch moves =>
    have hrest := Attempt.paces_effects (r.setting o) pid now epoch moves
    unfold attempt
    dsimp only
    rw [List.filter_append, hrest, List.append_nil]
    split <;> rfl

/-- A launch that fails for a passing reason is followed by another one while that is allowed; the
pause is as many times the first one as there were launches. -/
lemma backoff_of_passing {number : UInt32} {l : LaunchOutcome} (hpassing : l.passing = true)
    (hallowed : number < o.maxRetries)
    (hshort : r.retryBaseDelay.nanos * (number.toNat + 1) < Duration.limit) :
    ∃ f, r.backoff o (r.attempt o l).1 number =
      .ok (some (f, ⟨r.retryBaseDelay.nanos * (number.toNat + 1)⟩)) := by
  cases l with
  | started pid now epoch moves => exact nomatch hpassing
  | failed f =>
    have hagain : RetryPolicy.Again o.maxRetries f number :=
      ⟨by simpa [LaunchOutcome.passing] using hpassing, hallowed⟩
    have hpause : (r.policy o).backoff f number =
        .ok (some ⟨r.retryBaseDelay.nanos * (number.toNat + 1)⟩) :=
      RetryPolicy.backoff_eq_some_iff.mpr ⟨hagain, hshort, rfl⟩
    refine ⟨f, ?_⟩
    rw [backoff, launchFailure_attempt]
    dsimp only
    rw [hpause]
    rfl

/-- Any other launch is the last, and so is one when no more are allowed. -/
lemma backoff_of_last {number : UInt32} {l : LaunchOutcome}
    (h : l.passing = false ∨ o.maxRetries ≤ number) :
    r.backoff o (r.attempt o l).1 number = .ok none := by
  rw [backoff, launchFailure_attempt]
  cases l with
  | started pid now epoch moves => rfl
  | failed f =>
    have hlast : ¬ RetryPolicy.Again o.maxRetries f number := by
      rintro ⟨hcode, hallowed⟩
      obtain hpassing | hspent := h
      · simp [LaunchOutcome.passing, hcode] at hpassing
      · exact UInt32.not_le.mpr hallowed hspent
    dsimp only
    rw [RetryPolicy.backoff_of_not_again (p := r.policy o) hlast]
    rfl

/-! ## All launches -/

lemma runFrom_of_last {number : UInt32}
    (h : r.backoff o (r.attempt o (outcome number.toNat)).1 number = .ok none) :
    r.runFrom o outcome number = .ok (r.attempt o (outcome number.toNat)) := by
  rw [runFrom]
  dsimp only
  split
  all_goals simp_all

lemma runFrom_of_pause {number : UInt32} {f : LaunchFailure} {delay : Duration}
    (h : r.backoff o (r.attempt o (outcome number.toNat)).1 number = .ok (some (f, delay))) :
    r.runFrom o outcome number =
      (r.runFrom o outcome (number + 1)).map fun p =>
        (p.1, (r.attempt o (outcome number.toNat)).2 ++
          [.note (.retrying o.command number f.code delay), .pause delay] ++ p.2) := by
  rw [runFrom]
  dsimp only
  split
  all_goals simp_all

lemma pacing_succ (r : Runner) (o : RunOptions) (first count : Nat) :
    pacing r o first (count + 1) =
      [.launch o.launchSpec, .pause ⟨r.retryBaseDelay.nanos * (first + 1)⟩] ++
        pacing r o (first + 1) count := by
  rw [pacing, List.range'_succ, List.flatMap_cons]
  rfl

/-- From any launch on that is made at all, the launches up to the last are made, and it is the last
whose session remains. -/
lemma runFrom_eq (number : UInt32) (count : Nat)
    (hlast : number.toNat + count = lastLaunch o outcome)
    (hshort : r.retryBaseDelay.nanos * lastLaunch o outcome < Duration.limit) :
    ∃ effects, r.runFrom o outcome number =
        .ok ((r.attempt o (outcome (lastLaunch o outcome))).1, effects) ∧
      effects.filter Effect.paces = pacing r o number.toNat count := by
  induction count generalizing number with
  | zero =>
    rw [Nat.add_zero] at hlast
    have hspec := lastLaunch_spec o outcome
    rw [← hlast] at hspec ⊢
    have hnone : r.backoff o (r.attempt o (outcome number.toNat)).1 number = .ok none :=
      backoff_of_last (hspec.imp_right fun hspent => UInt32.le_iff_toNat_le.mpr hspent.ge)
    exact ⟨_, runFrom_of_last hnone, paces_attempt r o (outcome number.toNat)⟩
  | succ count ih =>
    have hearlier : number.toNat < lastLaunch o outcome := by omega
    have hallowed : number < o.maxRetries :=
      UInt32.lt_iff_toNat_lt.mpr (Nat.lt_of_lt_of_le hearlier (lastLaunch_le o outcome))
    have hproduct : r.retryBaseDelay.nanos * (number.toNat + 1) < Duration.limit :=
      Nat.lt_of_le_of_lt (Nat.mul_le_mul_left _ hearlier) hshort
    obtain ⟨f, hpause⟩ :=
      backoff_of_passing (r := r) (passing_of_lt_lastLaunch hearlier) hallowed hproduct
    have hnext := RetryPolicy.toNat_succ hallowed
    obtain ⟨effects, hrun, hpaces⟩ := ih (number + 1) (by omega)
    rw [runFrom_of_pause hpause, hrun]
    refine ⟨_, rfl, ?_⟩
    rw [List.filter_append, List.filter_append, paces_attempt, hpaces, pacing_succ, hnext]
    rfl

/-! ## The law -/

/-- Launches and pauses can be read off what paces a run. -/
lemma launches_filter_paces (effects : List Effect) :
    Effect.launches (effects.filter Effect.paces) = Effect.launches effects := by
  rw [Effect.launches, Effect.launches, List.filterMap_filter]
  refine List.filterMap_congr fun e _ => ?_
  cases e <;> rfl

lemma pauses_filter_paces (effects : List Effect) :
    Effect.pauses (effects.filter Effect.paces) = Effect.pauses effects := by
  rw [Effect.pauses, Effect.pauses, List.filterMap_filter]
  refine List.filterMap_congr fun e _ => ?_
  cases e <;> rfl

lemma launches_pacing (r : Runner) (o : RunOptions) (first count : Nat) :
    Effect.launches (pacing r o first count) = List.replicate (count + 1) o.launchSpec := by
  induction count generalizing first with
  | zero => rfl
  | succ count ih =>
    rw [pacing_succ, Effect.launches, List.filterMap_append, ← Effect.launches,
      ← Effect.launches, ih, List.replicate_succ (n := count + 1)]
    rfl

lemma pauses_pacing (r : Runner) (o : RunOptions) (first count : Nat) :
    Effect.pauses (pacing r o first count) =
      (List.range' first count).map fun j => ⟨r.retryBaseDelay.nanos * (j + 1)⟩ := by
  induction count generalizing first with
  | zero => rfl
  | succ count ih =>
    rw [pacing_succ, Effect.pauses, List.filterMap_append, ← Effect.pauses, ← Effect.pauses, ih,
      List.range'_succ, List.map_cons]
    rfl

/-- The pauses grow evenly, so their sum is half of the last one as many times as there are
launches. -/
lemma two_mul_sum_pauses (base k : Nat) :
    2 * ((List.range k).map fun j => base * (j + 1)).sum = base * (k * (k + 1)) := by
  induction k with
  | zero => rfl
  | succ k ih =>
    rw [List.range_succ, List.map_append, List.sum_append, Nat.mul_add, ih]
    simp only [List.map_cons, List.map_nil, List.sum_cons, List.sum_nil]
    ring

/-- What is promised of a run whose last launch is number `k`. -/
structure Paced (r : Runner) (o : RunOptions) (outcome : Nat → LaunchOutcome) (k : Nat)
    (session : Session) (effects : List Effect) : Prop where
  /-- Launches and pauses take turns, beginning and ending with a launch. -/
  turns : effects.filter Effect.paces = .launch o.launchSpec :: (List.range k).flatMap fun j =>
    [.pause ⟨r.retryBaseDelay.nanos * (j + 1)⟩, .launch o.launchSpec]
  /-- The same command is launched each time. -/
  launches : Effect.launches effects = List.replicate (k + 1) o.launchSpec
  pauses : Effect.pauses effects =
    (List.range k).map fun j => ⟨r.retryBaseDelay.nanos * (j + 1)⟩
  total : 2 * ((Effect.pauses effects).map Duration.nanos).sum =
    r.retryBaseDelay.nanos * (k * (k + 1))
  /-- The session that remains is the one of the last launch, with its failure if it has one. -/
  last : session = (r.attempt o (outcome k)).1
  failure : ∀ f, session.launchFailure = some f ↔ outcome k = .failed f
  /-- A command that was started is not launched again. -/
  started : ∀ j ≤ k, ∀ pid now epoch moves, outcome j = .started pid now epoch moves → j = k

/-- **The law of retries.**  A run launches its command until a launch does not fail with one of the
two codes that may pass, or until the retries are used up; before each new launch it waits the base
delay as many times as there were launches.  It always ends, with the session of its last launch and
nothing of those before, as long as no pause is too long to be held. -/
theorem run_of_outcomes (r : Runner) (o : RunOptions) (outcome : Nat → LaunchOutcome)
    (h : r.retryBaseDelay.nanos * lastLaunch o outcome < Duration.limit) :
    ∃ session effects, r.run o outcome = .ok (session, effects) ∧
      Paced r o outcome (lastLaunch o outcome) session effects := by
  obtain ⟨effects, hrun, hturns⟩ := runFrom_eq (r := r) 0 (lastLaunch o outcome)
    (Nat.zero_add _) h
  have hpauses : Effect.pauses effects = (List.range (lastLaunch o outcome)).map fun j =>
      ⟨r.retryBaseDelay.nanos * (j + 1)⟩ := by
    rw [← pauses_filter_paces, hturns, pauses_pacing, List.range_eq_range']
    rfl
  refine ⟨_, effects, hrun, ?_⟩
  constructor
  case turns =>
    rw [hturns, pacing, List.range_eq_range']
    rfl
  case launches => rw [← launches_filter_paces, hturns, launches_pacing]
  case pauses => exact hpauses
  case total =>
    rw [hpauses, List.map_map]
    exact two_mul_sum_pauses _ _
  case last => rfl
  case failure =>
    intro f
    rw [launchFailure_attempt]
    cases outcome (lastLaunch o outcome) with
    | failed g => simp
    | started pid now epoch moves => simp
  case started =>
    intro j hj pid now epoch moves hstarted
    by_contra hnot
    have hpassing := passing_of_lt_lastLaunch (Nat.lt_of_le_of_ne hj hnot)
    rw [hstarted] at hpassing
    exact nomatch hpassing

/-- Two launches fail for reasons that may pass; the third process is killed by a signal. -/
def thirdTime : Nat → LaunchOutcome
  | 0 => .failed ⟨"EBUSY", "resource busy", none⟩
  | 1 => .failed ⟨"UNKNOWN", "unknown error", none⟩
  | _ => .started 7 ⟨0⟩ 0
    [.childEnd (some (.signaled Signal.kill)), .takeExit .delivered, .streamEnd .stdout,
      .take .stdout]

theorem run_of_thirdTime :
    let r := Runner.standard
    let o := (RunOptions.new "sh").withMaxRetries 5
    r.retryBaseDelay.nanos * lastLaunch o thirdTime < Duration.limit ∧
      ∃ session effects, r.run o thirdTime = .ok (session, effects) ∧
        Paced r o thirdTime 2 session effects ∧ session.signal = some "SIGKILL" ∧
        Effect.pauses effects = [.ofMillis 1000, .ofMillis 2000] := by
  intro r o
  have hlast : lastLaunch o thirdTime = 2 := by
    refine (Nat.find_eq_iff _).mpr ⟨.inl rfl, fun k hk => ?_⟩
    obtain rfl | rfl : k = 0 ∨ k = 1 := by omega
    all_goals decide
  have hshort : r.retryBaseDelay.nanos * lastLaunch o thirdTime < Duration.limit := by
    rw [hlast]
    decide
  obtain ⟨session, effects, hrun, hpaced⟩ := run_of_outcomes r o thirdTime hshort
  rw [hlast] at hpaced
  refine ⟨hshort, session, effects, hrun, hpaced, ?_, hpaced.pauses.trans (by decide +kernel)⟩
  rw [hpaced.last]
  decide +kernel

end Runner

end Watchdog
