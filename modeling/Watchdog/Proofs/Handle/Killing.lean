import Mathlib.Data.List.Induction
import Watchdog.Proofs.Handle.Operations

/-!
# What a kill that goes well means

A handle marks that it has killed its process before it tries to, and the mark stays although the
system may refuse.  Whoever asks again is told that all is well, and nothing is done.  So the answer
alone does not say that the process is gone; the history does.  As long as no kill has failed, the
mark means that the status of the process has been fetched (`marked_after`), and a kill that goes
well is the end of the process (`killing_of_events`).  Behind a kill that has failed the answer means
nothing: the process may well be running (`running_after_refusedKill`).
-/

namespace Watchdog.Handle

variable {start h : Handle} {events : List Event} {e : Event} {answer : KillAnswer}

/-! ## One kill -/

lemma forceKill_of_killed (hkilled : h.killed = true) (answer : KillAnswer) :
    h.forceKill answer = ⟨h, [], .ok ()⟩ := by
  rw [forceKill, if_pos hkilled]

/-- The first kill goes well only if the status of the process is fetched. -/
lemma reaped_of_forceKill (hkilled : h.killed = false)
    (hok : (h.forceKill answer).answer = .ok ()) :
    ∃ status, (h.forceKill answer).handle.child = .reaped status := by
  rw [forceKill, hkilled, if_neg Bool.false_ne_true] at hok ⊢
  obtain ⟨status, -, hended⟩ | ⟨-, hnone⟩ := hasExited_cases { h with killed := true }
  · rw [hended]
    exact ⟨status, rfl⟩
  · rw [hnone] at hok ⊢
    cases answer with
    | refused e => cases hok
    | ended ending =>
      dsimp only at hok ⊢
      obtain ⟨status, hended⟩ | ⟨-, hlost⟩ | ⟨-, -, hlost⟩ :=
        wait_cases { h with killed := true } ending
      · rw [hended]
        exact ⟨status, rfl⟩
      · rw [hlost] at hok
        cases hok
      · rw [hlost] at hok
        cases hok

/-! ## The mark -/

/-- No other operation touches the mark. -/
lemma killed_step (he : ∀ answer, e ≠ .asked (.forceKill answer)) :
    (h.step e).killed = h.killed := by
  have hnot : (e.request? == some .forceKill) = false := by
    cases e with
    | ends status => rfl
    | asked op =>
      cases op with
      | forceKill answer => exact absurd rfl (he answer)
      | _ => rfl
  have hmark := mark_step h e .forceKill
  rwa [hnot, Bool.or_false] at hmark

/-- Whoever asks for a kill leaves the mark. -/
lemma killed_of_asked (hasked : .asked (.forceKill answer) ∈ events) :
    (start.after events).killed = true :=
  start.mark_of_asked hasked rfl

/-! ## Histories without a failed kill -/

/-- At some moment a kill failed. -/
def KillFailed (start : Handle) (events : List Event) : Prop :=
  ∃ before answer rest e, events = before ++ .asked (.forceKill answer) :: rest ∧
    ((start.after before).forceKill answer).answer = .error e

lemma KillFailed.killed (h : KillFailed start events) : (start.after events).killed = true := by
  obtain ⟨before, answer, rest, e, rfl, -⟩ := h
  have hasked : .asked (.forceKill answer) ∈ before ++ .asked (.forceKill answer) :: rest :=
    List.mem_append_right before List.mem_cons_self
  exact killed_of_asked hasked

lemma KillFailed.append (h : KillFailed start events) (more : List Event) :
    KillFailed start (events ++ more) := by
  obtain ⟨before, answer, rest, e, rfl, herror⟩ := h
  exact ⟨before, answer, rest ++ more, e, by simp, herror⟩

/-- The mark means that the process is gone. -/
def Marked (h : Handle) : Prop := h.killed = true → ∃ status, h.child = .reaped status

lemma Marked.forceKill (hmarked : h.Marked) (hok : (h.forceKill answer).answer = .ok ()) :
    ∃ status, (h.forceKill answer).handle.child = .reaped status := by
  cases hkilled : h.killed with
  | true =>
    rw [forceKill_of_killed hkilled]
    exact hmarked hkilled
  | false => exact reaped_of_forceKill hkilled hok

lemma Marked.step (hmarked : h.Marked)
    (hkill : ∀ answer, e = .asked (.forceKill answer) → (h.forceKill answer).answer = .ok ()) :
    (h.step e).Marked := by
  intro hkilled
  by_cases hasked : ∃ answer, e = .asked (.forceKill answer)
  · obtain ⟨answer, rfl⟩ := hasked
    exact hmarked.forceKill (hkill answer rfl)
  · rw [killed_step (not_exists.mp hasked)] at hkilled
    obtain ⟨status, hchild⟩ := hmarked hkilled
    exact ⟨status, reaped_step hchild e⟩

lemma marked_after (hmarked : start.Marked) (hfailed : ¬ KillFailed start events) :
    (start.after events).Marked := by
  induction events using List.reverseRecOn with
  | nil => exact hmarked
  | append_singleton events e ih =>
    rw [after_append]
    refine (ih fun h => hfailed (h.append [e])).step ?_
    rintro answer rfl
    cases hanswer : ((start.after events).forceKill answer).answer with
    | ok => rfl
    | error reason => exact absurd ⟨events, answer, [], reason, rfl, hanswer⟩ hfailed

/-! ## What is promised -/

/-- What a kill means to a handle that has gone through these events. -/
structure Killing (start : Handle) (events : List Event) : Prop where
  /-- If no kill has failed, one that goes well means that the process is gone for good. -/
  gone : ¬ KillFailed start events → ∀ answer,
    ((start.after events).forceKill answer).answer = .ok () →
      (∃ status, ((start.after events).forceKill answer).handle.child = .reaped status) ∧
      ∀ more, (((start.after events).forceKill answer).handle.after more).hasExited.2 = true
  /-- If one has failed, it goes well without doing anything, whatever the process does. -/
  idle : KillFailed start events → ∀ answer,
    (start.after events).forceKill answer = ⟨start.after events, [], .ok ()⟩
  /-- Only the first one can fail. -/
  first : ∀ answer e, ((start.after events).forceKill answer).answer = .error e →
    ∀ answer', .asked (.forceKill answer') ∉ events

/-- **A kill that goes well is the end of the process,** unless an earlier one has failed.  Whatever
operations are asked of a new handle, whatever the system answers to each kill and whenever the
process ends, a process that was killed without an error has ended and stays known to have. -/
theorem killing_of_events (pid : Option UInt32) (child : ChildState) (events : List Event) :
    Killing (new pid child) events := by
  have hnew : (new pid child).Marked := fun hkilled => nomatch hkilled
  constructor
  case gone =>
    intro hfailed answer hok
    obtain ⟨status, hchild⟩ := (marked_after hnew hfailed).forceKill hok
    refine ⟨⟨status, hchild⟩, fun more => ?_⟩
    rw [(over_of_reaped (reaped_after hchild more)).hasExited]
  case idle => exact fun hfailed answer => forceKill_of_killed hfailed.killed answer
  case first =>
    intro answer e herror answer' hasked
    rw [forceKill_of_killed (killed_of_asked hasked)] at herror
    cases herror

/-- A process that this one may not kill goes on running, and the second attempt is told that all is
well. -/
theorem running_after_refusedKill :
    let h := (new (some 7) .running).after [.asked (.forceKill (.refused .perm))]
    (h.forceKill (.refused .perm)).answer = .ok () ∧
      (h.forceKill (.refused .perm)).handle.child = .running ∧
      (h.forceKill (.refused .perm)).handle.hasExited.2 = false := by
  decide

end Watchdog.Handle
