import Watchdog.Proofs.Handle.Operations

/-!
# Which signals a handle sends

Whatever is asked of a handle, in whichever order, and whenever its process ends: a kill and a
signal to the group are tried at most once each, and once the status of the process has been fetched
nothing is sent to the process any more (`Restraint`).  The group is another matter, since it may
outlive the process that leads it.
-/

namespace Watchdog.Handle

variable {start : Handle} {events : List Event}

/-- At some moment an operation gave this answer. -/
def Told (start : Handle) (events : List Event) (answer : Answer) : Prop :=
  ∃ before op rest, events = before ++ .asked op :: rest ∧
    ((start.after before).perform op).answer = answer

lemma reaped_of_told_exited (h : Told start events (.exited true)) :
    ∃ status, (start.after events).child = .reaped status := by
  obtain ⟨before, op, rest, rfl, hanswer⟩ := h
  cases op with
  | hasExited =>
    obtain ⟨status, hchild⟩ := reaped_of_exited (Answer.exited.inj hanswer)
    rw [after_append, after_cons]
    exact ⟨status, reaped_after hchild rest⟩
  | _ => cases hanswer

lemma reaped_of_told_waited {status : WaitStatus} (h : Told start events (.waited (.ok status))) :
    (start.after events).child = .reaped status := by
  obtain ⟨before, op, rest, rfl, hanswer⟩ := h
  cases op with
  | wait ending =>
    rw [after_append, after_cons]
    exact reaped_after (reaped_of_waited (Answer.waited.inj hanswer)) rest
  | _ => cases hanswer

/-- Who asked for the group to be signalled has marked it, whatever came of it. -/
lemma groupSignalled_of_asked {answer : SignalAnswer}
    (h : .asked (.terminateGroup answer) ∈ events) :
    (start.after events).groupSignalled = true :=
  start.mark_of_asked h rfl

/-! ## What is promised -/

/-- What is promised of a handle that goes through these events. -/
structure Restraint (start : Handle) (events : List Event) : Prop where
  group_once : (start.calls events).countP SignalCall.toGroup ≤ 1
  /-- After the first time the group is not even looked for. -/
  group_skipped : ∀ answer, .asked (.terminateGroup answer) ∈ events → ∀ answer',
    (start.after events).terminateGroup answer' = ⟨start.after events, [], .ok .skipped⟩
  kill_once : (start.calls events).count .kill ≤ 1
  /-- A status once fetched, by whichever operation, is what every later operation knows, and no
  signal goes to the process from then on. -/
  reaped : ∀ status, (start.after events).child = .reaped status →
    ∀ more, (start.after (events ++ more)).Over status
  /-- Where it has been told that the process has ended, its status has been fetched. -/
  exited : Told start events (.exited true) →
    ∃ status, (start.after events).child = .reaped status
  /-- Where a status has been told, it is the one that has been fetched. -/
  waited : ∀ status, Told start events (.waited (.ok status)) →
    (start.after events).child = .reaped status
  /-- An error leaves the process as it was, or tells that it has ended and that the system has not
  kept its status. -/
  error : ∀ op, ((start.after events).perform op).answer.isError = true →
    ((start.after events).perform op).handle.child = (start.after events).child ∨
      (op.losesStatus = true ∧ (start.after events).child = .running ∧
        ((start.after events).perform op).handle.child = .vanished)

/-- **A handle restrains itself.**  Whatever operations are asked of it, whatever the system answers
and whenever the process ends, a handle kills at most once and signals the group at most once; it
never sends anything to a process whose status has been fetched, and what it has told of the end
stays true; and an operation that fails changes nothing about the process. -/
theorem restraint_of_events (start : Handle) (events : List Event) : Restraint start events := by
  constructor
  case group_once =>
    have hle := countP_calls_toGroup_le start events
    have hmark := Bool.toNat_le (start.after events).groupSignalled
    omega
  case group_skipped =>
    intro answer hasked answer'
    rw [Handle.terminateGroup, groupSignalled_of_asked hasked, if_pos rfl]
  case kill_once =>
    have hle := count_calls_kill_le start events
    have hmark := Bool.toNat_le (start.after events).killed
    omega
  case reaped =>
    intro status hchild more
    rw [after_append]
    exact over_of_reaped (reaped_after hchild more)
  case exited => exact reaped_of_told_exited
  case waited => exact fun status => reaped_of_told_waited
  case error => exact fun op => (performs _ op).child

end Watchdog.Handle
