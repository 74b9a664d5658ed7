import Mathlib.Tactic.Common
import Watchdog.Launch.Handle
import Watchdog.Run.Effect

/-!
# Handles as histories

A handle is asked for one operation after the other, and its process may end at any moment
(`Event`).  Each operation comes with what the system answers to it.  A process that ends while an
operation is under way needs no event of its own: what the operation notices of the end is part of
the answer, and what it does not notice is an end right after it.

The lemmas say what a single event may do to a handle, above all to the status of the process once
that has been fetched (`reaped_step`), and to the marks of what is done only once: a mark tells
whether that was ever asked for (`mark_after`), and forbids to do it again (`performs`).
-/

namespace Watchdog

/-- A signal to the group. -/
def SignalCall.toGroup : SignalCall → Bool
  | terminateGroup _ => true
  | _ => false

namespace Handle

/-- An operation on a handle, with what the system answers. -/
inductive Operation where
  | hasExited
  | wait (ending : Option WaitStatus)
  | terminate (answer : SignalAnswer)
  | forceKill (answer : KillAnswer)
  | terminateGroup (answer : SignalAnswer)
deriving Repr, DecidableEq

/-- What an operation tells its caller. -/
inductive Answer where
  | exited (answer : Bool)
  | waited (answer : Except IoError WaitStatus)
  | signalled (answer : Except HandleError Unit)
  | groupSignalled (answer : Except HandleError GroupSignal)
deriving DecidableEq

/-- Something went wrong. -/
def Answer.isError : Answer → Bool
  | waited (.error _) => true
  | signalled (.error _) => true
  | groupSignalled (.error _) => true
  | _ => false

/-- The operation waits for the process, and the system has not kept its status. -/
def Operation.losesStatus : Operation → Bool
  | wait none => true
  | forceKill (.ended none) => true
  | _ => false

def perform (h : Handle) : Operation → Reply Answer
  | .hasExited => ⟨h.hasExited.1, [], .exited h.hasExited.2⟩
  | .wait ending => ⟨(h.wait ending).1, [], .waited (h.wait ending).2⟩
  | .terminate answer =>
    let r := h.terminate answer
    ⟨r.handle, r.calls, .signalled r.answer⟩
  | .forceKill answer =>
    let r := h.forceKill answer
    ⟨r.handle, r.calls, .signalled r.answer⟩
  | .terminateGroup answer =>
    let r := h.terminateGroup answer
    ⟨r.handle, r.calls, .groupSignalled r.answer⟩

/-- What happens to a handle. -/
inductive Event where
  /-- The process ends, with this status if the system keeps it. -/
  | ends (status : Option WaitStatus)
  | asked (op : Operation)
deriving Repr, DecidableEq

/-- The process ends by itself, if it has not ended before. -/
def childEnds (h : Handle) (status : Option WaitStatus) : Handle :=
  match h.child with
  | .running => { h with child := status.elim .vanished .exited }
  | _ => h

/-- What an event makes of a handle. -/
def step (h : Handle) : Event → Handle
  | .ends status => h.childEnds status
  | .asked op => (h.perform op).handle

/-- What events, one after the other, make of a handle. -/
def after (h : Handle) (events : List Event) : Handle := events.foldl step h

/-- The signals that are tried in the course of events. -/
def calls (h : Handle) : List Event → List SignalCall
  | [] => []
  | .ends status :: events => (h.childEnds status).calls events
  | .asked op :: events => (h.perform op).calls ++ (h.perform op).handle.calls events

@[simp] lemma after_nil (h : Handle) : h.after [] = h := rfl

@[simp] lemma after_cons (h : Handle) (e : Event) (events : List Event) :
    h.after (e :: events) = (h.step e).after events := rfl

@[simp] lemma after_append (h : Handle) (events more : List Event) :
    h.after (events ++ more) = (h.after events).after more := List.foldl_append

lemma calls_append (h : Handle) (events more : List Event) :
    h.calls (events ++ more) = h.calls events ++ (h.after events).calls more := by
  induction events generalizing h with
  | nil => rfl
  | cons e events ih =>
    cases e with
    | ends status => exact ih _
    | asked op => rw [List.cons_append, calls, calls, ih, after_cons, List.append_assoc, step]

/-! ## Looking and waiting -/

/-- Either the process has ended and its status is fetched, unless that was done before, or there is
no status to be had and nothing changes. -/
lemma hasExited_cases (h : Handle) :
    (∃ status, (h.child = .exited status ∨ h.child = .reaped status) ∧
      h.hasExited = ({ h with child := .reaped status }, true)) ∨
    ((h.child = .running ∨ h.child = .vanished) ∧ h.hasExited = (h, false)) := by
  cases hchild : h.child with
  | running => exact .inr ⟨.inl rfl, by simp [hasExited, tryWait, hchild]⟩
  | vanished => exact .inr ⟨.inr rfl, by simp [hasExited, tryWait, hchild]⟩
  | exited status => exact .inl ⟨status, .inl rfl, by simp [hasExited, tryWait, hchild]⟩
  | reaped status =>
    refine .inl ⟨status, .inr rfl, ?_⟩
    simp only [hasExited, tryWait, hchild]
    rw [← hchild]

/-- Waiting fetches the status, if there is one. -/
lemma wait_cases (h : Handle) (ending : Option WaitStatus) :
    (∃ status, h.wait ending = ({ h with child := .reaped status }, .ok status)) ∨
    (h.child = .vanished ∧ h.wait ending = (h, .error waitLost)) ∨
    (h.child = .running ∧ ending = none ∧
      h.wait ending = ({ h with child := .vanished }, .error waitLost)) := by
  cases hchild : h.child with
  | vanished => exact .inr (.inl ⟨rfl, by simp [Handle.wait, hchild]⟩)
  | exited status => exact .inl ⟨status, by simp [Handle.wait, hchild]⟩
  | reaped status =>
    refine .inl ⟨status, ?_⟩
    simp only [Handle.wait, hchild]
    rw [← hchild]
  | running =>
    cases ending with
    | none => exact .inr (.inr ⟨rfl, rfl, by simp [Handle.wait, hchild]⟩)
    | some status => exact .inl ⟨status, by simp [Handle.wait, hchild]⟩

lemma childEnds_eq (h : Handle) (status : Option WaitStatus) :
    ∃ child, h.childEnds status = { h with child := child } := by
  unfold childEnds
  split
  · exact ⟨_, rfl⟩
  · exact ⟨h.child, rfl⟩

/-! ## A status that has been fetched -/

/-- The end of the process is known, with its status, and the process gets no signal any more. -/
structure Over (h : Handle) (status : WaitStatus) : Prop where
  hasExited : h.hasExited = (h, true)
  wait : ∀ ending, h.wait ending = (h, .ok status)
  terminate : ∀ answer, h.terminate answer = ⟨h, [], .ok ()⟩
  forceKill : ∀ answer, h.forceKill answer = ⟨{ h with killed := true }, [], .ok ()⟩

lemma over_of_reaped {h : Handle} {status : WaitStatus} (hchild : h.child = .reaped status) :
    h.Over status := by
  have hexited : ∀ h : Handle, h.child = .reaped status → h.hasExited = (h, true) := by
    intro h hchild
    simp [hasExited, tryWait, hchild]
  constructor
  case hasExited => exact hexited h hchild
  case wait =>
    intro ending
    simp [Handle.wait, hchild]
  case terminate =>
    intro answer
    rw [Handle.terminate, hexited h hchild]
  case forceKill =>
    intro answer
    cases hkilled : h.killed with
    | true => rw [Handle.forceKill, hkilled, if_pos rfl, ← hkilled]
    | false =>
      rw [Handle.forceKill, hkilled, if_neg Bool.false_ne_true]
      rw [hexited { h with killed := true } hchild]

/-- A status that has been fetched stays. -/
lemma reaped_step {h : Handle} {status : WaitStatus} (hchild : h.child = .reaped status)
    (e : Event) : (h.step e).child = .reaped status := by
  have hover := over_of_reaped hchild
  cases e with
  | ends ending => rw [step, childEnds, hchild, hchild]
  | asked op =>
    cases op with
    | hasExited => rw [step, perform, hover.hasExited, hchild]
    | wait ending => rw [step, perform, hover.wait, hchild]
    | terminate answer => rw [step, perform, hover.terminate, hchild]
    | forceKill answer => rw [step, perform, hover.forceKill, hchild]
    | terminateGroup answer =>
      rw [step, perform, Handle.terminateGroup]
      dsimp only
      repeat' split
      all_goals exact hchild

lemma reaped_after {h : Handle} {status : WaitStatus} (hchild : h.child = .reaped status)
    (events : List Event) : (h.after events).child = .reaped status := by
  induction events generalizing h with
  | nil => exact hchild
  | cons e events ih => exact ih (reaped_step hchild e)

/-- Whoever is told that the process has ended, or of its status, is told of one that was
fetched. -/
lemma reaped_of_exited {h : Handle} (hexited : h.hasExited.2 = true) :
    ∃ status, h.hasExited.1.child = .reaped status := by
  obtain ⟨status, -, hended⟩ | ⟨-, hnone⟩ := h.hasExited_cases
  · exact ⟨status, by rw [hended]⟩
  · rw [hnone] at hexited
    cases hexited

lemma reaped_of_waited {h : Handle} {ending : Option WaitStatus} {status : WaitStatus}
    (hwait : (h.wait ending).2 = .ok status) : (h.wait ending).1.child = .reaped status := by
  obtain ⟨fetched, hended⟩ | ⟨-, hlost⟩ | ⟨-, -, hlost⟩ := h.wait_cases ending
  · rw [hended] at hwait ⊢
    rw [Except.ok.inj hwait]
  · rw [hlost] at hwait
    cases hwait
  · rw [hlost] at hwait
    cases hwait

/-! ## The marks -/

/-- What an operation is as a request of a run; the others do nothing to the process that a run has
asked for. -/
def Operation.request? : Operation → Option Request
  | hasExited => none
  | wait _ => none
  | terminate _ => none
  | forceKill _ => some .forceKill
  | terminateGroup _ => some .terminateGroup

def Event.request? : Event → Option Request
  | ends _ => none
  | asked op => op.request?

/-- The requests among events, in order. -/
def requested (events : List Event) : List Request := events.filterMap Event.request?

@[simp] lemma requested_append (events more : List Event) :
    requested (events ++ more) = requested events ++ requested more :=
  List.filterMap_append

/-- What a handle keeps of a request. -/
def mark (h : Handle) : Request → Bool
  | .forceKill => h.killed
  | .terminateGroup => h.groupSignalled

/-- What is no request changes at most what is known of the process. -/
lemma handle_perform (h : Handle) {op : Operation} (hop : op.request? = none) :
    ∃ child, (h.perform op).handle = { h with child := child } := by
  cases op with
  | hasExited =>
    rw [perform]
    obtain ⟨status, -, hended⟩ | ⟨-, hnone⟩ := h.hasExited_cases
    · exact ⟨_, by rw [hended]⟩
    · exact ⟨h.child, by rw [hnone]⟩
  | wait ending =>
    rw [perform]
    obtain ⟨status, hended⟩ | ⟨-, hlost⟩ | ⟨-, -, hlost⟩ := h.wait_cases ending
    · exact ⟨_, by rw [hended]⟩
    · exact ⟨h.child, by rw [hlost]⟩
    · exact ⟨_, by rw [hlost]⟩
  | terminate answer =>
    rw [perform, Handle.terminate]
    obtain ⟨status, -, hended⟩ | ⟨-, hnone⟩ := h.hasExited_cases
    · exact ⟨_, by rw [hended]⟩
    · refine ⟨h.child, ?_⟩
      rw [hnone]
      dsimp only
      repeat' split
      all_goals rfl
  | forceKill answer => exact nomatch hop
  | terminateGroup answer => exact nomatch hop

/-- Asked to kill, the handle marks it whatever comes of it. -/
lemma handle_forceKill (h : Handle) (answer : KillAnswer) :
    ∃ child, (h.forceKill answer).handle = { h with child := child, killed := true } := by
  cases hkilled : h.killed with
  | true =>
    refine ⟨h.child, ?_⟩
    rw [Handle.forceKill, if_pos hkilled, ← hkilled]
  | false =>
    rw [Handle.forceKill, hkilled, if_neg Bool.false_ne_true]
    obtain ⟨status, -, hended⟩ | ⟨-, hnone⟩ := hasExited_cases { h with killed := true }
    · exact ⟨_, by rw [hended]⟩
    · rw [hnone]
      cases answer with
      | refused e => exact ⟨h.child, rfl⟩
      | ended ending =>
        obtain ⟨status, hended⟩ | ⟨-, hlost⟩ | ⟨-, -, hlost⟩ :=
          wait_cases { h with killed := true } ending
        · exact ⟨.reaped status, by simp only [hended]⟩
        · exact ⟨h.child, by simp only [hlost]⟩
        · exact ⟨.vanished, by simp only [hlost]⟩

/-- Asked to signal the group, it marks that and nothing else. -/
lemma handle_terminateGroup (h : Handle) (answer : SignalAnswer) :
    (h.terminateGroup answer).handle = { h with groupSignalled := true } := by
  cases hsignalled : h.groupSignalled with
  | true => rw [Handle.terminateGroup, if_pos hsignalled, ← hsignalled]
  | false =>
    rw [Handle.terminateGroup, hsignalled, if_neg Bool.false_ne_true]
    dsimp only
    repeat' split
    all_goals rfl

/-- The mark of a request is left by that request, and by nothing else. -/
lemma mark_perform (h : Handle) (op : Operation) (r : Request) :
    (h.perform op).handle.mark r = (h.mark r || op.request? == some r) := by
  cases hrequest : op.request? with
  | none =>
    obtain ⟨child, hhandle⟩ := h.handle_perform hrequest
    rw [hhandle]
    cases r <;> simp [mark]
  | some request =>
    cases op with
    | forceKill answer =>
      obtain rfl := Option.some.inj hrequest
      obtain ⟨child, hhandle⟩ := h.handle_forceKill answer
      rw [perform, hhandle]
      cases r <;> simp [mark]
    | terminateGroup answer =>
      obtain rfl := Option.some.inj hrequest
      rw [perform, handle_terminateGroup]
      cases r <;> simp [mark]
    | _ => exact nomatch hrequest

lemma mark_step (h : Handle) (e : Event) (r : Request) :
    (h.step e).mark r = (h.mark r || e.request? == some r) := by
  cases e with
  | ends status =>
    obtain ⟨child, hends⟩ := h.childEnds_eq status
    rw [step, hends, Event.request?]
    cases r <;> simp [mark]
  | asked op => exact mark_perform h op r

/-- A handle has marked what it was ever asked for, and nothing else. -/
lemma mark_after (h : Handle) (events : List Event) (r : Request) :
    (h.after events).mark r = (h.mark r || (requested events).contains r) := by
  induction events generalizing h with
  | nil => simp [requested]
  | cons e events ih =>
    rw [after_cons, ih, mark_step, Bool.or_assoc]
    cases hrequest : e.request? with
    | none => simp [requested, List.filterMap_cons_none hrequest]
    | some request =>
      have hrequested : requested (e :: events) = request :: requested events :=
        List.filterMap_cons_some hrequest
      rw [hrequested, List.contains_cons, Option.some_beq_some, BEq.comm]

lemma mark_of_asked (h : Handle) {events : List Event} {e : Event} {r : Request} (he : e ∈ events)
    (hrequest : e.request? = some r) : (h.after events).mark r = true := by
  have hrequested : r ∈ requested events := List.mem_filterMap.mpr ⟨e, he, hrequest⟩
  rw [mark_after, List.contains_iff_mem.mpr hrequested, Bool.or_true]

/-! ## What is done once -/

/-- What an operation may do: a kill and a signal to the group are tried only by the operation that
sets their marks; and an error leaves the process as it was, or tells that it has ended and that its
status is not to be had. -/
structure Performs (h : Handle) (op : Operation) (r : Reply Answer) : Prop where
  kill : r.calls.count .kill + h.killed.toNat ≤ r.handle.killed.toNat
  group : r.calls.countP SignalCall.toGroup + h.groupSignalled.toNat ≤
    r.handle.groupSignalled.toNat
  child : r.answer.isError = true → r.handle.child = h.child ∨
    (op.losesStatus = true ∧ h.child = .running ∧ r.handle.child = .vanished)

lemma performs_hasExited (h : Handle) : h.Performs .hasExited (h.perform .hasExited) := by
  rw [perform]
  obtain ⟨status, -, hended⟩ | ⟨-, hnone⟩ := h.hasExited_cases
  · rw [hended]
    exact ⟨by simp, by simp, by simp [Answer.isError]⟩
  · rw [hnone]
    exact ⟨by simp, by simp, by simp [Answer.isError]⟩

lemma performs_wait (h : Handle) (ending : Option WaitStatus) :
    h.Performs (.wait ending) (h.perform (.wait ending)) := by
  rw [perform]
  obtain ⟨status, hended⟩ | ⟨-, hlost⟩ | ⟨hrunning, rfl, hlost⟩ :=
    h.wait_cases ending
  · rw [hended]
    exact ⟨by simp, by simp, by simp [Answer.isError]⟩
  · rw [hlost]
    exact ⟨by simp, by simp, fun _ => .inl rfl⟩
  · rw [hlost]
    exact ⟨by simp, by simp, fun _ => .inr ⟨rfl, hrunning, rfl⟩⟩

lemma performs_terminate (h : Handle) (answer : SignalAnswer) :
    h.Performs (.terminate answer) (h.perform (.terminate answer)) := by
  obtain ⟨status, -, hended⟩ | ⟨-, hnone⟩ := h.hasExited_cases
  · have hquiet : h.terminate answer = ⟨{ h with child := .reaped status }, [], .ok ()⟩ := by
      rw [Handle.terminate, hended]
    rw [perform, hquiet]
    exact ⟨by simp, by simp, by simp [Answer.isError]⟩
  · have hhandle : (h.terminate answer).handle = h := by
      rw [Handle.terminate, hnone]
      dsimp only
      repeat' split
      all_goals rfl
    have hcalls : (h.terminate answer).calls = h.pid.toList.map .terminate := by
      rw [Handle.terminate, hnone]
      cases hpid : h.pid <;> cases answer <;> simp [hpid]
    rw [perform, hhandle, hcalls]
    refine ⟨?_, ?_, fun _ => .inl rfl⟩ <;> cases h.pid <;> simp [SignalCall.toGroup]

lemma performs_forceKill (h : Handle) (answer : KillAnswer) :
    h.Performs (.forceKill answer) (h.perform (.forceKill answer)) := by
  rw [perform, Handle.forceKill]
  cases hkilled : h.killed with
  | true =>
    rw [if_pos rfl]
    exact ⟨by simp [hkilled], by simp, by simp [Answer.isError]⟩
  | false =>
    rw [if_neg Bool.false_ne_true]
    obtain ⟨status, -, hended⟩ | ⟨-, hnone⟩ := hasExited_cases { h with killed := true }
    · rw [hended]
      exact ⟨by simp [hkilled], by simp, by simp [Answer.isError]⟩
    · rw [hnone]
      cases answer with
      | refused e =>
        exact ⟨by simp [hkilled], by simp [SignalCall.toGroup], fun _ => .inl rfl⟩
      | ended ending =>
        obtain ⟨status, hended⟩ | ⟨-, hlost⟩ | ⟨hrunning, rfl, hlost⟩ :=
          wait_cases { h with killed := true } ending
        · simp only [hended]
          exact ⟨by simp [hkilled], by simp [SignalCall.toGroup], by simp [Answer.isError]⟩
        · simp only [hlost]
          exact ⟨by simp [hkilled], by simp [SignalCall.toGroup], fun _ => .inl rfl⟩
        · simp only [hlost]
          exact ⟨by simp [hkilled], by simp [SignalCall.toGroup],
            fun _ => .inr ⟨rfl, hrunning, rfl⟩⟩

lemma performs_terminateGroup (h : Handle) (answer : SignalAnswer) :
    h.Performs (.terminateGroup answer) (h.perform (.terminateGroup answer)) := by
  cases hsignalled : h.groupSignalled with
  | true =>
    have hskipped : h.terminateGroup answer = ⟨h, [], .ok .skipped⟩ := by
      rw [Handle.terminateGroup, hsignalled, if_pos rfl]
    rw [perform, hskipped]
    exact ⟨by simp, by simp, fun _ => .inl rfl⟩
  | false =>
    have hcalls : (h.terminateGroup answer).calls = h.pid.toList.map .terminateGroup := by
      rw [Handle.terminateGroup, hsignalled, if_neg Bool.false_ne_true]
      cases hpid : h.pid <;> cases answer <;> rfl
    rw [perform, handle_terminateGroup, hcalls]
    refine ⟨?_, ?_, fun _ => .inl rfl⟩ <;>
      cases h.pid <;> simp [hsignalled, SignalCall.toGroup]

theorem performs (h : Handle) (op : Operation) : h.Performs op (h.perform op) := by
  cases op with
  | hasExited => exact performs_hasExited h
  | wait ending => exact performs_wait h ending
  | terminate answer => exact performs_terminate h answer
  | forceKill answer => exact performs_forceKill h answer
  | terminateGroup answer => exact performs_terminateGroup h answer

/-- Where every operation marks what it does, and a mark forbids to do it again, it is done at most
once in the course of events. -/
lemma countP_calls_le {p : SignalCall → Bool} {mark : Handle → Bool}
    (hperform : ∀ h op, (h.perform op).calls.countP p + (mark h).toNat ≤
      (mark (h.perform op).handle).toNat)
    (hends : ∀ h status, mark (childEnds h status) = mark h) (h : Handle) (events : List Event) :
    (h.calls events).countP p + (mark h).toNat ≤ (mark (h.after events)).toNat := by
  induction events generalizing h with
  | nil => simp [calls]
  | cons e events ih =>
    cases e with
    | ends status =>
      have hrest := ih (h.childEnds status)
      rwa [hends] at hrest
    | asked op =>
      have hop := hperform h op
      have hrest := ih (h.perform op).handle
      rw [calls, List.countP_append, after_cons, step]
      omega

lemma count_calls_kill_le (h : Handle) (events : List Event) :
    (h.calls events).count .kill + h.killed.toNat ≤ (h.after events).killed.toNat := by
  refine countP_calls_le (fun h op => (performs h op).kill) (fun h status => ?_) h events
  obtain ⟨child, hends⟩ := h.childEnds_eq status
  rw [hends]

lemma countP_calls_toGroup_le (h : Handle) (events : List Event) :
    (h.calls events).countP SignalCall.toGroup + h.groupSignalled.toNat ≤
      (h.after events).groupSignalled.toNat := by
  refine countP_calls_le (fun h op => (performs h op).group) (fun h status => ?_) h events
  obtain ⟨child, hends⟩ := h.childEnds_eq status
  rw [hends]

end Handle
end Watchdog
