import Watchdog.Proofs.Attempt.Frames
import Watchdog.Proofs.Run.Delivery

/-!
# What an attempt does to the outside

Everything an attempt does is added to its history, and what stands there already stays.  An attempt
launches nothing and pauses nowhere, and only two of its moves ask anything of the handle on the
process (`asks`).  What stands there as asked was asked: the handle is what these operations on it
have made of it, and the signals are those that it tried.  The texts an attempt hands to the
receivers are those that its session makes certain when it is told what it is told (`Follows`), so
that at every moment they add up to the text that the session has of the stream.
-/

namespace Watchdog

namespace Effect

/-- A launch, or a pause before one. -/
def paces : Effect → Bool
  | launch _ => true
  | pause _ => true
  | _ => false

/-- What was asked of the handle, in order. -/
def requests (effects : List Effect) : List Request :=
  effects.filterMap fun e => match e with
    | .request r => some r
    | _ => none

@[simp] lemma requests_append (effects more : List Effect) :
    requests (effects ++ more) = requests effects ++ requests more :=
  List.filterMap_append

lemma mem_requests {r : Request} {effects : List Effect} :
    r ∈ requests effects ↔ .request r ∈ effects := by
  rw [requests, List.mem_filterMap]
  constructor
  · rintro ⟨e, he, hr⟩
    cases e with
    | request r' => rwa [Option.some.inj hr] at he
    | _ => exact nomatch hr
  · exact fun h => ⟨_, h, rfl⟩

/-- The signals that were tried, in order. -/
def signals (effects : List Effect) : List SignalCall :=
  effects.filterMap fun e => match e with
    | .signal call => some call
    | _ => none

@[simp] lemma signals_append (effects more : List Effect) :
    signals (effects ++ more) = signals effects ++ signals more :=
  List.filterMap_append

/-! Signals are neither requests nor texts for a receiver. -/

@[simp] lemma requests_signals (calls : List SignalCall) : requests (calls.map .signal) = [] := by
  simp [requests, List.filterMap_map]

@[simp] lemma signals_signals (calls : List SignalCall) : signals (calls.map .signal) = calls := by
  simp [signals, List.filterMap_map]

@[simp] lemma sunk_signals (stream : Stream) (calls : List SignalCall) :
    sunk stream (calls.map .signal) = [] := by
  simp [sunk, List.filterMap_map]

end Effect

namespace Attempt

/-- `b` comes from `a` by telling the session `calls`, by `history` on the side of the handle, and by
doing `new` to the outside.  None of that is a launch or a pause, the texts handed over are those of
the calls, and what was asked of the handle and the signals it tried are those of its history. -/
structure FollowsBy (a : Attempt) (calls : List Session.Call) (history : List Handle.Event)
    (new : List Effect) (b : Attempt) : Prop where
  session : b.session = a.session.replay calls
  handle : b.handle = a.handle.after history
  effects : b.effects = a.effects ++ new
  paces : ∀ e ∈ new, e.paces = false
  sunk : ∀ stream, Effect.sunk stream new = Effect.sunk stream (a.session.delivered calls)
  requests : Effect.requests new = Handle.requested history
  signals : Effect.signals new = a.handle.calls history

/-- `b` comes from `a` with these requests to the handle. -/
def Follows (a : Attempt) (requests : List Request) (b : Attempt) : Prop :=
  ∃ calls history new, a.FollowsBy calls history new b ∧ Effect.requests new = requests

variable {a b c : Attempt} {first second : List Request}

lemma Follows.trans (h : a.Follows first b) (h' : b.Follows second c) :
    a.Follows (first ++ second) c := by
  obtain ⟨calls, history, new, hby, rfl⟩ := h
  obtain ⟨more, later, next, hby', rfl⟩ := h'
  refine ⟨calls ++ more, history ++ later, new ++ next, ?_, Effect.requests_append new next⟩
  constructor
  case session => rw [hby'.session, hby.session, Session.replay_append]
  case handle => rw [hby'.handle, hby.handle, Handle.after_append]
  case effects => rw [hby'.effects, hby.effects, List.append_assoc]
  case paces => exact fun e he => (List.mem_append.mp he).elim (hby.paces e) (hby'.paces e)
  case sunk =>
    intro stream
    rw [Effect.sunk_append, hby.sunk, hby'.sunk, hby.session, ← Effect.sunk_append,
      Session.delivered_append]
  case requests =>
    rw [Effect.requests_append, hby.requests, hby'.requests, Handle.requested_append]
  case signals =>
    rw [Effect.signals_append, hby.signals, hby'.signals, hby.handle, Handle.calls_append]

/-! ## Parts of a move -/

/-- Nothing is done to the outside, and neither the session nor the handle is told anything. -/
lemma follows_of_same (hhistory : b.history = a.history) (hsession : b.session = a.session)
    (hhandle : b.handle = a.handle) : a.Follows [] b := by
  refine ⟨[], [], [], ⟨hsession, hhandle, ?_, nofun, fun _ => rfl, rfl, rfl⟩, rfl⟩
  rw [effects, hhistory, List.append_nil]
  rfl

lemma Follows.refl (a : Attempt) : a.Follows [] a := follows_of_same rfl rfl rfl

lemma follows_note (a : Attempt) (n : Note) : a.Follows [] (a.note n) := by
  refine ⟨[], [], [.note n], ⟨rfl, rfl, ?_, ?_, fun _ => rfl, rfl, rfl⟩, rfl⟩
  · simp [effects, note, record]
  · simp [Effect.paces]

/-- A request is an operation on the handle, and the signals it tries follow it. -/
lemma follows_request (a : Attempt) (op : Handle.Operation) {r : Request}
    (hop : op.request? = some r) :
    a.Follows [r] (({ a.record (.request r) with
      handle := (a.handle.perform op).handle } : Attempt).recordCalls
        (a.handle.perform op).calls) := by
  have hrequests : Effect.requests (.request r :: (a.handle.perform op).calls.map .signal) = [r] :=
    congrArg (r :: ·) (Effect.requests_signals _)
  have hasked : (Handle.Event.asked op).request? = some r := hop
  refine ⟨[], [.asked op], .request r :: (a.handle.perform op).calls.map .signal, ?_, hrequests⟩
  constructor
  case session => rfl
  case handle => rfl
  case effects => simp [effects, record, recordCalls]
  case paces => simp [Effect.paces]
  case sunk => exact fun stream => Effect.sunk_signals stream _
  case requests =>
    rw [hrequests, Handle.requested, List.filterMap_cons_some hasked]
    rfl
  case signals =>
    rw [Handle.calls, Handle.calls, List.append_nil]
    exact Effect.signals_signals _

/-- Waiting asks for nothing and sends no signal. -/
lemma follows_wait (a : Attempt) :
    a.Follows [] { a with handle := (a.handle.wait none).1, exitSeen := true } :=
  ⟨[], [.asked (.wait none)], [],
    ⟨rfl, rfl, (List.append_nil _).symm, nofun, fun _ => rfl, rfl, rfl⟩, rfl⟩

lemma follows_endChild (h : a.handle.child = .running) (status : Option WaitStatus) :
    a.Follows [] (a.endChild status) := by
  refine ⟨[], [.ends status], [],
    ⟨rfl, ?_, (List.append_nil _).symm, nofun, fun _ => rfl, rfl, rfl⟩, rfl⟩
  rw [Handle.after_cons, Handle.after_nil, Handle.step, Handle.childEnds, h]
  cases status <;> rfl

lemma follows_setChannel (a : Attempt) (s : Stream) (c : Channel) :
    a.Follows [] (a.setChannel s c) := by
  rw [setChannel_eq]
  exact follows_of_same rfl rfl rfl

lemma follows_absorb (a : Attempt) (stream : Stream) (bytes : List UInt8) :
    a.Follows [] (a.absorb stream bytes) := by
  have hsinks : ∀ e ∈ (a.session.deliver stream bytes).1, ∃ text, e = .sink stream text := by
    unfold Session.deliver
    dsimp only
    split
    · exact nofun
    · exact fun e he => ⟨_, List.mem_singleton.mp he⟩
  have hrequests : Effect.requests (a.session.deliver stream bytes).1 = [] := by
    refine List.filterMap_eq_nil_iff.mpr fun e he => ?_
    obtain ⟨text, rfl⟩ := hsinks e he
    rfl
  refine ⟨[.chunk stream bytes], [], (a.session.deliver stream bytes).1,
    ⟨rfl, rfl, ?_, ?_, ?_, hrequests, ?_⟩, hrequests⟩
  · simp [effects, absorb]
  · intro e he
    obtain ⟨text, rfl⟩ := hsinks e he
    rfl
  · intro s
    rw [Session.delivered, Session.delivered, List.append_nil]
    rfl
  · refine List.filterMap_eq_nil_iff.mpr fun e he => ?_
    obtain ⟨text, rfl⟩ := hsinks e he
    rfl

lemma follows_finish (a : Attempt) : a.Follows [] a.finish := by
  have hdone : a.Follows [] { a with phase := .done } := follows_of_same rfl rfl rfl
  exact hdone.trans (follows_note _ _)

lemma follows_drainOrFinish (a : Attempt) (since : Duration) :
    a.Follows [] (a.drainOrFinish since) := by
  unfold drainOrFinish
  split
  · exact follows_of_same rfl rfl rfl
  · exact follows_finish a

/-- A call that brings no piece does nothing to the outside. -/
lemma follows_apply (a : Attempt) (call : Session.Call) (h : call.piece? = none) :
    a.Follows [] { a with session := a.session.apply call } := by
  refine ⟨[call], [], [],
    ⟨rfl, rfl, (List.append_nil _).symm, nofun, fun s => ?_, rfl, rfl⟩, rfl⟩
  rw [Session.delivered, Session.delivers_of_none h]
  rfl

lemma follows_settle (a : Attempt) : a.Follows [] a.settle := by
  refine (follows_apply a (.settle a.now) rfl).trans ?_
  unfold settle
  dsimp only
  split
  · exact follows_of_same rfl rfl rfl
  · exact follows_drainOrFinish _ _

lemma follows_settleIf (settles : Bool) (a : Attempt) : a.Follows [] (a.settleIf settles) := by
  cases settles with
  | true => exact follows_settle a
  | false => exact Follows.refl a

/-- Where there are groups, the handle is asked to signal the group. -/
def groupRequests (a : Attempt) : List Request :=
  if a.setting.platform.hasProcessGroups then [.terminateGroup] else []

lemma follows_reapGroup (a : Attempt) (answer : SignalAnswer) :
    a.Follows a.groupRequests (a.reapGroup answer) := by
  unfold reapGroup groupRequests
  dsimp only
  cases a.setting.platform.hasProcessGroups with
  | false => exact Follows.refl a
  | true =>
    have hcalls : a.Follows [.terminateGroup] (({ a.record (.request .terminateGroup) with
        handle := (a.handle.terminateGroup answer).handle } : Attempt).recordCalls
          (a.handle.terminateGroup answer).calls) :=
      follows_request a (.terminateGroup answer) rfl
    simp only [Bool.not_true, Bool.false_eq_true, if_false, if_true]
    split
    · exact hcalls.trans (follows_note _ _)
    · exact hcalls
    · exact hcalls.trans (follows_note _ _)

lemma follows_collect (a : Attempt) (s : Stream) : a.Follows [] (a.collect s) := by
  have hpieces : ∀ (pieces : List (List UInt8)) (a : Attempt),
      a.Follows [] (pieces.foldl (fun a bytes => a.absorb s bytes) a) := by
    intro pieces
    induction pieces with
    | nil => exact Follows.refl
    | cons bytes pieces ih => exact fun a => (follows_absorb a s bytes).trans (ih _)
  exact (follows_setChannel _ _ _).trans (hpieces _ _)

/-! ## Moves -/

lemma follows_takeWaiting (a : Attempt) (stream : Stream) :
    a.Follows [] (a.takeWaiting stream) := by
  unfold takeWaiting
  dsimp only
  split
  · exact (follows_setChannel _ _ _).trans (follows_absorb _ _ _)
  · cases stream with
    | stdout =>
      exact ((follows_setChannel _ _ _).trans (follows_apply _ .stdoutEnded rfl)).trans
        (follows_settleIf _ _)
    | stderr => exact follows_setChannel _ _ _

lemma follows_takeDraining (a : Attempt) (since : Duration) (stream : Stream) :
    a.Follows [] (a.takeDraining since stream) := by
  unfold takeDraining
  dsimp only
  split
  · exact (follows_setChannel _ _ _).trans (follows_absorb _ _ _)
  · exact (follows_setChannel _ _ _).trans (follows_drainOrFinish _ _)

lemma follows_acceptExit (a : Attempt) (answer : SignalAnswer) :
    a.Follows a.groupRequests (a.acceptExit answer) := by
  have hwait := follows_wait a
  rw [← List.append_nil a.groupRequests]
  unfold acceptExit
  dsimp only
  split
  · rename_i status hstatus
    exact ((hwait.trans (follows_apply _ (.recordExit a.now status.parts) rfl)).trans
      (follows_reapGroup _ _)).trans (follows_settleIf _ _)
  · exact (((hwait.trans (follows_note _ _)).trans (follows_apply _ (.exitUnknown a.now)
      rfl)).trans (follows_reapGroup _ _)).trans (follows_settleIf _ _)

lemma follows_killAndCollect (a : Attempt) (answer : KillAnswer) :
    a.Follows [.forceKill] (a.killAndCollect answer) := by
  have hkill : a.Follows [.forceKill] (({ a.record (.request .forceKill) with
      handle := (a.handle.forceKill answer).handle } : Attempt).recordCalls
        (a.handle.forceKill answer).calls) :=
    follows_request a (.forceKill answer) rfl
  have hcollect : ∀ a : Attempt,
      a.Follows [] ((a.collect .stdout).collect .stderr).finish := fun a =>
    ((follows_collect a _).trans (follows_collect _ _)).trans (follows_finish _)
  unfold killAndCollect
  dsimp only
  split
  · exact hkill.trans (hcollect _)
  · exact (hkill.trans (follows_note _ _)).trans (hcollect _)

/-- What a move asks of the handle: taking the end of the command, to signal the group where there
are groups; the kill, to kill the process. -/
def asks (a : Attempt) (m : Move) : List Request :=
  match m with
  | .takeExit _ => if (a.step? m).isSome then a.groupRequests else []
  | .kill _ => if (a.step? m).isSome then [.forceKill] else []
  | _ => []

/-- Every move adds to what has been done. -/
lemma follows_next (a : Attempt) (m : Move) : a.Follows (a.asks m) (a.next m) := by
  cases hstep : a.step? m with
  | none =>
    have hnothing : a.asks m = [] := by
      unfold asks
      split <;> simp [hstep]
    rw [next_of_impossible hstep, hnothing]
    exact Follows.refl a
  | some b =>
    rw [next_of_step hstep]
    cases m with
    | elapse d => obtain rfl := Option.some.inj hstep; exact follows_of_same rfl rfl rfl
    | arrive stream bytes =>
      simp only [step?, Option.ite_none_left_eq_some, Option.some.injEq] at hstep
      obtain ⟨-, rfl⟩ := hstep
      exact follows_setChannel _ _ _
    | streamEnd stream =>
      simp only [step?, Option.ite_none_left_eq_some, Option.some.injEq] at hstep
      obtain ⟨-, rfl⟩ := hstep
      exact follows_setChannel _ _ _
    | childEnd status =>
      simp only [step?, Option.ite_none_right_eq_some, Option.some.injEq] at hstep
      obtain ⟨hrunning, rfl⟩ := hstep
      exact follows_endChild hrunning status
    | take stream =>
      simp only [step?, Option.ite_none_left_eq_some] at hstep
      obtain ⟨-, hstep⟩ := hstep
      split at hstep
      · obtain rfl := Option.some.inj hstep
        exact follows_takeWaiting _ _
      · obtain rfl := Option.some.inj hstep
        exact follows_takeDraining _ _ _
      · exact nomatch hstep
    | takeExit answer =>
      rw [asks, if_pos (by rw [hstep]; rfl)]
      simp only [step?, Option.ite_none_right_eq_some, Option.some.injEq] at hstep
      obtain ⟨-, rfl⟩ := hstep
      exact follows_acceptExit _ _
    | takeDeadline =>
      simp only [step?, Option.ite_none_right_eq_some, Option.some.injEq] at hstep
      obtain ⟨-, rfl⟩ := hstep
      exact (follows_note _ _).trans (follows_settle _)
    | kill answer =>
      rw [asks, if_pos (by rw [hstep]; rfl)]
      simp only [step?, Option.ite_none_right_eq_some, Option.some.injEq] at hstep
      obtain ⟨-, rfl⟩ := hstep
      exact follows_killAndCollect _ _
    | takeGraceEnd =>
      simp only [step?] at hstep
      split at hstep
      · simp only [Option.ite_none_right_eq_some, Option.some.injEq] at hstep
        obtain ⟨-, rfl⟩ := hstep
        exact follows_finish _
      · exact nomatch hstep

/-- What moves ask of the handle, one after the other. -/
def asked (a : Attempt) : List Move → List Request
  | [] => []
  | m :: moves => a.asks m ++ (a.next m).asked moves

lemma asked_append (a : Attempt) (moves more : List Move) :
    a.asked (moves ++ more) = a.asked moves ++ (a.play moves).asked more := by
  induction moves generalizing a with
  | nil => rfl
  | cons m moves ih => rw [List.cons_append, asked, asked, ih, play_cons, List.append_assoc]

/-- **Only additions.**  Moves add to what has been done; none of it is a launch or a pause, and the
texts they hand over are those that the session makes certain of what it is told. -/
theorem follows_play (a : Attempt) (moves : List Move) :
    a.Follows (a.asked moves) (a.play moves) := by
  induction moves generalizing a with
  | nil => exact Follows.refl a
  | cons m moves ih => exact (follows_next a m).trans (ih _)

/-- From its beginning on, an attempt has asked what its moves ask. -/
lemma requests_effects (setting : Setting) (pid : UInt32) (now : Duration) (epoch : UInt64)
    (moves : List Move) :
    Effect.requests ((start setting pid now epoch).play moves).effects =
      (start setting pid now epoch).asked moves := by
  obtain ⟨_, _, new, hby, hasked⟩ := follows_play (start setting pid now epoch) moves
  have hnothing : (start setting pid now epoch).effects = [] := rfl
  rw [hby.effects, hnothing, List.nil_append, hasked]

/-- The effects are those of what was asked of the handle: the requests are operations that it has
gone through, no other requests are among these, and the signals are those that it tried. -/
def Called (origin a : Attempt) (effects : List Effect) : Prop :=
  ∃ history, a.handle = origin.handle.after history ∧
    Handle.requested history = Effect.requests effects ∧
    Effect.signals effects = origin.handle.calls history

lemma called_effects (setting : Setting) (pid : UInt32) (now : Duration) (epoch : UInt64)
    (moves : List Move) :
    (start setting pid now epoch).Called ((start setting pid now epoch).play moves)
      ((start setting pid now epoch).play moves).effects := by
  obtain ⟨_, history, new, hby, -⟩ := follows_play (start setting pid now epoch) moves
  have hnothing : (start setting pid now epoch).effects = [] := rfl
  refine ⟨history, hby.handle, ?_, ?_⟩
  · rw [hby.effects, hnothing, List.nil_append, hby.requests]
  · rw [hby.effects, hnothing, List.nil_append, hby.signals]

/-- From its beginning on, an attempt has handed over what its session was told. -/
lemma exists_delivered (setting : Setting) (pid : UInt32) (now : Duration) (epoch : UInt64)
    (moves : List Move) :
    ∃ calls, ((start setting pid now epoch).play moves).session = Session.new.replay calls ∧
      ∀ stream, Effect.sunk stream ((start setting pid now epoch).play moves).effects =
        Effect.sunk stream (Session.new.delivered calls) := by
  obtain ⟨calls, _, new, hby, -⟩ := follows_play (start setting pid now epoch) moves
  have hnothing : (start setting pid now epoch).effects = [] := rfl
  refine ⟨.markStarted now epoch :: calls, hby.session, fun stream => ?_⟩
  rw [hby.effects, hnothing, List.nil_append, hby.sunk]
  rfl

/-- From its beginning on, an attempt has handed over the text that the session has. -/
lemma sunkText_effects (setting : Setting) (pid : UInt32) (now : Duration) (epoch : UInt64)
    (moves : List Move) (stream : Stream) :
    Effect.sunkText stream ((start setting pid now epoch).play moves).effects =
      (((start setting pid now epoch).play moves).session.buffer stream).text := by
  obtain ⟨calls, hsession, hsunk⟩ := exists_delivered setting pid now epoch moves
  have hempty : (Session.new.buffer stream).text = "" := by cases stream <;> rfl
  rw [hsession, Session.text_replay, hempty, String.empty_append, Effect.sunkText, hsunk]
  rfl

lemma paces_effects (setting : Setting) (pid : UInt32) (now : Duration) (epoch : UInt64)
    (moves : List Move) :
    ((start setting pid now epoch).play moves).effects.filter Effect.paces = [] := by
  obtain ⟨_, _, new, hby, -⟩ := follows_play (start setting pid now epoch) moves
  have hnothing : (start setting pid now epoch).effects = [] := rfl
  rw [hby.effects, hnothing, List.nil_append, List.filter_eq_nil_iff]
  exact fun e he => by rw [hby.paces e he]; exact Bool.false_ne_true

end Attempt

end Watchdog
