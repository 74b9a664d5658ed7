import Watchdog.Proofs.Attempt.Answers
import Watchdog.Proofs.Attempt.Received
import Watchdog.Proofs.Attempt.Timeliness
import Watchdog.Proofs.Session.History
import Watchdog.Run.Runner

/-!
# What the handle is asked for

An attempt asks the handle on its process for two things.  When it takes the end of the command it
has the group signalled, so that nobody is left behind; when it has settled without knowing how the
command ended it has the process killed.  The first hangs on what has been taken, the second on what
the session knows, and the process must not be signalled by the second when it has gone by the
first: its number may belong to another by then.  `Kills` says how often the kill has been asked
for, by where the attempt stands.
-/

namespace Watchdog

namespace Attempt

variable {origin a : Attempt}

lemma setting_next (a : Attempt) (m : Move) : (a.next m).setting = a.setting := by
  by_cases hphase : a.phase = .selecting
  · cases htaken : a.taken? m with
    | none => exact (passes_of_taken_eq_none hphase htaken).setting
    | some e =>
      obtain ⟨b, htakes, hnext⟩ := next_of_taken htaken
      rw [hnext, ← htakes.setting]
      cases a.decides e with
      | true => rw [settleIf, if_pos rfl, settle_eq]
      | false => rfl
  · obtain ⟨-, pieces, hhands⟩ := next_of_settled hphase m
    exact hhands.setting

/-! ## The group -/

/-- The group is signalled whenever the end of the command is taken, where there are groups. -/
lemma count_terminateGroup_asks (a : Attempt) (m : Move) :
    (a.asks m).count .terminateGroup =
      if a.setting.platform.hasProcessGroups then (a.taken? m).toList.countP Event.isExit
      else 0 := by
  cases m with
  | takeExit answer =>
    by_cases hstep : (a.step? (.takeExit answer)).isSome
    · have hphase : a.phase = .selecting := by
        simp only [step?] at hstep
        split at hstep
        · rename_i hguard
          exact hguard.1
        · cases hstep
      have htaken : a.taken? (.takeExit answer) = some (.exit (a.handle.wait none).2) := by
        rw [taken?, if_pos ⟨hphase, hstep⟩]
      rw [asks, if_pos hstep, htaken, groupRequests]
      split <;> rfl
    · simp [asks, taken?, hstep]
  | kill answer =>
    have hcount : (a.asks (.kill answer)).count .terminateGroup = 0 := by
      rw [asks]
      split <;> rfl
    simp [hcount, taken?]
  | take stream =>
    have hnone : (a.taken? (.take stream)).toList.countP Event.isExit = 0 := by
      unfold taken?
      split
      · dsimp only
        split <;> rfl
      · rfl
    rw [hnone, ite_self]
    rfl
  | takeDeadline =>
    have hnone : (a.taken? .takeDeadline).toList.countP Event.isExit = 0 := by
      unfold taken?
      split <;> rfl
    rw [hnone, ite_self]
    rfl
  | _ => simp [asks, taken?]

lemma count_terminateGroup_asked (a : Attempt) (moves : List Move) :
    (a.asked moves).count .terminateGroup =
      if a.setting.platform.hasProcessGroups then (events (a.taken moves)).countP Event.isExit
      else 0 := by
  induction moves generalizing a with
  | nil => simp [asked, Attempt.taken, events]
  | cons m moves ih =>
    have hevents : events (a.taken (m :: moves)) =
        (a.taken? m).toList ++ events ((a.next m).taken moves) := by
      simp [events, Attempt.taken, Function.comp_def]
    rw [asked, List.count_append, count_terminateGroup_asks, ih, setting_next, hevents,
      List.countP_append]
    split <;> rfl

/-! ## The kill -/

/-- How often the handle was told to kill the process, by where the attempt stands and what the
session knows of the end of the command. -/
inductive Kills : Phase → ExitParts → Nat → Prop
  | selecting {parts} : Kills .selecting parts 0
  | killing : Kills .killing ⟨none, none⟩ 0
  | killed : Kills .done ⟨none, none⟩ 1
  | draining {since parts} : parts ≠ ⟨none, none⟩ → Kills (.draining since) parts 0
  | drained {parts} : parts ≠ ⟨none, none⟩ → Kills .done parts 0

namespace Kills

variable {phase : Phase} {parts : ExitParts} {n : Nat}

lemma le_one (h : Kills phase parts n) : n ≤ 1 := by
  cases h <;> simp

lemma pos_iff (h : Kills phase parts n) : 0 < n ↔ phase = .done ∧ parts = ⟨none, none⟩ := by
  cases h <;> simp [*]

lemma due_iff (h : Kills phase parts n) :
    0 < n ∨ phase = .killing ↔ phase ≠ .selecting ∧ parts = ⟨none, none⟩ := by
  cases h <;> simp [*]

end Kills

/-- Only a command that is to be killed is killed. -/
lemma count_forceKill_asks (h : a.phase ≠ .killing) (m : Move) :
    (a.asks m).count .forceKill = 0 := by
  cases m with
  | takeExit answer =>
    rw [asks, groupRequests]
    split
    · split <;> rfl
    · rfl
  | kill answer =>
    have himpossible : a.step? (.kill answer) = none := by rw [step?, if_neg h]
    rw [asks, himpossible]
    rfl
  | _ => rfl

lemma kills_drainOrFinish (h : a.session.exitParts ≠ ⟨none, none⟩) (since : Duration) :
    Kills (a.drainOrFinish since).phase (a.drainOrFinish since).session.exitParts 0 := by
  rw [drainOrFinish_eq]
  dsimp only
  split
  · exact .draining h
  · exact .drained h

/-- Settling decides whether the command is to be killed. -/
lemma kills_settle (h : a.session.started.isSome = true) :
    Kills a.settle.phase a.settle.session.exitParts 0 := by
  have hstarted : (a.session.settle a.now).2.started.isSome = true := by
    rw [Session.settle_eq]
    exact h
  have hneeds := Session.needsForceKill_iff (a.session.settle a.now).2
  unfold settle
  dsimp only
  split
  · rename_i hkill
    rw [(hneeds.mp hkill).2]
    exact .killing
  · rename_i hkeep
    exact kills_drainOrFinish (fun hparts => hkeep (hneeds.mpr ⟨hstarted, hparts⟩)) _

/-- After the waiting nothing is learnt of the end of the command. -/
lemma exitParts_next (h : a.phase ≠ .selecting) (m : Move) :
    (a.next m).session.exitParts = a.session.exitParts := by
  obtain ⟨-, pieces, hhands⟩ := next_of_settled h m
  rw [hhands.session]
  exact (Session.keeps_absorb _ _).exitParts_eq

/-- The one move that ends the killing asks for it. -/
lemma next_of_kills (h : a.phase = .killing) (m : Move) :
    (a.next m).phase = .killing ∧ (a.asks m).count .forceKill = 0 ∨
      (a.next m).phase = .done ∧ (a.asks m).count .forceKill = 1 := by
  cases m with
  | kill answer =>
    have hstep : a.step? (.kill answer) = some (a.killAndCollect answer) := by rw [step?, if_pos h]
    right
    rw [next_of_step hstep, asks, hstep]
    exact ⟨rfl, rfl⟩
  | elapse d => exact .inl ⟨(passes_elapse a d).phase.trans h, rfl⟩
  | arrive stream bytes => exact .inl ⟨(passes_arrive a stream bytes).phase.trans h, rfl⟩
  | streamEnd stream => exact .inl ⟨(passes_streamEnd a stream).phase.trans h, rfl⟩
  | childEnd status => exact .inl ⟨(passes_childEnd a status).phase.trans h, rfl⟩
  | _ =>
    left
    rw [next_of_impossible (by simp [step?, h])]
    simp [asks, step?, h]

lemma Kills.next {n : Nat} (hstarted : a.phase = .selecting → a.session.started.isSome = true)
    (h : Kills a.phase a.session.exitParts n) (m : Move) :
    Kills (a.next m).phase (a.next m).session.exitParts (n + (a.asks m).count .forceKill) := by
  generalize hphase : a.phase = phase at h
  generalize hparts : a.session.exitParts = parts at h
  have hkept : a.phase ≠ .selecting → (a.next m).session.exitParts = parts := fun hover =>
    (exitParts_next hover m).trans hparts
  have hnone : a.phase ≠ .killing → n + (a.asks m).count .forceKill = n := fun hkilling => by
    rw [count_forceKill_asks hkilling, Nat.add_zero]
  cases h with
  | selecting =>
    rw [hnone (by rw [hphase]; exact nofun)]
    by_cases hwaits : (a.next m).phase = .selecting
    · rw [hwaits]
      exact .selecting
    · obtain ⟨e, b, -, htakes, hnext⟩ := settles_of_settling hphase hwaits
      rw [hnext]
      refine kills_settle ?_
      obtain ⟨began, hbegan⟩ := Option.isSome_iff_exists.mp (hstarted hphase)
      rw [htakes.session, (measured_calls hbegan a.now e).1]
      rfl
  | killing =>
    rw [hkept (by rw [hphase]; exact nofun)]
    obtain ⟨hstays, hcount⟩ | ⟨hover, hcount⟩ := next_of_kills hphase m
    · rw [hstays, hcount]
      exact .killing
    · rw [hover, hcount]
      exact .killed
  | killed =>
    rw [hkept (by rw [hphase]; exact nofun), hnone (by rw [hphase]; exact nofun),
      (passes_of_done hphase m).phase, hphase]
    exact .killed
  | draining hknown =>
    rw [hkept (by rw [hphase]; exact nofun), hnone (by rw [hphase]; exact nofun)]
    obtain hstays | ⟨hover, -⟩ := next_of_draining hphase m
    · rw [hstays]
      exact .draining hknown
    · rw [hover]
      exact .drained hknown
  | drained hknown =>
    rw [hkept (by rw [hphase]; exact nofun), hnone (by rw [hphase]; exact nofun),
      (passes_of_done hphase m).phase, hphase]
    exact .drained hknown

/-- Whatever moves an attempt goes through, it kills the process once, in the end, or never. -/
lemma kills_play {began : Duration} (hfresh : origin.Fresh)
    (hstarted : origin.session.started = some began) (moves : List Move) :
    Kills (origin.play moves).phase (origin.play moves).session.exitParts
      ((origin.asked moves).count .forceKill) := by
  induction moves using List.reverseRecOn with
  | nil =>
    rw [play_nil, hfresh.phase]
    exact .selecting
  | append_singleton moves m ih =>
    have hplay : origin.play (moves ++ [m]) = (origin.play moves).next m := play_append ..
    have hbegan : (origin.play moves).phase = .selecting →
        (origin.play moves).session.started.isSome = true := fun hphase => by
      obtain hwaits | hover := waits_or_over hfresh moves
      · rw [hwaits.session, (duration_told hstarted _).1]
        rfl
      · exact absurd hphase hover.phase
    rw [hplay, asked_append, asked, asked, List.append_nil, List.count_append]
    exact ih.next hbegan m

lemma settled_iff (hfresh : origin.Fresh) (moves : List Move) :
    (origin.play moves).session.settled = true ↔ (origin.play moves).phase ≠ .selecting := by
  obtain hwaits | hover := waits_or_over hfresh moves
  · rw [hwaits.session, settled_told _ hfresh.settled, hwaits.phase]
    exact ⟨nofun, fun h => absurd rfl h⟩
  · obtain ⟨-, now, -, pieces, -, -, -, hsession⟩ := hover.settled
    rw [hsession, (Session.keeps_absorb _ _).settled_eq, Session.settle_eq]
    exact ⟨fun _ => hover.phase, fun _ => rfl⟩

/-! ## What is promised -/

/-- What is promised of what a launched attempt asks of the handle on its process, given the session
it leaves and what it does to the outside. -/
structure Asking (origin : Attempt) (moves : List Move) (session : Session)
    (effects : List Effect) : Prop where
  group_once : (Effect.requests effects).count .terminateGroup ≤ 1
  /-- The group is signalled exactly if the end of the command was taken and there are groups. -/
  group_iff : .request .terminateGroup ∈ effects ↔
    origin.setting.platform.hasProcessGroups = true ∧
      ∃ t ending, (t, .exit ending) ∈ origin.taken moves
  kill_once : (Effect.requests effects).count .forceKill ≤ 1
  /-- The process has been killed exactly if everything is over and no end of it is known. -/
  kill_iff : .request .forceKill ∈ effects ↔
    (origin.play moves).phase = .done ∧ session.exitParts = ⟨none, none⟩
  /-- It has been killed or is about to be exactly if the session has settled without its end. -/
  kill_due : .request .forceKill ∈ effects ∨ (origin.play moves).phase = .killing ↔
    session.settled = true ∧ session.exitParts = ⟨none, none⟩
  /-- Where waiting yields a status with a code or a signal, only one of the two is asked for. -/
  not_both : (∀ t ending, (t, .exit ending) ∈ origin.taken moves →
      ∃ status, ending = .ok status ∧ status.parts ≠ ⟨none, none⟩) →
    ¬ (.request .terminateGroup ∈ effects ∧ .request .forceKill ∈ effects)
  /-- What is asked for is done: each request is a call of the handle, which tries the signals. -/
  called : origin.Called (origin.play moves) effects
  /-- So the handle bears the mark of what was asked for, and no other. -/
  marked : ∀ r, (origin.play moves).handle.mark r = true ↔ .request r ∈ effects
  /-- Whatever the system answers, whatever the handle has done before and whatever the platform,
  the session is the same. -/
  unaffected : ∀ handle platform moves', handle.child = origin.handle.child →
    moves'.map Move.granted = moves.map Move.granted →
    (({ origin with
        handle := handle
        setting := { origin.setting with platform := platform } } : Attempt).play moves').session =
      session

lemma exit_mem_iff (taken : List (Duration × Event)) :
    0 < (events taken).countP Event.isExit ↔ ∃ t ending, (t, .exit ending) ∈ taken := by
  rw [List.countP_pos_iff]
  constructor
  · rintro ⟨e, he, hexit⟩
    obtain ⟨⟨t, e⟩, hmem, rfl⟩ := List.mem_map.mp he
    cases e with
    | exit ending => exact ⟨t, ending, hmem⟩
    | _ => exact nomatch hexit
  · rintro ⟨t, ending, hmem⟩
    exact ⟨.exit ending, List.mem_map.mpr ⟨_, hmem, rfl⟩, rfl⟩

lemma asking_of_requests {began : Duration} {moves : List Move} {effects : List Effect}
    (hfresh : origin.Fresh) (hstarted : origin.session.started = some began)
    (hunmeasured : origin.session.duration = none)
    (hunmarked : ∀ r, origin.handle.mark r = false)
    (hrequests : Effect.requests effects = origin.asked moves)
    (hcalled : origin.Called (origin.play moves) effects) :
    Asking origin moves (origin.play moves).session effects := by
  have hkills := kills_play hfresh hstarted moves
  have hasked : ∀ r, .request r ∈ effects ↔ 0 < (origin.asked moves).count r := fun r => by
    rw [List.count_pos_iff, ← hrequests, Effect.mem_requests]
  have hgroup : .request .terminateGroup ∈ effects ↔
      origin.setting.platform.hasProcessGroups = true ∧
        ∃ t ending, (t, .exit ending) ∈ origin.taken moves := by
    rw [hasked, count_terminateGroup_asked, ← exit_mem_iff]
    split <;> simp [*]
  have hkill : .request .forceKill ∈ effects ↔
      (origin.play moves).phase = .done ∧
        (origin.play moves).session.exitParts = ⟨none, none⟩ := by
    rw [hasked, hkills.pos_iff]
  constructor
  case group_once =>
    have honce : (events (origin.taken moves)).countP Event.isExit ≤ 1 := by
      obtain hwaits | hover := waits_or_over hfresh moves
      · exact hwaits.exit_once
      · exact hover.exit_once
    rw [hrequests, count_terminateGroup_asked]
    split
    · exact honce
    · exact Nat.zero_le 1
  case group_iff => exact hgroup
  case kill_once =>
    rw [hrequests]
    exact hkills.le_one
  case kill_iff => exact hkill
  case kill_due => rw [hasked, hkills.due_iff, settled_iff hfresh]
  case not_both =>
    rintro hknown ⟨hsignalled, hkilled⟩
    obtain ⟨-, t, ending, hmem⟩ := hgroup.mp hsignalled
    obtain ⟨status, rfl, hparts⟩ := hknown t ending hmem
    have hexit := (session_of_exit hfresh hstarted hunmeasured hmem).1
    exact hparts (hexit.symm.trans (hkill.mp hkilled).2)
  case called => exact hcalled
  case marked =>
    intro r
    obtain ⟨history, hhandle, hasked, -⟩ := hcalled
    rw [hhandle, Handle.mark_after, hunmarked, Bool.false_or, List.contains_iff_mem, hasked,
      Effect.mem_requests]
  case unaffected =>
    intro handle platform moves' hchild hmoves
    have hcore : origin.Resembles { origin with
        handle := handle
        setting := { origin.setting with platform := platform } } := by
      left
      rw [core, core, hchild]
    exact (hcore.play hmoves).session

end Attempt

namespace Runner

open Attempt

/-- **Who is asked to signal what.**  Whatever moves a launched attempt goes through, on whichever
platform, the group of the process is signalled once at most, and exactly if the end of the command
was taken and there are groups; the process is killed once at most, and exactly if the attempt
settles without knowing a code or a signal; each of the two is a call of the handle, which marks it;
and no answer to either has any influence on what the session knows.  A launch that failed leads to
neither. -/
theorem asking_of_attempt (r : Runner) (o : RunOptions) :
    (∀ f, Effect.requests (r.attempt o (.failed f)).2 = []) ∧
      ∀ pid now epoch moves,
        Asking (start (r.setting o) pid now epoch) moves
          (r.attempt o (.started pid now epoch moves)).1
          (r.attempt o (.started pid now epoch moves)).2 := by
  refine ⟨fun f => ?_, fun pid now epoch moves => ?_⟩
  · dsimp only [attempt]
    split <;> rfl
  · have hunmarked : ∀ r, (Handle.new (some pid) .running).mark r = false := by
      intro r
      cases r <;> rfl
    refine asking_of_requests (fresh_start _ pid now epoch) rfl rfl hunmarked ?_ ?_
    · dsimp only [attempt]
      rw [Effect.requests_append, requests_effects]
      split <;> rfl
    · obtain ⟨history, hhandle, hasked, htried⟩ :=
        called_effects (r.setting o) pid now epoch moves
      refine ⟨history, hhandle, ?_, ?_⟩
      · dsimp only [attempt]
        rw [Effect.requests_append, hasked]
        split <;> rfl
      · dsimp only [attempt]
        rw [Effect.signals_append, htried]
        split <;> rfl

/-- A command whose status the system does not keep is killed after its group has been signalled. -/
example :
    Effect.requests (standard.attempt (.new "sh") (.started 7 ⟨0⟩ 0
      [.childEnd none, .takeExit .delivered, .streamEnd .stdout, .take .stdout,
        .kill (.refused .noProcess)])).2 = [.terminateGroup, .forceKill] := by
  decide +kernel

end Runner

end Watchdog
