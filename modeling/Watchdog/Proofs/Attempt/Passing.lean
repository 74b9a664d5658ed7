import Watchdog.Proofs.Attempt.Events

/-!
# What moves do besides taking events

What is brought about from outside touches the channels and the process; it leaves the session and
the phase alone, and so does a move that is not possible (`Passes`).  When the waiting is over,
moves still hand pieces over to the session and tell it nothing else (`Hands`).  On the way from a
reader to the session a queue neither loses nor repeats nor reorders a piece (`Flow`).
-/

namespace Watchdog.Attempt

open Session (piecesOn)

/-! ## Taking nothing -/

/-- The pieces that a move adds to the queue of a stream. -/
def arriving (a : Attempt) (m : Move) (stream : Stream) : List (List UInt8) :=
  match m with
  | .arrive s bytes => if s = stream ∧ (a.step? m).isSome then [bytes] else []
  | _ => []

/-- A move marks the queue of a stream as ended. -/
def ending (a : Attempt) (m : Move) (stream : Stream) : Bool :=
  match m with
  | .streamEnd s => s = stream ∧ (a.step? m).isSome
  | _ => false

/-- `b` is what a move that takes nothing makes of `a`. -/
structure Passes (a : Attempt) (m : Move) (b : Attempt) : Prop where
  phase : b.phase = a.phase
  setting : b.setting = a.setting
  session : b.session = a.session
  exitSeen : b.exitSeen = a.exitSeen
  channel : ∀ stream, b.channel stream =
    ⟨(a.channel stream).queued ++ a.arriving m stream,
      (a.channel stream).ended || a.ending m stream, (a.channel stream).listening⟩
  /-- A process that has ended stays as it is, and one that ends has not been waited for. -/
  child : b.handle.child = a.handle.child ∨
    a.handle.child = .running ∧ ∀ status, b.handle.child ≠ .reaped status

lemma passes_of_impossible {a : Attempt} {m : Move} (h : a.step? m = none) :
    a.Passes m (a.next m) := by
  have harriving : ∀ s, a.arriving m s = [] := fun s => by
    unfold arriving
    split <;> simp [h]
  have hending : ∀ s, a.ending m s = false := fun s => by
    unfold ending
    split <;> simp [h]
  rw [next_of_impossible h]
  exact ⟨rfl, rfl, rfl, rfl, fun s => by simp [harriving, hending], .inl rfl⟩

lemma passes_setChannel {a : Attempt} {m : Move} {stream : Stream} {c : Channel}
    (hc : c = ⟨(a.channel stream).queued ++ a.arriving m stream,
      (a.channel stream).ended || a.ending m stream, (a.channel stream).listening⟩)
    (hother : ∀ s ≠ stream, a.arriving m s = [] ∧ a.ending m s = false) :
    a.Passes m (a.setChannel stream c) := by
  refine ⟨?_, ?_, ?_, ?_, fun s => ?_, .inl ?_⟩
  case refine_5 =>
    rw [channel_setChannel]
    by_cases hs : s = stream
    · rw [if_pos hs, hs, hc]
    · rw [if_neg hs, (hother s hs).1, (hother s hs).2, List.append_nil, Bool.or_false]
  all_goals rw [setChannel_eq]

lemma passes_elapse (a : Attempt) (d : Duration) : a.Passes (.elapse d) (a.next (.elapse d)) := by
  refine ⟨rfl, rfl, rfl, rfl, fun s => ?_, .inl rfl⟩
  cases s <;> simp [arriving, ending, next, step?, channel]

lemma passes_arrive (a : Attempt) (stream : Stream) (bytes : List UInt8) :
    a.Passes (.arrive stream bytes) (a.next (.arrive stream bytes)) := by
  by_cases hguard : a.phase = .done ∨ (a.channel stream).ended = true
  · exact passes_of_impossible (by rw [step?, if_pos hguard])
  · have hstep : a.step? (.arrive stream bytes) = some (a.enqueue stream bytes) := by
      rw [step?, if_neg hguard]
    rw [next_of_step hstep]
    refine passes_setChannel ?_ fun s hs => ⟨?_, rfl⟩
    · simp [arriving, ending, hstep]
    · simp [arriving, Ne.symm hs]

lemma passes_streamEnd (a : Attempt) (stream : Stream) :
    a.Passes (.streamEnd stream) (a.next (.streamEnd stream)) := by
  by_cases hguard : a.phase = .done ∨ (a.channel stream).ended = true
  · exact passes_of_impossible (by rw [step?, if_pos hguard])
  · have hstep : a.step? (.streamEnd stream) =
        some (a.setChannel stream { a.channel stream with ended := true }) := by
      rw [step?, if_neg hguard]
    rw [next_of_step hstep]
    refine passes_setChannel ?_ fun s hs => ⟨rfl, ?_⟩
    · simp [arriving, ending, hstep]
    · simp [ending, Ne.symm hs]

lemma passes_childEnd (a : Attempt) (status : Option WaitStatus) :
    a.Passes (.childEnd status) (a.next (.childEnd status)) := by
  by_cases hchild : a.handle.child = .running
  · have hstep : a.step? (.childEnd status) = some (a.endChild status) := by
      rw [step?, if_pos hchild]
    rw [next_of_step hstep]
    refine ⟨rfl, rfl, rfl, rfl, fun s => ?_, .inr ⟨hchild, ?_⟩⟩
    · cases s <;> simp [arriving, ending, endChild, channel]
    · intro s
      cases status <;> intro hreaped <;> cases hreaped
  · exact passes_of_impossible (by rw [step?, if_neg hchild])

/-- **Nothing taken, nothing told.**  While waiting, a move that takes no event leaves the session
alone. -/
theorem passes_of_taken_eq_none {a : Attempt} {m : Move} (hphase : a.phase = .selecting)
    (h : a.taken? m = none) : a.Passes m (a.next m) := by
  cases m with
  | elapse d => exact passes_elapse a d
  | arrive stream bytes => exact passes_arrive a stream bytes
  | streamEnd stream => exact passes_streamEnd a stream
  | childEnd status => exact passes_childEnd a status
  | kill answer => exact passes_of_impossible (by simp [step?, hphase])
  | takeGraceEnd => exact passes_of_impossible (by simp [step?, hphase])
  -- the three that take an event whenever they are possible
  | take stream =>
    refine passes_of_impossible (Option.eq_none_iff_forall_ne_some.mpr fun b hstep => ?_)
    rw [taken?, if_pos ⟨hphase, by simp [hstep]⟩] at h
    split at h <;> cases h
  | takeExit answer =>
    refine passes_of_impossible (Option.eq_none_iff_forall_ne_some.mpr fun b hstep => ?_)
    rw [taken?, if_pos ⟨hphase, by simp [hstep]⟩] at h
    cases h
  | takeDeadline =>
    refine passes_of_impossible (Option.eq_none_iff_forall_ne_some.mpr fun b hstep => ?_)
    rw [taken?, if_pos ⟨hphase, by simp [hstep]⟩] at h
    cases h

/-! ## After the waiting

What is still handed over then goes to the texts only. -/

/-- What becomes of a channel when pieces are given out and others are put in. -/
structure Flow (given arriving : List (List UInt8)) (ending : Bool) (c d : Channel) : Prop where
  /-- Nothing is lost, repeated or moved on the way through the queue. -/
  conserved : given ++ d.queued = c.queued ++ arriving
  ended : d.ended = (c.ended || ending)
  /-- The end is taken only when the queue is empty. -/
  listening : d.listening = c.listening ∨ c = ⟨[], true, true⟩ ∧ d = ⟨[], true, false⟩

/-- `b` is what a move makes of `a` if it only hands over these pieces. -/
structure Hands (a : Attempt) (m : Move) (pieces : List (Stream × List UInt8)) (b : Attempt) :
    Prop where
  setting : b.setting = a.setting
  session : b.session = a.session.absorb pieces
  flow : ∀ stream, Flow (piecesOn stream pieces) (a.arriving m stream) (a.ending m stream)
    (a.channel stream) (b.channel stream)

lemma Passes.hands {a b : Attempt} {m : Move} (h : a.Passes m b) : a.Hands m [] b where
  setting := h.setting
  session := h.session
  flow := fun s => by
    rw [h.channel s]
    exact ⟨rfl, rfl, .inl rfl⟩

lemma hands_takeDraining {a : Attempt} {stream : Stream} {since : Duration}
    (hphase : a.phase = .draining since) (hready : ready (a.channel stream) = true) :
    (a.takeDraining since stream).phase ≠ .selecting ∧
      ∃ pieces, a.Hands (.take stream) pieces (a.takeDraining since stream) := by
  unfold takeDraining
  dsimp only
  split
  · rename_i bytes rest hqueue
    refine ⟨?_, [(stream, bytes)], ?_, ?_, fun s => ?_⟩
    case refine_4 =>
      rw [channel_absorb, channel_setChannel]
      refine ⟨?_, ?_, .inl ?_⟩
      · by_cases hs : stream = s
        · subst hs
          simp [piecesOn, arriving, hqueue]
        · simp [piecesOn, arriving, hs, Ne.symm hs]
      all_goals split <;> simp_all [ending]
    all_goals rw [absorb_eq, setChannel_eq]
    · rw [hphase]
      intro hselecting
      cases hselecting
    · rfl
  · rename_i hqueue
    have hchannel := eq_of_ready hready hqueue
    refine ⟨?_, [], ?_, ?_, fun s => ?_⟩
    case refine_4 =>
      rw [channel_drainOrFinish, channel_setChannel]
      refine ⟨?_, ?_, ?_⟩ <;> split <;> simp_all [arriving, ending]
    all_goals rw [drainOrFinish_eq, setChannel_eq]
    · dsimp only
      split <;> intro hselecting <;> cases hselecting
    · rfl

lemma hands_killAndCollect (a : Attempt) (answer : KillAnswer) :
    a.Hands (.kill answer)
      (a.stdout.queued.map (.stdout, ·) ++ a.stderr.queued.map (.stderr, ·))
      (a.killAndCollect answer) := by
  have hkill : ∃ handle history, a.killAndCollect answer =
      ((({ a with handle := handle, history := history } : Attempt).collect .stdout).collect
        .stderr).finish := by
    unfold killAndCollect recordCalls note record
    dsimp only
    split
    · exact ⟨_, _, rfl⟩
    · exact ⟨_, _, rfl⟩
  obtain ⟨handle, history, hkill⟩ := hkill
  rw [hkill, collect_eq, collect_eq]
  simp only [finish, note, record, setChannel, channel]
  refine ⟨rfl, ?_, ?_⟩
  · simp [Session.absorb]
  · intro s
    cases s <;> refine ⟨?_, ?_, .inl rfl⟩ <;> simp [arriving, ending, channel]

lemma hands_finish (a : Attempt) : a.Hands .takeGraceEnd [] a.finish := by
  refine ⟨rfl, rfl, fun s => ?_⟩
  cases s <;> exact ⟨(List.append_nil _).symm, (Bool.or_false _).symm, .inl rfl⟩

/-- **Afterwards only output is taken.**  An attempt that waits no longer never waits again, and a
move hands over pieces and tells the session nothing else. -/
theorem next_of_settled {a : Attempt} (hphase : a.phase ≠ .selecting) (m : Move) :
    (a.next m).phase ≠ .selecting ∧ ∃ pieces, a.Hands m pieces (a.next m) := by
  have hpass : a.Passes m (a.next m) →
      (a.next m).phase ≠ .selecting ∧ ∃ pieces, a.Hands m pieces (a.next m) :=
    fun h => ⟨by rw [h.phase]; exact hphase, [], h.hands⟩
  cases hstep : a.step? m with
  | none => exact hpass (passes_of_impossible hstep)
  | some b =>
    cases m with
    | elapse d => exact hpass (passes_elapse a d)
    | arrive stream bytes => exact hpass (passes_arrive a stream bytes)
    | streamEnd stream => exact hpass (passes_streamEnd a stream)
    | childEnd status => exact hpass (passes_childEnd a status)
    | takeExit answer => simp [step?, hphase] at hstep
    | takeDeadline => simp [step?, hphase] at hstep
    | take stream =>
      rw [next_of_step hstep]
      simp only [step?] at hstep
      split_ifs at hstep with hready
      split at hstep
      · exact absurd ‹_› hphase
      · rename_i since hdraining
        obtain rfl := Option.some.inj hstep
        exact hands_takeDraining hdraining (by simpa using hready)
      · cases hstep
    | kill answer =>
      rw [next_of_step hstep]
      simp only [step?] at hstep
      split_ifs at hstep
      obtain rfl := Option.some.inj hstep
      exact ⟨Phase.noConfusion, _, hands_killAndCollect a answer⟩
    | takeGraceEnd =>
      rw [next_of_step hstep]
      simp only [step?] at hstep
      split at hstep
      · split_ifs at hstep
        obtain rfl := Option.some.inj hstep
        exact ⟨Phase.noConfusion, [], hands_finish a⟩
      · cases hstep

end Watchdog.Attempt
