import FlyNes.DualSchedulerHistory

namespace FlyNes.Dual

/-!
# The verified watermark

A frame is verified when it was stepped without predictions and the peer's
digest for it has matched.  The watermark is meant to be the least frame that is
not verified.  It moves by one frame when the digest of its own frame comes, so
it stays behind when the digest of the frame after it has come before.
-/

namespace DualRunScheduler

variable {Core : Type}

/--
The peer's digest counts for a frame: the run is on, the frame is still in the
ring and was stepped without predictions, and the digests agree.
-/
def Acknowledges
    (scheduler : DualRunScheduler Core)
    (frameIndex : UInt64)
    (peerDigest : DualStateDigest) : Prop :=
  scheduler.requireRunning = .ok ∧
    ¬ frameIndex + UInt64.ofNat kRingSlots ≤ scheduler.window.stepFrontier ∧
    (scheduler.digests (slotOf frameIndex)).valid = true ∧
    (scheduler.digests (slotOf frameIndex)).frame = frameIndex ∧
    (scheduler.digests (slotOf frameIndex)).predicted = false ∧
    dualDigestGate (scheduler.digests (slotOf frameIndex)).digest peerDigest =
      .none

instance
    (scheduler : DualRunScheduler Core)
    (frameIndex : UInt64)
    (peerDigest : DualStateDigest) :
    Decidable (scheduler.Acknowledges frameIndex peerDigest) :=
  inferInstanceAs (Decidable (_ ∧ _))

/-- A first digest that counts is recorded; any other call changes no record. -/
theorem acknowledgePeerDigest_effect
    (scheduler : DualRunScheduler Core)
    (frameIndex : UInt64)
    (peerDigest : DualStateDigest) :
    ((scheduler.Acknowledges frameIndex peerDigest →
          (scheduler.digests (slotOf frameIndex)).verified = true) ∧
        SameHistory scheduler
          (scheduler.acknowledgePeerDigest frameIndex peerDigest).2.2) ∨
      (scheduler.Acknowledges frameIndex peerDigest ∧
        (scheduler.acknowledgePeerDigest frameIndex peerDigest).2.2 =
          { scheduler with
            digests := Function.update scheduler.digests (slotOf frameIndex)
              { scheduler.digests (slotOf frameIndex) with verified := true }
            stateVerifiedThrough :=
              if frameIndex = scheduler.stateVerifiedThrough then
                frameIndex + 1
              else
                scheduler.stateVerifiedThrough }) := by
  unfold Acknowledges acknowledgePeerDigest
  split
  next halted =>
    exact Or.inl ⟨fun acknowledges => absurd acknowledges.1 halted,
      SameHistory.refl scheduler⟩
  next running =>
    split
    next late =>
      exact Or.inl ⟨fun acknowledges => absurd late acknowledges.2.1,
        SameHistory.refl scheduler⟩
    next inside =>
      dsimp only
      split
      next absent =>
        refine Or.inl ⟨fun acknowledges => ?_, SameHistory.refl scheduler⟩
        obtain ⟨_, _, valid, frame, _⟩ := acknowledges
        simp [valid, frame] at absent
      next present =>
        split
        next verified =>
          exact Or.inl ⟨fun _ => verified, SameHistory.refl scheduler⟩
        next unverified =>
          split
          next differ =>
            exact Or.inl
              ⟨fun acknowledges => absurd acknowledges.2.2.2.2.2 differ,
                ⟨rfl, rfl, rfl⟩⟩
          next agree =>
            split
            next predicted =>
              refine Or.inl ⟨fun acknowledges => ?_, SameHistory.refl scheduler⟩
              have real := acknowledges.2.2.2.2.1
              rw [predicted] at real
              cases real
            next real =>
              simp only [Bool.or_eq_true, decide_eq_true_eq,
                not_or] at present
              refine Or.inr ⟨⟨not_not.mp running, inside, ?_, ?_,
                by simpa using real, not_not.mp agree⟩, rfl⟩
              · simpa using present.1
              · simpa using present.2

/-- The frames a call steps, and whether with predictions. -/
def steppedOf
    (port : DualRuntimePort Core)
    (scheduler : DualRunScheduler Core) : SchedulerCall → List (UInt64 × Bool)
  | .stepNextFrame =>
      (scheduler.nextPlan.toList.filter fun plan =>
        (scheduler.stepRecord port plan).digest.isSome).map fun plan =>
          (plan.frameIndex, plan.predictedPortMask ≠ PortSet.none)
  | _ => []

/-- The frame for which a call brings a digest that counts. -/
def acknowledgedOf
    (scheduler : DualRunScheduler Core) : SchedulerCall → List UInt64
  | .acknowledgePeerDigest frameIndex peerDigest =>
      if scheduler.Acknowledges frameIndex peerDigest then [frameIndex] else []
  | _ => []

end DualRunScheduler

/-- A scheduler with the frames stepped and acknowledged since it was begun. -/
structure VerifyTrace (Core : Type) where
  scheduler : DualRunScheduler Core
  stepped : List (UInt64 × Bool) := []
  acknowledged : List UInt64 := []

namespace VerifyTrace

variable {Core : Type}

/-- Make one call; a successful `begin` starts a new history. -/
def step
    (port : DualRuntimePort Core)
    (trace : VerifyTrace Core)
    (call : SchedulerCall) : VerifyTrace Core :=
  let (result, scheduler) := trace.scheduler.call port call
  if call.begins ∧ result = .ok then
    { scheduler := scheduler }
  else
    { scheduler := scheduler
      stepped := trace.stepped ++ trace.scheduler.steppedOf port call
      acknowledged := trace.acknowledged ++ trace.scheduler.acknowledgedOf call }

/-- Make a list of calls. -/
def run
    (port : DualRuntimePort Core)
    (trace : VerifyTrace Core)
    (calls : List SchedulerCall) : VerifyTrace Core :=
  calls.foldl (step port) trace

/-- The frame was stepped without predictions, and its digest has matched. -/
def Verified (trace : VerifyTrace Core) (frame : UInt64) : Prop :=
  (frame, false) ∈ trace.stepped ∧ frame ∈ trace.acknowledged

/-- The watermark is the least frame that is not verified. -/
structure WatermarkIsLeast (trace : VerifyTrace Core) : Prop where
  below : ∀ frame < trace.scheduler.stateVerifiedThrough, trace.Verified frame
  next : ¬ trace.Verified trace.scheduler.stateVerifiedThrough

/-- The call does not bring the digest of the watermark's frame after that of
the frame behind it. -/
def InOrder (trace : VerifyTrace Core) (call : SchedulerCall) : Prop :=
  ∀ sent ∈ call.heard,
    sent.1 = trace.scheduler.stateVerifiedThrough →
      trace.scheduler.Acknowledges sent.1 sent.2 →
        sent.1 + 1 ∉ trace.acknowledged

instance (trace : VerifyTrace Core) (call : SchedulerCall) :
    Decidable (trace.InOrder call) :=
  inferInstanceAs (Decidable (∀ sent ∈ call.heard, _ → _ → _))

/-- All calls of a run come in order. -/
def OrderedRun
    (port : DualRuntimePort Core) : VerifyTrace Core → List SchedulerCall → Prop
  | _, [] => True
  | trace, call :: rest =>
      trace.InOrder call ∧ OrderedRun port (trace.step port call) rest

instance decidableOrderedRun
    (port : DualRuntimePort Core) :
    (trace : VerifyTrace Core) → (calls : List SchedulerCall) →
      Decidable (OrderedRun port trace calls)
  | _, [] => isTrue trivial
  | trace, call :: rest =>
      have := decidableOrderedRun port (trace.step port call) rest
      inferInstanceAs (Decidable (_ ∧ _))

/-- What the ring and the watermark say about the history. -/
structure Sound (trace : VerifyTrace Core) : Prop where
  held : ∀ slot, (trace.scheduler.digests slot).valid = true →
    ((trace.scheduler.digests slot).frame,
      (trace.scheduler.digests slot).predicted) ∈ trace.stepped
  marked : ∀ slot, (trace.scheduler.digests slot).valid = true →
    (trace.scheduler.digests slot).verified = true →
      (trace.scheduler.digests slot).frame ∈ trace.acknowledged
  real : ∀ frame ∈ trace.acknowledged, (frame, false) ∈ trace.stepped
  below : ∀ frame < trace.scheduler.stateVerifiedThrough,
    frame ∈ trace.acknowledged
  next : trace.scheduler.stateVerifiedThrough ∉ trace.acknowledged

variable {port : DualRuntimePort Core} {trace : VerifyTrace Core}

theorem Sound.watermarkIsLeast
    (sound : trace.Sound) :
    trace.WatermarkIsLeast where
  below := fun frame below =>
    ⟨sound.real frame (sound.below frame below), sound.below frame below⟩
  next := fun verified => sound.next verified.2

variable {call : SchedulerCall}

/-- A call that leaves the ring and the watermark alone keeps the invariant. -/
theorem Sound.same
    (sound : trace.Sound)
    (noStep : trace.scheduler.steppedOf port call = [])
    (noDigest : ∀ frame ∈ trace.scheduler.acknowledgedOf call,
      frame ∈ trace.acknowledged)
    (notBegun : ¬ (call.begins = true ∧
      (trace.scheduler.call port call).1 = .ok))
    (digests : (trace.scheduler.call port call).2.digests =
      trace.scheduler.digests)
    (verified : (trace.scheduler.call port call).2.stateVerifiedThrough =
      trace.scheduler.stateVerifiedThrough) :
    (trace.step port call).Sound := by
  simp only [VerifyTrace.step, notBegun, if_false, noStep, List.append_nil]
  refine ⟨?_, ?_, ?_, ?_, ?_⟩
  · dsimp only
    rw [digests]
    exact sound.held
  · dsimp only
    rw [digests]
    exact fun slot valid marked =>
      List.mem_append_left _ (sound.marked slot valid marked)
  · intro frame member
    rcases List.mem_append.mp member with old | new
    · exact sound.real frame old
    · exact sound.real frame (noDigest frame new)
  · intro frame below
    dsimp only at below
    rw [verified] at below
    exact List.mem_append_left _ (sound.below frame below)
  · dsimp only
    rw [verified]
    intro member
    rcases List.mem_append.mp member with old | new
    · exact sound.next old
    · exact sound.next (noDigest _ new)

/-- A scheduler without digests and with its watermark at zero. -/
theorem Sound.fresh
    {scheduler : DualRunScheduler Core}
    (digests : ∀ slot, (scheduler.digests slot).valid = false)
    (verified : scheduler.stateVerifiedThrough = 0) :
    ({ scheduler := scheduler } : VerifyTrace Core).Sound := by
  refine ⟨?_, ?_, by simp, ?_, by simp⟩
  · intro slot valid
    rw [digests slot] at valid
    cases valid
  · intro slot valid
    rw [digests slot] at valid
    cases valid
  · intro frame below
    simp [verified] at below

theorem Sound.begin_
    (sound : trace.Sound)
    (mode : DualMode)
    (content : DualContentRef)
    (context : DualInputKey)
    (owners : Port → DualOwnerKey) :
    (trace.step port (.begin_ mode content context owners)).Sound := by
  obtain ⟨core, window, _, begun⟩ | ⟨refused, _, unloaded⟩ |
      ⟨refused, core, reloaded⟩ :=
    DualRunScheduler.begin_cases port trace.scheduler mode content context
      owners
  · simp only [VerifyTrace.step, DualRunScheduler.call, SchedulerCall.begins,
      begun, and_self, if_true]
    exact Sound.fresh (fun _ => rfl) rfl
  · refine sound.same rfl (by simp [DualRunScheduler.acknowledgedOf])
      (fun begun => refused begun.2) ?_ ?_ <;>
      rw [DualRunScheduler.call, unloaded]
  · refine sound.same rfl (by simp [DualRunScheduler.acknowledgedOf])
      (fun begun => refused begun.2) ?_ ?_ <;>
      rw [DualRunScheduler.call, reloaded]

/-- Stepping a frame takes over a slot of the ring, or changes no record. -/
theorem stepNextFrame_effect
    (port : DualRuntimePort Core)
    (scheduler : DualRunScheduler Core) :
    (scheduler.stepNextFrame port).2.stateVerifiedThrough =
        scheduler.stateVerifiedThrough ∧
      ((scheduler.steppedOf port .stepNextFrame = [] ∧
          (scheduler.stepNextFrame port).2.digests = scheduler.digests) ∨
        ∃ frame predicted digest,
          scheduler.steppedOf port .stepNextFrame = [(frame, predicted)] ∧
            (scheduler.stepNextFrame port).2.digests =
              Function.update scheduler.digests (slotOf frame)
                { valid := true
                  verified := false
                  predicted := predicted
                  frame := frame
                  digest := digest }) := by
  cases planned : scheduler.nextPlan with
  | none =>
      have noStep : scheduler.steppedOf port .stepNextFrame = [] := by
        simp [DualRunScheduler.steppedOf, planned]
      rw [noStep]
      simp only [DualRunScheduler.stepNextFrame]
      unfold DualRunScheduler.nextPlan at planned
      split
      · exact ⟨rfl, Or.inl ⟨trivial, rfl⟩⟩
      next running =>
        split
        · exact ⟨rfl, Or.inl ⟨trivial, rfl⟩⟩
        · split
          · exact ⟨rfl, Or.inl ⟨trivial, rfl⟩⟩
          next ready =>
            simp [not_not.mp running, not_not.mp ready] at planned
  | some plan =>
      obtain ⟨_, _, stepped⟩ :=
        DualRunScheduler.stepNextFrame_planned port planned
      have record :
          (scheduler.stepRecord port plan).digest =
            (DualRunScheduler.stepRecord port plan
              { scheduler with
                window := scheduler.window.planNext.2 }).digest := rfl
      rw [stepped]
      obtain ⟨failed, _, same⟩ | ⟨digest, kept, digests, verified, _⟩ :=
        DualRunScheduler.executePlan_cases port plan
          { scheduler with window := scheduler.window.planNext.2 }
      · refine ⟨same.verified, Or.inl ⟨?_, same.digests⟩⟩
        simp [DualRunScheduler.steppedOf, planned, record, failed]
      · refine ⟨verified, Or.inr ⟨plan.frameIndex, _, digest, ?_, digests⟩⟩
        simp [DualRunScheduler.steppedOf, planned, record, kept]

theorem Sound.stepNextFrame
    (sound : trace.Sound) :
    (trace.step port .stepNextFrame).Sound := by
  obtain ⟨verified, ⟨noStep, digests⟩ |
      ⟨frame, predicted, digest, stepped, digests⟩⟩ :=
    stepNextFrame_effect port trace.scheduler
  · exact sound.same noStep (by simp [DualRunScheduler.acknowledgedOf])
      (by simp [SchedulerCall.begins]) digests verified
  · have notBegun : ¬ ((SchedulerCall.stepNextFrame).begins = true ∧
        (trace.scheduler.call port .stepNextFrame).1 = .ok) := by
      simp [SchedulerCall.begins]
    have after :
        trace.step port .stepNextFrame =
          { scheduler := (trace.scheduler.stepNextFrame port).2
            stepped := trace.stepped ++ [(frame, predicted)]
            acknowledged := trace.acknowledged } := by
      simp only [VerifyTrace.step, notBegun, if_false, stepped,
        DualRunScheduler.acknowledgedOf, List.append_nil]
      rfl
    rw [after]
    refine ⟨?_, ?_, ?_, ?_, ?_⟩
    · intro slot valid
      dsimp only at valid ⊢
      rw [digests] at valid ⊢
      by_cases here : slot = slotOf frame
      · subst here
        rw [Function.update_self]
        exact List.mem_append_right _ (List.mem_singleton.mpr rfl)
      · rw [Function.update_of_ne here] at valid ⊢
        exact List.mem_append_left _ (sound.held slot valid)
    · intro slot valid marked
      dsimp only at valid marked ⊢
      rw [digests] at valid marked ⊢
      by_cases here : slot = slotOf frame
      · subst here
        rw [Function.update_self] at marked
        cases marked
      · rw [Function.update_of_ne here] at valid marked ⊢
        exact sound.marked slot valid marked
    · exact fun other member =>
        List.mem_append_left _ (sound.real other member)
    · intro other below
      dsimp only at below
      rw [verified] at below
      exact sound.below other below
    · dsimp only
      rw [verified]
      exact sound.next

theorem lt_of_lt_next
    {frame mark : UInt64}
    (below : frame < mark + 1)
    (other : frame ≠ mark) :
    frame < mark := by
  rw [UInt64.lt_iff_toNat_lt, UInt64.toNat_add] at below
  rw [UInt64.lt_iff_toNat_lt]
  have differ : frame.toNat ≠ mark.toNat := fun same =>
    other (UInt64.toNat_inj.mp same)
  have one : (1 : UInt64).toNat = 1 := rfl
  omega

theorem next_ne
    (frame : UInt64) :
    frame + 1 ≠ frame := by
  intro same
  have numbers := congrArg UInt64.toNat same
  have one : (1 : UInt64).toNat = 1 := rfl
  rw [UInt64.toNat_add, one] at numbers
  have bounded := frame.toNat_lt
  omega

theorem acknowledged_step
    (trace : VerifyTrace Core)
    {frameIndex : UInt64}
    {peerDigest : DualStateDigest}
    (acknowledges : trace.scheduler.Acknowledges frameIndex peerDigest) :
    (trace.step port (.acknowledgePeerDigest frameIndex peerDigest)).stepped =
        trace.stepped ∧
      (trace.step port
        (.acknowledgePeerDigest frameIndex peerDigest)).acknowledged =
        trace.acknowledged ++ [frameIndex] := by
  simp [VerifyTrace.step, SchedulerCall.begins, DualRunScheduler.steppedOf,
    DualRunScheduler.acknowledgedOf, acknowledges]

/-- A frame of the ring that was stepped without predictions. -/
theorem Sound.of_acknowledges
    (sound : trace.Sound)
    {frameIndex : UInt64}
    {peerDigest : DualStateDigest}
    (acknowledges : trace.scheduler.Acknowledges frameIndex peerDigest) :
    (frameIndex, false) ∈ trace.stepped := by
  obtain ⟨_, _, valid, frame, real, _⟩ := acknowledges
  have held := sound.held _ valid
  rw [frame, real] at held
  exact held

theorem Sound.acknowledgePeerDigest
    (sound : trace.Sound)
    {frameIndex : UInt64}
    {peerDigest : DualStateDigest}
    (inOrder : trace.InOrder (.acknowledgePeerDigest frameIndex peerDigest)) :
    (trace.step port (.acknowledgePeerDigest frameIndex peerDigest)).Sound := by
  obtain ⟨repeated, same⟩ | ⟨acknowledges, effect⟩ :=
    trace.scheduler.acknowledgePeerDigest_effect frameIndex peerDigest
  · refine sound.same rfl ?_ (by simp [SchedulerCall.begins]) same.digests
      same.verified
    intro frame member
    by_cases acknowledges :
        trace.scheduler.Acknowledges frameIndex peerDigest
    · rw [DualRunScheduler.acknowledgedOf, if_pos acknowledges,
        List.mem_singleton] at member
      have marked := sound.marked _ acknowledges.2.2.1 (repeated acknowledges)
      rw [acknowledges.2.2.2.1] at marked
      rw [member]
      exact marked
    · rw [DualRunScheduler.acknowledgedOf, if_neg acknowledges] at member
      cases member
  · obtain ⟨sameSteps, grown⟩ :=
      @acknowledged_step _ port trace _ _ acknowledges
    have after :
        (trace.step port
            (.acknowledgePeerDigest frameIndex peerDigest)).scheduler =
          { trace.scheduler with
            digests := Function.update trace.scheduler.digests
              (slotOf frameIndex)
              { trace.scheduler.digests (slotOf frameIndex) with
                verified := true }
            stateVerifiedThrough :=
              if frameIndex = trace.scheduler.stateVerifiedThrough then
                frameIndex + 1
              else
                trace.scheduler.stateVerifiedThrough } := by
      rw [← effect]
      simp [VerifyTrace.step, SchedulerCall.begins, DualRunScheduler.call]
    have real := sound.of_acknowledges acknowledges
    have valid := acknowledges.2.2.1
    have frame := acknowledges.2.2.2.1
    refine ⟨?_, ?_, ?_, ?_, ?_⟩
    · intro slot present
      rw [after] at present ⊢
      rw [sameSteps]
      dsimp only at present ⊢
      by_cases here : slot = slotOf frameIndex
      · subst here
        rw [Function.update_self]
        exact sound.held _ valid
      · rw [Function.update_of_ne here] at present ⊢
        exact sound.held slot present
    · intro slot present marked
      rw [after] at present marked ⊢
      rw [grown]
      dsimp only at present marked ⊢
      by_cases here : slot = slotOf frameIndex
      · subst here
        rw [Function.update_self]
        dsimp only
        rw [frame]
        exact List.mem_append_right _ (List.mem_singleton.mpr rfl)
      · rw [Function.update_of_ne here] at present marked ⊢
        exact List.mem_append_left _ (sound.marked slot present marked)
    · intro other member
      rw [grown] at member
      rw [sameSteps]
      rcases List.mem_append.mp member with old | new
      · exact sound.real other old
      · rw [List.mem_singleton.mp new]
        exact real
    · intro other below
      rw [grown]
      rw [after] at below
      dsimp only at below
      split at below
      next atMark =>
        by_cases here : other = frameIndex
        · exact List.mem_append_right _ (List.mem_singleton.mpr here)
        · refine List.mem_append_left _ (sound.below other ?_)
          rw [← atMark]
          exact lt_of_lt_next below here
      next =>
        exact List.mem_append_left _ (sound.below other below)
    · rw [grown, after]
      dsimp only
      intro member
      split at member
      next atMark =>
        rcases List.mem_append.mp member with old | new
        · exact inOrder (frameIndex, peerDigest)
            (List.mem_singleton.mpr rfl) atMark acknowledges old
        · exact next_ne frameIndex (List.mem_singleton.mp new)
      next ahead =>
        rcases List.mem_append.mp member with old | new
        · exact sound.next old
        · exact ahead (List.mem_singleton.mp new).symm

theorem acceptLocalInput_effect
    (scheduler : DualRunScheduler Core)
    (samples : DualPortInputArray)
    (logicalSeat : UInt8) :
    (scheduler.acceptLocalInput samples logicalSeat).2.2.digests =
        scheduler.digests ∧
      (scheduler.acceptLocalInput samples logicalSeat).2.2.stateVerifiedThrough =
        scheduler.stateVerifiedThrough := by
  simp only [DualRunScheduler.acceptLocalInput]
  split
  · exact ⟨rfl, rfl⟩
  · have same := @DualRunScheduler.handleWindowStatus_sameHistory _
      { scheduler with
        window :=
          (scheduler.window.deliverLocalInput samples logicalSeat).2 }
      (scheduler.window.deliverLocalInput samples logicalSeat).1
    exact ⟨same.digests, same.verified⟩

theorem acceptRemoteInput_effect
    (scheduler : DualRunScheduler Core)
    (bundle : DualInputBundle) :
    (scheduler.acceptRemoteInput bundle).2.2.digests = scheduler.digests ∧
      (scheduler.acceptRemoteInput bundle).2.2.stateVerifiedThrough =
        scheduler.stateVerifiedThrough := by
  simp only [DualRunScheduler.acceptRemoteInput]
  split
  · exact ⟨rfl, rfl⟩
  · have same := @DualRunScheduler.handleWindowStatus_sameHistory _
      { scheduler with
        window := (scheduler.window.deliverInput bundle).2 }
      (scheduler.window.deliverInput bundle).1
    exact ⟨same.digests, same.verified⟩

/-- A call that comes in order keeps the invariant. -/
theorem Sound.step
    (sound : trace.Sound)
    (inOrder : trace.InOrder call) :
    (trace.step port call).Sound := by
  have quiet :
      call.lifecycle = true →
        trace.scheduler.steppedOf port call = [] →
          trace.scheduler.acknowledgedOf call = [] →
            call.begins = false →
              (trace.step port call).Sound := by
    intro lifecycle noStep noDigest notBegin
    have same :=
      @DualRunScheduler.call_sameHistory _ port trace.scheduler _ lifecycle
    exact sound.same noStep (by simp [noDigest]) (by simp [notBegin])
      same.digests same.verified
  cases call with
  | begin_ mode content context owners =>
      exact sound.begin_ mode content context owners
  | stepNextFrame => exact sound.stepNextFrame
  | acknowledgePeerDigest frameIndex peerDigest =>
      exact sound.acknowledgePeerDigest inOrder
  | acceptLocalInput samples logicalSeat =>
      obtain ⟨digests, verified⟩ :=
        acceptLocalInput_effect trace.scheduler samples logicalSeat
      exact sound.same rfl (by simp [DualRunScheduler.acknowledgedOf])
        (by simp [SchedulerCall.begins]) digests verified
  | acceptRemoteInput bundle =>
      obtain ⟨digests, verified⟩ :=
        acceptRemoteInput_effect trace.scheduler bundle
      exact sound.same rfl (by simp [DualRunScheduler.acknowledgedOf])
        (by simp [SchedulerCall.begins]) digests verified
  | _ => exact quiet rfl rfl rfl rfl

theorem Sound.run
    (sound : trace.Sound)
    {calls : List SchedulerCall}
    (ordered : OrderedRun port trace calls) :
    (trace.run port calls).Sound := by
  induction calls generalizing trace with
  | nil => exact sound
  | cons call rest inductionHypothesis =>
      exact inductionHypothesis (sound.step ordered.1) ordered.2

/-- The watermark stays behind a digest that comes out of order. -/
theorem Sound.late
    (sound : trace.Sound)
    (outOfOrder : ¬ trace.InOrder call) :
    ¬ (trace.step port call).WatermarkIsLeast := by
  cases call with
  | acknowledgePeerDigest frameIndex peerDigest =>
      simp only [VerifyTrace.InOrder, SchedulerCall.heard,
        List.forall_mem_singleton, Classical.not_imp, not_not] at outOfOrder
      obtain ⟨atMark, acknowledges, later⟩ := outOfOrder
      have unmarked :
          ¬ (trace.scheduler.Acknowledges frameIndex peerDigest →
            (trace.scheduler.digests (slotOf frameIndex)).verified =
              true) := by
        intro repeated
        have marked :=
          sound.marked _ acknowledges.2.2.1 (repeated acknowledges)
        rw [acknowledges.2.2.2.1, atMark] at marked
        exact sound.next marked
      obtain ⟨repeated, _⟩ | ⟨_, effect⟩ :=
        trace.scheduler.acknowledgePeerDigest_effect frameIndex peerDigest
      · exact absurd repeated unmarked
      · obtain ⟨sameSteps, grown⟩ :=
          @acknowledged_step _ port trace _ _ acknowledges
        have mark :
            (trace.step port
                (.acknowledgePeerDigest frameIndex
                  peerDigest)).scheduler.stateVerifiedThrough =
              frameIndex + 1 := by
          have after :
              (trace.step port
                  (.acknowledgePeerDigest frameIndex peerDigest)).scheduler =
                (trace.scheduler.acknowledgePeerDigest frameIndex
                  peerDigest).2.2 := by
            simp [VerifyTrace.step, SchedulerCall.begins,
              DualRunScheduler.call]
          rw [after, effect]
          exact if_pos atMark
        intro least
        apply least.next
        rw [mark]
        refine ⟨?_, ?_⟩
        · rw [sameSteps]
          exact sound.real _ later
        · rw [grown]
          exact List.mem_append_left _ later
  | _ => exact absurd (by simp [VerifyTrace.InOrder, SchedulerCall.heard]) outOfOrder

/-- A scheduler that was just constructed. -/
theorem Sound.start
    (core : Core) :
    ({ scheduler := { core := core } } : VerifyTrace Core).Sound :=
  Sound.fresh (fun _ => rfl) rfl

/--
While no digest that counts comes for the frame at the watermark after one for
the frame behind it, the watermark is the least frame that is not verified.  The
first call that breaks the order leaves the watermark behind.
-/
theorem watermark_is_least
    (port : DualRuntimePort Core)
    (core : Core)
    (calls : List SchedulerCall)
    (ordered : OrderedRun port { scheduler := { core := core } } calls) :
    (run port { scheduler := { core := core } } calls).WatermarkIsLeast ∧
      ∀ call,
        ¬ (run port { scheduler := { core := core } } calls).InOrder call →
          ¬ ((run port { scheduler := { core := core } } calls).step port
            call).WatermarkIsLeast := by
  have sound := (Sound.start core).run ordered
  exact ⟨sound.watermarkIsLeast, fun _ outOfOrder => sound.late outOfOrder⟩

/-- Two frames of both players are stepped. -/
def twoFrames : List SchedulerCall :=
  [plainBegin, .announceRunning,
    .acceptLocalInput (fun port => ⟨0, UInt64.ofNat port + 1⟩) 0,
    .acceptRemoteInput
      { key := plainContext
        logicalSeat := 1
        ports := fun port => ⟨0, UInt64.ofNat port + 1⟩
        ownerSigningKeyId := keyOf 2 },
    .stepNextFrame,
    .acceptLocalInput (fun port => ⟨0, UInt64.ofNat port + 5⟩) 0,
    .acceptRemoteInput
      { key := { plainContext with frameIndex := 1 }
        logicalSeat := 1
        ports := fun port => ⟨0, UInt64.ofNat port + 5⟩
        ownerSigningKeyId := keyOf 2 },
    .stepNextFrame]

/-- The digests of both frames come in their order. -/
theorem watermark_is_least_of_two :
    (run idlePort { scheduler := { core := () } }
      (twoFrames ++ [.acknowledgePeerDigest 0 {},
        .acknowledgePeerDigest 1 {}])).WatermarkIsLeast :=
  (watermark_is_least idlePort () _ (by decide)).1

/-- The digest of the second frame comes before that of the first. -/
theorem watermark_stays_behind :
    ¬ ∀ calls : List SchedulerCall,
      (run idlePort { scheduler := { core := () } } calls).WatermarkIsLeast := by
  intro always
  have least := always
    (twoFrames ++ [.acknowledgePeerDigest 1 {}, .acknowledgePeerDigest 0 {}])
  have mark :
      (run idlePort { scheduler := { core := () } }
        (twoFrames ++ [.acknowledgePeerDigest 1 {},
          .acknowledgePeerDigest 0 {}])).scheduler.stateVerifiedThrough = 1 := by
    decide
  apply least.next
  rw [mark]
  exact ⟨by decide, by decide⟩

end VerifyTrace

end FlyNes.Dual
