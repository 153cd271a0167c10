import FlyNes.DualSchedulerFreeze

namespace FlyNes.Dual

/-!
# What a dual run has executed

Every step handed to the worker carries, on each port it does not flag as a
prediction, the sample the window has accepted for that frame.  A frame counts
as a canonical success only after a step without predictions whose digest the
peer has confirmed, also when its digest has left the ring.
-/

/-- On a port that is not flagged the step carried the accepted sample. -/
def StepRecord.Faithful
    (record : StepRecord)
    (accepted : List Acceptance)
    (owned : PortSet) : Prop :=
  ∀ port, owned port = true →
    PortSet.has record.bundle.predictedPortMask port = false →
      ∃ acceptance ∈ accepted,
        acceptance.frame = record.frame ∧ acceptance.port = port ∧
          (record.bundle.ports port).mask = acceptance.sample.mask

/-- The call is about the lifecycle and not about input, frames or digests. -/
def SchedulerCall.lifecycle : SchedulerCall → Bool
  | .begin_ _ _ _ _ => false
  | .stepNextFrame => false
  | .acknowledgePeerDigest _ _ => false
  | .acceptLocalInput _ _ => false
  | .acceptRemoteInput _ => false
  | _ => true

/-- The slot tells the truth about a step and about what the peer has sent. -/
structure DigestSlot.Backed
    (slot : DigestSlot)
    (steps : List StepRecord)
    (heard : List (UInt64 × DualStateDigest)) : Prop where
  stepped : ∃ record ∈ steps,
    record.frame = slot.frame ∧ record.digest = some slot.digest ∧
      (slot.predicted = false → record.bundle.predictedPortMask = 0)
  confirmed : slot.verified = true →
    slot.predicted = false ∧
      ∃ peer, (slot.frame, peer) ∈ heard ∧
        dualDigestGate slot.digest peer = .none

namespace DualRunScheduler

variable {Core : Type}
variable {port : DualRuntimePort Core}
variable {scheduler : DualRunScheduler Core}

/-- The window, the digests and the watermark are the same. -/
structure SameHistory (before after : DualRunScheduler Core) : Prop where
  window : after.window = before.window
  digests : after.digests = before.digests
  verified : after.stateVerifiedThrough = before.stateVerifiedThrough

theorem SameHistory.refl
    (scheduler : DualRunScheduler Core) :
    SameHistory scheduler scheduler :=
  ⟨rfl, rfl, rfl⟩

theorem freezeUnless_sameHistory
    {before after : DualRunScheduler Core}
    (same : SameHistory before after)
    (available : Bool) :
    SameHistory before (after.freezeUnless available).2 := by
  unfold freezeUnless
  split
  · exact ⟨same.window, same.digests, same.verified⟩
  · exact same

theorem handleWindowStatus_sameHistory
    (status : DualWindowStatus) :
    SameHistory scheduler (scheduler.handleWindowStatus status).2 := by
  cases status <;> exact ⟨rfl, rfl, rfl⟩

/-- Calls about the lifecycle leave the history alone. -/
theorem call_sameHistory
    {call : SchedulerCall}
    (lifecycle : call.lifecycle = true) :
    SameHistory scheduler (scheduler.call port call).2 := by
  cases call with
  | announceRunning =>
      obtain ⟨_, unchanged⟩ | ⟨_, _, announced⟩ :=
        scheduler.announceRunning_cases
      · rw [DualRunScheduler.call, unchanged]
        exact SameHistory.refl scheduler
      · rw [DualRunScheduler.call, announced]
        exact ⟨rfl, rfl, rfl⟩
  | acknowledgeCommittedRewrite frameIndex =>
      simp only [DualRunScheduler.call, acknowledgeCommittedRewrite]
      split
      · exact SameHistory.refl scheduler
      split
      · exact SameHistory.refl scheduler
      · exact ⟨rfl, rfl, rfl⟩
  | observeAuthenticatedActivity nowMs => exact ⟨rfl, rfl, rfl⟩
  | pause nowMs =>
      obtain ⟨_, unchanged⟩ | ⟨_, _, paused⟩ := scheduler.pause_cases nowMs
      · rw [DualRunScheduler.call, unchanged]
        exact SameHistory.refl scheduler
      · rw [DualRunScheduler.call, paused]
        exact ⟨rfl, rfl, rfl⟩
  | resume nowMs peerDigest =>
      obtain ⟨_, unchanged⟩ | ⟨_, _, resumed⟩ :=
        scheduler.resume_cases nowMs peerDigest
      · rw [DualRunScheduler.call, unchanged]
        exact SameHistory.refl scheduler
      · rw [DualRunScheduler.call, resumed]
        exact ⟨rfl, rfl, rfl⟩
  | setMode mode =>
      simp only [DualRunScheduler.call, setMode]
      split
      · exact SameHistory.refl scheduler
      · exact ⟨rfl, rfl, rfl⟩
  | setSurfaceAvailable available =>
      refine freezeUnless_sameHistory ?_ available
      exact ⟨rfl, rfl, rfl⟩
  | setAudioAvailable available =>
      refine freezeUnless_sameHistory ?_ available
      exact ⟨rfl, rfl, rfl⟩
  | setNetworkAvailable available =>
      refine freezeUnless_sameHistory ?_ available
      exact ⟨rfl, rfl, rfl⟩
  | markTransportTerminal => exact ⟨rfl, rfl, rfl⟩
  | shutdown => exact ⟨rfl, rfl, rfl⟩
  | _ => cases lifecycle

/-- What can become of a plan that was handed to the worker. -/
theorem executePlan_cases
    (port : DualRuntimePort Core)
    (plan : DualWindowPlan)
    (scheduler : DualRunScheduler Core) :
    ((scheduler.stepRecord port plan).digest = none ∧
        (scheduler.executePlan port plan).1 ≠ .ok ∧
          SameHistory scheduler (scheduler.executePlan port plan).2) ∨
      ∃ digest,
        (scheduler.stepRecord port plan).digest = some digest ∧
          (scheduler.executePlan port plan).2.digests =
            Function.update scheduler.digests (slotOf plan.frameIndex)
              { valid := true
                verified := false
                predicted := plan.predictedPortMask ≠ PortSet.none
                frame := plan.frameIndex
                digest := digest } ∧
          (scheduler.executePlan port plan).2.stateVerifiedThrough =
            scheduler.stateVerifiedThrough ∧
          (scheduler.executePlan port plan).2.window =
            (scheduler.window.markPlanned plan.frameIndex
              plan.predictedPortMask).2 ∧
          ((scheduler.executePlan port plan).1 = .ok ↔
            (scheduler.window.markPlanned plan.frameIndex
              plan.predictedPortMask).1 = .ok) := by
  simp only [executePlan, stepRecord]
  by_cases stepped : (port.step plan.bundle scheduler.core).1 = .ok
  swap
  · left
    simp only [stepped, ne_eq, not_false_eq_true, if_true, false_and, if_false]
    exact ⟨trivial, by simp [freeze], ⟨rfl, rfl, rfl⟩⟩
  by_cases digested :
      (port.stateDigest plan.frameIndex
        (port.step plan.bundle scheduler.core).2.2).1 = .ok
  swap
  · left
    simp only [stepped, digested, ne_eq, not_true_eq_false, not_false_eq_true,
      if_true, and_false, if_false]
    exact ⟨trivial, trivial, ⟨rfl, rfl, rfl⟩⟩
  · right
    simp only [stepped, digested, ne_eq, not_true_eq_false, and_self, if_true,
      if_false, Option.some.injEq, exists_eq_left', retire, recordDigest]
    split
    next window marked => simp [marked]
    next status window notOk marked =>
      have refused : status ≠ .ok := fun isOk => by
        subst isOk
        exact notOk rfl
      simp [marked, freeze, refused]

/-- Everything an acknowledgement can do to the history. -/
theorem acknowledgePeerDigest_cases
    (scheduler : DualRunScheduler Core)
    (frameIndex : UInt64)
    (peerDigest : DualStateDigest) :
    SameHistory scheduler
        (scheduler.acknowledgePeerDigest frameIndex peerDigest).2.2 ∨
      ((scheduler.digests (slotOf frameIndex)).valid = true ∧
        (scheduler.digests (slotOf frameIndex)).frame = frameIndex ∧
        (scheduler.digests (slotOf frameIndex)).predicted = false ∧
        dualDigestGate (scheduler.digests (slotOf frameIndex)).digest
          peerDigest = .none ∧
        (scheduler.acknowledgePeerDigest frameIndex peerDigest).2.2 =
          { scheduler with
            digests := Function.update scheduler.digests (slotOf frameIndex)
              { scheduler.digests (slotOf frameIndex) with verified := true }
            stateVerifiedThrough :=
              if frameIndex = scheduler.stateVerifiedThrough then
                frameIndex + 1
              else
                scheduler.stateVerifiedThrough }) := by
  simp only [acknowledgePeerDigest]
  split
  · exact Or.inl (SameHistory.refl scheduler)
  split
  · exact Or.inl (SameHistory.refl scheduler)
  split
  · exact Or.inl (SameHistory.refl scheduler)
  next present =>
    split
    · exact Or.inl (SameHistory.refl scheduler)
    split
    · exact Or.inl ⟨rfl, rfl, rfl⟩
    next agree =>
      split
      · exact Or.inl (SameHistory.refl scheduler)
      next real =>
        simp only [Bool.or_eq_true, decide_eq_true_eq, not_or] at present
        refine Or.inr ⟨?_, ?_, by simpa using real, not_not.mp agree, rfl⟩
        · simpa using present.1
        · simpa using present.2

/-- What a frame without a plan leaves behind. -/
theorem stepNextFrame_unplanned
    (port : DualRuntimePort Core)
    {accepted : List Acceptance}
    {planned : List UInt64}
    (sound : scheduler.window.Sound accepted planned)
    (noPlan : scheduler.nextPlan = none) :
    (scheduler.stepNextFrame port).1 ≠ .ok ∧
      SameHistory scheduler (scheduler.stepNextFrame port).2 := by
  simp only [stepNextFrame]
  split
  next notRunning => exact ⟨notRunning, SameHistory.refl scheduler⟩
  next running =>
    have notOk : scheduler.window.planNext.1.status ≠ .ok := by
      intro isOk
      simp [nextPlan, not_not.mp running, isOk] at noPlan
    have unchanged : scheduler.window.planNext.2 = scheduler.window := by
      obtain ⟨_, unchanged, _⟩ | ⟨_, planned⟩ := sound.planNext_cases
      · exact unchanged
      · rw [planned] at notOk
        exact absurd rfl notOk
    split
    · exact ⟨by simp [freeze], ⟨unchanged, rfl, rfl⟩⟩
    · exact ⟨by simp [freeze], ⟨unchanged, rfl, rfl⟩⟩

/-- A plan that is handed to the worker is executed in the window it made. -/
theorem stepNextFrame_planned
    (port : DualRuntimePort Core)
    {plan : DualWindowPlan}
    (planned : scheduler.nextPlan = some plan) :
    scheduler.window.planNext.1 = plan ∧ plan.status = .ok ∧
      scheduler.stepNextFrame port =
        executePlan port plan
          { scheduler with window := scheduler.window.planNext.2 } := by
  unfold nextPlan at planned
  split at planned
  next ready =>
    simp only [Option.some.injEq] at planned
    subst planned
    refine ⟨rfl, ready.2, ?_⟩
    simp [stepNextFrame, ready.1, ready.2]
  next => cases planned

end DualRunScheduler

namespace SchedulerTrace

variable {Core : Type}
variable {port : DualRuntimePort Core}
variable {trace : SchedulerTrace Core}

/-- The frame was stepped without predictions and the peer confirmed its digest. -/
def Confirmed (trace : SchedulerTrace Core) (frame : UInt64) : Prop :=
  ∃ record ∈ trace.steps,
    record.frame = frame ∧
      record.bundle.predictedPortMask = 0 ∧
        record.Faithful trace.accepted trace.scheduler.window.ownedPortMask ∧
          ∃ digest peer,
            record.digest = some digest ∧
              (frame, peer) ∈ trace.heard ∧
                dualDigestGate digest peer = .none

/-- What the history says about the state of the scheduler. -/
structure Sound (trace : SchedulerTrace Core) : Prop where
  window : trace.scheduler.window.Sound trace.accepted trace.planned
  faithful : ∀ record ∈ trace.steps,
    record.Faithful trace.accepted trace.scheduler.window.ownedPortMask
  stepped : ∀ frame ∈ trace.planned,
    ∃ record ∈ trace.steps, record.frame = frame
  backed : ∀ slot, (trace.scheduler.digests slot).valid = true →
    (trace.scheduler.digests slot).Backed trace.steps trace.heard
  confirmed : ∀ frame < trace.scheduler.stateVerifiedThrough,
    trace.Confirmed frame

end SchedulerTrace

theorem StepRecord.Faithful.mono
    {record : StepRecord}
    {accepted more : List Acceptance}
    {owned : PortSet}
    (faithful : record.Faithful accepted owned)
    (grows : accepted ⊆ more) :
    record.Faithful more owned := by
  intro port ownedPort notPredicted
  obtain ⟨acceptance, member, rest⟩ := faithful port ownedPort notPredicted
  exact ⟨acceptance, grows member, rest⟩

theorem DigestSlot.Backed.mono
    {slot : DigestSlot}
    {steps moreSteps : List StepRecord}
    {heard moreHeard : List (UInt64 × DualStateDigest)}
    (backed : slot.Backed steps heard)
    (growsSteps : steps ⊆ moreSteps)
    (growsHeard : heard ⊆ moreHeard) :
    slot.Backed moreSteps moreHeard := by
  refine ⟨?_, ?_⟩
  · obtain ⟨record, member, rest⟩ := backed.stepped
    exact ⟨record, growsSteps member, rest⟩
  · intro verified
    obtain ⟨notPredicted, peer, member, gate⟩ := backed.confirmed verified
    exact ⟨notPredicted, peer, growsHeard member, gate⟩

namespace SchedulerTrace

variable {Core : Type}
variable {port : DualRuntimePort Core}
variable {trace : SchedulerTrace Core} {later : SchedulerTrace Core}

/-- A confirmed frame stays confirmed as the history grows. -/
theorem Confirmed.mono
    {frame : UInt64}
    (confirmed : trace.Confirmed frame)
    (steps : trace.steps ⊆ later.steps)
    (accepted : trace.accepted ⊆ later.accepted)
    (heard : trace.heard ⊆ later.heard)
    (owned : later.scheduler.window.ownedPortMask =
      trace.scheduler.window.ownedPortMask) :
    later.Confirmed frame := by
  obtain ⟨record, member, ofFrame, noPrediction, faithful, digest, peer, kept,
    sent, gate⟩ := confirmed
  refine ⟨record, steps member, ofFrame, noPrediction, ?_, digest, peer, kept,
    heard sent, gate⟩
  rw [owned]
  exact faithful.mono accepted

/-- A longer history with the same state, but for the window's samples. -/
theorem Sound.grow
    (sound : trace.Sound)
    (steps : later.steps = trace.steps)
    (planned : later.planned = trace.planned)
    (accepted : trace.accepted ⊆ later.accepted)
    (heard : trace.heard ⊆ later.heard)
    (window : later.scheduler.window.Sound later.accepted later.planned)
    (owned : later.scheduler.window.ownedPortMask =
      trace.scheduler.window.ownedPortMask)
    (digests : later.scheduler.digests = trace.scheduler.digests)
    (verified : later.scheduler.stateVerifiedThrough =
      trace.scheduler.stateVerifiedThrough) :
    later.Sound := by
  have sameSteps : trace.steps ⊆ later.steps := by
    rw [steps]
    exact List.Subset.refl _
  refine ⟨window, ?_, ?_, ?_, ?_⟩
  · intro record member
    rw [steps] at member
    rw [owned]
    exact (sound.faithful record member).mono accepted
  · rw [steps, planned]
    exact sound.stepped
  · intro slot valid
    rw [digests] at valid ⊢
    exact (sound.backed slot valid).mono sameSteps heard
  · intro frame below
    rw [verified] at below
    exact (sound.confirmed frame below).mono sameSteps accepted heard owned

/-- A call that leaves the history alone keeps the invariant. -/
theorem Sound.same
    (sound : trace.Sound)
    {call : SchedulerCall}
    (noStep : trace.scheduler.stepsOf port call = [])
    (noPlan : trace.scheduler.plannedOf port call = [])
    (noSample : trace.scheduler.acceptedOf call = [])
    (notBegun : ¬ (call.begins = true ∧
      (trace.scheduler.call port call).1 = .ok))
    (same : trace.scheduler.SameHistory (trace.scheduler.call port call).2) :
    (trace.step port call).Sound := by
  simp only [SchedulerTrace.step, notBegun, if_false]
  refine sound.grow ?_ ?_ (List.subset_append_left _ _)
    (List.subset_append_left _ _) ?_ ?_ same.digests same.verified
  · rw [noStep, List.append_nil]
  · rw [noPlan, List.append_nil]
  · rw [noSample, noPlan, List.append_nil, List.append_nil, same.window]
    exact sound.window
  · rw [same.window]

/-- A fresh history keeps nothing to be proved. -/
theorem Sound.fresh
    {scheduler : DualRunScheduler Core}
    (window : scheduler.window.Sound [] [])
    (digests : ∀ slot, (scheduler.digests slot).valid = false)
    (verified : scheduler.stateVerifiedThrough = 0) :
    ({ scheduler := scheduler } : SchedulerTrace Core).Sound := by
  refine ⟨window, by simp, by simp, ?_, ?_⟩
  · intro slot valid
    rw [digests slot] at valid
    cases valid
  · intro frame below
    simp [verified] at below

theorem Sound.begin_
    (sound : trace.Sound)
    (mode : DualMode)
    (content : DualContentRef)
    (context : DualInputKey)
    (owners : Port → DualOwnerKey) :
    (trace.step port (.begin_ mode content context owners)).Sound := by
  obtain ⟨core, window, began, begun⟩ | ⟨refused, _, unloaded⟩ |
      ⟨refused, core, reloaded⟩ :=
    DualRunScheduler.begin_cases port trace.scheduler mode content context
      owners
  · simp only [SchedulerTrace.step, DualRunScheduler.call,
      SchedulerCall.begins, begun, and_self, if_true]
    exact Sound.fresh (DualInputWindow.Sound.begin began) (fun _ => rfl) rfl
  · apply sound.same rfl rfl rfl
    · exact fun begun => refused begun.2
    · rw [DualRunScheduler.call, unloaded]
      exact ⟨rfl, rfl, rfl⟩
  · apply sound.same rfl rfl rfl
    · exact fun begun => refused begun.2
    · rw [DualRunScheduler.call, reloaded]
      exact ⟨rfl, rfl, rfl⟩

/-- One more step, whose digest may have gone into the ring. -/
theorem Sound.extend
    (sound : trace.Sound)
    {record : StepRecord}
    {retired : List UInt64}
    (steps : later.steps = trace.steps ++ [record])
    (planned : later.planned = trace.planned ++ retired)
    (accepted : later.accepted = trace.accepted)
    (heard : later.heard = trace.heard)
    (window : later.scheduler.window.Sound later.accepted later.planned)
    (owned : later.scheduler.window.ownedPortMask =
      trace.scheduler.window.ownedPortMask)
    (faithful : record.Faithful trace.accepted
      trace.scheduler.window.ownedPortMask)
    (ofFrame : ∀ frame ∈ retired, record.frame = frame)
    (digests : ∀ slot,
      later.scheduler.digests slot = trace.scheduler.digests slot ∨
        (later.scheduler.digests slot).Backed [record] [])
    (verified : later.scheduler.stateVerifiedThrough =
      trace.scheduler.stateVerifiedThrough) :
    later.Sound := by
  refine ⟨window, ?_, ?_, ?_, ?_⟩
  · intro other member
    rw [steps] at member
    rw [accepted, owned]
    rcases List.mem_append.mp member with old | new
    · exact sound.faithful other old
    · rw [List.mem_singleton] at new
      rw [new]
      exact faithful
  · intro frame member
    rw [planned] at member
    rw [steps]
    rcases List.mem_append.mp member with old | new
    · obtain ⟨other, otherMember, same⟩ := sound.stepped frame old
      exact ⟨other, List.mem_append_left _ otherMember, same⟩
    · exact ⟨record, by simp, ofFrame frame new⟩
  · intro slot valid
    rw [steps, heard]
    rcases digests slot with same | new
    · rw [same] at valid ⊢
      exact (sound.backed slot valid).mono (List.subset_append_left _ _)
        (List.Subset.refl _)
    · refine ⟨?_, ?_⟩
      · obtain ⟨other, member, rest⟩ := new.stepped
        exact ⟨other, List.mem_append_right _ member, rest⟩
      · intro isVerified
        obtain ⟨_, _, member, _⟩ := new.confirmed isVerified
        cases member
  · intro frame below
    rw [verified] at below
    refine (sound.confirmed frame below).mono ?_ ?_ ?_ owned
    · rw [steps]
      exact List.subset_append_left _ _
    · rw [accepted]
      exact List.Subset.refl _
    · rw [heard]
      exact List.Subset.refl _

end SchedulerTrace

namespace DualInputWindow

variable {window : DualInputWindow}
variable {accepted : List Acceptance}
variable {planned : List UInt64}

/-- A plan carries the accepted samples on the ports it does not flag. -/
theorem Sound.planRecord_faithful
    (sound : window.Sound accepted planned)
    (distance : UInt64)
    (digest : Option DualStateDigest) :
    StepRecord.Faithful
      { bundle := (window.planRecord window.stepFrontier distance
          (window.ensureRecord window.stepFrontier)).bundle
        digest := digest } accepted window.ownedPortMask := by
  intro port ownedPort notPredicted
  have fromFrontier : window.commitFrontier ≤ window.stepFrontier :=
    UInt64.le_iff_toNat_le.mpr sound.behind
  obtain ⟨_, _, sampled, _⟩ := sound.ensured fromFrontier
  simp only [planRecord, PortSet.has_toMask] at notPredicted
  have provided :
      (window.ensureRecord window.stepFrontier).provided port = true := by
    simpa [ownedPort] using notPredicted
  obtain ⟨acceptance, member, samePort, keeps⟩ := sampled port provided
  subst samePort
  obtain ⟨sameFrame, _, _, _, mask, _⟩ := keeps
  refine ⟨acceptance, member, ?_, rfl, ?_⟩
  · rw [ensureRecord_frameIndex] at sameFrame
    exact sameFrame.symm
  · simp [planRecord, effectiveSample, provided, mask]

/-- Marking the plan just made keeps the invariant. -/
theorem Sound.markPlanned
    (sound : window.Sound accepted planned)
    {frame : UInt64}
    (fits : window.Fits frame)
    (predicted : PortSet) :
    (window.markPlanned frame predicted).2.Sound accepted
        (planned ++
          if (window.markPlanned frame predicted).1 = .ok then
            [frame]
          else
            []) ∧
      (window.markPlanned frame predicted).2.ownedPortMask =
        window.ownedPortMask := by
  obtain ⟨refused, unchanged⟩ | ⟨record, _, found, materialized, marked⟩ :=
    markPlanned_cases frame predicted window
  · rw [unchanged, if_neg refused, List.append_nil]
    exact ⟨sound, rfl⟩
  · rw [marked]
    simp only [if_true]
    have narrow := narrow_of_materialized materialized
    refine ⟨(sound.execute fits found narrow predicted).advance, ?_⟩
    rw [advanceCommitFrontier_ownedPortMask]
    rfl

end DualInputWindow

namespace SchedulerTrace

variable {Core : Type}
variable {port : DualRuntimePort Core}
variable {trace : SchedulerTrace Core}

/-- Executing the plan of the next frame keeps the invariant. -/
theorem Sound.executePlan
    (sound : trace.Sound)
    {plan : DualWindowPlan}
    (planned : trace.scheduler.nextPlan = some plan)
    (isPlan :
      trace.scheduler.window.planRecord trace.scheduler.window.stepFrontier
        (trace.scheduler.window.stepFrontier -
          trace.scheduler.window.commitFrontier)
        (trace.scheduler.window.ensureRecord
          trace.scheduler.window.stepFrontier) = plan)
    (executed :
      trace.scheduler.stepNextFrame port =
        DualRunScheduler.executePlan port plan
          { trace.scheduler with
            window := trace.scheduler.window.materialize })
    (fits : trace.scheduler.window.Fits trace.scheduler.window.stepFrontier) :
    (trace.step port .stepNextFrame).Sound := by
  have materialized := sound.window.materialize
  have ofFrame : plan.frameIndex = trace.scheduler.window.stepFrontier := by
    rw [← isPlan]
    rfl
  have faithful :
      (trace.scheduler.stepRecord port plan).Faithful trace.accepted
        trace.scheduler.window.ownedPortMask := by
    rw [← isPlan]
    exact sound.window.planRecord_faithful _ _
  have recordFrame :
      (trace.scheduler.stepRecord port plan).frame = plan.frameIndex := by
    rw [← isPlan]
    rfl
  have noPrediction :
      plan.predictedPortMask = PortSet.none →
        (trace.scheduler.stepRecord port plan).bundle.predictedPortMask =
          0 := by
    rw [← isPlan]
    intro none
    simp only [DualInputWindow.planRecord] at none
    simp only [DualRunScheduler.stepRecord, DualInputWindow.planRecord, none,
      PortSet.toMask_none]
  have stillFits :
      trace.scheduler.window.materialize.Fits plan.frameIndex := by
    rw [ofFrame]
    exact ⟨fits.current, fits.recent, fits.depth⟩
  simp only [SchedulerTrace.step, SchedulerCall.begins, Bool.false_eq_true,
    false_and, if_false, DualRunScheduler.call, DualRunScheduler.stepsOf,
    DualRunScheduler.plannedOf, DualRunScheduler.acceptedOf,
    SchedulerCall.heard, planned, executed, Option.toList_some, List.map_cons,
    List.map_nil, List.append_nil]
  obtain ⟨_, notOk, same⟩ |
      ⟨digest, kept, digests, verified, window, retires⟩ :=
    DualRunScheduler.executePlan_cases port plan
      { trace.scheduler with window := trace.scheduler.window.materialize }
  · refine sound.extend rfl rfl rfl rfl ?_ ?_ faithful ?_ ?_ same.verified
    · rw [same.window, if_neg notOk, List.append_nil]
      exact materialized
    · rw [same.window]
      rfl
    · simp [notOk]
    · rw [same.digests]
      exact fun _ => Or.inl rfl
  · obtain ⟨marked, owned⟩ :=
      materialized.markPlanned stillFits plan.predictedPortMask
    have sameFrame :
        trace.scheduler.window.planNext.1.frameIndex = plan.frameIndex := by
      rw [(DualRunScheduler.stepNextFrame_planned port planned).1]
    refine sound.extend rfl rfl rfl rfl ?_ ?_ faithful ?_ ?_ verified
    · simp only [window, retires, sameFrame]
      exact marked
    · rw [window]
      exact owned
    · intro frame member
      rw [recordFrame, ← sameFrame]
      split at member
      · exact (List.mem_singleton.mp member).symm
      · cases member
    · intro slot
      rw [digests]
      by_cases isSlot : slot = slotOf plan.frameIndex
      · subst isSlot
        rw [Function.update_self]
        refine Or.inr ⟨?_, by simp⟩
        refine ⟨_, List.mem_singleton.mpr rfl, recordFrame, kept, ?_⟩
        intro unpredicted
        exact noPrediction (by simpa using unpredicted)
      · rw [Function.update_of_ne isSlot]
        exact Or.inl rfl

/-- Stepping one frame keeps the invariant. -/
theorem Sound.stepNextFrame
    (sound : trace.Sound) :
    (trace.step port .stepNextFrame).Sound := by
  cases planned : trace.scheduler.nextPlan with
  | none =>
      obtain ⟨notOk, same⟩ :=
        DualRunScheduler.stepNextFrame_unplanned port sound.window planned
      apply sound.same
      · simp [DualRunScheduler.stepsOf, planned]
      · simp [DualRunScheduler.plannedOf, notOk]
      · rfl
      · simp [SchedulerCall.begins]
      · exact same
  | some plan =>
      obtain ⟨isPlan, isOk, executed⟩ :=
        DualRunScheduler.stepNextFrame_planned port planned
      obtain ⟨refused, _⟩ | ⟨fits, made⟩ := sound.window.planNext_cases
      · rw [isPlan] at refused
        exact absurd isOk refused
      rw [made] at isPlan executed
      simp only at isPlan executed
      exact sound.executePlan planned isPlan executed fits

/-- A digest of the peer keeps the invariant. -/
theorem Sound.acknowledgePeerDigest
    (sound : trace.Sound)
    (frameIndex : UInt64)
    (peerDigest : DualStateDigest) :
    (trace.step port (.acknowledgePeerDigest frameIndex peerDigest)).Sound := by
  obtain same | ⟨valid, ofFrame, real, gate, verified⟩ :=
    trace.scheduler.acknowledgePeerDigest_cases frameIndex peerDigest
  · exact sound.same rfl rfl rfl (by simp [SchedulerCall.begins]) same
  simp only [SchedulerTrace.step, SchedulerCall.begins, Bool.false_eq_true,
    false_and, if_false, DualRunScheduler.call, DualRunScheduler.stepsOf,
    DualRunScheduler.plannedOf, DualRunScheduler.acceptedOf,
    SchedulerCall.heard, verified, List.append_nil]
  have backed := sound.backed _ valid
  refine ⟨sound.window, sound.faithful, sound.stepped, ?_, ?_⟩
  · intro slot slotValid
    by_cases isSlot : slot = slotOf frameIndex
    · subst isSlot
      simp only [Function.update_self]
      refine ⟨backed.stepped, fun _ => ⟨real, peerDigest, ?_, gate⟩⟩
      rw [ofFrame]
      simp
    · simp only [Function.update_of_ne isSlot] at slotValid ⊢
      exact (sound.backed slot slotValid).mono (List.Subset.refl _)
        (List.subset_append_left _ _)
  · intro frame below
    by_cases isFrame : frame = frameIndex
    · subst isFrame
      obtain ⟨record, member, sameFrame, kept, noPrediction⟩ := backed.stepped
      refine ⟨record, member, sameFrame.trans ofFrame, noPrediction real,
        sound.faithful record member, _, peerDigest, kept, by simp, gate⟩
    · have before : frame < trace.scheduler.stateVerifiedThrough := by
        simp only at below
        split at below
        next atWatermark =>
          rw [← atWatermark]
          rw [UInt64.lt_iff_toNat_lt, UInt64.toNat_add, UInt64.toNat_one]
            at below
          rw [UInt64.lt_iff_toNat_lt]
          have different : frame.toNat ≠ frameIndex.toNat :=
            fun same => isFrame (UInt64.toNat_inj.mp same)
          omega
        next => exact below
      exact (sound.confirmed frame before).mono (List.Subset.refl _)
        (List.Subset.refl _) (List.subset_append_left _ _) rfl

/-- Samples that the window takes in keep the invariant. -/
theorem Sound.accept
    (sound : trace.Sound)
    {call : SchedulerCall}
    (status : DualWindowStatus)
    {window : DualInputWindow}
    (noStep : trace.scheduler.stepsOf port call = [])
    (noPlan : trace.scheduler.plannedOf port call = [])
    (notBegin : call.begins = false)
    (delivered : window.Sound
      (trace.accepted ++ trace.scheduler.acceptedOf call) trace.planned)
    (owned : window.ownedPortMask = trace.scheduler.window.ownedPortMask)
    (made : (trace.scheduler.call port call).2 =
      (DualRunScheduler.handleWindowStatus status
        { trace.scheduler with window := window }).2) :
    (trace.step port call).Sound := by
  have same : DualRunScheduler.SameHistory
      { trace.scheduler with window := window }
      (DualRunScheduler.handleWindowStatus status
        { trace.scheduler with window := window }).2 :=
    DualRunScheduler.handleWindowStatus_sameHistory status
  simp only [SchedulerTrace.step, notBegin, Bool.false_eq_true, false_and,
    if_false, made]
  refine sound.grow ?_ ?_ (List.subset_append_left _ _)
    (List.subset_append_left _ _) ?_ ?_ same.digests same.verified
  · rw [noStep, List.append_nil]
  · rw [noPlan, List.append_nil]
  · rw [same.window, noPlan, List.append_nil]
    exact delivered
  · rw [same.window]
    exact owned

/-- Every call keeps the invariant. -/
theorem Sound.step
    (sound : trace.Sound)
    (call : SchedulerCall) :
    (trace.step port call).Sound := by
  cases call with
  | begin_ mode content context owners =>
      exact sound.begin_ mode content context owners
  | stepNextFrame => exact sound.stepNextFrame
  | acknowledgePeerDigest frameIndex peerDigest =>
      exact sound.acknowledgePeerDigest frameIndex peerDigest
  | acceptLocalInput samples logicalSeat =>
      by_cases running : trace.scheduler.requireRunning = .ok
      · have delivered := sound.window.deliverLocal samples logicalSeat
        refine sound.accept
          (trace.scheduler.window.deliverLocalInput samples logicalSeat).1 rfl
          rfl rfl ?_
          (DualInputWindow.deliverLocalInput_ownedPortMask samples logicalSeat _)
          ?_
        · simpa only [DualRunScheduler.acceptedOf, running, if_true] using
            delivered
        · simp only [DualRunScheduler.call, DualRunScheduler.acceptLocalInput,
            running, ne_eq, not_true_eq_false, if_false]
      · apply sound.same rfl rfl
        · simp [DualRunScheduler.acceptedOf, running]
        · simp [SchedulerCall.begins]
        · simp only [DualRunScheduler.call, DualRunScheduler.acceptLocalInput,
            running, ne_eq, not_false_eq_true, if_true]
          exact DualRunScheduler.SameHistory.refl _
  | acceptRemoteInput bundle =>
      by_cases running : trace.scheduler.requireRunning = .ok
      · have delivered := sound.window.deliver bundle
        refine sound.accept (trace.scheduler.window.deliverInput bundle).1 rfl
          rfl rfl ?_ (DualInputWindow.deliverInput_ownedPortMask bundle _) ?_
        · simpa only [DualRunScheduler.acceptedOf, running, if_true] using
            delivered
        · simp only [DualRunScheduler.call, DualRunScheduler.acceptRemoteInput,
            running, ne_eq, not_true_eq_false, if_false]
      · apply sound.same rfl rfl
        · simp [DualRunScheduler.acceptedOf, running]
        · simp [SchedulerCall.begins]
        · simp only [DualRunScheduler.call, DualRunScheduler.acceptRemoteInput,
            running, ne_eq, not_false_eq_true, if_true]
          exact DualRunScheduler.SameHistory.refl _
  | _ =>
      apply sound.same rfl rfl rfl
      · simp [SchedulerCall.begins]
      · exact DualRunScheduler.call_sameHistory rfl

theorem Sound.run
    (sound : trace.Sound)
    (port : DualRuntimePort Core)
    (calls : List SchedulerCall) :
    (trace.run port calls).Sound := by
  induction calls generalizing trace with
  | nil => exact sound
  | cons call calls inductionHypothesis =>
      exact inductionHypothesis (sound.step call)

theorem Sound.start
    (core : Core) :
    ({ scheduler := { core := core } } : SchedulerTrace Core).Sound :=
  Sound.fresh (DualInputWindow.Sound.unused (fun _ => rfl) rfl rfl)
    (fun _ => rfl) rfl

/-- The verdict of the ring and that of the watermark are both right. -/
theorem Sound.final
    (sound : trace.Sound)
    {frame : UInt64}
    (final : trace.scheduler.frameIsFinal frame = true) :
    trace.Confirmed frame := by
  simp only [DualRunScheduler.frameIsFinal] at final
  split at final
  next held =>
    rw [Bool.and_eq_true, decide_eq_true_eq] at held
    rw [Bool.and_eq_true] at final
    have backed := sound.backed _ held.1
    obtain ⟨record, member, sameFrame, kept, noPrediction⟩ := backed.stepped
    obtain ⟨unpredicted, peer, sent, gate⟩ := backed.confirmed final.1
    rw [held.2] at sent
    exact ⟨record, member, sameFrame.trans held.2, noPrediction unpredicted,
      sound.faithful record member, _, peer, kept, sent, gate⟩
  next => exact sound.confirmed frame (of_decide_eq_true final)

/--
A frame that is reported as a canonical success, or that lies below the verified
watermark, was stepped without predictions and confirmed by the peer.
-/
theorem canonical_success_is_confirmed
    (port : DualRuntimePort Core)
    (core : Core)
    (calls : List SchedulerCall) :
    (∀ frame,
        (run port { scheduler := { core := core } }
          calls).scheduler.frameIsCanonicalSuccess frame = true →
        (run port { scheduler := { core := core } } calls).Confirmed frame) ∧
      ∀ frame <
          (run port { scheduler := { core := core } }
            calls).scheduler.stateVerifiedThrough,
        (run port { scheduler := { core := core } } calls).Confirmed frame := by
  have sound := (Sound.start core).run port calls
  refine ⟨?_, sound.confirmed⟩
  intro frame success
  unfold DualRunScheduler.frameIsCanonicalSuccess at success
  split at success
  · cases success
  · exact sound.final success

/-- Every step of a committed frame carried the accepted sample of each port. -/
def CommittedExactly (trace : SchedulerTrace Core) : Prop :=
  ∀ frame < trace.scheduler.window.commitFrontier,
    ∀ port, trace.scheduler.window.ownedPortMask port = true →
      ∀ record ∈ trace.steps, record.frame = frame →
        ∃ acceptance ∈ trace.accepted,
          acceptance.frame = frame ∧ acceptance.port = port ∧
            (record.bundle.ports port).mask = acceptance.sample.mask

/--
Every committed frame was stepped and has one accepted sample on each port, and
every step of it carried that sample where the port was not flagged.
-/
def CommittedUnlessPredicted (trace : SchedulerTrace Core) : Prop :=
  ∀ frame < trace.scheduler.window.commitFrontier,
    (∃ record ∈ trace.steps, record.frame = frame) ∧
      ∀ port, trace.scheduler.window.ownedPortMask port = true →
        ∃ acceptance ∈ trace.accepted,
          (∀ other ∈ trace.accepted,
            other.frame = frame ∧ other.port = port ↔ other = acceptance) ∧
            ∀ record ∈ trace.steps, record.frame = frame →
              PortSet.has record.bundle.predictedPortMask port = false →
                (record.bundle.ports port).mask = acceptance.sample.mask

/-- What was committed was executed, on every port that was not predicted. -/
theorem committed_inputs_were_executed
    (port : DualRuntimePort Core)
    (core : Core)
    (calls : List SchedulerCall) :
    (run port { scheduler := { core := core } }
      calls).CommittedUnlessPredicted := by
  have sound := (Sound.start core).run port calls
  intro frame committed
  obtain ⟨planned, samples⟩ := sound.window.history frame committed
  refine ⟨sound.stepped frame planned, ?_⟩
  intro owner ownedPort
  obtain ⟨acceptance, member, ofFrame, ofPort⟩ := samples owner ownedPort
  refine ⟨acceptance, member, ?_, ?_⟩
  · intro other otherMember
    constructor
    · rintro ⟨sameFrame, samePort⟩
      exact sound.window.unique other otherMember acceptance member
        (sameFrame.trans ofFrame.symm) (samePort.trans ofPort.symm)
    · rintro rfl
      exact ⟨ofFrame, ofPort⟩
  · intro record recordMember sameFrame notPredicted
    obtain ⟨other, otherMember, otherFrame, otherPort, mask⟩ :=
      sound.faithful record recordMember owner ownedPort notPredicted
    have same : other = acceptance :=
      sound.window.unique other otherMember acceptance member
        (otherFrame.trans (sameFrame.trans ofFrame.symm))
        (otherPort.trans ofPort.symm)
    rw [mask, same]

/-- The first frame is stepped before the sample of the second player is in. -/
def latePress : List SchedulerCall :=
  [plainBegin, .announceRunning,
    .acceptLocalInput (fun port => ⟨0, UInt64.ofNat port + 1⟩) 0,
    .stepNextFrame,
    .acceptRemoteInput
      { key := plainContext
        logicalSeat := 1
        ports := fun port =>
          ⟨if port = 1 then 1 else 0, UInt64.ofNat port + 1⟩
        ownerSigningKeyId := keyOf 2 }]

/-- A frame stepped with a prediction is committed with the late sample. -/
theorem late_sample_is_committed :
    ¬ (run idlePort { scheduler := { core := () } }
      latePress).CommittedExactly := by
  intro exactly
  have sample := exactly 0 (by decide) 1 (by decide)
    ((run idlePort { scheduler := { core := () } } latePress).steps.head
      (by decide)) (by decide) (by decide)
  exact absurd sample (by decide)

end SchedulerTrace

end FlyNes.Dual
