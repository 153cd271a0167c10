import FlyNes.DualSchedulerRuns

namespace FlyNes.Dual

/-!
# Freezing and pausing a dual run

A frozen scheduler must not step its worker before it is begun again, and a
paused one not before it is resumed or begun again.  Two calls break this:
`announceRunning` starts a paused scheduler without the check `resume` makes,
and `begin` with the mode that is not implemented takes a frozen scheduler back
to the unloaded state, from where `pause` makes it ready.
-/

/-- A scheduler with what its caller knows about it. -/
structure HaltTrace (Core : Type) where
  scheduler : DualRunScheduler Core
  frozen : Bool := false
  paused : Bool := false

/-- The call is one of `pause`. -/
def SchedulerCall.pauses : SchedulerCall → Bool
  | .pause _ => true
  | _ => false

/-- The call is one of `resume`. -/
def SchedulerCall.resumes : SchedulerCall → Bool
  | .resume _ _ => true
  | _ => false

namespace HaltTrace

variable {Core : Type}

/-- Make one call and note whether it has frozen, paused or restarted the run. -/
def step
    (port : DualRuntimePort Core)
    (trace : HaltTrace Core)
    (call : SchedulerCall) : HaltTrace Core :=
  let (result, scheduler) := trace.scheduler.call port call
  { scheduler := scheduler
    frozen :=
      if call.begins ∧ result = .ok then
        false
      else
        trace.frozen || scheduler.state = .frozen
    paused :=
      if call.pauses ∧ result = .ok then
        true
      else if (call.resumes ∨ call.begins) ∧ result = .ok then
        false
      else
        trace.paused }

/-- Make a list of calls. -/
def run
    (port : DualRuntimePort Core)
    (trace : HaltTrace Core)
    (calls : List SchedulerCall) : HaltTrace Core :=
  calls.foldl (step port) trace

/-- While it is frozen or paused, no call steps the worker. -/
def Halts (port : DualRuntimePort Core) (trace : HaltTrace Core) : Prop :=
  trace.frozen = true ∨ trace.paused = true →
    ∀ call, trace.scheduler.stepsOf port call = []

end HaltTrace

namespace DualRunScheduler

variable {Core : Type}
variable {port : DualRuntimePort Core}
variable {scheduler : DualRunScheduler Core}

/-- The call does not start a paused run and does not unload a frozen one. -/
def Obeys (scheduler : DualRunScheduler Core) : SchedulerCall → Prop
  | .announceRunning => scheduler.paused = false ∨ scheduler.state ≠ .ready
  | .begin_ mode _ _ _ =>
      evaluateDualMode mode = .ok ∨ scheduler.state ≠ .frozen ∨
        scheduler.shutdown = true
  | _ => True

instance (call : SchedulerCall) : Decidable (scheduler.Obeys call) :=
  match call with
  | .announceRunning => inferInstanceAs (Decidable (_ ∨ _))
  | .begin_ _ _ _ _ => inferInstanceAs (Decidable (_ ∨ _ ∨ _))
  | .stepNextFrame | .acknowledgePeerDigest _ _
  | .acknowledgeCommittedRewrite _ | .acceptLocalInput _ _
  | .acceptRemoteInput _ | .observeAuthenticatedActivity _ | .pause _
  | .resume _ _ | .setMode _ | .setSurfaceAvailable _ | .setAudioAvailable _
  | .setNetworkAvailable _ | .markTransportTerminal | .shutdown =>
      inferInstanceAs (Decidable True)

/-- Either the lifecycle is left alone, or the run freezes. -/
structure Stays (before after : DualRunScheduler Core) : Prop where
  paused : after.paused = before.paused
  shutdown : before.shutdown = true → after.shutdown = true
  state : after.state = before.state ∨ after.state = .frozen

namespace Stays

theorem refl (scheduler : DualRunScheduler Core) : Stays scheduler scheduler :=
  ⟨rfl, id, Or.inl rfl⟩

variable {before after : DualRunScheduler Core}

theorem freeze
    (stays : Stays before after)
    (reason : DualFreezeReason) :
    Stays before (after.freeze reason).2 :=
  ⟨stays.paused, stays.shutdown, Or.inr rfl⟩

theorem freezeUnless
    (stays : Stays before after)
    (available : Bool) :
    Stays before (after.freezeUnless available).2 := by
  unfold DualRunScheduler.freezeUnless
  split
  · exact stays.freeze _
  · exact stays

theorem handleWindowStatus
    (stays : Stays before after)
    (status : DualWindowStatus) :
    Stays before (after.handleWindowStatus status).2 := by
  cases status <;> first | exact stays | exact stays.freeze _

end Stays

variable {after before : DualRunScheduler Core}

theorem retire_stays
    (stays : Stays before after)
    (plan : DualWindowPlan)
    (outcome : DualFrameOutcome)
    (digest : DualStateDigest) :
    Stays before (after.retire plan outcome digest).2 := by
  unfold retire
  split
  · exact ⟨stays.paused, stays.shutdown, stays.state⟩
  · refine Stays.freeze ?_ _
    exact ⟨stays.paused, stays.shutdown, stays.state⟩

theorem executePlan_stays
    (stays : Stays before after)
    (plan : DualWindowPlan) :
    Stays before (after.executePlan port plan).2 := by
  simp only [executePlan]
  split
  · refine Stays.freeze ?_ _
    exact ⟨stays.paused, stays.shutdown, stays.state⟩
  · split
    · exact ⟨stays.paused, stays.shutdown, stays.state⟩
    · refine retire_stays ?_ _ _ _
      exact ⟨stays.paused, stays.shutdown, stays.state⟩

theorem stepNextFrame_stays :
    Stays scheduler (scheduler.stepNextFrame port).2 := by
  simp only [stepNextFrame]
  split
  · exact Stays.refl scheduler
  · split
    · refine Stays.freeze ?_ _
      exact ⟨rfl, id, Or.inl rfl⟩
    · split
      · refine Stays.freeze ?_ _
        exact ⟨rfl, id, Or.inl rfl⟩
      · refine executePlan_stays ?_ _
        exact ⟨rfl, id, Or.inl rfl⟩

theorem acknowledgePeerDigest_stays
    (frameIndex : UInt64)
    (peerDigest : DualStateDigest) :
    Stays scheduler
      (scheduler.acknowledgePeerDigest frameIndex peerDigest).2.2 := by
  unfold acknowledgePeerDigest
  split
  · exact Stays.refl scheduler
  · split
    · exact Stays.refl scheduler
    · simp only
      split
      · exact Stays.refl scheduler
      · split
        · exact Stays.refl scheduler
        · split
          · exact (Stays.refl scheduler).freeze _
          · split
            · exact Stays.refl scheduler
            · exact ⟨rfl, id, Or.inl rfl⟩

/-- Calls that are not about starting and pausing leave the lifecycle alone. -/
theorem call_stays
    {call : SchedulerCall}
    (notBegin : call.begins = false)
    (notPause : call.pauses = false)
    (notResume : call.resumes = false)
    (notAnnounce : call ≠ .announceRunning) :
    Stays scheduler (scheduler.call port call).2 := by
  cases call with
  | begin_ => cases notBegin
  | announceRunning => exact absurd rfl notAnnounce
  | stepNextFrame => exact stepNextFrame_stays
  | acknowledgePeerDigest frameIndex peerDigest =>
      exact acknowledgePeerDigest_stays frameIndex peerDigest
  | acknowledgeCommittedRewrite frameIndex =>
      simp only [call, acknowledgeCommittedRewrite]
      split
      · exact Stays.refl scheduler
      · split
        · exact Stays.refl scheduler
        · exact (Stays.refl scheduler).freeze _
  | acceptLocalInput samples logicalSeat =>
      simp only [call, acceptLocalInput]
      split
      · exact Stays.refl scheduler
      · refine Stays.handleWindowStatus ?_ _
        exact ⟨rfl, id, Or.inl rfl⟩
  | acceptRemoteInput bundle =>
      simp only [call, acceptRemoteInput]
      split
      · exact Stays.refl scheduler
      · refine Stays.handleWindowStatus ?_ _
        exact ⟨rfl, id, Or.inl rfl⟩
  | observeAuthenticatedActivity nowMs => exact ⟨rfl, id, Or.inl rfl⟩
  | pause => cases notPause
  | resume => cases notResume
  | setMode mode =>
      simp only [call, setMode]
      split
      · exact Stays.refl scheduler
      · exact ⟨rfl, id, Or.inl rfl⟩
  | setSurfaceAvailable available =>
      refine Stays.freezeUnless ?_ available
      exact ⟨rfl, id, Or.inl rfl⟩
  | setAudioAvailable available =>
      refine Stays.freezeUnless ?_ available
      exact ⟨rfl, id, Or.inl rfl⟩
  | setNetworkAvailable available =>
      refine Stays.freezeUnless ?_ available
      exact ⟨rfl, id, Or.inl rfl⟩
  | markTransportTerminal =>
      refine Stays.freeze ?_ _
      exact ⟨rfl, id, Or.inl rfl⟩
  | shutdown => exact ⟨rfl, fun _ => rfl, Or.inr rfl⟩

/-- Everything `begin` can do. -/
theorem begin_cases
    (port : DualRuntimePort Core)
    (scheduler : DualRunScheduler Core)
    (mode : DualMode)
    (content : DualContentRef)
    (context : DualInputKey)
    (owners : Port → DualOwnerKey) :
    (∃ core window,
        scheduler.window.begin_ context owners = (.ok, window) ∧
          scheduler.begin_ port mode content context owners =
            (.ok,
              { core := core
                window := window
                state := .ready
                mode := mode
                content := content
                context := context })) ∨
      ((scheduler.begin_ port mode content context owners).1 ≠ .ok ∧
        evaluateDualMode mode ≠ .ok ∧
          (scheduler.begin_ port mode content context owners).2 =
            { scheduler with mode := mode, state := .unloaded }) ∨
      ((scheduler.begin_ port mode content context owners).1 ≠ .ok ∧
        ∃ core,
          (scheduler.begin_ port mode content context owners).2 =
            { scheduler with core := core }) := by
  simp only [begin_]
  split
  next refused => exact Or.inr (Or.inl ⟨refused, refused, rfl⟩)
  next =>
    split
    · exact Or.inr (Or.inr ⟨by simp, scheduler.core, rfl⟩)
    · split
      next notLoaded => exact Or.inr (Or.inr ⟨notLoaded, _, rfl⟩)
      next =>
        split
        next window began => exact Or.inl ⟨_, window, began, rfl⟩
        next status window refused began =>
          refine Or.inr (Or.inr
            ⟨by simp, (port.load content scheduler.core).2, ?_⟩)
          have notOk :
              (scheduler.window.begin_ context owners).1 ≠ .ok := by
            rw [began]
            exact refused
          have unchanged := DualInputWindow.begin_refused notOk
          rw [began] at unchanged
          simp only at unchanged
          rw [unchanged]

theorem announceRunning_cases
    (scheduler : DualRunScheduler Core) :
    (scheduler.announceRunning.1 ≠ .ok ∧
        scheduler.announceRunning.2 = scheduler) ∨
      (scheduler.shutdown = false ∧ scheduler.state = .ready ∧
        scheduler.announceRunning =
          (.ok, { scheduler with state := .running })) := by
  unfold announceRunning
  split
  · exact Or.inl ⟨by simp, rfl⟩
  next notClosed =>
    split
    · exact Or.inl ⟨by simp, rfl⟩
    split
    · exact Or.inl ⟨by simp, rfl⟩
    next ready =>
      refine Or.inr ⟨by simpa using notClosed, not_not.mp ready, rfl⟩

theorem pause_cases
    (scheduler : DualRunScheduler Core)
    (nowMs : UInt64) :
    ((scheduler.pause nowMs).1 ≠ .ok ∧
        (scheduler.pause nowMs).2 = scheduler) ∨
      (scheduler.shutdown = false ∧ scheduler.state ≠ .frozen ∧
        scheduler.pause nowMs =
          (.ok,
            { scheduler.observeAuthenticatedActivity nowMs with
              paused := true
              state := .ready })) := by
  unfold pause
  split
  · exact Or.inl ⟨by simp, rfl⟩
  next notClosed =>
    split
    · exact Or.inl ⟨by simp, rfl⟩
    next notFrozen =>
      exact Or.inr ⟨by simpa using notClosed, notFrozen, rfl⟩

theorem resume_cases
    (scheduler : DualRunScheduler Core)
    (nowMs : UInt64)
    (peerDigest : DualStateDigest) :
    ((scheduler.resume nowMs peerDigest).1 ≠ .ok ∧
        (scheduler.resume nowMs peerDigest).2 = scheduler) ∨
      (scheduler.shutdown = false ∧ scheduler.state ≠ .frozen ∧
        scheduler.resume nowMs peerDigest =
          (.ok,
            { scheduler.observeAuthenticatedActivity nowMs with
              paused := false
              state := .running })) := by
  simp only [resume]
  split
  · exact Or.inl ⟨by simp, rfl⟩
  next notClosed =>
    split
    · exact Or.inl ⟨by simp, rfl⟩
    next notFrozen =>
      split
      · exact Or.inl ⟨by simp, rfl⟩
      split
      · exact Or.inl ⟨by simp, rfl⟩
      split
      · exact Or.inl ⟨by simp, rfl⟩
      split
      · exact Or.inl ⟨by simp, rfl⟩
      · exact Or.inr ⟨by simpa using notClosed, notFrozen, rfl⟩

/-- Only a running scheduler hands a plan to its worker. -/
theorem nextPlan_eq_none
    (notRunning : scheduler.state ≠ .running ∨ scheduler.shutdown = true) :
    scheduler.nextPlan = none := by
  unfold nextPlan
  rw [if_neg]
  rintro ⟨running, _⟩
  unfold requireRunning at running
  split at running
  · cases running
  next open_ =>
    split at running
    · cases running
    split at running
    · cases running
    next isRunning =>
      rcases notRunning with stopped | closed
      · exact isRunning stopped
      · exact open_ closed

theorem stepsOf_eq_nil
    (notRunning : scheduler.state ≠ .running ∨ scheduler.shutdown = true)
    (call : SchedulerCall) :
    scheduler.stepsOf port call = [] := by
  cases call with
  | stepNextFrame =>
      simp only [stepsOf, nextPlan_eq_none notRunning, Option.toList_none,
        List.map_nil]
  | _ => rfl

end DualRunScheduler

/-- A worker that always succeeds. -/
def idlePort : DualRuntimePort Unit where
  load := fun _ core => (.ok, core)
  step := fun _ core => (.ok, {}, core)
  stateDigest := fun _ core => (.ok, {}, core)

/-- Two players begin a session. -/
def plainBegin : SchedulerCall :=
  .begin_ .dual {} plainContext twoPlayers

namespace HaltTrace

variable {Core : Type}
variable {port : DualRuntimePort Core}
variable {trace : HaltTrace Core}

/-- A run that was frozen is not running, and neither is one that was paused. -/
structure Held (trace : HaltTrace Core) : Prop where
  frozen : trace.frozen = true →
    trace.scheduler.state = .frozen ∨ trace.scheduler.shutdown = true
  paused : trace.paused = true → trace.scheduler.paused = true
  waiting : trace.scheduler.paused = true → trace.scheduler.state ≠ .running

theorem Held.halts
    (held : trace.Held) :
    trace.Halts port := by
  intro halted call
  apply DualRunScheduler.stepsOf_eq_nil
  rcases halted with frozen | paused
  · rcases held.frozen frozen with isFrozen | closed
    · left
      rw [isFrozen]
      decide
    · exact Or.inr closed
  · exact Or.inl (held.waiting (held.paused paused))

variable {call : SchedulerCall}

/-- A call that leaves the lifecycle alone keeps the run halted. -/
theorem Held.stays
    (held : trace.Held)
    (notBegun :
      ¬ (call.begins = true ∧ (trace.scheduler.call port call).1 = .ok))
    (notPaused :
      ¬ (call.pauses = true ∧ (trace.scheduler.call port call).1 = .ok))
    (notResumed :
      ¬ (call.resumes = true ∧ (trace.scheduler.call port call).1 = .ok))
    (stays : trace.scheduler.Stays (trace.scheduler.call port call).2) :
    (trace.step port call).Held := by
  have noRestart :
      ¬ ((call.resumes = true ∨ call.begins = true) ∧
        (trace.scheduler.call port call).1 = .ok) := by
    rintro ⟨resumes | begins, isOk⟩
    · exact notResumed ⟨resumes, isOk⟩
    · exact notBegun ⟨begins, isOk⟩
  simp only [HaltTrace.step, notBegun, notPaused, noRestart, if_false]
  refine ⟨?_, ?_, ?_⟩
  · intro frozen
    rcases Bool.or_eq_true_iff.mp frozen with before | now
    · rcases held.frozen before with isFrozen | closed
      · left
        rcases stays.state with same | isFrozen'
        · exact same.trans isFrozen
        · exact isFrozen'
      · exact Or.inr (stays.shutdown closed)
    · exact Or.inl (of_decide_eq_true now)
  · intro paused
    rw [stays.paused]
    exact held.paused paused
  · intro paused
    rw [stays.paused] at paused
    rcases stays.state with same | isFrozen
    · rw [same]
      exact held.waiting paused
    · rw [isFrozen]
      decide

/-- A refused call changes nothing. -/
theorem Held.unchanged
    (held : trace.Held)
    (refused : (trace.scheduler.call port call).1 ≠ .ok)
    (unchanged : (trace.scheduler.call port call).2 = trace.scheduler) :
    (trace.step port call).Held := by
  refine held.stays ?_ ?_ ?_ ?_
  · exact fun ⟨_, isOk⟩ => refused isOk
  · exact fun ⟨_, isOk⟩ => refused isOk
  · exact fun ⟨_, isOk⟩ => refused isOk
  · rw [unchanged]
    exact DualRunScheduler.Stays.refl _

theorem Held.not_frozen
    (held : trace.Held)
    (notClosed : trace.scheduler.shutdown = false)
    (running : trace.scheduler.state ≠ .frozen) :
    trace.frozen = false := by
  by_contra frozen
  rw [Bool.not_eq_false] at frozen
  rcases held.frozen frozen with isFrozen | closed
  · exact running isFrozen
  · rw [notClosed] at closed
    cases closed

/-- One call that obeys keeps the run halted. -/
theorem Held.step
    (held : trace.Held)
    (obeys : trace.scheduler.Obeys call) :
    (trace.step port call).Held := by
  cases call with
  | begin_ mode content context owners =>
      obtain ⟨core, window, _, begun⟩ | ⟨refused, notImplemented, unloaded⟩ |
          ⟨refused, core, reloaded⟩ :=
        DualRunScheduler.begin_cases port trace.scheduler mode content context
          owners
      · simp only [HaltTrace.step, DualRunScheduler.call,
          SchedulerCall.begins, SchedulerCall.pauses, begun]
        exact ⟨by simp, by simp, by simp⟩
      · simp only [HaltTrace.step, DualRunScheduler.call, refused, unloaded,
          and_false, if_false]
        refine ⟨?_, held.paused, by simp⟩
        intro frozen
        simp only [reduceCtorEq, decide_false, Bool.or_false] at frozen
        rcases held.frozen frozen with isFrozen | closed
        · rcases obeys with implemented | notFrozen | closed
          · exact absurd implemented notImplemented
          · exact absurd isFrozen notFrozen
          · exact Or.inr closed
        · exact Or.inr closed
      · refine held.stays ?_ (by simp [SchedulerCall.pauses])
          (by simp [SchedulerCall.resumes]) ?_
        · exact fun ⟨_, isOk⟩ => refused isOk
        · rw [DualRunScheduler.call, reloaded]
          exact ⟨rfl, id, Or.inl rfl⟩
  | announceRunning =>
      obtain ⟨refused, unchanged⟩ | ⟨notClosed, ready, announced⟩ :=
        trace.scheduler.announceRunning_cases
      · exact held.unchanged refused unchanged
      · have notFrozen := held.not_frozen notClosed (by rw [ready]; decide)
        rcases obeys with unpaused | notReady
        · simp only [HaltTrace.step, DualRunScheduler.call, announced,
            SchedulerCall.begins, SchedulerCall.pauses, SchedulerCall.resumes]
          refine ⟨by simp [notFrozen], ?_, ?_⟩
          · exact fun paused => held.paused paused
          · intro paused
            rw [unpaused] at paused
            cases paused
        · exact absurd ready notReady
  | pause nowMs =>
      obtain ⟨refused, unchanged⟩ | ⟨notClosed, running, paused⟩ :=
        trace.scheduler.pause_cases nowMs
      · exact held.unchanged refused unchanged
      · have notFrozen := held.not_frozen notClosed running
        simp only [HaltTrace.step, DualRunScheduler.call, paused,
          SchedulerCall.begins, SchedulerCall.pauses]
        exact ⟨by simp [notFrozen], by simp, by simp⟩
  | resume nowMs peerDigest =>
      obtain ⟨refused, unchanged⟩ | ⟨notClosed, running, resumed⟩ :=
        trace.scheduler.resume_cases nowMs peerDigest
      · exact held.unchanged refused unchanged
      · have notFrozen := held.not_frozen notClosed running
        simp only [HaltTrace.step, DualRunScheduler.call, resumed,
          SchedulerCall.begins, SchedulerCall.pauses, SchedulerCall.resumes]
        exact ⟨by simp [notFrozen], by simp, by simp⟩
  | _ =>
      refine held.stays ?_ ?_ ?_
        (DualRunScheduler.call_stays rfl rfl rfl ?_) <;>
        simp [SchedulerCall.begins, SchedulerCall.pauses, SchedulerCall.resumes]

/-- Every call of the run obeys in the state it is made in. -/
def Obeys
    (port : DualRuntimePort Core)
    (trace : HaltTrace Core) : List SchedulerCall → Prop
  | [] => True
  | call :: calls =>
      trace.scheduler.Obeys call ∧ Obeys port (trace.step port call) calls

instance instDecidableObeys
    (port : DualRuntimePort Core)
    (trace : HaltTrace Core) :
    (calls : List SchedulerCall) → Decidable (trace.Obeys port calls)
  | [] => inferInstanceAs (Decidable True)
  | call :: calls =>
      have := instDecidableObeys port (trace.step port call) calls
      inferInstanceAs (Decidable (_ ∧ _))

theorem Held.run
    (held : trace.Held)
    {calls : List SchedulerCall}
    (obeys : trace.Obeys port calls) :
    (trace.run port calls).Held := by
  induction calls generalizing trace with
  | nil => exact held
  | cons call calls inductionHypothesis =>
      exact inductionHypothesis (held.step obeys.1) obeys.2

/--
A frozen run steps no more before it is begun again, and a paused one not before
it is resumed or begun again, as long as every call obeys.
-/
theorem freeze_and_pause_are_final
    (port : DualRuntimePort Core)
    (core : Core)
    (calls : List SchedulerCall)
    (obeys : Obeys port { scheduler := { core := core } } calls) :
    (run port { scheduler := { core := core } } calls).Halts port := by
  have fresh : ({ scheduler := { core := core } } : HaltTrace Core).Held :=
    ⟨by simp, by simp, by simp⟩
  exact (fresh.run obeys).halts

theorem freeze_and_pause_are_final_after_pause :
    (run idlePort { scheduler := { core := () } }
      [plainBegin, .announceRunning, .stepNextFrame, .pause 1]).Halts
      idlePort :=
  freeze_and_pause_are_final idlePort () _ (by decide)

/-- A paused and a frozen run both come to step again. -/
theorem halted_run_steps :
    ¬ (run idlePort { scheduler := { core := () } }
        [plainBegin, .announceRunning, .pause 1, .announceRunning]).Halts
          idlePort ∧
      ¬ (run idlePort { scheduler := { core := () } }
          [plainBegin, .announceRunning, .setSurfaceAvailable false,
            .begin_ .hostStream {} plainContext twoPlayers, .pause 1,
            .announceRunning]).Halts idlePort := by
  refine ⟨?_, ?_⟩
  · intro halts
    have noStep := halts (Or.inr (by decide)) .stepNextFrame
    exact absurd noStep (by decide)
  · intro halts
    have noStep := halts (Or.inl (by decide)) .stepNextFrame
    exact absurd noStep (by decide)

end HaltTrace

end FlyNes.Dual
