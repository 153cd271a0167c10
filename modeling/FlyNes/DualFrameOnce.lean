import FlyNes.DualSchedulerHistory

namespace FlyNes.Dual

/-!
# Every frame is executed once

A frame is executed when the worker's step succeeds.  The step frontier moves
only after the digest of the frame has been taken as well.  A digest that fails
neither freezes the run nor marks the frame, so the next call executes the same
frame a second time.  The last frame that has a 64-bit number is never marked.
-/

/-- A frame that the worker has executed, and whether its digest was taken. -/
structure ExecutedFrame where
  frame : UInt64
  digested : Bool
deriving DecidableEq

namespace ExecutedFrame

/-- The number of the frame to execute after this one. -/
def next (entry : ExecutedFrame) : Nat :=
  if entry.digested = true ∧ entry.frame.toNat + 1 < 2 ^ 64 then
    entry.frame.toNat + 1
  else
    entry.frame.toNat

/-- The number of the frame to execute after a list of frames. -/
def frontier (executed : List ExecutedFrame) : Nat :=
  (executed.getLast?.map next).getD 0

theorem frontier_concat
    (executed : List ExecutedFrame)
    (entry : ExecutedFrame) :
    frontier (executed ++ [entry]) = entry.next := by
  simp [frontier]

/-- The executed frames are 0, 1, 2 and so on. -/
def InSequence (executed : List ExecutedFrame) : Prop :=
  executed.map (fun entry => entry.frame.toNat) = List.range executed.length

instance (executed : List ExecutedFrame) : Decidable (InSequence executed) :=
  inferInstanceAs (Decidable (_ = _))

/-- Every executed frame is the one at the frontier of those before it. -/
inductive AtFrontier : List ExecutedFrame → Prop
  | nil : AtFrontier []
  | concat
      (executed : List ExecutedFrame)
      (entry : ExecutedFrame)
      (before : AtFrontier executed)
      (here : entry.frame.toNat = frontier executed) :
      AtFrontier (executed ++ [entry])

variable {executed : List ExecutedFrame}

theorem inSequence_concat
    {entry : ExecutedFrame} :
    InSequence (executed ++ [entry]) ↔
      InSequence executed ∧ entry.frame.toNat = executed.length := by
  unfold InSequence
  rw [List.map_append, List.length_append, List.length_singleton,
    List.range_succ]
  constructor
  · intro same
    obtain ⟨earlier, last⟩ :=
      List.append_inj' same (by simp)
    exact ⟨earlier, by simpa using last⟩
  · rintro ⟨earlier, last⟩
    rw [earlier, List.map_singleton, last]

/-- The frontier has moved past a sequence when its last digest was taken. -/
theorem frontier_eq_length
    (sequence : InSequence executed)
    (narrow : executed.length < 2 ^ 64) :
    frontier executed = executed.length ↔
      ∀ entry ∈ executed.getLast?, entry.digested = true := by
  obtain rfl | ⟨earlier, entry, rfl⟩ := List.eq_nil_or_concat' executed
  · simp [frontier]
  · have number := (inSequence_concat.mp sequence).2
    rw [List.length_append, List.length_singleton] at narrow ⊢
    rw [frontier_concat, List.getLast?_concat, next, number]
    by_cases digested : entry.digested = true
    · rw [if_pos ⟨digested, narrow⟩]
      simp [digested]
    · simp [digested]

/--
Frames that are executed at the frontier are in sequence exactly when no digest
but the last has failed and there are no more of them than 64-bit numbers.
-/
theorem AtFrontier.inSequence_iff
    (atFrontier : AtFrontier executed) :
    InSequence executed ↔
      (∀ entry ∈ executed.dropLast, entry.digested = true) ∧
        executed.length ≤ 2 ^ 64 := by
  induction atFrontier with
  | nil => simp [InSequence]
  | concat executed entry before here inductionHypothesis =>
      rw [inSequence_concat, List.dropLast_concat, List.length_append,
        List.length_singleton, here]
      have all :
          (∀ entry ∈ executed, entry.digested = true) ↔
            (∀ entry ∈ executed.dropLast, entry.digested = true) ∧
              ∀ entry ∈ executed.getLast?, entry.digested = true := by
        obtain rfl | ⟨earlier, last, rfl⟩ :=
          List.eq_nil_or_concat' executed
        · simp
        · simp [or_imp, forall_and]
      constructor
      · rintro ⟨sequence, number⟩
        have narrow : executed.length < 2 ^ 64 := by
          rw [← number, ← here]
          exact entry.frame.toNat_lt
        refine ⟨all.mpr ⟨(inductionHypothesis.mp sequence).1, ?_⟩, narrow⟩
        exact (frontier_eq_length sequence narrow).mp number
      · rintro ⟨digested, narrow⟩
        obtain ⟨earlier, last⟩ := all.mp digested
        have sequence :=
          inductionHypothesis.mpr ⟨earlier, Nat.le_of_succ_le narrow⟩
        exact ⟨sequence, (frontier_eq_length sequence narrow).mpr last⟩

end ExecutedFrame

namespace DualRunScheduler

variable {Core : Type}

/-- The frames a call executes. -/
def executedOf
    (port : DualRuntimePort Core)
    (scheduler : DualRunScheduler Core) : SchedulerCall → List ExecutedFrame
  | .stepNextFrame =>
      (scheduler.nextPlan.toList.filter fun plan =>
        (port.step plan.bundle scheduler.core).1 = .ok).map fun plan =>
          { frame := plan.bundle.key.frameIndex
            digested := (scheduler.stepRecord port plan).digest.isSome }
  | _ => []

end DualRunScheduler

/-- A scheduler with the frames executed since it was begun. -/
structure FrameTrace (Core : Type) where
  scheduler : DualRunScheduler Core
  executed : List ExecutedFrame := []

namespace FrameTrace

variable {Core : Type}

/-- Make one call; a successful `begin` starts a new history. -/
def step
    (port : DualRuntimePort Core)
    (trace : FrameTrace Core)
    (call : SchedulerCall) : FrameTrace Core :=
  let (result, scheduler) := trace.scheduler.call port call
  if call.begins ∧ result = .ok then
    { scheduler := scheduler }
  else
    { scheduler := scheduler
      executed := trace.executed ++ trace.scheduler.executedOf port call }

/-- Make a list of calls. -/
def run
    (port : DualRuntimePort Core)
    (trace : FrameTrace Core)
    (calls : List SchedulerCall) : FrameTrace Core :=
  calls.foldl (step port) trace

end FrameTrace

namespace DualInputWindow

variable {window : DualInputWindow}
variable {accepted : List Acceptance}
variable {planned : List UInt64}

theorem planNext_bound
    (ready : window.planNext.1.status = .ok) :
    window.bound = true := by
  unfold planNext at ready
  split at ready
  · cases ready
  next bound => simpa using bound

/-- Marking the frame just executed moves the frontier past it, if it can. -/
theorem Sound.markPlanned_frontier
    (sound : window.Sound accepted planned)
    (bound : window.bound = true)
    (fits : window.Fits window.stepFrontier)
    (predicted : PortSet) :
    (window.materialize.markPlanned
        window.stepFrontier predicted).2.stepFrontier.toNat =
      if window.stepFrontier.toNat + 1 < 2 ^ 64 then
        window.stepFrontier.toNat + 1
      else
        window.stepFrontier.toNat := by
  have materialized := sound.materialize
  have stillFits : window.materialize.Fits window.stepFrontier :=
    ⟨fits.current, fits.recent, fits.depth⟩
  have found :
      window.materialize.findRecord window.stepFrontier =
        some (window.ensureRecord window.stepFrontier) := by
    have stored :=
      @store_findRecord_same window _
        (window.ensureRecord_used window.stepFrontier)
    rw [ensureRecord_frameIndex] at stored
    exact stored
  obtain ⟨refused, unchanged⟩ | ⟨record, _, kept, below, marked⟩ :=
    markPlanned_cases window.stepFrontier predicted window.materialize
  · rw [unchanged, if_neg]
    · rfl
    · intro narrow
      have next : (window.stepFrontier + 1).toNat =
          window.stepFrontier.toNat + 1 := by
        rw [UInt64.toNat_add, UInt64.toNat_one]
        omega
      have through :
          window.stepFrontier < window.materialize.materializedThrough := by
        rw [UInt64.lt_iff_toNat_lt]
        simp only [DualInputWindow.materialize]
        split
        next => omega
        next behind =>
          rw [gt_iff_lt, UInt64.lt_iff_toNat_lt] at behind
          omega
      apply refused
      have stillBound : window.materialize.bound = true := bound
      simp [DualInputWindow.markPlanned, stillBound, found,
        UInt64.not_le.mpr through]
  · have narrow := narrow_of_materialized below
    obtain ⟨_, frontier⟩ :=
      (materialized.execute stillFits kept narrow predicted).advance_frontiers
    rw [marked, if_pos narrow, frontier, execute_stepFrontier,
      findRecord_frameIndex kept, UInt64.toNat_add, UInt64.toNat_one]
    omega

end DualInputWindow

namespace DualRunScheduler

variable {Core : Type}
variable {port : DualRuntimePort Core}
variable {scheduler : DualRunScheduler Core}
variable {accepted : List Acceptance}
variable {planned : List UInt64}

/-- A step executes the frame at the frontier, or leaves the frontier alone. -/
theorem stepNextFrame_frontier
    (port : DualRuntimePort Core)
    (sound : scheduler.window.Sound accepted planned) :
    (scheduler.executedOf port .stepNextFrame = [] ∧
        (scheduler.stepNextFrame port).2.window.stepFrontier =
          scheduler.window.stepFrontier) ∨
      ∃ entry,
        scheduler.executedOf port .stepNextFrame = [entry] ∧
          entry.frame = scheduler.window.stepFrontier ∧
            (scheduler.stepNextFrame port).2.window.stepFrontier.toNat =
              entry.next := by
  cases plans : scheduler.nextPlan with
  | none =>
      left
      obtain ⟨_, same⟩ := stepNextFrame_unplanned port sound plans
      rw [same.window]
      simp [executedOf, plans]
  | some plan =>
      obtain ⟨isPlan, ready, stepped⟩ := stepNextFrame_planned port plans
      have bound : scheduler.window.bound = true := by
        rw [← isPlan] at ready
        exact DualInputWindow.planNext_bound ready
      obtain ⟨refused, _⟩ | ⟨fits, made⟩ := sound.planNext_cases
      · rw [isPlan] at refused
        exact absurd ready refused
      have window : scheduler.window.planNext.2 = scheduler.window.materialize :=
        congrArg Prod.snd made
      have frame : plan.frameIndex = scheduler.window.stepFrontier := by
        rw [← isPlan, made]
        rfl
      have key : plan.bundle.key.frameIndex = scheduler.window.stepFrontier := by
        rw [← isPlan, made]
        rfl
      rw [stepped, window]
      have record :
          (scheduler.stepRecord port plan).digest =
            (stepRecord port plan
              { scheduler with
                window := scheduler.window.materialize }).digest := rfl
      obtain ⟨failed, _, same⟩ | ⟨digest, kept, _, _, marked, _⟩ :=
        executePlan_cases port plan
          { scheduler with window := scheduler.window.materialize }
      · have frontier :
            (executePlan port plan
              { scheduler with
                window :=
                  scheduler.window.materialize }).2.window.stepFrontier =
              scheduler.window.stepFrontier := by
          rw [same.window]
          rfl
        by_cases success : (port.step plan.bundle scheduler.core).1 = .ok
        · right
          refine ⟨⟨plan.bundle.key.frameIndex, false⟩, ?_, key, ?_⟩
          · simp [executedOf, plans, success, record, failed]
          · rw [frontier, ExecutedFrame.next, key]
            simp
        · left
          exact ⟨by simp [executedOf, plans, success], frontier⟩
      · right
        have success : (port.step plan.bundle scheduler.core).1 = .ok := by
          by_contra failure
          simp [stepRecord, failure] at kept
        refine ⟨⟨plan.bundle.key.frameIndex, true⟩, ?_, key, ?_⟩
        · simp [executedOf, plans, success, record, kept]
        · have moved :=
            sound.markPlanned_frontier bound fits plan.predictedPortMask
          rw [marked, frame, moved, ExecutedFrame.next, key]
          simp

/-- A call that does not step and does not begin leaves the frontier alone. -/
theorem call_frontier
    {call : SchedulerCall}
    (sound : scheduler.window.Sound accepted planned)
    (notStep : call ≠ .stepNextFrame)
    (notBegun : ¬ (call.begins = true ∧ (scheduler.call port call).1 = .ok)) :
    (scheduler.call port call).2.window.stepFrontier =
      scheduler.window.stepFrontier := by
  have quiet :
      call.lifecycle = true →
        (scheduler.call port call).2.window.stepFrontier =
          scheduler.window.stepFrontier := by
    intro lifecycle
    rw [(@call_sameHistory _ port _ _ lifecycle).window]
  cases call with
  | begin_ mode content context owners =>
      obtain ⟨core, window, _, begun⟩ | ⟨_, _, unloaded⟩ |
          ⟨_, core, reloaded⟩ :=
        begin_cases port scheduler mode content context owners
      · refine absurd ⟨rfl, ?_⟩ notBegun
        rw [DualRunScheduler.call, begun]
      · rw [DualRunScheduler.call, unloaded]
      · rw [DualRunScheduler.call, reloaded]
  | stepNextFrame => exact absurd rfl notStep
  | acknowledgePeerDigest frameIndex peerDigest =>
      obtain same | ⟨_, _, _, _, verified⟩ :=
        scheduler.acknowledgePeerDigest_cases frameIndex peerDigest
      · exact congrArg DualInputWindow.stepFrontier same.window
      · simp only [DualRunScheduler.call, verified]
  | acceptLocalInput samples logicalSeat =>
      simp only [DualRunScheduler.call, acceptLocalInput]
      split
      · rfl
      · rw [(handleWindowStatus_sameHistory _).window]
        exact (sound.deliverLocal_ahead samples logicalSeat).2
  | acceptRemoteInput bundle =>
      simp only [DualRunScheduler.call, acceptRemoteInput]
      split
      · rfl
      · rw [(handleWindowStatus_sameHistory _).window]
        exact (sound.deliver_ahead bundle).2
  | _ => exact quiet rfl

end DualRunScheduler

namespace FrameTrace

variable {Core : Type}
variable {port : DualRuntimePort Core}
variable {trace : FrameTrace Core}

/-- The window stands at the frontier of the frames executed so far. -/
structure Sound (trace : FrameTrace Core) : Prop where
  history : ∃ history : SchedulerTrace Core,
    history.Sound ∧ history.scheduler = trace.scheduler
  frontier : trace.scheduler.window.stepFrontier.toNat =
    ExecutedFrame.frontier trace.executed
  atFrontier : ExecutedFrame.AtFrontier trace.executed

theorem Sound.step
    (sound : trace.Sound)
    (call : SchedulerCall) :
    (trace.step port call).Sound := by
  obtain ⟨history, historySound, same⟩ := sound.history
  have window := historySound.window
  rw [same] at window
  have nextHistory :
      ∃ history : SchedulerTrace Core,
        history.Sound ∧
          history.scheduler = (trace.scheduler.call port call).2 := by
    refine ⟨history.step port call, historySound.step call, ?_⟩
    simp only [SchedulerTrace.step, same]
    split <;> rfl
  by_cases begun :
      call.begins = true ∧ (trace.scheduler.call port call).1 = .ok
  · cases call with
    | begin_ mode content context owners =>
        have after :
            trace.step port (.begin_ mode content context owners) =
              { scheduler :=
                  (trace.scheduler.call port
                    (.begin_ mode content context owners)).2 } := by
          simp only [FrameTrace.step, begun, and_self, if_true]
        rw [after]
        refine ⟨nextHistory, ?_, .nil⟩
        obtain ⟨core, fresh, bound, began⟩ | ⟨refused, _⟩ | ⟨refused, _⟩ :=
          DualRunScheduler.begin_cases port trace.scheduler mode content context
            owners
        · simp only [DualRunScheduler.call, began]
          unfold DualInputWindow.begin_ at bound
          split at bound
          · cases bound
          split at bound
          · cases bound
          · cases bound
            rfl
        · exact absurd begun.2 refused
        · exact absurd begun.2 refused
    | _ => cases begun.1
  · have after :
        trace.step port call =
          { scheduler := (trace.scheduler.call port call).2
            executed :=
              trace.executed ++ trace.scheduler.executedOf port call } := by
      simp only [FrameTrace.step, begun, if_false]
    rw [after]
    by_cases steps : call = .stepNextFrame
    · subst steps
      obtain ⟨none, unmoved⟩ | ⟨entry, one, here, moved⟩ :=
        DualRunScheduler.stepNextFrame_frontier port window
      · rw [none, List.append_nil]
        refine ⟨nextHistory, ?_, sound.atFrontier⟩
        exact (congrArg UInt64.toNat unmoved).trans sound.frontier
      · rw [one]
        refine ⟨nextHistory, ?_, .concat _ entry sound.atFrontier ?_⟩
        · rw [ExecutedFrame.frontier_concat]
          exact moved
        · rw [here]
          exact sound.frontier
    · have none : trace.scheduler.executedOf port call = [] := by
        cases call with
        | stepNextFrame => exact absurd rfl steps
        | _ => rfl
      rw [none, List.append_nil]
      refine ⟨nextHistory, ?_, sound.atFrontier⟩
      have unmoved :=
        @DualRunScheduler.call_frontier _ port _ _ _ _ window steps begun
      exact (congrArg UInt64.toNat unmoved).trans sound.frontier

theorem Sound.run
    (sound : trace.Sound)
    (calls : List SchedulerCall) :
    (trace.run port calls).Sound := by
  induction calls generalizing trace with
  | nil => exact sound
  | cons call rest inductionHypothesis =>
      exact inductionHypothesis (sound.step call)

theorem Sound.start
    (core : Core) :
    ({ scheduler := { core := core } } : FrameTrace Core).Sound :=
  ⟨⟨{ scheduler := { core := core } }, SchedulerTrace.Sound.start core, rfl⟩,
    rfl, .nil⟩

/--
The frames executed since the last successful `begin` are 0, 1, 2 and so on, each
executed once, exactly when the digest of every one but the last was taken and
there are no more of them than 64-bit numbers.
-/
theorem each_frame_runs_once
    (port : DualRuntimePort Core)
    (core : Core)
    (calls : List SchedulerCall) :
    ExecutedFrame.InSequence
        (run port { scheduler := { core := core } } calls).executed ↔
      (∀ entry ∈
          (run port { scheduler := { core := core } }
            calls).executed.dropLast,
        entry.digested = true) ∧
        (run port { scheduler := { core := core } }
          calls).executed.length ≤ 2 ^ 64 :=
  ((Sound.start core).run calls).atFrontier.inSequence_iff

/-- A worker whose first digest fails. -/
def hesitantPort : DualRuntimePort Bool where
  load := fun _ core => (.ok, core)
  step := fun _ core => (.ok, {}, core)
  stateDigest := fun _ core => (if core then .ok else .unavailable, {}, true)

/-- After the digest has failed, the first frame is executed again. -/
theorem frame_runs_twice :
    ¬ ∀ (port : DualRuntimePort Bool) (core : Bool) (calls : List SchedulerCall),
      ExecutedFrame.InSequence
        (run port { scheduler := { core := core } } calls).executed := by
  intro always
  exact absurd
    (always hesitantPort false
      [plainBegin, .announceRunning, .stepNextFrame, .stepNextFrame])
    (by decide)

end FrameTrace

end FlyNes.Dual
