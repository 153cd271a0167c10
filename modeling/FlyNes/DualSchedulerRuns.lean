import FlyNes.DualScheduler
import FlyNes.DualWindowRuns

namespace FlyNes.Dual

/-!
# Runs of the dual run scheduler

A run makes the scheduler's public calls in any order.  The trace remembers what
was handed to the worker, what the window took in and which digests the peer
sent, all since the last call of `begin` that succeeded.
-/

/-- One call on the scheduler. -/
inductive SchedulerCall where
  | begin_
      (mode : DualMode)
      (content : DualContentRef)
      (context : DualInputKey)
      (owners : Port → DualOwnerKey)
  | announceRunning
  | stepNextFrame
  | acknowledgePeerDigest (frameIndex : UInt64) (peerDigest : DualStateDigest)
  | acknowledgeCommittedRewrite (frameIndex : UInt64)
  | acceptLocalInput (samples : DualPortInputArray) (logicalSeat : UInt8)
  | acceptRemoteInput (bundle : DualInputBundle)
  | observeAuthenticatedActivity (nowMs : UInt64)
  | pause (nowMs : UInt64)
  | resume (nowMs : UInt64) (peerDigestAtSafePoint : DualStateDigest)
  | setMode (mode : DualMode)
  | setSurfaceAvailable (available : Bool)
  | setAudioAvailable (available : Bool)
  | setNetworkAvailable (available : Bool)
  | markTransportTerminal
  | shutdown

namespace DualRunScheduler

variable {Core : Type}

/-- Make one call. -/
def call
    (port : DualRuntimePort Core)
    (scheduler : DualRunScheduler Core) :
    SchedulerCall → SessionResult × DualRunScheduler Core
  | .begin_ mode content context owners =>
      scheduler.begin_ port mode content context owners
  | .announceRunning => scheduler.announceRunning
  | .stepNextFrame => scheduler.stepNextFrame port
  | .acknowledgePeerDigest frameIndex peerDigest =>
      let (result, _, scheduler) :=
        scheduler.acknowledgePeerDigest frameIndex peerDigest
      (result, scheduler)
  | .acknowledgeCommittedRewrite frameIndex =>
      scheduler.acknowledgeCommittedRewrite frameIndex
  | .acceptLocalInput samples logicalSeat =>
      let (result, _, scheduler) :=
        scheduler.acceptLocalInput samples logicalSeat
      (result, scheduler)
  | .acceptRemoteInput bundle =>
      let (result, _, scheduler) := scheduler.acceptRemoteInput bundle
      (result, scheduler)
  | .observeAuthenticatedActivity nowMs =>
      (.ok, scheduler.observeAuthenticatedActivity nowMs)
  | .pause nowMs => scheduler.pause nowMs
  | .resume nowMs peerDigestAtSafePoint =>
      scheduler.resume nowMs peerDigestAtSafePoint
  | .setMode mode => scheduler.setMode mode
  | .setSurfaceAvailable available => scheduler.setSurfaceAvailable available
  | .setAudioAvailable available => scheduler.setAudioAvailable available
  | .setNetworkAvailable available => scheduler.setNetworkAvailable available
  | .markTransportTerminal => scheduler.markTransportTerminal
  | .shutdown => scheduler.shutdown_

/-- The plan that `stepNextFrame` hands to the worker, if it comes to that. -/
def nextPlan (scheduler : DualRunScheduler Core) : Option DualWindowPlan :=
  if scheduler.requireRunning = .ok ∧
      scheduler.window.planNext.1.status = .ok then
    some scheduler.window.planNext.1
  else
    none

end DualRunScheduler

/-- A bundle that was passed to the worker, with the digest kept for it. -/
structure StepRecord where
  bundle : DualInputBundle
  digest : Option DualStateDigest
deriving DecidableEq

/-- The frame of a step. -/
def StepRecord.frame (record : StepRecord) : UInt64 :=
  record.bundle.key.frameIndex

namespace DualRunScheduler

variable {Core : Type}

/-- What executing a plan passes to the worker, with the digest it keeps. -/
def stepRecord
    (port : DualRuntimePort Core)
    (plan : DualWindowPlan)
    (scheduler : DualRunScheduler Core) : StepRecord :=
  let (stepResult, _, core) := port.step plan.bundle scheduler.core
  let (digestResult, digest, _) := port.stateDigest plan.frameIndex core
  { bundle := plan.bundle
    digest :=
      if stepResult = .ok ∧ digestResult = .ok then some digest else none }

/-- The steps a call makes. -/
def stepsOf
    (port : DualRuntimePort Core)
    (scheduler : DualRunScheduler Core) : SchedulerCall → List StepRecord
  | .stepNextFrame =>
      scheduler.nextPlan.toList.map fun plan => scheduler.stepRecord port plan
  | _ => []

/-- The frames a call retires. -/
def plannedOf
    (port : DualRuntimePort Core)
    (scheduler : DualRunScheduler Core) : SchedulerCall → List UInt64
  | .stepNextFrame =>
      if (scheduler.stepNextFrame port).1 = .ok then
        [scheduler.window.planNext.1.frameIndex]
      else
        []
  | _ => []

/-- The samples a call brings into the window. -/
def acceptedOf
    (scheduler : DualRunScheduler Core) : SchedulerCall → List Acceptance
  | .acceptLocalInput samples logicalSeat =>
      if scheduler.requireRunning = .ok then
        scheduler.window.acceptedFromLocal samples logicalSeat
      else
        []
  | .acceptRemoteInput bundle =>
      if scheduler.requireRunning = .ok then
        scheduler.window.acceptedFrom bundle
      else
        []
  | _ => []

end DualRunScheduler

/-- The peer's digests a call is made with. -/
def SchedulerCall.heard : SchedulerCall → List (UInt64 × DualStateDigest)
  | .acknowledgePeerDigest frameIndex peerDigest => [(frameIndex, peerDigest)]
  | _ => []

/-- The call is one of `begin`. -/
def SchedulerCall.begins : SchedulerCall → Bool
  | .begin_ _ _ _ _ => true
  | _ => false

/-- A scheduler with the history of its calls since it was begun. -/
structure SchedulerTrace (Core : Type) where
  scheduler : DualRunScheduler Core
  steps : List StepRecord := []
  planned : List UInt64 := []
  accepted : List Acceptance := []
  heard : List (UInt64 × DualStateDigest) := []

namespace SchedulerTrace

variable {Core : Type}

/-- Make one call; a successful `begin` starts a new history. -/
def step
    (port : DualRuntimePort Core)
    (trace : SchedulerTrace Core)
    (call : SchedulerCall) : SchedulerTrace Core :=
  let (result, scheduler) := trace.scheduler.call port call
  if call.begins ∧ result = .ok then
    { scheduler := scheduler }
  else
    { scheduler := scheduler
      steps := trace.steps ++ trace.scheduler.stepsOf port call
      planned := trace.planned ++ trace.scheduler.plannedOf port call
      accepted := trace.accepted ++ trace.scheduler.acceptedOf call
      heard := trace.heard ++ call.heard }

/-- Make a list of calls. -/
def run
    (port : DualRuntimePort Core)
    (trace : SchedulerTrace Core)
    (calls : List SchedulerCall) : SchedulerTrace Core :=
  calls.foldl (step port) trace

end SchedulerTrace

end FlyNes.Dual
