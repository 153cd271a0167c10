import FlyNes.DualWindow

namespace FlyNes.Dual

open ByteString

/-!
# The dual run scheduler

The scheduler owns one simulation worker and the input window of its engine.  It
is the only place that steps the worker.  A digest of every stepped frame is
kept in a ring of the window's size until the peer has confirmed it.
-/

/-- What a session call answers. -/
inductive SessionResult where
  | ok
  | accepted
  | empty
  | duplicate
  | invalidArgument
  | abiMismatch
  | stale
  | invalidState
  | unsupported
  | permissionDenied
  | backpressure
  | bufferTooSmall
  | closed
  | cancelled
  | timeout
  | ioFailed
  | authFailed
  | protocolViolation
  | contractViolation
  | busy
  | outOfMemory
  | unavailable
deriving DecidableEq

/-- Simulation modes; the second one is not implemented. -/
inductive DualMode where
  | dual
  | hostStream
deriving DecidableEq

/-- Lifecycle of a scheduler. -/
inductive DualSimState where
  | unloaded
  | ready
  | running
  | frozen
deriving DecidableEq

/-- What became of an input. -/
inductive DualInputAdmit where
  | accepted
  | duplicate
  | rejectedWrongOwner
  | rejectedStaleRevision
  | rejectedEquivocation
  | rejectedWindowExceeded
  | rejectedFrozen
deriving DecidableEq

/-- Digests of the state, the picture and the sound of one frame. -/
structure DualStateDigest where
  state : Block 32 := default
  frame : Block 32 := default
  pcm : Block 32 := default
deriving DecidableEq

/-- What the worker reports about a frame. -/
structure DualFrameOutcome where
  frameIndex : UInt64 := 0
  appliedInputSequence : Port → UInt64 := fun _ => 0
  honouredPortMask : UInt32 := 0
deriving DecidableEq

/-- The content a session plays. -/
structure DualContentRef where
  sessionId : Block 16 := default
  branchId : Block 16 := default
  contentHash : Block 32 := default
  timelineEpoch : UInt64 := 0
deriving DecidableEq

/-- The simulation worker: every call may change its state. -/
structure DualRuntimePort (Core : Type) where
  load : DualContentRef → Core → SessionResult × Core
  step : DualInputBundle → Core → SessionResult × DualFrameOutcome × Core
  stateDigest : UInt64 → Core → SessionResult × DualStateDigest × Core

/-- The digest of one stepped frame. -/
structure DigestSlot where
  valid : Bool := false
  verified : Bool := false
  predicted : Bool := false
  frame : UInt64 := 0
  digest : DualStateDigest := {}
deriving DecidableEq

/-- A scheduler with its worker. -/
structure DualRunScheduler (Core : Type) where
  core : Core
  window : DualInputWindow := {}
  state : DualSimState := .unloaded
  freezeReason : DualFreezeReason := .none
  mode : DualMode := .dual
  content : DualContentRef := {}
  context : DualInputKey := {}
  digests : Fin kRingSlots → DigestSlot := fun _ => {}
  lastPlan : DualWindowPlan := {}
  lastOutcome : DualFrameOutcome := {}
  lastDigest : DualStateDigest := {}
  nextFrame : UInt64 := 0
  currentFrame : UInt64 := 0
  stateVerifiedThrough : UInt64 := 0
  predictionDepth : UInt64 := 0
  lastActivityMs : UInt64 := 0
  paused : Bool := false
  surfaceAvailable : Bool := true
  audioAvailable : Bool := true
  networkAvailable : Bool := true
  transportTerminal : Bool := false
  shutdown : Bool := false

/-- Only one mode is implemented. -/
def evaluateDualMode : DualMode → SessionResult
  | .dual => .ok
  | .hostStream => .unavailable

/-- Digests agree, or the run has to freeze. -/
def dualDigestGate (own peer : DualStateDigest) : DualFreezeReason :=
  if own = peer then .none else .digestMismatch

/-- How the window's answer is reported to the caller. -/
def admitForWindowStatus : DualWindowStatus → DualInputAdmit
  | .accepted => .accepted
  | .duplicate => .duplicate
  | .rejectedWrongOwner => .rejectedWrongOwner
  | .rejectedOtherBranch => .rejectedWrongOwner
  | .rejectedOtherTimeline => .rejectedWrongOwner
  | .rejectedInvalid => .rejectedWrongOwner
  | .rejectedStaleRevision => .rejectedStaleRevision
  | .rejectedCommittedHistory => .rejectedEquivocation
  | .rejectedWindowExceeded => .rejectedWindowExceeded
  | .frozen => .rejectedFrozen
  | .ok => .rejectedFrozen

namespace DualRunScheduler

variable {Core : Type}

/-- Load the content and bind the window; everything else starts afresh. -/
def begin_
    (port : DualRuntimePort Core)
    (mode : DualMode)
    (content : DualContentRef)
    (context : DualInputKey)
    (owners : Port → DualOwnerKey)
    (scheduler : DualRunScheduler Core) :
    SessionResult × DualRunScheduler Core :=
  if evaluateDualMode mode ≠ .ok then
    (evaluateDualMode mode,
      { scheduler with mode := mode, state := .unloaded })
  else if !dualInputKeyIsValid context then
    (.invalidArgument, scheduler)
  else
    let (loadResult, core) := port.load content scheduler.core
    if loadResult ≠ .ok then
      (loadResult, { scheduler with core := core })
    else
      match scheduler.window.begin_ context owners with
      | (.ok, window) =>
          (.ok,
            { core := core
              window := window
              state := .ready
              mode := mode
              content := content
              context := context })
      | (_, window) =>
          (.invalidArgument, { scheduler with core := core, window := window })

/-- A loaded scheduler starts to run. -/
def announceRunning
    (scheduler : DualRunScheduler Core) :
    SessionResult × DualRunScheduler Core :=
  if scheduler.shutdown then
    (.closed, scheduler)
  else if scheduler.state = .frozen then
    (.invalidState, scheduler)
  else if scheduler.state ≠ .ready then
    (.invalidState, scheduler)
  else
    (.ok, { scheduler with state := .running })

/-- Stop for good; the first reason is kept. -/
def freeze
    (reason : DualFreezeReason)
    (scheduler : DualRunScheduler Core) :
    SessionResult × DualRunScheduler Core :=
  (.invalidState,
    { scheduler with
      state := .frozen
      freezeReason :=
        if scheduler.freezeReason = .none then
          reason
        else
          scheduler.freezeReason })

def requireRunning (scheduler : DualRunScheduler Core) : SessionResult :=
  if scheduler.shutdown then
    .closed
  else if scheduler.state = .frozen then
    .invalidState
  else if scheduler.state ≠ .running then
    .invalidState
  else
    .ok

/-- The verdict of the ring while it holds the frame, of the watermark after. -/
def frameIsFinal
    (scheduler : DualRunScheduler Core)
    (frameIndex : UInt64) : Bool :=
  let slot := scheduler.digests (slotOf frameIndex)
  if slot.valid && slot.frame = frameIndex then
    slot.verified && !slot.predicted
  else
    frameIndex < scheduler.stateVerifiedThrough

/-- A frozen run has no canonical frames to report. -/
def frameIsCanonicalSuccess
    (scheduler : DualRunScheduler Core)
    (frameIndex : UInt64) : Bool :=
  if scheduler.state = .frozen then
    false
  else
    scheduler.frameIsFinal frameIndex

/-- Report what the window answered; a rewrite and a far frame freeze. -/
def handleWindowStatus
    (status : DualWindowStatus)
    (scheduler : DualRunScheduler Core) :
    SessionResult × DualRunScheduler Core :=
  match status with
  | .accepted => (.accepted, scheduler)
  | .duplicate => (.duplicate, scheduler)
  | .rejectedWrongOwner => (.permissionDenied, scheduler)
  | .rejectedOtherBranch => (.permissionDenied, scheduler)
  | .rejectedOtherTimeline => (.permissionDenied, scheduler)
  | .rejectedStaleRevision => (.stale, scheduler)
  | .rejectedInvalid => (.invalidArgument, scheduler)
  | .rejectedCommittedHistory => scheduler.freeze .committedHistoryRewrite
  | .rejectedWindowExceeded => scheduler.freeze .inputWindowExceeded
  | .frozen => scheduler.freeze .predictionDepthExceeded
  | .ok => (.invalidState, scheduler)

/-- Keep the digest of a frame that was just stepped. -/
def recordDigest
    (plan : DualWindowPlan)
    (digest : DualStateDigest)
    (scheduler : DualRunScheduler Core) : DualRunScheduler Core :=
  { scheduler with
    digests := Function.update scheduler.digests (slotOf plan.frameIndex)
      { valid := true
        verified := false
        predicted := plan.predictedPortMask ≠ PortSet.none
        frame := plan.frameIndex
        digest := digest } }

/-- Mark a stepped frame in the window and go on to the next one. -/
def retire
    (plan : DualWindowPlan)
    (outcome : DualFrameOutcome)
    (digest : DualStateDigest)
    (scheduler : DualRunScheduler Core) :
    SessionResult × DualRunScheduler Core :=
  match scheduler.window.markPlanned plan.frameIndex plan.predictedPortMask with
  | (.ok, window) =>
      let next := plan.frameIndex + 1
      (.ok,
        { scheduler with
          window := window
          currentFrame := plan.frameIndex
          nextFrame := next
          predictionDepth :=
            if next > window.commitFrontier then
              next - window.commitFrontier
            else
              0
          lastPlan := plan
          lastOutcome := outcome
          lastDigest := digest })
  | (_, window) =>
      freeze .inputWindowExceeded { scheduler with window := window }

/-- Hand a planned frame to the worker. -/
def executePlan
    (port : DualRuntimePort Core)
    (plan : DualWindowPlan)
    (scheduler : DualRunScheduler Core) :
    SessionResult × DualRunScheduler Core :=
  let (stepResult, outcome, core) := port.step plan.bundle scheduler.core
  if stepResult ≠ .ok then
    freeze .transportTerminal { scheduler with core := core }
  else
    let (digestResult, digest, core) := port.stateDigest plan.frameIndex core
    if digestResult ≠ .ok then
      (digestResult, { scheduler with core := core })
    else
      retire plan outcome digest
        (recordDigest plan digest { scheduler with core := core })

/-- Advance exactly one frame. -/
def stepNextFrame
    (port : DualRuntimePort Core)
    (scheduler : DualRunScheduler Core) :
    SessionResult × DualRunScheduler Core :=
  if scheduler.requireRunning ≠ .ok then
    (scheduler.requireRunning, scheduler)
  else
    let (plan, window) := scheduler.window.planNext
    if plan.status = .frozen then
      freeze plan.freeze
        { scheduler with
          window := window
          predictionDepth := plan.predictionDepth }
    else if plan.status ≠ .ok then
      freeze .inputWindowExceeded { scheduler with window := window }
    else
      executePlan port plan { scheduler with window := window }

/-- Compare the peer's digest of a stepped frame with the own one. -/
def acknowledgePeerDigest
    (frameIndex : UInt64)
    (peerDigest : DualStateDigest)
    (scheduler : DualRunScheduler Core) :
    SessionResult × Bool × DualRunScheduler Core :=
  if scheduler.requireRunning ≠ .ok then
    (scheduler.requireRunning, false, scheduler)
  else if frameIndex + UInt64.ofNat kRingSlots ≤
      scheduler.window.stepFrontier then
    (.stale, false, scheduler)
  else
    let slot := scheduler.digests (slotOf frameIndex)
    if !slot.valid || slot.frame ≠ frameIndex then
      (.invalidArgument, false, scheduler)
    else if slot.verified then
      (.stale, false, scheduler)
    else if dualDigestGate slot.digest peerDigest ≠ .none then
      let (result, frozen) :=
        scheduler.freeze (dualDigestGate slot.digest peerDigest)
      (result, false, frozen)
    else if slot.predicted then
      (.accepted, false, scheduler)
    else
      (.ok, true,
        { scheduler with
          digests := Function.update scheduler.digests (slotOf frameIndex)
            { slot with verified := true }
          stateVerifiedThrough :=
            if frameIndex = scheduler.stateVerifiedThrough then
              frameIndex + 1
            else
              scheduler.stateVerifiedThrough })

/-- A rewrite of verified history freezes. -/
def acknowledgeCommittedRewrite
    (frameIndex : UInt64)
    (scheduler : DualRunScheduler Core) :
    SessionResult × DualRunScheduler Core :=
  if scheduler.state = .frozen then
    (.invalidState, scheduler)
  else if frameIndex ≥ scheduler.stateVerifiedThrough then
    (.stale, scheduler)
  else
    scheduler.freeze .committedHistoryRewrite

/-- Offer this engine's own samples for the next frame. -/
def acceptLocalInput
    (samples : DualPortInputArray)
    (logicalSeat : UInt8)
    (scheduler : DualRunScheduler Core) :
    SessionResult × DualInputAdmit × DualRunScheduler Core :=
  if scheduler.requireRunning ≠ .ok then
    (scheduler.requireRunning, .rejectedFrozen, scheduler)
  else
    let (status, window) :=
      scheduler.window.deliverLocalInput samples logicalSeat
    let (result, scheduler) :=
      handleWindowStatus status { scheduler with window := window }
    (result, admitForWindowStatus status, scheduler)

/-- Offer a bundle of the peer. -/
def acceptRemoteInput
    (bundle : DualInputBundle)
    (scheduler : DualRunScheduler Core) :
    SessionResult × DualInputAdmit × DualRunScheduler Core :=
  if scheduler.requireRunning ≠ .ok then
    (scheduler.requireRunning, .rejectedFrozen, scheduler)
  else
    let (status, window) := scheduler.window.deliverInput bundle
    let (result, scheduler) :=
      handleWindowStatus status { scheduler with window := window }
    (result, admitForWindowStatus status, scheduler)

def observeAuthenticatedActivity
    (nowMs : UInt64)
    (scheduler : DualRunScheduler Core) : DualRunScheduler Core :=
  { scheduler with
    lastActivityMs :=
      if nowMs > scheduler.lastActivityMs then
        nowMs
      else
        scheduler.lastActivityMs }

/-- Stop stepping until `resume`. -/
def pause
    (nowMs : UInt64)
    (scheduler : DualRunScheduler Core) :
    SessionResult × DualRunScheduler Core :=
  if scheduler.shutdown then
    (.closed, scheduler)
  else if scheduler.state = .frozen then
    (.invalidState, scheduler)
  else
    (.ok,
      { scheduler.observeAuthenticatedActivity nowMs with
        paused := true
        state := .ready })

/-- Go on from a frame that both engines have confirmed. -/
def resume
    (nowMs : UInt64)
    (peerDigestAtSafePoint : DualStateDigest)
    (scheduler : DualRunScheduler Core) :
    SessionResult × DualRunScheduler Core :=
  let slot := scheduler.digests (slotOf scheduler.currentFrame)
  if scheduler.shutdown then
    (.closed, scheduler)
  else if scheduler.state = .frozen then
    (.invalidState, scheduler)
  else if !scheduler.paused then
    (.invalidState, scheduler)
  else if !slot.valid || slot.frame ≠ scheduler.currentFrame then
    (.invalidState, scheduler)
  else if !slot.verified ||
      !scheduler.window.frameIsReal scheduler.currentFrame then
    (.invalidState, scheduler)
  else if dualDigestGate slot.digest peerDigestAtSafePoint ≠ .none then
    (.protocolViolation, scheduler)
  else
    (.ok,
      { scheduler.observeAuthenticatedActivity nowMs with
        paused := false
        state := .running })

def setMode
    (mode : DualMode)
    (scheduler : DualRunScheduler Core) :
    SessionResult × DualRunScheduler Core :=
  if evaluateDualMode mode ≠ .ok then
    (evaluateDualMode mode, scheduler)
  else
    (.ok, { scheduler with mode := mode })

/-- Without one of its outlets the run freezes. -/
def freezeUnless
    (available : Bool)
    (scheduler : DualRunScheduler Core) :
    SessionResult × DualRunScheduler Core :=
  if !available then
    scheduler.freeze .transportTerminal
  else
    (.ok, scheduler)

def setSurfaceAvailable
    (available : Bool)
    (scheduler : DualRunScheduler Core) :
    SessionResult × DualRunScheduler Core :=
  freezeUnless available { scheduler with surfaceAvailable := available }

def setAudioAvailable
    (available : Bool)
    (scheduler : DualRunScheduler Core) :
    SessionResult × DualRunScheduler Core :=
  freezeUnless available { scheduler with audioAvailable := available }

def setNetworkAvailable
    (available : Bool)
    (scheduler : DualRunScheduler Core) :
    SessionResult × DualRunScheduler Core :=
  freezeUnless available { scheduler with networkAvailable := available }

def markTransportTerminal
    (scheduler : DualRunScheduler Core) :
    SessionResult × DualRunScheduler Core :=
  freeze .transportTerminal { scheduler with transportTerminal := true }

/-- Freeze for good and refuse every later call. -/
def shutdown_
    (scheduler : DualRunScheduler Core) :
    SessionResult × DualRunScheduler Core :=
  (.ok,
    { scheduler with
      shutdown := true
      state := .frozen
      freezeReason :=
        if scheduler.freezeReason = .none then
          .shutdown
        else
          scheduler.freezeReason })

end DualRunScheduler

end FlyNes.Dual
