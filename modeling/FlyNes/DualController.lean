import FlyNes.AppFrame
import FlyNes.DualConfig

namespace FlyNes.Dual

open ByteString
open FlyNes.Wire (encodeAppFrame nextAppFrame)

/-!
# The dual session controller

The controller names the next provider effect, takes in its completion, and
drives one scheduler.  After the stream is open a beacon tells the peer that the
runtime is loaded; the first bundle received from the peer starts the run.
-/

/-- What a player's device reports; the port masks came later. -/
structure SessionInput where
  expectedSeatRevision : UInt64 := 1
  buttons : UInt32 := 0
  portMask : Option (Port → UInt32) := none

/-- What the controller asks its providers for. -/
inductive Effect where
  | queryContent (contentIndex : UInt32)
  | openStream (accept openerIsInitiator : Bool) (connection : UInt64)
  | write (stream : UInt64) (bytes : Bytes)
  | grantRead (stream : UInt64) (readCredit : Nat)
deriving DecidableEq

/-- What a provider answers. -/
inductive Completion where
  | queryContent
      (result : SessionResult)
      (choice : Except SessionResult GameChoice)
  | openStream (result : SessionResult) (resource value0 : UInt64)
  | write (result : SessionResult)
  | grantRead (result : SessionResult) (received : Except SessionResult Bytes)

/-- Bytes one read may deliver. -/
def kStateCommitReadCredit : Nat := 256

/-- The bytes of `flynes-dual-owner-key-v1`. -/
def kOwnerKeyDomain : Bytes :=
  [0x66, 0x6c, 0x79, 0x6e, 0x65, 0x73, 0x2d, 0x64, 0x75, 0x61, 0x6c, 0x2d,
    0x6f, 0x77, 0x6e, 0x65, 0x72, 0x2d, 0x6b, 0x65, 0x79, 0x2d, 0x76, 0x31]

/-- The key id under which a device signs. -/
def ownerKey (publicKey : Block 65) : KeyId :=
  Wire.domainHash kOwnerKeyDomain publicKey.bytes

/-- The next sequence, unless it would wrap. -/
def checkedDualNextSequence (current : UInt64) : Option UInt64 :=
  if current = 0 ∨ current.toNat = 2 ^ 64 - 1 then none else some (current + 1)

/-- One device's side of a dual session. -/
structure DualSessionController (Core : Type) where
  config : PendingConfig := {}
  catalogStarted : Bool := false
  catalogQueryOutstanding : Bool := false
  catalogIndex : UInt32 := 0
  scheduler : Option (DualRunScheduler Core) := none
  context : DualInputKey := {}
  content : DualContentRef := {}
  owners : Port → DualOwnerKey := fun _ => {}
  localSeat : Port := 0
  localSequence : UInt64 := 1
  batchSequence : UInt64 := 1
  lastDigest : DualStateDigest := {}
  connection : UInt64 := 0
  sendStream : UInt64 := 0
  receiveStream : UInt64 := 0
  localIsListener : Bool := false
  wantStream : Bool := false
  streamOpen : Bool := false
  openOutstanding : Bool := false
  writeOutstanding : Bool := false
  readOutstanding : Bool := false
  wantRead : Bool := false
  writeQueue : List Bytes := []
  readAccumulator : Bytes := []
  flags : RunFlags := {}
  peerRuntimeReady : Bool := false
  freezeReason : DualFreezeReason := .none

namespace DualSessionController

variable {Core : Type}

/-- The owners of the ports: the initiator sits at port 0. -/
def ownersOf (inputs : DualStartInputs) : Port → DualOwnerKey :=
  let initiator :=
    if inputs.localIsInitiator then
      inputs.localSigningPublic
    else
      inputs.peerSigningPublic
  let responder :=
    if inputs.localIsInitiator then
      inputs.peerSigningPublic
    else
      inputs.localSigningPublic
  ![⟨0, ownerKey initiator⟩, ⟨1, ownerKey responder⟩, ⟨2, default⟩,
    ⟨3, default⟩]

/-- Start a run of the configuration both players have confirmed. -/
def startDual
    (port : DualRuntimePort Core)
    (inputs : DualStartInputs)
    (core : Core)
    (controller : DualSessionController Core) :
    SessionResult × DualSessionController Core :=
  match controller.config.readStartRef controller.flags inputs with
  | .error refused => (refused, controller)
  | .ok expected =>
      let key : DualInputKey :=
        { sessionId := inputs.sessionId
          branchId := inputs.branchId
          timelineEpoch := expected.content.timelineEpoch
          seatRevision := 1 }
      if !dualInputKeyIsValid key then
        (.invalidArgument, controller)
      else
        match DualRunScheduler.begin_ port .dual expected.content key
            (ownersOf inputs) { core := core } with
        | (.ok, scheduler) =>
            (.ok,
              { controller with
                scheduler := some scheduler
                context := key
                content := expected.content
                owners := ownersOf inputs
                localSeat := if inputs.localIsInitiator then 0 else 1
                localSequence := 1
                batchSequence := 1
                lastDigest := {}
                connection := inputs.quicConnection
                localIsListener := inputs.localIsListener
                wantStream := true
                streamOpen := false
                wantRead := false
                flags := { localRuntimeReady := true }
                peerRuntimeReady := false
                freezeReason := .none })
        | (refused, _) => (refused, { controller with scheduler := none })

/-- Frame a bundle and queue it for the peer. -/
def queueFrame
    (bundle : DualInputBundle)
    (batchSequence : UInt64)
    (controller : DualSessionController Core) :
    SessionResult × DualSessionController Core :=
  match encodeDualInputBundle bundle
      { authorityTerm := 1
        modeGeneration := 1
        batchSequence := batchSequence } with
  | .error _ => (.contractViolation, controller)
  | .ok object =>
      match encodeAppFrame kCanonicalInputTag object kFramedInputBytes with
      | .error _ => (.contractViolation, controller)
      | .ok framed =>
          if framed.length ≠ kFramedInputBytes then
            (.contractViolation, controller)
          else
            (.ok, { controller with writeQueue := controller.writeQueue ++ [framed] })

/-- Take in the own samples for the next frame and queue them for the peer. -/
def queueLocalBundle
    (samples : DualPortInputArray)
    (scheduler : DualRunScheduler Core)
    (controller : DualSessionController Core) :
    SessionResult × DualSessionController Core :=
  match canonicalInputBuild
      { controller.context with frameIndex := scheduler.nextFrame }
      (UInt8.ofNat controller.localSeat)
      (controller.owners controller.localSeat).signingKeyId samples with
  | .error _ => (.invalidArgument, controller)
  | .ok bundle =>
      let (result, admission, scheduler) :=
        scheduler.acceptLocalInput samples (UInt8.ofNat controller.localSeat)
      let controller := { controller with scheduler := some scheduler }
      if result ≠ .ok ∧ result ≠ .accepted then
        (result, controller)
      else if admission ≠ .accepted ∧ admission ≠ .duplicate then
        (.invalidState, controller)
      else
        match checkedDualNextSequence controller.batchSequence with
        | none => (.invalidState, controller)
        | some next =>
            queueFrame bundle controller.batchSequence
              { controller with batchSequence := next }

/-- The samples of the beacon. -/
def beaconSamples : DualPortInputArray :=
  fun port => ⟨0, UInt64.ofNat port + 1⟩

/-- Tell the peer that the runtime is loaded, with an input of frame 0. -/
def queueRuntimeReadyBeacon
    (controller : DualSessionController Core) :
    SessionResult × DualSessionController Core :=
  if !controller.flags.localRuntimeReady || controller.flags.frozen ||
      controller.scheduler.isNone then
    (.invalidState, controller)
  else
    match canonicalInputBuild { controller.context with frameIndex := 0 }
        (UInt8.ofNat controller.localSeat)
        (controller.owners controller.localSeat).signingKeyId
        beaconSamples with
    | .error _ => (.invalidArgument, controller)
    | .ok bundle => controller.queueFrame bundle 1

/-- Run as soon as both runtimes are loaded. -/
def maybeEnterRunning
    (controller : DualSessionController Core) : DualSessionController Core :=
  if controller.flags.frozen || controller.flags.paused ||
      controller.flags.running || !controller.flags.localRuntimeReady ||
      !controller.peerRuntimeReady then
    controller
  else
    match controller.scheduler with
    | none => controller
    | some scheduler =>
        match scheduler.announceRunning with
        | (.ok, scheduler) =>
            { controller with
              scheduler := some scheduler
              flags := { controller.flags with running := true } }
        | (_, scheduler) => { controller with scheduler := some scheduler }

/-- Stop for good; the first reason is kept, but for one that gets worse. -/
def markFrozen
    (reason : DualFreezeReason)
    (controller : DualSessionController Core) : DualSessionController Core :=
  { controller with
    flags := { controller.flags with frozen := true, running := false }
    freezeReason :=
      if controller.freezeReason = .none ∨
          (reason = .transportTerminal ∧
            controller.freezeReason = .authenticatedActivityTimeout) then
        reason
      else
        controller.freezeReason }

/--
Step while the next frame has the samples of both players.  Each round leaves
the record of another frame behind, so a ring of rounds is as good as any number.
-/
def stepLoop
    (port : DualRuntimePort Core) :
    Nat → DualSessionController Core →
      SessionResult × DualSessionController Core
  | 0, controller => (.ok, controller)
  | fuel + 1, controller =>
      match controller.scheduler with
      | none => (.ok, controller)
      | some scheduler =>
          if scheduler.state = .running ∧
              scheduler.window.frameAllReal scheduler.nextFrame then
            match scheduler.stepNextFrame port with
            | (.ok, scheduler) =>
                stepLoop port fuel
                  { controller with
                    scheduler := some scheduler
                    lastDigest := scheduler.lastDigest }
            | (refused, scheduler) =>
                (refused,
                  markFrozen scheduler.freezeReason
                    { controller with scheduler := some scheduler })
          else
            (.ok, controller)

/-- A frozen scheduler freezes the controller. -/
def freezeWithScheduler
    (controller : DualSessionController Core) : DualSessionController Core :=
  match controller.scheduler with
  | none => controller
  | some scheduler =>
      if scheduler.state = .frozen then
        controller.markFrozen scheduler.freezeReason
      else
        controller

/-- Step as far as the samples of both players go. -/
def tryStep
    (port : DualRuntimePort Core)
    (controller : DualSessionController Core) :
    SessionResult × DualSessionController Core :=
  if controller.scheduler.isNone || controller.flags.frozen ||
      controller.flags.paused then
    (.ok, controller)
  else
    match controller.stepLoop port (kRingSlots + 1) with
    | (.ok, controller) => (.ok, controller.freezeWithScheduler)
    | refused => refused

/-- Step after a call that has succeeded. -/
def thenStep
    (port : DualRuntimePort Core) :
    SessionResult × DualSessionController Core →
      SessionResult × DualSessionController Core
  | (.ok, controller) => controller.tryStep port
  | refused => refused

/-- The mask a device's report has for a port. -/
def maskOf (input : SessionInput) (port : Port) : UInt32 :=
  normalizeDualPortMask
    (match input.portMask with
    | none => input.buttons
    | some masks => masks port)

/-- The samples of a report: only the own port has buttons. -/
def samplesOf
    (input : SessionInput)
    (localSeat : Port)
    (base : UInt64) : DualPortInputArray :=
  fun port =>
    ⟨if port = localSeat then maskOf input localSeat else 0,
      base + UInt64.ofNat port⟩

/-- The own player's input for the next frame. -/
def submitLocal
    (port : DualRuntimePort Core)
    (input : SessionInput)
    (controller : DualSessionController Core) :
    SessionResult × DualSessionController Core :=
  if !controller.flags.running || controller.flags.frozen ||
      controller.flags.paused then
    (.invalidState, controller)
  else
    match controller.scheduler with
    | none => (.invalidState, controller)
    | some scheduler =>
        if input.expectedSeatRevision ≠ controller.context.seatRevision then
          (.stale, controller)
        else
          let base := controller.localSequence
          if base = 0 ∨ base.toNat > 2 ^ 64 - 1 - 4 then
            (.invalidState, controller)
          else
            thenStep port
              (queueLocalBundle (samplesOf input controller.localSeat base)
                scheduler { controller with localSequence := base + 4 })

/-- Stop stepping for good; there is no way back. -/
def pause
    (controller : DualSessionController Core) :
    SessionResult × DualSessionController Core :=
  if !controller.flags.running || controller.flags.frozen then
    (.invalidState, controller)
  else
    match controller.scheduler with
    | none => (.invalidState, controller)
    | some scheduler =>
        match scheduler.pause 1 with
        | (.ok, scheduler) =>
            (.ok,
              { controller with
                scheduler := some scheduler
                flags := { controller.flags with paused := true }
                freezeReason := .paused })
        | (refused, scheduler) =>
            (refused, { controller with scheduler := some scheduler })

/-- The next effect to hand to a provider. -/
def pollEffect
    (controller : DualSessionController Core) :
    Option Effect × DualSessionController Core :=
  if controller.flags.frozen then
    (none, controller)
  else if controller.catalogStarted && !controller.config.catalogComplete &&
      !controller.catalogQueryOutstanding then
    (some (.queryContent controller.catalogIndex),
      { controller with catalogQueryOutstanding := true })
  else if controller.wantStream && !controller.streamOpen &&
      !controller.openOutstanding && controller.connection ≠ 0 then
    (some (.openStream controller.localIsListener
        (!controller.localIsListener) controller.connection),
      { controller with openOutstanding := true })
  else if controller.streamOpen && !controller.writeOutstanding &&
      !controller.writeQueue.isEmpty then
    (some (.write controller.sendStream (controller.writeQueue.headD [])),
      { controller with writeOutstanding := true })
  else if controller.streamOpen && controller.wantRead &&
      !controller.readOutstanding && controller.receiveStream ≠ 0 then
    (some (.grantRead controller.receiveStream kStateCommitReadCredit),
      { controller with readOutstanding := true })
  else
    (none, controller)

/-- A bundle of the peer: the first one is its beacon. -/
def takeRemote
    (port : DualRuntimePort Core)
    (bundle : DualInputBundle)
    (controller : DualSessionController Core) :
    SessionResult × DualSessionController Core :=
  if !controller.flags.running then
    if !controller.flags.localRuntimeReady || controller.flags.frozen then
      (.invalidState, controller)
    else
      (.ok, maybeEnterRunning { controller with peerRuntimeReady := true })
  else
    match controller.scheduler with
    | none => (.invalidState, controller)
    | some scheduler =>
        let (result, admission, scheduler) := scheduler.acceptRemoteInput bundle
        let controller := { controller with scheduler := some scheduler }
        if result ≠ .ok ∧ result ≠ .accepted ∧ admission ≠ .duplicate then
          (result, controller)
        else
          controller.tryStep port

/-- The peer's seat. -/
def peerSeat (controller : DualSessionController Core) : Port :=
  1 - controller.localSeat

/-- Take in the whole frames that have been read; each one is consumed. -/
def ingestLoop
    (port : DualRuntimePort Core) :
    Nat → DualSessionController Core →
      SessionResult × DualSessionController Core
  | 0, controller => (.ok, controller)
  | fuel + 1, controller =>
      match nextAppFrame
          { channel := .stateCommit, bytes := controller.readAccumulator } with
      | .error .truncated => (.ok, controller)
      | .ok none => (.ok, controller)
      | .error _ => (.protocolViolation, controller)
      | .ok (some (frame, cursor)) =>
          if frame.frameTypeTag ≠ kCanonicalInputTag then
            (.protocolViolation, controller)
          else
            match decodeDualInputBundle frame.objectBytes
                (UInt8.ofNat controller.peerSeat)
                (controller.owners controller.peerSeat).signingKeyId with
            | .error _ => (.protocolViolation, controller)
            | .ok bundle =>
                let controller :=
                  { controller with
                    readAccumulator :=
                      controller.readAccumulator.drop cursor.offset }
                if bundle.key.sessionId ≠ controller.context.sessionId ∨
                    bundle.key.branchId ≠ controller.context.branchId ∨
                    bundle.key.timelineEpoch ≠
                      controller.context.timelineEpoch ∨
                    bundle.key.seatRevision ≠
                      controller.context.seatRevision then
                  (.stale, controller)
                else
                  match controller.takeRemote port bundle with
                  | (.ok, controller) =>
                      ingestLoop port fuel controller
                  | refused => refused

/-- Take in bytes of the peer; every frame is longer than one byte. -/
def ingestRemoteBytes
    (port : DualRuntimePort Core)
    (bytes : Bytes)
    (controller : DualSessionController Core) :
    SessionResult × DualSessionController Core :=
  let controller :=
    { controller with readAccumulator := controller.readAccumulator ++ bytes }
  if controller.readAccumulator.length > 2 * kFramedInputBytes then
    (.protocolViolation, controller)
  else
    controller.ingestLoop port
      (controller.readAccumulator.length + 1)

/-- Take in one game of the catalog. -/
def onContentChoice
    (choice : Except SessionResult GameChoice)
    (controller : DualSessionController Core) :
    SessionResult × DualSessionController Core :=
  let controller := { controller with catalogQueryOutstanding := false }
  match choice with
  | .error refused => (refused, controller)
  | .ok choice =>
      (.ok,
        { controller with
          config :=
            { controller.config with
              choices := controller.config.choices ++ [choice] }
          catalogIndex := controller.catalogIndex + 1 })

/-- Take in the completion of an effect. -/
def complete
    (port : DualRuntimePort Core)
    (completion : Completion)
    (controller : DualSessionController Core) :
    SessionResult × DualSessionController Core :=
  match completion with
  | .queryContent result choice =>
      if result ≠ .ok then
        (result, controller)
      else
        controller.onContentChoice choice
  | .openStream result resource value0 =>
      let controller := { controller with openOutstanding := false }
      if result ≠ .ok then
        (result, controller)
      else if resource = 0 ∨ value0 = 0 then
        (.contractViolation, controller)
      else
        let controller :=
          { controller with
            sendStream := resource
            receiveStream := value0
            streamOpen := true }
        if controller.flags.frozen || !controller.flags.localRuntimeReady then
          (.invalidState, controller)
        else
          controller.queueRuntimeReadyBeacon
  | .write result =>
      let controller := { controller with writeOutstanding := false }
      if result ≠ .ok then
        (result, controller)
      else
        (.ok,
          { controller with
            writeQueue := controller.writeQueue.tail
            wantRead := true })
  | .grantRead result received =>
      let controller :=
        { controller with readOutstanding := false, wantRead := false }
      if result ≠ .ok then
        (result, controller)
      else
        match received with
        | .error refused => (refused, controller)
        | .ok bytes => controller.ingestRemoteBytes port bytes

end DualSessionController

end FlyNes.Dual
