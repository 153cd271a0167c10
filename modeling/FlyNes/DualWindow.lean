import FlyNes.DualInput

namespace FlyNes.Dual

/-!
# The dual input window

A ring of twenty slots holds the samples of the frames in flight.  The runtime
steps the frame at the step frontier; the commit frontier is the first frame
that has not been stepped with all its samples in.  A slot is found by its frame
modulo the ring size, and a slot whose frame differs is reused unseen.
-/

/-- A set of ports; the source keeps it in the low four bits of a word. -/
abbrev PortSet := Port → Bool

namespace PortSet

/-- No port. -/
def none : PortSet := fun _ => false

/-- Add one port. -/
def add (ports : PortSet) (port : Port) : PortSet :=
  Function.update ports port true

/-- Remove one port. -/
def remove (ports : PortSet) (port : Port) : PortSet :=
  Function.update ports port false

/-- All ports of one set are in the other. -/
def Within (first second : PortSet) : Prop :=
  ∀ port, first port = true → second port = true

instance (first second : PortSet) : Decidable (Within first second) :=
  inferInstanceAs (Decidable (∀ _, _))

/-- The word that has the bits of the ports. -/
def toMask (ports : PortSet) : UInt32 :=
  (if ports 0 then 1 else 0) ||| (if ports 1 then 2 else 0) |||
    (if ports 2 then 4 else 0) ||| (if ports 3 then 8 else 0)

/-- The bit of a port in a word. -/
def has (mask : UInt32) (port : Port) : Bool :=
  mask &&& (1 <<< UInt32.ofNat port) ≠ 0

theorem has_toMask
    (ports : PortSet)
    (port : Port) :
    has ports.toMask port = ports port := by
  revert ports port
  decide

theorem toMask_none : PortSet.none.toMask = 0 := by
  decide

end PortSet

/-- Number of slots of the ring. -/
abbrev kRingSlots : Nat := 20

/-- What the window answers. -/
inductive DualWindowStatus where
  | ok
  | duplicate
  | accepted
  | frozen
  | rejectedWindowExceeded
  | rejectedCommittedHistory
  | rejectedWrongOwner
  | rejectedStaleRevision
  | rejectedOtherBranch
  | rejectedOtherTimeline
  | rejectedInvalid
deriving DecidableEq

/-- Why a run is frozen. -/
inductive DualFreezeReason where
  | none
  | inputWindowExceeded
  | predictionDepthExceeded
  | committedHistoryRewrite
  | digestMismatch
  | authenticatedActivityTimeout
  | transportTerminal
  | paused
  | shutdown
  | seatOrAuthorityChanged
deriving DecidableEq

/-- The samples of one frame in flight. -/
structure FrameRecord where
  used : Bool := false
  planned : Bool := false
  frameIndex : UInt64 := 0
  plannedPredictedMask : PortSet := PortSet.none
  realPortMask : PortSet := PortSet.none
  provided : PortSet := PortSet.none
  keys : Port → DualInputKey := fun _ => {}
  ownerKeys : Port → KeyId := fun _ => default
  masks : Port → UInt32 := fun _ => 0
  sequences : Port → UInt64 := fun _ => 0
deriving DecidableEq

/-- One port of a planned frame. -/
structure DualWindowPortPlan where
  port : Port := 0
  sample : DualPortSample := {}
  ownerSigningKeyId : KeyId := default
  real : Bool := false
deriving DecidableEq

/-- A frame as it is handed to the runtime. -/
structure DualWindowPlan where
  status : DualWindowStatus := .ok
  freeze : DualFreezeReason := .none
  frameIndex : UInt64 := 0
  key : DualInputKey := {}
  bundle : DualInputBundle := {}
  ports : Port → DualWindowPortPlan := fun _ => {}
  predictedPortMask : PortSet := PortSet.none
  predictionDepth : UInt64 := 0
  plannedFrontier : UInt64 := 0
deriving DecidableEq

/-- The window of one engine. -/
structure DualInputWindow where
  ring : Fin kRingSlots → FrameRecord := fun _ => {}
  context : DualInputKey := {}
  owners : Port → DualOwnerKey := fun _ => {}
  lastCompleteMask : Port → UInt32 := fun _ => 0
  lastCompleteSequence : Port → UInt64 := fun _ => 0
  ownedPortMask : PortSet := PortSet.none
  stepFrontier : UInt64 := 0
  commitFrontier : UInt64 := 0
  materializedThrough : UInt64 := 0
  minAcceptRevision : UInt64 := 0
  bound : Bool := false
deriving DecidableEq

/-- The slot of a frame. -/
def slotOf (frameIndex : UInt64) : Fin kRingSlots :=
  ⟨frameIndex.toNat % kRingSlots, Nat.mod_lt _ (by decide)⟩

namespace DualInputWindow

/-- Every seat has exactly one port. -/
def seatsDistinct (owners : Port → DualOwnerKey) : Bool :=
  (∀ port, (owners port).seat.toNat < kDualPortCount) ∧
    ∀ first second,
      (owners first).seat = (owners second).seat → first = second

/-- Bind the window to a session; a refusal changes nothing. -/
def begin_
    (context : DualInputKey)
    (owners : Port → DualOwnerKey)
    (window : DualInputWindow) : DualWindowStatus × DualInputWindow :=
  if !dualInputKeyIsValid context then
    (.rejectedInvalid, window)
  else if !seatsDistinct owners then
    (.rejectedInvalid, window)
  else
    (.ok,
      { context := context
        owners := owners
        ownedPortMask := fun port => !allZero (owners port).signingKeyId
        minAcceptRevision := context.seatRevision
        bound := true })

/-- The record of a frame, when the ring still holds it. -/
def findRecord
    (window : DualInputWindow)
    (frameIndex : UInt64) : Option FrameRecord :=
  let slot := window.ring (slotOf frameIndex)
  if !slot.used || slot.frameIndex ≠ frameIndex then none else some slot

/-- Write the record of a frame into its slot. -/
def store
    (window : DualInputWindow)
    (record : FrameRecord) : DualInputWindow :=
  { window with
    ring := Function.update window.ring (slotOf record.frameIndex) record }

/-- The record of a frame, or the fresh one that takes over its slot. -/
def ensureRecord
    (window : DualInputWindow)
    (frameIndex : UInt64) : FrameRecord :=
  (window.findRecord frameIndex).getD
    { used := true, frameIndex := frameIndex }

/-- Every owned port of a frame has its own sample. -/
def frameAllReal (window : DualInputWindow) (frameIndex : UInt64) : Bool :=
  match window.findRecord frameIndex with
  | none => false
  | some record =>
      window.ownedPortMask ≠ PortSet.none ∧
        PortSet.Within window.ownedPortMask record.realPortMask

/-- Every owned port of a frame has a sample or was predicted. -/
def frameIsReal (window : DualInputWindow) (frameIndex : UInt64) : Bool :=
  match window.findRecord frameIndex with
  | none => false
  | some record =>
      window.ownedPortMask ≠ PortSet.none ∧
        PortSet.Within window.ownedPortMask fun port =>
          record.realPortMask port || record.plannedPredictedMask port

/-- The record lets the commit frontier pass over its frame. -/
def Committable (window : DualInputWindow) (record : FrameRecord) : Prop :=
  record.planned = true ∧
    PortSet.Within window.ownedPortMask record.realPortMask

instance (window : DualInputWindow) (record : FrameRecord) :
    Decidable (window.Committable record) :=
  inferInstanceAs (Decidable (_ ∧ _))

/-- Pass over one frame and remember its samples as the last complete ones. -/
def commitRecord
    (record : FrameRecord)
    (window : DualInputWindow) : DualInputWindow :=
  { window with
    lastCompleteMask := fun port =>
      if window.ownedPortMask port then
        record.masks port
      else
        window.lastCompleteMask port
    lastCompleteSequence := fun port =>
      if window.ownedPortMask port then
        record.sequences port
      else
        window.lastCompleteSequence port
    commitFrontier := window.commitFrontier + 1 }

/--
Move the commit frontier as far as it goes.  Each round needs the record of
another frame, so twenty rounds are as good as any number.
-/
def advanceLoop : Nat → DualInputWindow → DualInputWindow
  | 0, window => window
  | fuel + 1, window =>
      match window.findRecord window.commitFrontier with
      | none => window
      | some record =>
          if window.Committable record then
            advanceLoop fuel (window.commitRecord record)
          else
            window

def advanceCommitFrontier (window : DualInputWindow) : DualInputWindow :=
  advanceLoop kRingSlots window

/-- The port of a seat, when someone owns it. -/
def ownedSeat
    (window : DualInputWindow)
    (logicalSeat : UInt8) : Option Port :=
  (List.finRange kDualPortCount).find? fun port =>
    (window.owners port).seat = logicalSeat

/-- The record of a frame with the sample of one port. -/
def provide
    (bundle : DualInputBundle)
    (port : Port)
    (record : FrameRecord) : FrameRecord :=
  { record with
    keys := Function.update record.keys port bundle.key
    ownerKeys := Function.update record.ownerKeys port bundle.ownerSigningKeyId
    masks := Function.update record.masks port (bundle.ports port).mask
    sequences := Function.update record.sequences port
      (bundle.ports port).inputSequence
    provided := record.provided.add port
    realPortMask := record.realPortMask.add port
    plannedPredictedMask := record.plannedPredictedMask.remove port }

/-- The port already has this very sample. -/
def Repeats
    (bundle : DualInputBundle)
    (port : Port)
    (record : FrameRecord) : Prop :=
  record.ownerKeys port = bundle.ownerSigningKeyId ∧
    record.masks port = (bundle.ports port).mask ∧
    record.sequences port = (bundle.ports port).inputSequence

instance (bundle : DualInputBundle) (port : Port) (record : FrameRecord) :
    Decidable (Repeats bundle port record) :=
  inferInstanceAs (Decidable (_ ∧ _ ∧ _))

/-- Take in one sample whose sender has been checked. -/
def admitSample
    (bundle : DualInputBundle)
    (port : Port)
    (window : DualInputWindow) : DualWindowStatus × DualInputWindow :=
  let frameIndex := bundle.key.frameIndex
  match (window.findRecord frameIndex).filter (·.provided port) with
  | some record =>
      if Repeats bundle port record then
        (.duplicate, window)
      else
        (.rejectedCommittedHistory, window)
  | none =>
      if frameIndex < window.commitFrontier then
        (.rejectedCommittedHistory, window)
      else if frameIndex > window.stepFrontier + kDualGuestLeadFrames then
        (.rejectedWindowExceeded, window)
      else
        let stored :=
          window.store (provide bundle port (window.ensureRecord frameIndex))
        let raised : DualInputWindow :=
          { stored with
            minAcceptRevision :=
              if bundle.key.seatRevision > stored.minAcceptRevision then
                bundle.key.seatRevision
              else
                stored.minAcceptRevision }
        (.accepted, raised.advanceCommitFrontier)

/-- Take in the sample a seat's owner has signed for one frame. -/
def deliverInput
    (bundle : DualInputBundle)
    (window : DualInputWindow) : DualWindowStatus × DualInputWindow :=
  if !window.bound then
    (.rejectedInvalid, window)
  else if !canonicalInputIsCanonical bundle then
    (.rejectedInvalid, window)
  else if bundle.key.sessionId ≠ window.context.sessionId then
    (.rejectedInvalid, window)
  else if bundle.key.branchId ≠ window.context.branchId then
    (.rejectedOtherBranch, window)
  else if bundle.key.timelineEpoch ≠ window.context.timelineEpoch then
    (.rejectedOtherTimeline, window)
  else if bundle.key.seatRevision < window.minAcceptRevision then
    (.rejectedStaleRevision, window)
  else
    match window.ownedSeat bundle.logicalSeat with
    | none => (.rejectedWrongOwner, window)
    | some port =>
        if allZero (window.owners port).signingKeyId then
          (.rejectedWrongOwner, window)
        else if (window.owners port).signingKeyId ≠
            bundle.ownerSigningKeyId then
          (.rejectedWrongOwner, window)
        else
          window.admitSample bundle port

/-- The bundle this engine's own samples make for the next frame. -/
def localBundle
    (samples : DualPortInputArray)
    (logicalSeat : UInt8)
    (window : DualInputWindow) : Except DualWindowStatus DualInputBundle :=
  if !window.bound then
    .error .rejectedInvalid
  else
    match window.ownedSeat logicalSeat with
    | none => .error .rejectedWrongOwner
    | some port =>
        if allZero (window.owners port).signingKeyId then
          .error .rejectedWrongOwner
        else
          match canonicalInputBuild
              { window.context with frameIndex := window.stepFrontier }
              logicalSeat (window.owners port).signingKeyId samples with
          | .error _ => .error .rejectedInvalid
          | .ok bundle => .ok bundle

/-- Take in this engine's own samples for the next frame. -/
def deliverLocalInput
    (samples : DualPortInputArray)
    (logicalSeat : UInt8)
    (window : DualInputWindow) : DualWindowStatus × DualInputWindow :=
  match window.localBundle samples logicalSeat with
  | .error status => (status, window)
  | .ok bundle => window.deliverInput bundle

/-- Numbers that are not larger than their predecessor are raised above it. -/
def raise (previous sequence : UInt64) : UInt64 :=
  if sequence ≤ previous then previous + 1 else sequence

/-- The sample numbers of a planned frame. -/
def raisedSequences (sequence : Port → UInt64) : Port → UInt64 :=
  let first := raise 0 (sequence 0)
  let second := raise first (sequence 1)
  let third := raise second (sequence 2)
  ![first, second, third, raise third (sequence 3)]

/-- The sample of a port: its owner's, or a prediction from the last one. -/
def effectiveSample
    (window : DualInputWindow)
    (record : FrameRecord)
    (port : Port) : DualPortSample :=
  if record.provided port then
    ⟨record.masks port, record.sequences port⟩
  else
    ⟨window.lastCompleteMask port,
      if window.lastCompleteSequence port = 0 then
        1
      else
        window.lastCompleteSequence port⟩

/-- The seat revision of a planned frame: that of its last real sample. -/
def plannedRevision (window : DualInputWindow) (record : FrameRecord) : UInt64 :=
  (List.finRange kDualPortCount).foldl
    (fun revision port =>
      if record.provided port then
        (record.keys port).seatRevision
      else
        revision) window.context.seatRevision

/-- The plan of one frame from its record. -/
def planRecord
    (window : DualInputWindow)
    (frame distance : UInt64)
    (record : FrameRecord) : DualWindowPlan :=
  let key : DualInputKey :=
    { window.context with
      frameIndex := frame
      seatRevision := window.plannedRevision record }
  let sample := window.effectiveSample record
  let sequences := raisedSequences fun port => (sample port).inputSequence
  let predicted : PortSet := fun port =>
    !record.provided port && window.ownedPortMask port
  let samples : Port → DualPortSample := fun port =>
    ⟨(sample port).mask, sequences port⟩
  { status := .ok
    frameIndex := frame
    key := key
    bundle :=
      { key := key
        predictedPortMask := predicted.toMask
        ports := samples
        ownerSigningKeyId := (window.owners 0).signingKeyId }
    ports := fun port =>
      { port := port
        sample := samples port
        ownerSigningKeyId :=
          if record.provided port then
            record.ownerKeys port
          else
            (window.owners port).signingKeyId
        real := record.provided port }
    predictedPortMask := predicted
    predictionDepth := distance
    plannedFrontier := window.stepFrontier }

/-- A plan that was not made because the runtime is too far ahead. -/
def frozenPlan
    (window : DualInputWindow)
    (freeze : DualFreezeReason)
    (frame distance : UInt64) : DualWindowPlan :=
  { status := .frozen
    freeze := freeze
    frameIndex := frame
    predictionDepth := distance
    plannedFrontier := window.stepFrontier }

/-- Plan the next frame; its record takes over its slot. -/
def planNext (window : DualInputWindow) : DualWindowPlan × DualInputWindow :=
  if !window.bound then
    ({ status := .rejectedInvalid }, window)
  else
    let frame :=
      if window.stepFrontier < window.commitFrontier then
        window.commitFrontier
      else
        window.stepFrontier
    let distance :=
      if frame > window.commitFrontier then
        frame - window.commitFrontier
      else
        0
    if distance ≥ kDualMaxRollbackFrames then
      (window.frozenPlan .inputWindowExceeded frame distance, window)
    else if distance ≥ kDualPredictionFreezeDepth then
      (window.frozenPlan .predictionDepthExceeded frame distance, window)
    else
      let record := window.ensureRecord frame
      let stored := window.store record
      (window.planRecord frame distance record,
        { stored with
          materializedThrough :=
            if frame + 1 > stored.materializedThrough then
              frame + 1
            else
              stored.materializedThrough })

/-- Record that the runtime has executed a frame. -/
def markPlanned
    (frameIndex : UInt64)
    (predictedPortMask : PortSet)
    (window : DualInputWindow) : DualWindowStatus × DualInputWindow :=
  if !window.bound then
    (.rejectedInvalid, window)
  else if frameIndex ≥ window.materializedThrough then
    (.rejectedWindowExceeded, window)
  else
    match window.findRecord frameIndex with
    | none => (.rejectedWindowExceeded, window)
    | some record =>
        let marked :=
          window.store
            { record with
              planned := true
              plannedPredictedMask := fun port =>
                predictedPortMask port && !record.realPortMask port }
        (.ok,
          advanceCommitFrontier
            { marked with stepFrontier := frameIndex + 1 })

end DualInputWindow

end FlyNes.Dual
