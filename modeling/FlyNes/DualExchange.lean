import FlyNes.DualDevice

namespace FlyNes.Dual

open ByteString
open FlyNes.Wire

/-!
# What a device sends and takes in

The frames a device queues are its beacon and one bundle for every frame.  The
peer takes them in one after another, however the bytes were split: a part of a
frame waits in the accumulator for the rest.
-/

/-- A bundle as it goes over the wire. -/
def frameOf (bundle : DualInputBundle) (batch : Nat) : Bytes :=
  recordBytes kCanonicalInputTag
    (inputRecord bundle
      { authorityTerm := 1
        modeGeneration := 1
        batchSequence := UInt64.ofNat batch })

/-- All frames a device has queued: its beacon and its bundles. -/
def framesOf
    (beacon : Option DualInputBundle)
    (bundles : List DualInputBundle) : List Bytes :=
  match beacon with
  | none => []
  | some bundle =>
      frameOf bundle 1 :: bundles.mapIdx fun index bundle =>
        frameOf bundle (index + 1)

@[simp]
theorem length_frameOf
    (bundle : DualInputBundle)
    (batch : Nat) :
    (frameOf bundle batch).length = 160 := by
  simp [frameOf]

theorem framesOf_append
    (beacon : DualInputBundle)
    (bundles : List DualInputBundle)
    (bundle : DualInputBundle) :
    framesOf (some beacon) (bundles ++ [bundle]) =
      framesOf (some beacon) bundles ++
        [frameOf bundle (bundles.length + 1)] := by
  simp [framesOf, List.mapIdx_append]

section Frames

/-! ### Frames of canonical inputs -/

variable {body : Bytes}

theorem frameTagInfo_input :
    frameTagInfo kCanonicalInputTag =
      some ⟨kCanonicalInputTag, .message, "CanonicalInputBundleV1"⟩ := by
  decide

theorem encodeAppFrame_input
    (sized : body.length = 154) :
    encodeAppFrame kCanonicalInputTag body kFramedInputBytes =
      .ok (recordBytes kCanonicalInputTag body) := by
  refine encodeAppFrame_eq_ok frameTagInfo_input ?_ ?_
  · rw [sized]
    decide
  · rw [sized]

/-- The first of several frames is read back. -/
theorem nextAppFrame_input
    (sized : body.length = 154)
    (checked : checkBundle body = .ok)
    (rest : Bytes) :
    ∃ frame,
      nextAppFrame
          { channel := .stateCommit, bytes := recordBytes kCanonicalInputTag body ++ rest } =
        .ok (some (frame,
          { channel := .stateCommit
            bytes := recordBytes kCanonicalInputTag body ++ rest
            offset := 160 })) ∧
        frame.frameTypeTag = kCanonicalInputTag ∧ frame.objectBytes = body := by
  obtain ⟨hash, passed⟩ : ∃ hash, check "CanonicalInputBundleV1" body = .ok hash := by
    rw [check, if_neg (by decide), if_neg (by decide), if_pos rfl, checkInputBundle, checked]
    exact ⟨_, rfl⟩
  obtain ⟨frame, classified, tag, object⟩ :=
    @classifyRecord_eq_ok (some .stateCommit) _ body _ _ frameTagInfo_input
      (by decide) passed
  refine ⟨frame, ?_, tag, object⟩
  have decoded :=
    @decodeRecord_recordBytes (some .stateCommit) kCanonicalInputTag body (by decide)
      (by rw [sized]; decide) rest
  rw [classified] at decoded
  have long :
      (recordBytes kCanonicalInputTag body ++ rest).length = 160 + rest.length := by
    simp [sized]
  simp only [nextAppFrame, long]
  rw [if_neg (by omega), if_neg (by omega), List.drop_zero, decoded]
  simp [Except.map, sized]

/-- A part of a frame is not read yet. -/
theorem nextAppFrame_part
    {count : Nat}
    (sized : body.length = 154)
    (part : count < 160) :
    nextAppFrame
        { channel := .stateCommit, bytes := (recordBytes kCanonicalInputTag body).take count } =
      if count = 0 then .ok none else .error .truncated := by
  have long : ((recordBytes kCanonicalInputTag body).take count).length = count := by
    simp [sized]
    omega
  simp only [nextAppFrame, long, List.drop_zero]
  rw [if_neg (by omega)]
  by_cases empty : count = 0
  · rw [if_pos empty.symm, if_pos empty]
  rw [if_neg (Ne.symm empty), if_neg empty]
  unfold decodeRecord
  rw [long]
  by_cases short : count < 4
  · rw [if_pos short]
  have declared :
      loadAt 4 0 ((recordBytes kCanonicalInputTag body).take count) = 156 := by
    have whole :=
      @loadAt_recordBytes_length kCanonicalInputTag body (by rw [sized]; decide) []
    rw [List.append_nil, sized] at whole
    rw [loadAt, List.drop_zero, List.take_take, Nat.min_eq_left (by omega)]
    exact whole
  rw [declared]
  dsimp only
  rw [if_neg short, if_neg (by decide), if_neg (by decide), if_pos (by omega)]

variable {context : DualInputKey}
variable {keys : Side → KeyId}
variable {side : Side}
variable {frame : Nat}
variable {bundle : DualInputBundle}

/-- The context of a frame states nothing about the ports. -/
theorem Sample.agrees
    (sample : Sample context keys side frame bundle)
    (batch : UInt64)
    (port : Port) :
    ¬ DualInputWireContext.Contradicts
      { authorityTerm := 1, modeGeneration := 1, batchSequence := batch }
      bundle port := by
  have marker : PortSet.has bundle.predictedPortMask port = false := by
    rw [sample.real, ← PortSet.toMask_none, PortSet.has_toMask]
    rfl
  simp [DualInputWireContext.Contradicts, DualInputWireContext.source, marker]

/-- A sample is encoded as its frame. -/
theorem Sample.encode
    (sample : Sample context keys side frame bundle)
    {batch : UInt64}
    (positive : batch ≠ 0) :
    encodeDualInputBundle bundle
        { authorityTerm := 1, modeGeneration := 1, batchSequence := batch } =
      .ok (inputRecord bundle
        { authorityTerm := 1, modeGeneration := 1, batchSequence := batch }) := by
  have one : (1 : UInt64) ≠ 0 := by
    decide
  exact encodeDualInputBundle_of_canonical sample.canonical one one positive
    (sample.agrees batch)

/-- The record of a sample is decoded under its sender's seat. -/
theorem Sample.decode
    (sample : Sample context keys side frame bundle)
    (batch : UInt64) :
    decodeDualInputBundle
        (inputRecord bundle
          { authorityTerm := 1, modeGeneration := 1, batchSequence := batch })
        (UInt8.ofNat side.seat) (keys side) = .ok bundle := by
  rw [← sample.seat, ← sample.owner]
  exact decodeDualInputBundle_inputRecord sample.canonical
    (sample.agrees batch) (sample.real.trans PortSet.toMask_none.symm)

/-- The sender of a sample has a key. -/
theorem Sample.keyed
    (sample : Sample context keys side frame bundle) :
    allZero (keys side) = false := by
  have canonical := sample.canonical
  simp only [canonicalInputIsCanonical, Bool.and_eq_true] at canonical
  rw [← sample.owner]
  simpa using canonical.1.1.1.1.2

end Frames

namespace DualSessionController

variable {Core : Type}
variable {context : DualInputKey}
variable {keys : Side → KeyId}
variable {controller : DualSessionController Core}

/-- What a device was started with. -/
structure Bound
    (context : DualInputKey)
    (keys : Side → KeyId)
    (side : Side)
    (controller : DualSessionController Core) : Prop where
  binding : controller.context = context
  owners : controller.owners = seating keys
  seat : controller.localSeat = side.seat

variable {side : Side}

theorem Bound.peerSeat
    (bound : controller.Bound context keys side) :
    controller.peerSeat = side.other.seat := by
  rw [DualSessionController.peerSeat, bound.seat]
  cases side <;> rfl

variable {bundle : DualInputBundle}

/-- A whole frame of the peer is taken in. -/
theorem ingestLoop_frame
    {frame batch : Nat}
    {rest : Bytes}
    (port : DualRuntimePort Core)
    (fuel : Nat)
    (bound : controller.Bound context keys side)
    (sample : Sample context keys side.other frame bundle)
    (whole : controller.readAccumulator = frameOf bundle batch ++ rest)
    {result : SessionResult}
    {after : DualSessionController Core}
    (taken : takeRemote port bundle
      { controller with readAccumulator := rest } = (result, after)) :
    controller.ingestLoop port (fuel + 1) =
      if result = .ok then
        after.ingestLoop port fuel
      else
        (result, after) := by
  obtain ⟨read, next, tag, object⟩ :=
    nextAppFrame_input (length_inputRecord bundle
        { authorityTerm := 1
          modeGeneration := 1
          batchSequence := UInt64.ofNat batch })
      (checkBundle_inputRecord sample.canonical) rest
  have owner : (controller.owners side.other.seat).signingKeyId =
      keys side.other := by
    rw [bound.owners, seating_seat]
  have remaining : controller.readAccumulator.drop 160 = rest := by
    rw [whole, List.drop_left' (length_frameOf bundle batch)]
  have key : ¬ (bundle.key.sessionId ≠ controller.context.sessionId ∨
      bundle.key.branchId ≠ controller.context.branchId ∨
      bundle.key.timelineEpoch ≠ controller.context.timelineEpoch ∨
      bundle.key.seatRevision ≠ controller.context.seatRevision) := by
    rw [sample.key, bound.binding]
    simp
  change nextAppFrame { channel := .stateCommit, bytes := frameOf bundle batch ++ rest } =
    _ at next
  rw [← whole] at next
  simp only [ingestLoop, next, tag, object, bound.peerSeat, owner, sample.decode, remaining,
    key, ne_eq, not_true_eq_false, if_false, taken]
  cases result <;> rfl

/-- A part of a frame is left in the accumulator. -/
theorem ingestLoop_part
    {batch count : Nat}
    (port : DualRuntimePort Core)
    (fuel : Nat)
    (part : controller.readAccumulator = (frameOf bundle batch).take count)
    (short : count < 160) :
    controller.ingestLoop port fuel = (.ok, controller) := by
  cases fuel with
  | zero => rfl
  | succ fuel =>
      have next :
          nextAppFrame
              { channel := .stateCommit, bytes := controller.readAccumulator } =
            if count = 0 then .ok none else .error .truncated := by
        rw [part]
        exact nextAppFrame_part (length_inputRecord _ _) short
      rw [ingestLoop, next]
      by_cases empty : count = 0 <;> simp [empty]

/-- Where the scheduler of a device stands. -/
def simState (controller : DualSessionController Core) : DualSimState :=
  match controller.scheduler with
  | none => .unloaded
  | some scheduler => scheduler.state

/-- The streams of a device are as before, but for what it has read. -/
structure SameLink (before after : DualSessionController Core) : Prop where
  writeQueue : after.writeQueue = before.writeQueue
  streamOpen : after.streamOpen = before.streamOpen
  openOutstanding : after.openOutstanding = before.openOutstanding
  writeOutstanding : after.writeOutstanding = before.writeOutstanding
  readOutstanding : after.readOutstanding = before.readOutstanding
  wantRead : after.wantRead = before.wantRead
  receiveStream : after.receiveStream = before.receiveStream

theorem SameLink.refl
    (controller : DualSessionController Core) :
    SameLink controller controller :=
  ⟨rfl, rfl, rfl, rfl, rfl, rfl, rfl⟩

theorem SameLink.trans
    {before between after : DualSessionController Core}
    (first : SameLink before between)
    (second : SameLink between after) :
    SameLink before after :=
  ⟨second.writeQueue.trans first.writeQueue,
    second.streamOpen.trans first.streamOpen,
    second.openOutstanding.trans first.openOutstanding,
    second.writeOutstanding.trans first.writeOutstanding,
    second.readOutstanding.trans first.readOutstanding,
    second.wantRead.trans first.wantRead,
    second.receiveStream.trans first.receiveStream⟩

end DualSessionController

/-- How many bundles of each device a window has taken in. -/
def received
    (sent : Side → List DualInputBundle)
    (side : Side)
    (remote : Nat) : Side → Nat :=
  Function.update (fun _ => remote) side (sent side).length

@[simp]
theorem received_self
    (sent : Side → List DualInputBundle)
    (side : Side)
    (remote : Nat) :
    received sent side remote side = (sent side).length := by
  simp [received]

@[simp]
theorem received_other
    (sent : Side → List DualInputBundle)
    (side : Side)
    (remote : Nat) :
    received sent side remote side.other = remote := by
  simp [received, side.other_ne]

theorem received_succ
    (sent : Side → List DualInputBundle)
    (side : Side)
    (remote : Nat) :
    Function.update (received sent side remote) side.other (remote + 1) =
      received sent side (remote + 1) := by
  funext sender
  obtain rfl | rfl := sender.eq_or_other side
  · rw [Function.update_of_ne (Side.other_ne sender).symm, received_self,
      received_self]
  · rw [Function.update_self, received_other]

/-- What holds for both devices holds for every device. -/
theorem Side.forall_iff
    {Holds : Side → Prop}
    (side : Side) :
    (∀ sender, Holds sender) ↔ Holds side ∧ Holds side.other := by
  constructor
  · exact fun all => ⟨all side, all side.other⟩
  · rintro ⟨own, theirs⟩ sender
    obtain rfl | rfl := sender.eq_or_other side
    · exact own
    · exact theirs

/-- How far a device has come. -/
structure Progress
    (sent : Side → List DualInputBundle)
    (side : Side)
    (remote frame : Nat) : Prop where
  own : frame ≤ (sent side).length
  ahead : (sent side).length ≤ frame + 1
  theirs : frame ≤ remote
  reach : remote ≤ (sent side.other).length

theorem Progress.received_le
    {sent : Side → List DualInputBundle}
    {side : Side}
    {remote frame : Nat}
    (progress : Progress sent side remote frame)
    (sender : Side) :
    received sent side remote sender ≤ (sent sender).length := by
  obtain rfl | rfl := sender.eq_or_other side
  · simp
  · simpa using progress.reach

/-- How the flags of a device, its scheduler and what it has read fit together. -/
structure Phase
    (read remote : Nat)
    (flags : RunFlags)
    (state : DualSimState) : Prop where
  loaded : flags.localRuntimeReady = true
  thawed : flags.frozen = false
  waiting : flags.running = false →
    state = .ready ∧ flags.paused = false ∧ read = 0
  started : flags.running = true → 1 ≤ read
  playing : state = .running →
    flags.running = true ∧ flags.paused = false ∧ read = remote + 1
  halted : flags.running = true → flags.paused = false →
    state = .running ∨ state = .frozen
  behind : remote ≤ read - 1

namespace DualSessionController

variable {Core : Type}
variable {context : DualInputKey}
variable {keys : Side → KeyId}
variable {side : Side}
variable {sent : Side → List DualInputBundle}
variable {read remote frame : Nat}
variable {controller :
  DualSessionController (Core × List DualInputBundle)}

/-- A device that has taken in `read` frames and stepped `frame` of them. -/
structure Device
    (context : DualInputKey)
    (keys : Side → KeyId)
    (side : Side)
    (sent : Side → List DualInputBundle)
    (read remote frame : Nat)
    (controller : DualSessionController (Core × List DualInputBundle)) :
    Prop where
  bound : controller.Bound context keys side
  scheduler : ∃ scheduler,
    controller.scheduler = some scheduler ∧
      scheduler.Lockstep context keys sent (received sent side remote) frame
  phase : Phase read remote controller.flags controller.simState
  progress : Progress sent side remote frame
  room : 4 * (sent side).length < controller.localSequence.toNat
  older : ∀ bundle ∈ sent side,
    (bundle.ports side.seat).inputSequence.toNat <
      controller.localSequence.toNat
  batch : controller.batchSequence.toNat = (sent side).length + 1

variable {scheduler : DualRunScheduler (Core × List DualInputBundle)}

/-- A loop that has not got both samples ends. -/
theorem stepLoop_waiting
    (port : DualRuntimePort (Core × List DualInputBundle))
    (isScheduler : controller.scheduler = some scheduler)
    (waits : ¬ (scheduler.state = .running ∧
      scheduler.window.frameAllReal scheduler.nextFrame = true))
    (fuel : Nat) :
    controller.stepLoop port fuel = (.ok, controller) := by
  cases fuel with
  | zero => rfl
  | succ fuel => simp only [stepLoop, isScheduler, waits, if_false]

/-- The next frame has both samples. -/
theorem ready_iff
    (lockstep : scheduler.Lockstep context keys sent
      (received sent side remote) frame)
    (progress : Progress sent side remote frame)
    (genuine : Genuine context keys sent)
    (keyed : ∀ sender, allZero (keys sender) = false) :
    scheduler.window.frameAllReal scheduler.nextFrame = true ↔
      frame < (sent side).length ∧ frame < remote := by
  have narrow : frame < 2 ^ 64 := by
    have bound := genuine.narrow side
    have own := progress.own
    omega
  rw [lockstep.next, ← lockstep.window.step,
    lockstep.window.frameAllReal_iff genuine keyed progress.received_le narrow,
    Side.forall_iff side, received_self, received_other]

/-- Another scheduler that has stepped at least as much. -/
theorem Device.withScheduler
    (device : controller.Device context keys side sent read remote frame)
    {later : Nat}
    {digest : DualStateDigest}
    (lockstep : scheduler.Lockstep context keys sent
      (received sent side remote) later)
    (state : scheduler.state = controller.simState)
    (progress : Progress sent side remote later) :
    ({ controller with
        scheduler := some scheduler
        lastDigest := digest }).Device context keys side sent read remote
      later := by
  refine ⟨?_, ⟨scheduler, rfl, lockstep⟩, ?_, progress, device.room,
    device.older, device.batch⟩
  · exact ⟨device.bound.binding, device.bound.owners, device.bound.seat⟩
  · have phase := device.phase
    rw [← state] at phase
    exact phase

variable {port : DualRuntimePort Core}

/-- A device steps the next frame if it has both samples, and stops there. -/
theorem Device.tryStep
    (succeeds : port.Succeeds)
    (device : controller.Device context keys side sent read remote frame)
    (genuine : Genuine context keys sent)
    (keyed : ∀ sender, allZero (keys sender) = false)
    (running : controller.simState = .running) :
    ∃ after later,
      controller.tryStep port.recording = (.ok, after) ∧
        after.Device context keys side sent read remote later ∧
        after.simState = .running ∧
        SameLink controller after ∧
        after.readAccumulator = controller.readAccumulator ∧
        frame ≤ later ∧
        ¬ (later < (sent side).length ∧ later < remote) := by
  obtain ⟨scheduler, isScheduler, lockstep⟩ := device.scheduler
  have state : scheduler.state = .running := by
    simpa [simState, isScheduler] using running
  obtain ⟨_, unpaused, _⟩ := device.phase.playing running
  have progress := device.progress
  by_cases both : frame < (sent side).length ∧ frame < remote
  · obtain ⟨after, stepped, stillRunning, inStep⟩ :=
      lockstep.stepNextFrame succeeds genuine state
        ((Side.forall_iff side).mpr (by simpa using both)) progress.received_le
    have further : Progress sent side remote (frame + 1) :=
      ⟨both.1, Nat.le_succ_of_le progress.ahead, both.2, progress.reach⟩
    have waits : ¬ (after.state = .running ∧
        after.window.frameAllReal after.nextFrame = true) := by
      rintro ⟨_, ready⟩
      have tooFar := ((ready_iff inStep further genuine keyed).mp ready).1
      have ahead := progress.ahead
      omega
    have looped : controller.stepLoop port.recording (kRingSlots + 1) =
        (.ok,
          { controller with
            scheduler := some after
            lastDigest := after.lastDigest }) := by
      rw [stepLoop, isScheduler]
      simp only [state, (ready_iff lockstep progress genuine keyed).mpr both,
        and_self, if_true, stepped]
      exact stepLoop_waiting _ rfl waits _
    refine
      ⟨{ controller with
          scheduler := some after
          lastDigest := after.lastDigest },
        frame + 1, ?_,
        device.withScheduler inStep (stillRunning.trans running.symm) further,
        stillRunning, ⟨rfl, rfl, rfl, rfl, rfl, rfl, rfl⟩, rfl,
        Nat.le_succ frame, ?_⟩
    · simp [DualSessionController.tryStep, isScheduler, device.phase.thawed,
        unpaused, looped, freezeWithScheduler, stillRunning]
    · have ahead := progress.ahead
      omega
  · have waits : ¬ (scheduler.state = .running ∧
        scheduler.window.frameAllReal scheduler.nextFrame = true) := by
      rintro ⟨_, ready⟩
      exact both ((ready_iff lockstep progress genuine keyed).mp ready)
    have looped := stepLoop_waiting port.recording isScheduler waits
      (kRingSlots + 1)
    refine ⟨controller, frame, ?_, device, running, SameLink.refl controller,
      rfl, Nat.le_refl frame, both⟩
    simp [DualSessionController.tryStep, isScheduler, device.phase.thawed,
      unpaused, looped, freezeWithScheduler, state]

/-- The beacon of the peer starts the run. -/
theorem Device.takeBeacon
    (port : DualRuntimePort (Core × List DualInputBundle))
    (device : controller.Device context keys side sent read remote frame)
    (waiting : controller.flags.running = false)
    (bundle : DualInputBundle) :
    ∃ after,
      controller.takeRemote port bundle = (.ok, after) ∧
        after.Device context keys side sent (read + 1) remote frame ∧
        after.simState = .running ∧
        SameLink controller after ∧
        after.readAccumulator = controller.readAccumulator := by
  obtain ⟨scheduler, isScheduler, lockstep⟩ := device.scheduler
  obtain ⟨isReady, unpaused, unread⟩ := device.phase.waiting waiting
  have loaded := device.phase.loaded
  have thawed := device.phase.thawed
  have nothing : remote = 0 := by
    have behind := device.phase.behind
    omega
  have state : scheduler.state = .ready := by
    simpa [simState, isScheduler] using isReady
  have announced : scheduler.announceRunning =
      (.ok, { scheduler with state := .running }) := by
    simp [DualRunScheduler.announceRunning, lockstep.inUse, state]
  refine
    ⟨{ controller with
        peerRuntimeReady := true
        scheduler := some { scheduler with state := .running }
        flags := { controller.flags with running := true } }, ?_, ?_, rfl,
      ⟨rfl, rfl, rfl, rfl, rfl, rfl, rfl⟩, rfl⟩
  · simp [takeRemote, waiting, loaded, thawed, maybeEnterRunning, unpaused,
      isScheduler, announced]
  · refine ⟨⟨device.bound.binding, device.bound.owners, device.bound.seat⟩,
      ⟨_, rfl, lockstep.transfer rfl rfl rfl rfl⟩, ?_, device.progress,
      device.room, device.older, device.batch⟩
    refine ⟨loaded, thawed, ?_, ?_, ?_, ?_, ?_⟩
    · intro notRunning
      cases notRunning
    · intro _
      omega
    · exact fun _ => ⟨rfl, unpaused, by omega⟩
    · exact fun _ _ => Or.inl rfl
    · omega

/-- A device that has stopped loses the bundles it reads. -/
theorem Device.takeHalted
    (port : DualRuntimePort (Core × List DualInputBundle))
    (device : controller.Device context keys side sent read remote frame)
    (started : controller.flags.running = true)
    (halted : controller.simState ≠ .running)
    (bundle : DualInputBundle) :
    controller.takeRemote port bundle = (.invalidState, controller) ∧
      controller.Device context keys side sent (read + 1) remote frame := by
  obtain ⟨scheduler, isScheduler, lockstep⟩ := device.scheduler
  have state : scheduler.state ≠ .running := by
    simpa [simState, isScheduler] using halted
  refine ⟨?_, device.bound, device.scheduler, ?_, device.progress, device.room,
    device.older, device.batch⟩
  · have refused := DualRunScheduler.acceptRemoteInput_halted lockstep.inUse
      state bundle
    simp [takeRemote, started, isScheduler, refused]
    rw [← isScheduler]
  · have phase := device.phase
    refine ⟨phase.loaded, phase.thawed, ?_, ?_, ?_, phase.halted, ?_⟩
    · intro notRunning
      rw [started] at notRunning
      cases notRunning
    · intro _
      omega
    · exact fun running => absurd running halted
    · have behind := phase.behind
      omega

/-- A running device takes in the next bundle of the peer and steps. -/
theorem Device.takeBundle
    (succeeds : port.Succeeds)
    (device : controller.Device context keys side sent read remote frame)
    (genuine : Genuine context keys sent)
    (keyed : ∀ sender, allZero (keys sender) = false)
    (running : controller.simState = .running)
    (near : (sent side.other).length ≤ frame + 2)
    {bundle : DualInputBundle}
    (next : (sent side.other)[remote]? = some bundle) :
    ∃ after later,
      controller.takeRemote port.recording bundle = (.ok, after) ∧
        after.Device context keys side sent (read + 1) (remote + 1) later ∧
        after.simState = .running ∧
        SameLink controller after ∧
        after.readAccumulator = controller.readAccumulator ∧
        frame ≤ later ∧
        ¬ (later < (sent side).length ∧ later < remote + 1) := by
  obtain ⟨scheduler, isScheduler, lockstep⟩ := device.scheduler
  have state : scheduler.state = .running := by
    simpa [simState, isScheduler] using running
  obtain ⟨started, unpaused, position⟩ := device.phase.playing running
  have within : remote < (sent side.other).length :=
    (List.getElem?_eq_some_iff.mp next).1
  have progress := device.progress
  have theirs := progress.theirs
  obtain ⟨taken, accepted, stillRunning, inStep⟩ :=
    lockstep.acceptRemoteInput genuine state side.other
      (by rw [received_other]; exact next) (keyed side.other)
      (by rw [received_other]; exact theirs)
      (by rw [received_other]; omega)
  rw [received_other, received_succ] at inStep
  have grown : ({ controller with scheduler := some taken }).Device context keys
      side sent (read + 1) (remote + 1) frame := by
    refine ⟨⟨device.bound.binding, device.bound.owners, device.bound.seat⟩,
      ⟨taken, rfl, inStep⟩, ?_,
      ⟨progress.own, progress.ahead, by omega, within⟩, device.room,
      device.older, device.batch⟩
    refine ⟨device.phase.loaded, device.phase.thawed, ?_, ?_, ?_, ?_, ?_⟩
    · intro notRunning
      change controller.flags.running = false at notRunning
      rw [started] at notRunning
      cases notRunning
    · intro _
      omega
    · exact fun _ => ⟨started, unpaused, by omega⟩
    · exact fun _ _ => Or.inl stillRunning
    · omega
  obtain ⟨after, later, stepped, deviceAfter, isRunning, same, unread, rest⟩ :=
    grown.tryStep succeeds genuine keyed stillRunning
  refine ⟨after, later, ?_, deviceAfter, isRunning, ?_, unread, rest⟩
  · simp [takeRemote, started, isScheduler, accepted, stepped]
  · exact ⟨same.writeQueue, same.streamOpen, same.openOutstanding,
      same.writeOutstanding, same.readOutstanding, same.wantRead,
      same.receiveStream⟩

end DualSessionController

end FlyNes.Dual
