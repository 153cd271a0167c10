import FlyNes.DualSubmit

namespace FlyNes.Dual

open ByteString

/-!
# Agreement of a dual run

One invariant ties the two devices, their queues, the bytes on the wire and the
accumulators together: what a device has queued and the peer has not taken in
lies, in order, in the peer's accumulator, on the wire and in the queue.  Both
devices then step the same inputs, the ones made of the bundles both have sent.
-/

/-- What has happened in a run, as no single device can tell. -/
structure Ghost where
  sent : Side → List DualInputBundle := fun _ => []
  beacon : Side → Option DualInputBundle := fun _ => none
  tally : Side → Tally := fun _ => {}

namespace Ghost

/-- All frames a device has queued. -/
def frames (ghost : Ghost) (side : Side) : List Bytes :=
  framesOf (ghost.beacon side) (ghost.sent side)

end Ghost

namespace DualSessionController

variable {Core : Type}

/-- The frames a device has not handed to its provider. -/
def unissued (controller : DualSessionController Core) : List Bytes :=
  if controller.writeOutstanding then
    controller.writeQueue.tail
  else
    controller.writeQueue

/-- How the streams of a device fit what it has sent and read. -/
structure Linked
    (beacon : Option DualInputBundle)
    (sent : List DualInputBundle)
    (read : Nat)
    (controller : DualSessionController Core) : Prop where
  opened : beacon ≠ none →
    controller.streamOpen = true ∧ controller.receiveStream ≠ 0
  once : controller.openOutstanding = true → controller.streamOpen = false
  writing : controller.writeOutstanding = true → controller.writeQueue ≠ []
  silent : beacon = none →
    sent = [] ∧ read = 0 ∧ controller.wantRead = false ∧
      controller.readOutstanding = false ∧ controller.writeQueue = []
  starts : sent ≠ [] → 1 ≤ read

end DualSessionController

namespace DualNet

variable {Core : Type}
variable {context : DualInputKey}
variable {keys : Side → KeyId}
variable {ghost : Ghost}
variable {net : DualNet Core}

/-- What is known of one device and of the stream it writes. -/
structure Sided
    (context : DualInputKey)
    (keys : Side → KeyId)
    (ghost : Ghost)
    (net : DualNet Core)
    (side : Side) : Prop where
  beacon : ∀ bundle, ghost.beacon side = some bundle →
    Sample context keys side 0 bundle
  device : (net.controllers side).Device context keys side ghost.sent
    (ghost.tally side).read (ghost.tally side).remote (ghost.tally side).frame
  linked : (net.controllers side).Linked (ghost.beacon side) (ghost.sent side)
    (ghost.tally side).read
  reads : (ghost.tally side).read ≤ (ghost.frames side.other).length
  carries : ((ghost.frames side).drop (ghost.tally side.other).read).flatten =
    (net.controllers side.other).readAccumulator ++
      (net.wire side ++ (net.controllers side).unissued.flatten)

/-- The invariant of a run. -/
structure Joint
    (context : DualInputKey)
    (keys : Side → KeyId)
    (ghost : Ghost)
    (net : DualNet Core) : Prop where
  genuine : Genuine context keys ghost.sent
  sides : ∀ side, Sided context keys ghost net side

variable {side : Side}

theorem Joint.keyed
    (joint : net.Joint context keys ghost)
    (heard : 1 ≤ (ghost.tally side).read) :
    allZero (keys side.other) = false := by
  have reads := (joint.sides side).reads
  cases beacon : ghost.beacon side.other with
  | none =>
      rw [Ghost.frames, beacon] at reads
      simp only [framesOf, List.length_nil] at reads
      omega
  | some bundle => exact ((joint.sides side.other).beacon bundle beacon).keyed

/-- A device that has sent a bundle has heard its peer. -/
theorem Joint.keyed_all
    (joint : net.Joint context keys ghost)
    (nonempty : ghost.sent side ≠ []) :
    ∀ sender, allZero (keys sender) = false := by
  have heard := (joint.sides side).linked.starts nonempty
  have own : ghost.beacon side ≠ none := by
    intro none
    exact nonempty ((joint.sides side).linked.silent none).1
  obtain ⟨bundle, isBeacon⟩ := Option.ne_none_iff_exists'.mp own
  refine (Side.forall_iff side).mpr ⟨?_, joint.keyed heard⟩
  exact ((joint.sides side).beacon bundle isBeacon).keyed

/-- A device is at most two frames behind what its peer has sent. -/
theorem Joint.near
    (joint : net.Joint context keys ghost)
    (side : Side) :
    (ghost.sent side.other).length ≤ (ghost.tally side).frame + 2 ∧
      (ghost.frames side.other).length ≤ (ghost.tally side).read + 2 := by
  have own := (joint.sides side).device.progress
  have theirs := (joint.sides side.other).device.progress
  have behind := (joint.sides side).device.phase.behind
  have starts := (joint.sides side).linked.starts
  have ahead := theirs.ahead
  have step := theirs.theirs
  have reach := theirs.reach
  have ownAhead := own.ahead
  have ownTheirs := own.theirs
  rw [Side.other_other] at reach
  have length : (ghost.frames side.other).length ≤
      (ghost.sent side.other).length + 1 := by
    unfold Ghost.frames framesOf
    split
    · simp
    · simp
  refine ⟨by omega, ?_⟩
  by_cases empty : ghost.sent side = []
  · rw [empty, List.length_nil] at reach
    omega
  · have started := starts empty
    omega

theorem Joint.peer
    (joint : net.Joint context keys ghost)
    (side : Side) :
    Peer context keys ghost.sent (ghost.beacon side.other) side
      (ghost.tally side).frame :=
  ⟨joint.genuine, (joint.sides side.other).beacon, joint.keyed_all,
    (joint.near side).1⟩

/-- A device never has more than two frames of its peer in front of it. -/
theorem Joint.accumulator_le
    (joint : net.Joint context keys ghost)
    (side : Side) :
    (net.controllers side).readAccumulator.length +
      (net.wire side.other).length ≤ 320 := by
  have carries := congrArg List.length (joint.sides side.other).carries
  have near := (joint.near side).2
  have sized : ∀ frame ∈
      (ghost.frames side.other).drop (ghost.tally side).read,
      frame.length = 160 :=
    fun frame member => framesOf_sized frame (List.mem_of_mem_drop member)
  rw [Side.other_other, Framing.length_flatten_of_sized sized,
    List.length_drop, List.length_append, List.length_append] at carries
  omega

/-! ### Changes that do not matter -/

end DualNet

namespace DualSessionController

variable {Core : Type}
variable {context : DualInputKey}
variable {keys : Side → KeyId}
variable {side : Side}
variable {sent : Side → List DualInputBundle}
variable {read remote frame : Nat}
variable {controller :
  DualSessionController (Core × List DualInputBundle)}

/-- The run of a device is as before. -/
structure SameRun (before after : DualSessionController Core) : Prop where
  context : after.context = before.context
  owners : after.owners = before.owners
  localSeat : after.localSeat = before.localSeat
  scheduler : after.scheduler = before.scheduler
  flags : after.flags = before.flags
  localSequence : after.localSequence = before.localSequence
  batchSequence : after.batchSequence = before.batchSequence

theorem Device.transfer
    (device : controller.Device context keys side sent read remote frame)
    {after : DualSessionController (Core × List DualInputBundle)}
    (same : SameRun controller after) :
    after.Device context keys side sent read remote frame := by
  have state : after.simState = controller.simState := by
    rw [simState, simState, same.scheduler]
  refine ⟨⟨?_, ?_, ?_⟩, ?_, ?_, device.progress, ?_, ?_, ?_⟩
  · rw [same.context]
    exact device.bound.binding
  · rw [same.owners]
    exact device.bound.owners
  · rw [same.localSeat]
    exact device.bound.seat
  · rw [same.scheduler]
    exact device.scheduler
  · rw [same.flags, state]
    exact device.phase
  · rw [same.localSequence]
    exact device.room
  · rw [same.localSequence]
    exact device.older
  · rw [same.batchSequence]
    exact device.batch

/-- A bundle that the peer has sent does not matter until it is read. -/
theorem Device.peerSends
    {bundle : DualInputBundle}
    (device : controller.Device context keys side.other sent read remote frame) :
    controller.Device context keys side.other (extend sent side bundle) read
      remote frame := by
  obtain ⟨scheduler, isScheduler, lockstep⟩ := device.scheduler
  have progress := device.progress
  have same : extend sent side bundle side.other = sent side.other :=
    extend_other
  have reach : remote ≤ (sent side).length := by
    simpa using progress.reach
  have longer : (extend sent side bundle side).length =
      (sent side).length + 1 := by
    rw [extend_self, List.length_append]
    rfl
  have sameReceived : received (extend sent side bundle) side.other remote =
      received sent side.other remote := by
    rw [received, received, same]
  refine ⟨device.bound, ⟨scheduler, isScheduler, ?_⟩, device.phase, ?_, ?_, ?_,
    ?_⟩
  · rw [sameReceived]
    refine lockstep.append progress.received_le ?_
      (extend_grows sent side bundle)
    refine (Side.forall_iff side).mpr ⟨?_, progress.own⟩
    exact Nat.le_trans progress.theirs reach
  · refine ⟨?_, ?_, progress.theirs, ?_⟩
    · rw [same]
      exact progress.own
    · rw [same]
      exact progress.ahead
    · rw [Side.other_other, longer]
      exact Nat.le_succ_of_le reach
  · rw [same]
    exact device.room
  · rw [same]
    exact device.older
  · rw [same]
    exact device.batch

end DualSessionController

namespace DualNet

variable {Core : Type}
variable {context : DualInputKey}
variable {keys : Side → KeyId}
variable {ghost : Ghost}
variable {net : DualNet Core}

/-- A net in which one device has changed. -/
def withController
    (net : DualNet Core)
    (side : Side)
    (controller : DualSessionController (Core × List DualInputBundle))
    (wire : Side → Bytes)
    (answers : List SessionResult) : DualNet Core :=
  { controllers := Function.update net.controllers side controller
    wire := wire
    answers := answers }

variable {controller : DualSessionController (Core × List DualInputBundle)} {wire : Side → Bytes}

variable {side : Side} {answers : List SessionResult}

@[simp]
theorem withController_self :
    (net.withController side controller wire answers).controllers side =
      controller := by
  simp [withController]

@[simp]
theorem withController_other :
    (net.withController side controller wire answers).controllers side.other =
      net.controllers side.other := by
  simp [withController, side.other_ne]

/-- A change of the link of one device that moves nothing. -/
theorem Joint.relink
    (joint : net.Joint context keys ghost)
    (side : Side)
    (device : controller.Device context keys side ghost.sent
      (ghost.tally side).read (ghost.tally side).remote
      (ghost.tally side).frame)
    (linked : controller.Linked (ghost.beacon side) (ghost.sent side)
      (ghost.tally side).read)
    (unread : controller.readAccumulator =
      (net.controllers side).readAccumulator)
    (outgoing : wire side ++ controller.unissued.flatten =
      net.wire side ++ (net.controllers side).unissued.flatten)
    (incoming : wire side.other = net.wire side.other) :
    (net.withController side controller wire answers).Joint context keys
      ghost := by
  have own := joint.sides side
  have theirs := joint.sides side.other
  refine ⟨joint.genuine, (Side.forall_iff side).mpr ⟨?_, ?_⟩⟩
  · refine ⟨own.beacon, ?_, ?_, own.reads, ?_⟩
    · rw [withController_self]
      exact device
    · rw [withController_self]
      exact linked
    · rw [withController_self, withController_other]
      change _ = _ ++ (wire side ++ _)
      rw [outgoing]
      exact own.carries
  · refine ⟨theirs.beacon, ?_, ?_, theirs.reads, ?_⟩
    · rw [withController_other]
      exact theirs.device
    · rw [withController_other]
      exact theirs.linked
    · have carries := theirs.carries
      rw [Side.other_other] at carries ⊢
      rw [withController_self, withController_other, unread]
      change _ = _ ++ (wire side.other ++ _)
      rw [incoming]
      exact carries

end DualNet

end FlyNes.Dual
