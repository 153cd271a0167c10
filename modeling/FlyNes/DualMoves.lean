import FlyNes.DualAgreement

namespace FlyNes.Dual

open ByteString

/-!
# The moves of a dual run

Each call on a device keeps the invariant of the run.  Most calls only move a
frame along the queue or change a flag; an input adds a bundle, an opened stream
adds the beacon, and a completed read moves bytes into the accumulator and takes
in the whole frames.
-/

namespace DualSessionController

variable {Core : Type}
variable {context : DualInputKey}
variable {keys : Side → KeyId}
variable {side : Side}
variable {beacon : Option DualInputBundle}
variable {bundles : List DualInputBundle}
variable {sent : Side → List DualInputBundle}
variable {read remote frame : Nat} {before after : DualSessionController Core}

theorem SameLink.unissued
    (link : SameLink before after) :
    after.unissued = before.unissued := by
  rw [DualSessionController.unissued, DualSessionController.unissued,
    link.writeOutstanding, link.writeQueue]

theorem Linked.transfer
    (linked : before.Linked beacon bundles read)
    (link : SameLink before after) :
    after.Linked beacon bundles read := by
  refine ⟨?_, ?_, ?_, ?_, linked.starts⟩
  · rw [link.streamOpen, link.receiveStream]
    exact linked.opened
  · rw [link.openOutstanding, link.streamOpen]
    exact linked.once
  · rw [link.writeOutstanding, link.writeQueue]
    exact linked.writing
  · rw [link.wantRead, link.readOutstanding, link.writeQueue]
    exact linked.silent

variable {controller : DualSessionController (Core × List DualInputBundle)}

/-- A device that has stopped stepping for good. -/
theorem Device.pause
    (device : controller.Device context keys side sent read remote frame) :
    ∃ result after,
      controller.pause = (result, after) ∧
        result ≠ .protocolViolation ∧
        after.Device context keys side sent read remote frame ∧
        SameLink controller after ∧
        after.readAccumulator = controller.readAccumulator ∧
        (after.simState = controller.simState ∨ after.simState = .ready) ∧
        (after.simState = .running → controller.simState = .running) := by
  obtain ⟨scheduler, isScheduler, lockstep⟩ := device.scheduler
  by_cases refused :
      (!controller.flags.running || controller.flags.frozen) = true
  · refine ⟨.invalidState, controller, ?_, by decide, device,
      SameLink.refl controller, rfl, Or.inl rfl, id⟩
    rw [DualSessionController.pause, if_pos refused]
  have started : controller.flags.running = true := by
    simp only [Bool.or_eq_true, not_or, Bool.not_eq_true', Bool.not_eq_false]
      at refused
    exact refused.1
  by_cases frozen : scheduler.state = .frozen
  · refine ⟨.invalidState, controller, ?_, by decide, device,
      SameLink.refl controller, rfl, Or.inl rfl, id⟩
    rw [DualSessionController.pause, if_neg refused]
    simp only [isScheduler, DualRunScheduler.pause, lockstep.inUse, frozen,
      Bool.false_eq_true, if_false, if_true]
    rw [← isScheduler]
  · refine
      ⟨.ok,
        { controller with
          scheduler := some
            { scheduler.observeAuthenticatedActivity 1 with
              paused := true
              state := .ready }
          flags := { controller.flags with paused := true }
          freezeReason := .paused },
        ?_, by decide, ?_, ⟨rfl, rfl, rfl, rfl, rfl, rfl, rfl⟩, rfl,
        Or.inr rfl, ?_⟩
    · rw [DualSessionController.pause, if_neg refused]
      simp only [isScheduler, DualRunScheduler.pause, lockstep.inUse, frozen,
        Bool.false_eq_true, if_false]
    · refine ⟨⟨device.bound.binding, device.bound.owners, device.bound.seat⟩,
        ⟨_, rfl, lockstep.transfer rfl rfl rfl rfl⟩, ?_, device.progress,
        device.room, device.older, device.batch⟩
      have phase := device.phase
      refine ⟨phase.loaded, phase.thawed, ?_, phase.started, ?_, ?_,
        phase.behind⟩
      · intro notRunning
        change controller.flags.running = false at notRunning
        rw [started] at notRunning
        cases notRunning
      · intro running
        cases running
      · intro _ unpaused
        cases unpaused
    · intro running
      cases running

/--
A device that waits for its peer has asked for bytes or is about to write, and a
completed write asks for bytes.
-/
def Listening
    (beacon : Option DualInputBundle)
    (bundles : List DualInputBundle)
    (tally : Tally)
    (controller : DualSessionController Core) : Prop :=
  beacon ≠ none →
    controller.wantRead = true ∨ controller.readOutstanding = true ∨
      controller.writeQueue ≠ [] ∨
      (1 ≤ tally.read ∧
        (controller.simState = .running → bundles.length ≤ tally.remote))

variable {tally : Tally}

theorem Listening.transfer
    (listening : before.Listening beacon bundles tally)
    (link : SameLink before after)
    (state : after.simState = .running → before.simState = .running) :
    after.Listening beacon bundles tally := by
  intro begun
  rw [link.wantRead, link.readOutstanding, link.writeQueue]
  obtain asked | asked | writes | ⟨heard, level⟩ := listening begun
  · exact Or.inl asked
  · exact Or.inr (Or.inl asked)
  · exact Or.inr (Or.inr (Or.inl writes))
  · exact Or.inr (Or.inr (Or.inr ⟨heard, fun running => level (state running)⟩))

/-- A change of the streams of a device only. -/
structure Relinked
    (beacon : Option DualInputBundle)
    (bundles : List DualInputBundle)
    (read : Nat)
    (out : Bytes)
    (before after : DualSessionController Core) : Prop where
  run : SameRun before after
  linked : after.Linked beacon bundles read
  unread : after.readAccumulator = before.readAccumulator
  outgoing : out ++ after.unissued.flatten = before.unissued.flatten
  wanted : before.wantRead = true → after.wantRead = true
  asked : before.readOutstanding = true → after.readOutstanding = true
  writes : before.writeQueue ≠ [] →
    after.writeQueue ≠ [] ∨ after.wantRead = true

theorem SameRun.simState
    (same : SameRun before after) :
    after.simState = before.simState := by
  rw [DualSessionController.simState, DualSessionController.simState,
    same.scheduler]

theorem Relinked.listening
    {out : Bytes}
    (relinked : Relinked beacon bundles tally.read out before after)
    (listening : before.Listening beacon bundles tally) :
    after.Listening beacon bundles tally := by
  intro begun
  obtain wanted | asked | writes | level := listening begun
  · exact Or.inl (relinked.wanted wanted)
  · exact Or.inr (Or.inl (relinked.asked asked))
  · obtain stillWrites | wanted := relinked.writes writes
    · exact Or.inr (Or.inr (Or.inl stillWrites))
    · exact Or.inl wanted
  · rw [← relinked.run.simState] at level
    exact Or.inr (Or.inr (Or.inr level))

/-- The next effect moves a frame from the queue to the wire, or sets a flag. -/
theorem Linked.pollEffect
    {controller : DualSessionController Core}
    (linked : controller.Linked beacon bundles read) :
    ∃ effect after,
      controller.pollEffect = (effect, after) ∧
        Relinked beacon bundles read (DualNet.written effect) controller
          after := by
  have same : SameRun controller controller :=
    ⟨rfl, rfl, rfl, rfl, rfl, rfl, rfl⟩
  have stays : Relinked beacon bundles read (DualNet.written none) controller
      controller :=
    ⟨same, linked, rfl, rfl, id, id, Or.inl⟩
  unfold DualSessionController.pollEffect
  split_ifs with frozen query opens writes reads
  · exact ⟨none, controller, rfl, stays⟩
  · refine ⟨_, { controller with catalogQueryOutstanding := true }, rfl, ?_⟩
    exact ⟨⟨rfl, rfl, rfl, rfl, rfl, rfl, rfl⟩,
      linked.transfer ⟨rfl, rfl, rfl, rfl, rfl, rfl, rfl⟩, rfl, rfl, id, id,
      Or.inl⟩
  · refine ⟨_, { controller with openOutstanding := true }, rfl, ?_⟩
    have closed : controller.streamOpen = false := by
      simp only [Bool.and_eq_true, Bool.not_eq_true'] at opens
      exact opens.1.1.2
    exact ⟨⟨rfl, rfl, rfl, rfl, rfl, rfl, rfl⟩,
      ⟨linked.opened, fun _ => closed, linked.writing, linked.silent,
        linked.starts⟩, rfl, rfl, id, id, Or.inl⟩
  · refine ⟨_, { controller with writeOutstanding := true }, rfl, ?_⟩
    simp only [Bool.and_eq_true, Bool.not_eq_true', List.isEmpty_eq_false_iff]
      at writes
    refine ⟨⟨rfl, rfl, rfl, rfl, rfl, rfl, rfl⟩,
      ⟨linked.opened, linked.once, fun _ => writes.2, linked.silent,
        linked.starts⟩, rfl, ?_, id, id, Or.inl⟩
    obtain ⟨head, tail, queue⟩ := List.exists_cons_of_ne_nil writes.2
    simp [unissued, writes.1.2, queue, DualNet.written]
  · refine ⟨_, { controller with readOutstanding := true }, rfl, ?_⟩
    simp only [Bool.and_eq_true, Bool.not_eq_true'] at reads
    refine ⟨⟨rfl, rfl, rfl, rfl, rfl, rfl, rfl⟩,
      ⟨linked.opened, linked.once, linked.writing, ?_, linked.starts⟩, rfl, rfl,
      id, fun _ => rfl, Or.inl⟩
    intro unsent
    have unwanted := (linked.silent unsent).2.2.1
    rw [reads.1.1.2] at unwanted
    cases unwanted
  · exact ⟨none, controller, rfl, stays⟩

/-- A completed query of the catalog leaves the streams alone. -/
theorem Linked.completeQuery
    {controller : DualSessionController Core}
    (linked : controller.Linked beacon bundles read)
    (port : DualRuntimePort Core)
    (choice : GameChoice) :
    ∃ after,
      controller.complete port (.queryContent .ok (.ok choice)) =
          (.ok, after) ∧
        Relinked beacon bundles read [] controller after := by
  refine ⟨_, rfl, ⟨⟨rfl, rfl, rfl, rfl, rfl, rfl, rfl⟩, ?_, rfl, rfl, id, id,
    Or.inl⟩⟩
  exact linked.transfer ⟨rfl, rfl, rfl, rfl, rfl, rfl, rfl⟩

/-- A device whose stream has been opened. -/
def opened
    (controller : DualSessionController Core)
    (resource value0 : UInt64) : DualSessionController Core :=
  { controller with
    openOutstanding := false
    sendStream := resource
    receiveStream := value0
    streamOpen := true }

/-- A device queues its beacon, unless it has no key. -/
theorem Device.queueRuntimeReadyBeacon
    (device : controller.Device context keys side sent read remote frame) :
    controller.queueRuntimeReadyBeacon = (.invalidArgument, controller) ∨
      ∃ bundle,
        Sample context keys side 0 bundle ∧
          controller.queueRuntimeReadyBeacon =
            (.ok,
              { controller with
                writeQueue := controller.writeQueue ++
                  [frameOf bundle 1] }) := by
  obtain ⟨scheduler, isScheduler, _⟩ := device.scheduler
  have loaded : ¬ ((!controller.flags.localRuntimeReady ||
      controller.flags.frozen || controller.scheduler.isNone) = true) := by
    simp [device.phase.thawed, device.phase.loaded, isScheduler]
  have build : canonicalInputBuild { controller.context with frameIndex := 0 }
      (UInt8.ofNat controller.localSeat)
      (controller.owners controller.localSeat).signingKeyId beaconSamples =
      canonicalInputBuild { context with frameIndex := UInt64.ofNat 0 }
        (UInt8.ofNat side.seat) (keys side) beaconSamples := by
    rw [device.bound.binding, device.bound.seat, device.bound.owners,
      seating_seat]
    rfl
  rw [DualSessionController.queueRuntimeReadyBeacon, if_neg loaded, build]
  cases built : canonicalInputBuild { context with frameIndex := UInt64.ofNat 0 }
      (UInt8.ofNat side.seat) (keys side) beaconSamples with
  | error status => exact Or.inl rfl
  | ok bundle =>
      have sample := sample_of_build built
      have positive : (1 : UInt64) ≠ 0 := by
        decide
      exact Or.inr ⟨bundle, sample, queueFrame_encoded controller sample positive⟩

/-- An opened stream gets the beacon. -/
theorem Device.completeOpen
    (device : controller.Device context keys side sent read remote frame)
    (port : DualRuntimePort (Core × List DualInputBundle))
    {resource value0 : UInt64}
    (notZero : resource ≠ 0)
    (readable : value0 ≠ 0) :
    controller.complete port (.openStream .ok resource value0) =
        (.invalidArgument, controller.opened resource value0) ∨
      ∃ bundle,
        Sample context keys side 0 bundle ∧
          controller.complete port
              (.openStream .ok resource value0) =
            (.ok,
              { controller.opened resource value0 with
                writeQueue := controller.writeQueue ++
                  [frameOf bundle 1] }) := by
  have completed :
      controller.complete port (.openStream .ok resource value0) =
        (controller.opened resource value0).queueRuntimeReadyBeacon := by
    simp [complete, notZero, readable, device.phase.thawed,
      device.phase.loaded, opened]
  have isOpen : (controller.opened resource value0).Device context keys side
      sent read remote frame :=
    device.transfer ⟨rfl, rfl, rfl, rfl, rfl, rfl, rfl⟩
  rw [completed]
  exact isOpen.queueRuntimeReadyBeacon

/-- A completed write takes the frame off the queue and asks for bytes. -/
theorem Linked.completeWrite
    {controller : DualSessionController Core}
    (linked : controller.Linked beacon bundles read)
    (port : DualRuntimePort Core)
    (writing : controller.writeOutstanding = true) :
    ∃ after,
      controller.complete port (.write .ok) = (.ok, after) ∧
        Relinked beacon bundles read [] controller after := by
  refine
    ⟨{ controller with
        writeOutstanding := false
        writeQueue := controller.writeQueue.tail
        wantRead := true }, rfl,
      ⟨⟨rfl, rfl, rfl, rfl, rfl, rfl, rfl⟩, ?_, rfl, ?_, fun _ => rfl, id,
        fun _ => Or.inr rfl⟩⟩
  · refine ⟨linked.opened, linked.once, ?_, ?_, linked.starts⟩
    · intro writes
      cases writes
    · intro unsent
      exact absurd (linked.silent unsent).2.2.2.2 (linked.writing writing)
  · simp [unissued, writing]

end DualSessionController

namespace Ghost

/-- One more bundle of a device, which has stepped up to a frame. -/
def send
    (ghost : Ghost)
    (side : Side)
    (bundle : DualInputBundle)
    (frame : Nat) : Ghost :=
  { ghost with
    sent := extend ghost.sent side bundle
    tally := Function.update ghost.tally side
      { ghost.tally side with frame := frame } }

/-- The beacon of a device. -/
def announce
    (ghost : Ghost)
    (side : Side)
    (bundle : DualInputBundle) : Ghost :=
  { ghost with beacon := Function.update ghost.beacon side (some bundle) }

/-- A device has read. -/
def count
    (ghost : Ghost)
    (side : Side)
    (tally : Tally) : Ghost :=
  { ghost with tally := Function.update ghost.tally side tally }

end Ghost

namespace DualNet

variable {Core : Type}
variable {context : DualInputKey}
variable {keys : Side → KeyId}
variable {ghost : Ghost}
variable {net : DualNet Core}
variable {side : Side}

/-- What a call on one device does to a run. -/
structure Advance
    (context : DualInputKey)
    (keys : Side → KeyId)
    (side : Side)
    (fair whole : Prop)
    (ghost later : Ghost)
    (net after : DualNet Core) : Prop where
  joint : after.Joint context keys later
  bystander : after.controllers side.other = net.controllers side.other ∧
    later.sent side.other = ghost.sent side.other ∧
    later.beacon side.other = ghost.beacon side.other ∧
    later.tally side.other = ghost.tally side.other
  begun : ghost.beacon side ≠ none → later.beacon side ≠ none
  lawful : SessionResult.protocolViolation ∉ net.answers →
    SessionResult.protocolViolation ∉ after.answers
  thaws : fair → (net.controllers side).simState ≠ .frozen →
    (after.controllers side).simState ≠ .frozen
  listens : whole →
    (net.controllers side).Listening (ghost.beacon side) (ghost.sent side)
      (ghost.tally side) →
    (after.controllers side).Listening (later.beacon side) (later.sent side)
      (later.tally side)

variable {answers : List SessionResult} {result : SessionResult}

theorem not_mem_concat
    (lawful : result ≠ .protocolViolation)
    (before : SessionResult.protocolViolation ∉ answers) :
    SessionResult.protocolViolation ∉ answers ++ [result] := by
  rw [List.mem_append, List.mem_singleton]
  exact not_or.mpr ⟨before, lawful.symm⟩

variable {fair whole : Prop} {controller : DualSessionController (Core × List DualInputBundle)}

/-- A call that leaves the run as it is. -/
theorem Advance.stays
    {wire : Side → Bytes}
    (after : (net.withController side controller wire answers).Joint context
      keys ghost)
    (lawful : SessionResult.protocolViolation ∉ net.answers →
      SessionResult.protocolViolation ∉ answers)
    (thaws : fair → (net.controllers side).simState ≠ .frozen →
      controller.simState ≠ .frozen)
    (listens :
      (net.controllers side).Listening (ghost.beacon side) (ghost.sent side)
        (ghost.tally side) →
      controller.Listening (ghost.beacon side) (ghost.sent side)
        (ghost.tally side)) :
    Advance context keys side fair whole ghost ghost net
      (net.withController side controller wire answers) := by
  refine ⟨after, ⟨withController_other, rfl, rfl, rfl⟩, id, lawful, ?_, ?_⟩
  · rw [withController_self]
    exact thaws
  · rw [withController_self]
    exact fun _ => listens

/-- A call that changes the streams of a device only. -/
theorem Joint.relinked
    (joint : net.Joint context keys ghost)
    {out : Bytes}
    (relinked : DualSessionController.Relinked (ghost.beacon side)
      (ghost.sent side) (ghost.tally side).read out (net.controllers side)
      controller)
    (lawful : SessionResult.protocolViolation ∉ net.answers →
      SessionResult.protocolViolation ∉ answers) :
    Advance context keys side fair whole ghost ghost net
      (net.withController side controller
        (Function.update net.wire side (net.wire side ++ out)) answers) := by
  refine Advance.stays ?_ lawful ?_ relinked.listening
  · refine joint.relink side ((joint.sides side).device.transfer relinked.run)
      relinked.linked relinked.unread ?_ ?_
    · rw [Function.update_self, List.append_assoc, relinked.outgoing]
    · rw [Function.update_of_ne (Side.other_ne side)]
  · rw [relinked.run.simState]
    exact fun _ => id

variable {fair whole : Prop}

variable (joint : net.Joint context keys ghost)

include joint

theorem Joint.pollEffect
    (world : DualWorld Core)
    (side : Side) :
    Advance context keys side fair whole ghost ghost net
      (net.step world (.pollEffect side)) := by
  obtain ⟨effect, after, polled, relinked⟩ :=
    (joint.sides side).linked.pollEffect
  rw [step, polled]
  exact joint.relinked relinked id

variable {world : DualWorld Core}

/-- A completion that changes the streams of a device only. -/
theorem Joint.completes
    {completion : Completion}
    (completed : (net.controllers side).complete
      (world.ports side).recording completion = (result, controller))
    (lawful : result ≠ .protocolViolation)
    (relinked : DualSessionController.Relinked (ghost.beacon side)
      (ghost.sent side) (ghost.tally side).read [] (net.controllers side)
      controller) :
    Advance context keys side fair whole ghost ghost net
      (net.complete world side completion) := by
  have advance : Advance context keys side fair whole ghost ghost net _ :=
    joint.relinked relinked (not_mem_concat lawful)
  rw [List.append_nil, Function.update_eq_self] at advance
  rw [complete, completed]
  exact advance

/-- A call that is not due changes nothing. -/
theorem Joint.idle
    (side : Side) :
    Advance context keys side fair whole ghost ghost net net :=
  ⟨joint, ⟨rfl, rfl, rfl, rfl⟩, id, id, fun _ => id, fun _ => id⟩

theorem Joint.completeQuery
    (world : DualWorld Core)
    (side : Side)
    (choice : GameChoice) :
    Advance context keys side fair whole ghost ghost net
      (net.step world (.completeQuery side choice)) := by
  rw [step]
  split
  next =>
    obtain ⟨after, completed, relinked⟩ :=
      (joint.sides side).linked.completeQuery
        (world.ports side).recording choice
    exact joint.completes completed (by decide) relinked
  next => exact joint.idle side

theorem Joint.completeWrite
    (world : DualWorld Core)
    (side : Side) :
    Advance context keys side fair whole ghost ghost net
      (net.step world (.completeWrite side)) := by
  rw [step]
  split
  next writing =>
    obtain ⟨after, completed, relinked⟩ :=
      (joint.sides side).linked.completeWrite
        (world.ports side).recording writing
    exact joint.completes completed (by decide) relinked
  next => exact joint.idle side

theorem Joint.pause
    (world : DualWorld Core)
    (side : Side) :
    Advance context keys side fair whole ghost ghost net
      (net.step world (.pause side)) := by
  obtain ⟨result, after, called, lawful, device, link, unread, state, running⟩ :=
    (joint.sides side).device.pause
  rw [step, called]
  refine Advance.stays ?_ (not_mem_concat lawful) ?_ ?_
  · refine joint.relink side device ((joint.sides side).linked.transfer link)
      unread ?_ rfl
    rw [link.unissued]
  · intro _ thawed frozen
    obtain same | ready := state
    · exact thawed (same.symm.trans frozen)
    · rw [ready] at frozen
      cases frozen
  · exact fun listening => listening.transfer link running

omit joint in
/-- The frames that are not yet on the wire, with one more behind them. -/
theorem unissued_concat
    {before after : DualSessionController Core}
    {frame : Bytes}
    (writing : before.writeOutstanding = true → before.writeQueue ≠ [])
    (same : after.writeOutstanding = before.writeOutstanding)
    (queued : after.writeQueue = before.writeQueue ++ [frame]) :
    after.unissued = before.unissued ++ [frame] := by
  rw [DualSessionController.unissued, DualSessionController.unissued, same,
    queued]
  split
  next isWriting => exact List.tail_append_of_ne_nil (writing isWriting)
  next => rfl

variable {bundle : DualInputBundle}

/-- A new input of a device joins the stream to the peer. -/
theorem Joint.sends
    {frame : Nat}
    (genuine : Genuine context keys (extend ghost.sent side bundle))
    (device : controller.Device context keys side
      (extend ghost.sent side bundle) (ghost.tally side).read
      (ghost.tally side).remote frame)
    (queued : controller.writeQueue = (net.controllers side).writeQueue ++
      [frameOf bundle ((ghost.sent side).length + 1)])
    (link : DualSessionController.SameLink
      { net.controllers side with writeQueue := controller.writeQueue }
      controller)
    (unread : controller.readAccumulator =
      (net.controllers side).readAccumulator)
    (heard : 1 ≤ (ghost.tally side).read) :
    (net.withController side controller net.wire answers).Joint context keys
      (ghost.send side bundle frame) := by
  have own := joint.sides side
  have theirs := joint.sides side.other
  have announced : ghost.beacon side ≠ none := by
    intro unsent
    have unheard := (own.linked.silent unsent).2.1
    omega
  obtain ⟨beacon, isBeacon⟩ := Option.ne_none_iff_exists'.mp announced
  have ownTally : (ghost.send side bundle frame).tally side =
      { ghost.tally side with frame := frame } :=
    Function.update_self ..
  have theirTally : (ghost.send side bundle frame).tally side.other =
      ghost.tally side.other :=
    Function.update_of_ne (Side.other_ne side) ..
  have ownFrames : (ghost.send side bundle frame).frames side =
      ghost.frames side ++
        [frameOf bundle ((ghost.sent side).length + 1)] := by
    simp only [Ghost.frames, Ghost.send, extend_self, isBeacon,
      framesOf_append]
  have theirFrames : (ghost.send side bundle frame).frames side.other =
      ghost.frames side.other := by
    simp only [Ghost.frames, Ghost.send, extend_other]
  have unissued := unissued_concat own.linked.writing link.writeOutstanding
    queued
  refine ⟨genuine, (Side.forall_iff side).mpr ⟨?_, ?_⟩⟩
  · refine ⟨own.beacon, ?_, ?_, ?_, ?_⟩
    · rw [withController_self, ownTally]
      exact device
    · rw [withController_self, ownTally]
      refine ⟨?_, ?_, ?_, ?_, fun _ => heard⟩
      · rw [link.streamOpen, link.receiveStream]
        exact own.linked.opened
      · rw [link.openOutstanding, link.streamOpen]
        exact own.linked.once
      · rw [queued]
        exact fun _ => List.concat_ne_nil _ _
      · exact fun unsent => absurd unsent announced
    · rw [ownTally, theirFrames]
      exact own.reads
    · have reads := theirs.reads
      rw [Side.other_other] at reads
      rw [withController_self, withController_other, theirTally, ownFrames,
        List.drop_append_of_le_length reads, List.flatten_append, own.carries,
        unissued, List.flatten_append]
      simp only [List.append_assoc]
      rfl
  · refine ⟨theirs.beacon, ?_, ?_, ?_, ?_⟩
    · rw [withController_other, theirTally]
      exact theirs.device.peerSends
    · rw [withController_other, theirTally]
      change DualSessionController.Linked _
        (extend ghost.sent side bundle side.other) _ _
      rw [extend_other]
      exact theirs.linked
    · have reads := theirs.reads
      rw [Side.other_other] at reads ⊢
      rw [theirTally, ownFrames, List.length_append]
      exact Nat.le_add_right_of_le reads
    · have carries := theirs.carries
      rw [Side.other_other] at carries ⊢
      rw [withController_self, withController_other, ownTally, theirFrames,
        unread]
      exact carries

theorem Joint.submitLocal
    (succeeds : ∀ side, (world.ports side).Succeeds)
    (side : Side)
    (input : SessionInput) :
    ∃ later,
      Advance context keys side
        ((net.controllers side).takesInput input = true →
          ¬ (ghost.tally side).frame < (ghost.sent side).length) whole ghost
        later net (net.step world (.submitLocal side input)) := by
  have own := joint.sides side
  obtain ⟨result, after, called, lawful, submitted⟩ :=
    own.device.submitLocal (succeeds side) joint.genuine
      (fun started => joint.keyed (own.device.phase.started started)) input
  rw [step, called]
  cases submitted with
  | refused device link unread state =>
      refine ⟨ghost, Advance.stays ?_ (not_mem_concat lawful) ?_ ?_⟩
      · refine joint.relink side device (own.linked.transfer link) unread ?_ rfl
        rw [link.unissued]
      · rw [state]
        exact fun _ => id
      · exact fun listening => listening.transfer link (by rw [state]; exact id)
  | rewritten device link unread takes again state =>
      refine ⟨ghost, Advance.stays ?_ (not_mem_concat lawful) ?_ ?_⟩
      · refine joint.relink side device (own.linked.transfer link) unread ?_ rfl
        rw [link.unissued]
      · exact fun fresh => absurd again (fresh takes)
      · refine fun listening => listening.transfer link ?_
        intro running
        rw [state] at running
        cases running
  | sent bundle frame sample genuine device queued link unread further running
      state settled =>
      have heard := own.device.phase.started
        (own.device.phase.playing running).1
      refine ⟨ghost.send side bundle frame,
        joint.sends genuine device queued link unread heard,
        ⟨withController_other, extend_other, rfl, ?_⟩, id,
        not_mem_concat lawful, ?_, ?_⟩
      · exact Function.update_of_ne (Side.other_ne side) ..
      · intro _ _ frozen
        change (Function.update net.controllers side after side).simState =
          .frozen at frozen
        rw [Function.update_self, state] at frozen
        cases frozen
      · intro _ _ _
        change _ ∨ _ ∨
          (Function.update net.controllers side after side).writeQueue ≠ [] ∨ _
        rw [Function.update_self, queued]
        exact Or.inr (Or.inr (Or.inl (List.concat_ne_nil _ _)))

/-- The beacon is the first frame of the stream to the peer. -/
theorem Joint.announces
    {resource value0 : UInt64}
    (sample : Sample context keys side 0 bundle)
    (unsent : ghost.beacon side = none)
    (opened : value0 ≠ 0) :
    (net.withController side
      { (net.controllers side).opened resource value0 with
        writeQueue := (net.controllers side).writeQueue ++
          [frameOf bundle 1] } net.wire answers).Joint context keys
      (ghost.announce side bundle) := by
  have own := joint.sides side
  have theirs := joint.sides side.other
  obtain ⟨noBundles, unheard, unwanted, unasked, unwritten⟩ :=
    own.linked.silent unsent
  have ownBeacon : (ghost.announce side bundle).beacon side = some bundle :=
    Function.update_self ..
  have theirBeacon : (ghost.announce side bundle).beacon side.other =
      ghost.beacon side.other :=
    Function.update_of_ne (Side.other_ne side) ..
  have nothing : ghost.frames side = [] := by
    rw [Ghost.frames, unsent]
    rfl
  have ownFrames : (ghost.announce side bundle).frames side =
      [frameOf bundle 1] := by
    rw [Ghost.frames, ownBeacon]
    change framesOf (some bundle) (ghost.sent side) = _
    rw [noBundles]
    rfl
  have theirFrames : (ghost.announce side bundle).frames side.other =
      ghost.frames side.other := by
    rw [Ghost.frames, theirBeacon]
    rfl
  have unread : (ghost.tally side.other).read = 0 := by
    have reads := theirs.reads
    rw [Side.other_other, nothing] at reads
    exact Nat.le_zero.mp reads
  have unissued : (net.controllers side).unissued = [] := by
    rw [DualSessionController.unissued, unwritten]
    split <;> rfl
  have empty := own.carries
  rw [nothing, unissued, List.drop_nil, List.flatten_nil, List.append_nil]
    at empty
  have idle : (net.controllers side).writeOutstanding = false := by
    by_contra writing
    exact own.linked.writing (by simpa using writing) unwritten
  refine ⟨joint.genuine, (Side.forall_iff side).mpr ⟨?_, ?_⟩⟩
  · refine ⟨?_, ?_, ?_, ?_, ?_⟩
    · intro found isBeacon
      rw [ownBeacon] at isBeacon
      cases isBeacon
      exact sample
    · rw [withController_self]
      exact own.device.transfer ⟨rfl, rfl, rfl, rfl, rfl, rfl, rfl⟩
    · rw [withController_self, ownBeacon]
      refine ⟨fun _ => ⟨rfl, opened⟩, ?_, ?_, ?_, own.linked.starts⟩
      · intro opening
        cases opening
      · exact fun _ => List.concat_ne_nil _ _
      · intro isNone
        cases isNone
    · rw [theirFrames]
      exact own.reads
    · rw [withController_self, withController_other, ownFrames]
      change List.flatten (List.drop (ghost.tally side.other).read _) =
        _ ++ (net.wire side ++ _)
      rw [unread, ← List.append_assoc, ← empty]
      simp [DualSessionController.unissued, DualSessionController.opened, idle,
        unwritten]
  · refine ⟨?_, ?_, ?_, ?_, ?_⟩
    · rw [theirBeacon]
      exact theirs.beacon
    · rw [withController_other]
      exact theirs.device
    · rw [withController_other, theirBeacon]
      exact theirs.linked
    · rw [Side.other_other, ownFrames]
      change (ghost.tally side.other).read ≤ _
      rw [unread]
      exact Nat.zero_le _
    · have carries := theirs.carries
      rw [Side.other_other] at carries ⊢
      rw [withController_self, withController_other, theirFrames]
      exact carries

theorem Joint.completeOpen
    (world : DualWorld Core)
    (side : Side)
    (resource value0 : UInt64) :
    ∃ later,
      Advance context keys side fair whole ghost later net
        (net.step world (.completeOpen side resource value0)) := by
  have own := joint.sides side
  rw [step]
  split
  swap
  · exact ⟨ghost, joint.idle side⟩
  next due =>
  obtain ⟨opening, notZero, readable⟩ := due
  have closed := own.linked.once opening
  have unsent : ghost.beacon side = none := by
    by_contra announced
    rw [(own.linked.opened announced).1] at closed
    cases closed
  obtain refused | ⟨bundle, sample, queued⟩ :=
    own.device.completeOpen (world.ports side).recording
      notZero readable
  · refine ⟨ghost, joint.completes refused (by decide) ?_⟩
    refine ⟨⟨rfl, rfl, rfl, rfl, rfl, rfl, rfl⟩, ?_, rfl, rfl, id, id, Or.inl⟩
    refine ⟨fun _ => ⟨rfl, readable⟩, ?_, own.linked.writing,
      own.linked.silent, own.linked.starts⟩
    intro stillOpening
    cases stillOpening
  · rw [complete, queued]
    refine ⟨ghost.announce side bundle,
      joint.announces sample unsent readable,
      ⟨withController_other, rfl, ?_, rfl⟩, ?_, ?_, ?_, ?_⟩
    · exact Function.update_of_ne (Side.other_ne side) ..
    · exact fun announced => absurd unsent announced
    · apply not_mem_concat
      intro violation
      cases violation
    · intro _ thawed
      change (Function.update net.controllers side _ side).simState ≠ _
      rw [Function.update_self]
      exact thawed
    · intro _ _ _
      change _ ∨ _ ∨
        (Function.update net.controllers side _ side).writeQueue ≠ [] ∨ _
      rw [Function.update_self]
      exact Or.inr (Or.inr (Or.inl (List.concat_ne_nil _ _)))

/-- The device in front of what it has read and what is on its way. -/
theorem Joint.reader
    (side : Side)
    (count : Nat) :
    ({ net.controllers side with
        readOutstanding := false
        wantRead := false
        readAccumulator := (net.controllers side).readAccumulator ++
          (net.wire side.other).take count }).Reader context keys side
      ghost.sent (ghost.beacon side.other)
      ((net.wire side.other).drop count ++
        (net.controllers side.other).unissued.flatten)
      (ghost.tally side) := by
  have own := joint.sides side
  have carries := (joint.sides side.other).carries
  rw [Side.other_other] at carries
  refine ⟨own.device.transfer ⟨rfl, rfl, rfl, rfl, rfl, rfl, rfl⟩, own.reads,
    ?_⟩
  calc
    ((framesOf (ghost.beacon side.other) (ghost.sent side.other)).drop
        (ghost.tally side).read).flatten =
        (net.controllers side).readAccumulator ++
          (net.wire side.other ++
            (net.controllers side.other).unissued.flatten) := carries
    _ = ((net.controllers side).readAccumulator ++
          (net.wire side.other).take count) ++
        ((net.wire side.other).drop count ++
          (net.controllers side.other).unissued.flatten) := by
      rw [List.append_assoc, ← List.append_assoc (List.take _ _),
        List.take_append_drop]

/-- What a device has read is no longer on its way. -/
theorem Joint.counts
    {rest : Bytes}
    {tally : Tally}
    (reader : controller.Reader context keys side ghost.sent
      (ghost.beacon side.other)
      (rest ++ (net.controllers side.other).unissued.flatten) tally)
    (linked : controller.Linked (ghost.beacon side) (ghost.sent side)
      tally.read)
    (unissued : controller.unissued = (net.controllers side).unissued) :
    (net.withController side controller
      (Function.update net.wire side.other rest) answers).Joint context keys
      (ghost.count side tally) := by
  have own := joint.sides side
  have theirs := joint.sides side.other
  have ownTally : (ghost.count side tally).tally side = tally :=
    Function.update_self ..
  have theirTally : (ghost.count side tally).tally side.other =
      ghost.tally side.other :=
    Function.update_of_ne (Side.other_ne side) ..
  refine ⟨joint.genuine, (Side.forall_iff side).mpr ⟨?_, ?_⟩⟩
  · refine ⟨own.beacon, ?_, ?_, ?_, ?_⟩
    · rw [withController_self, ownTally]
      exact reader.device
    · rw [withController_self, ownTally]
      exact linked
    · rw [ownTally]
      exact reader.reads
    · rw [withController_self, withController_other, theirTally, unissued]
      change _ = _ ++ (Function.update net.wire side.other rest side ++ _)
      rw [Function.update_of_ne (Side.other_ne side).symm]
      exact own.carries
  · refine ⟨theirs.beacon, ?_, ?_, ?_, ?_⟩
    · rw [withController_other, theirTally]
      exact theirs.device
    · rw [withController_other, theirTally]
      exact theirs.linked
    · rw [theirTally]
      exact theirs.reads
    · rw [Side.other_other, withController_self, withController_other, ownTally]
      change _ = _ ++ (Function.update net.wire side.other rest side.other ++ _)
      rw [Function.update_self]
      exact reader.stream

/-- A device that has taken in a frame has all it needs for its own inputs. -/
theorem Joint.catchesUp
    {later : Tally}
    {before after : DualSessionController (Core × List DualInputBundle)}
    (device : after.Device context keys side ghost.sent later.read later.remote
      later.frame)
    (onward : DualSessionController.Onward ghost.sent side (ghost.tally side)
      later before after)
    (sameFlags : before.flags = (net.controllers side).flags)
    (sameState : before.simState = (net.controllers side).simState)
    (more : (ghost.tally side).read < later.read)
    (running : after.simState = .running) :
    (ghost.sent side).length ≤ later.remote := by
  have own := joint.sides side
  have phase := own.device.phase
  have position := (device.phase.playing running).2.2
  by_cases empty : ghost.sent side = []
  · simp [empty]
  have heard := own.linked.starts empty
  have wasRunning : (net.controllers side).simState = .running := by
    obtain same | ⟨waiting, _⟩ := onward.state
    · rw [← sameState, ← same, running]
    · rw [sameFlags] at waiting
      have unheard := (phase.waiting waiting).2.2
      omega
  have earlier := (phase.playing wasRunning).2.2
  have ahead := own.device.progress.ahead
  have theirs := own.device.progress.theirs
  omega

theorem Joint.completeRead
    (succeeds : ∀ side, (world.ports side).Succeeds)
    (side : Side)
    (count : Nat) :
    ∃ later,
      Advance context keys side fair
        ((net.controllers side).readOutstanding = true →
          kFramedInputBytes ≤ (net.controllers side).readAccumulator.length +
            ((net.wire side.other).take count).length)
        ghost later net (net.step world (.completeRead side count)) := by
  have own := joint.sides side
  rw [step]
  split
  swap
  · exact ⟨ghost, joint.idle side⟩
  next due =>
  have small : ¬ ((net.controllers side).readAccumulator ++
      (net.wire side.other).take count).length > 2 * kFramedInputBytes := by
    have limit := joint.accumulator_le side
    have taken := List.length_take_le' count (net.wire side.other)
    rw [List.length_append]
    change ¬ _ > 320
    omega
  obtain ⟨result, after, later, looped, reader, onward, lawful, _, grows⟩ :=
    (joint.reader side count).ingestLoop (succeeds side)
      (((net.controllers side).readAccumulator ++
        (net.wire side.other).take count).length + 1) (joint.peer side)
  have completed : (net.controllers side).complete
      (world.ports side).recording
      (.grantRead .ok (.ok ((net.wire side.other).take count))) =
      (result, after) := by
    rw [DualSessionController.complete]
    simp only [ne_eq, not_true_eq_false, if_false,
      DualSessionController.ingestRemoteBytes, small]
    exact looped
  have linked : after.Linked (ghost.beacon side) (ghost.sent side)
      later.read := by
    refine DualSessionController.Linked.transfer ?_ onward.link
    refine ⟨own.linked.opened, own.linked.once, own.linked.writing, ?_, ?_⟩
    · intro unsent
      have unasked := (own.linked.silent unsent).2.2.2.1
      rw [due] at unasked
      cases unasked
    · exact fun nonempty =>
        Nat.le_trans (own.linked.starts nonempty) onward.reads
  refine ⟨ghost.count side later, ?_⟩
  rw [complete, completed]
  refine ⟨joint.counts reader linked onward.link.unissued,
    ⟨withController_other, rfl, rfl, ?_⟩, id, not_mem_concat lawful, ?_, ?_⟩
  · exact Function.update_of_ne (Side.other_ne side) ..
  · intro _ thawed
    change (Function.update net.controllers side _ side).simState ≠ _
    rw [Function.update_self]
    obtain same | ⟨_, running⟩ := onward.state
    · rw [same]
      exact thawed
    · rw [running]
      decide
  · intro whole _ _
    have more := grows (by rw [List.length_append]; exact whole due)
      (Nat.succ_pos _)
    refine Or.inr (Or.inr (Or.inr ?_))
    change 1 ≤ (Function.update ghost.tally side later side).read ∧
      ((Function.update net.controllers side after side).simState = .running →
        _ ≤ (Function.update ghost.tally side later side).remote)
    rw [Function.update_self, Function.update_self]
    exact ⟨Nat.one_le_of_lt more,
      joint.catchesUp reader.device onward rfl rfl more⟩

end DualNet

end FlyNes.Dual
