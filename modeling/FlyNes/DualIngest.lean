import FlyNes.DualExchange
import FlyNes.Framing

namespace FlyNes.Dual

open ByteString

/-!
# Reading the peer's stream

The bytes a device has read and not yet taken in are the beginning of the peer's
next frames.  The loop takes in every whole frame; it stops early only on a
device that has stopped, and then the rest stays in the accumulator.
-/

variable {beacon : Option DualInputBundle} {bundles : List DualInputBundle}

theorem framesOf_sized :
    ∀ frame ∈ framesOf beacon bundles, frame.length = 160 := by
  intro frame member
  cases beacon with
  | none => cases member
  | some first =>
      simp only [framesOf, List.mem_cons, List.mem_mapIdx] at member
      obtain rfl | ⟨index, _, rfl⟩ := member
      · simp
      · simp

/-- The first frame is the beacon, and every later one a bundle. -/
theorem framesOf_getElem?
    {position : Nat}
    {frame : Bytes}
    (there : (framesOf beacon bundles)[position]? = some frame) :
    ∃ bundle batch,
      frame = frameOf bundle batch ∧
        (position = 0 → beacon = some bundle) ∧
          (position ≠ 0 → bundles[position - 1]? = some bundle) := by
  cases beacon with
  | none => simp [framesOf] at there
  | some first =>
      cases position with
      | zero =>
          simp only [framesOf, List.getElem?_cons_zero,
            Option.some.injEq] at there
          exact ⟨first, 1, there.symm, fun _ => rfl, fun later => absurd rfl later⟩
      | succ position =>
          simp only [framesOf, List.getElem?_cons_succ, List.getElem?_mapIdx,
            Option.map_eq_some_iff] at there
          obtain ⟨bundle, sentThere, rfl⟩ := there
          exact ⟨bundle, position + 1, rfl,
            fun first => absurd first (Nat.succ_ne_zero position),
            fun _ => sentThere⟩

/-- The frames of the peer read, the bundles taken in, the frames stepped. -/
structure Tally where
  read : Nat := 0
  remote : Nat := 0
  frame : Nat := 0

/-- What a device relies on about its peer. -/
structure Peer
    (context : DualInputKey)
    (keys : Side → KeyId)
    (sent : Side → List DualInputBundle)
    (beacon : Option DualInputBundle)
    (side : Side)
    (frame : Nat) : Prop where
  genuine : Genuine context keys sent
  ready : ∀ bundle, beacon = some bundle →
    Sample context keys side.other 0 bundle
  keyed : sent side.other ≠ [] → ∀ sender, allZero (keys sender) = false
  near : (sent side.other).length ≤ frame + 2

section Peer

variable {context : DualInputKey}
variable {keys : Side → KeyId}
variable {sent : Side → List DualInputBundle}
variable {beacon : Option DualInputBundle}
variable {side : Side}
variable {frame : Nat}

theorem Peer.later
    {later : Nat}
    (peer : Peer context keys sent beacon side frame)
    (further : frame ≤ later) :
    Peer context keys sent beacon side later :=
  ⟨peer.genuine, peer.ready, peer.keyed,
    Nat.le_trans peer.near (Nat.add_le_add_right further 2)⟩

/-- The next frame of the peer is a sample of the peer. -/
theorem Peer.sample
    {position : Nat}
    {bundle : DualInputBundle}
    (peer : Peer context keys sent beacon side frame)
    (first : position = 0 → beacon = some bundle)
    (next : position ≠ 0 → (sent side.other)[position - 1]? = some bundle) :
    ∃ ofFrame, Sample context keys side.other ofFrame bundle := by
  by_cases start : position = 0
  · exact ⟨0, peer.ready bundle (first start)⟩
  · exact ⟨position - 1, peer.genuine.sample side.other _ bundle (next start)⟩

end Peer

namespace DualSessionController

variable {Core : Type}
variable {context : DualInputKey}
variable {keys : Side → KeyId}
variable {side : Side}
variable {sent : Side → List DualInputBundle}
variable {beacon : Option DualInputBundle}
variable {rest : Bytes}
variable {controller :
  DualSessionController (Core × List DualInputBundle)}

/-- No frame has both samples. -/
def Settled
    (sent : Side → List DualInputBundle)
    (side : Side)
    (tally : Tally) : Prop :=
  ¬ (tally.frame < (sent side).length ∧ tally.frame < tally.remote)

/-- A device in front of the peer's stream. -/
structure Reader
    (context : DualInputKey)
    (keys : Side → KeyId)
    (side : Side)
    (sent : Side → List DualInputBundle)
    (beacon : Option DualInputBundle)
    (rest : Bytes)
    (tally : Tally)
    (controller : DualSessionController (Core × List DualInputBundle)) :
    Prop where
  device : controller.Device context keys side sent tally.read tally.remote
    tally.frame
  reads : tally.read ≤ (framesOf beacon (sent side.other)).length
  stream : ((framesOf beacon (sent side.other)).drop tally.read).flatten =
    controller.readAccumulator ++ rest

/-- What taking in frames of the peer does to a device. -/
structure Onward
    (sent : Side → List DualInputBundle)
    (side : Side)
    (tally later : Tally)
    (before after : DualSessionController (Core × List DualInputBundle)) :
    Prop where
  link : SameLink before after
  reads : tally.read ≤ later.read
  steps : tally.frame ≤ later.frame
  state : after.simState = before.simState ∨
    (before.flags.running = false ∧ after.simState = .running)
  settled : after.simState = .running →
    Settled sent side tally → Settled sent side later

theorem Onward.refl
    (sent : Side → List DualInputBundle)
    (side : Side)
    (tally : Tally)
    (controller : DualSessionController (Core × List DualInputBundle)) :
    Onward sent side tally tally controller controller :=
  ⟨SameLink.refl controller, Nat.le_refl _, Nat.le_refl _, Or.inl rfl,
    fun _ settled => settled⟩

variable {port : DualRuntimePort Core} {tally : Tally}

/-- The next frame of the peer is taken in, or lost on a stopped device. -/
theorem Device.takeRemote
    (succeeds : port.Succeeds)
    (device : controller.Device context keys side sent tally.read tally.remote
      tally.frame)
    (peer : Peer context keys sent beacon side tally.frame)
    {bundle : DualInputBundle}
    (next : tally.read ≠ 0 →
      (sent side.other)[tally.read - 1]? = some bundle) :
    ∃ result after later,
      controller.takeRemote port.recording bundle = (result, after) ∧
        after.Device context keys side sent later.read later.remote
          later.frame ∧
        after.readAccumulator = controller.readAccumulator ∧
        later.read = tally.read + 1 ∧
        Onward sent side tally later controller after ∧
        result ≠ .protocolViolation ∧
        (result = .ok ↔ after.simState = .running) := by
  by_cases waiting : controller.flags.running = false
  · obtain ⟨after, taken, deviceAfter, running, same, unread⟩ :=
      device.takeBeacon port.recording waiting bundle
    refine ⟨.ok, after, ⟨tally.read + 1, tally.remote, tally.frame⟩, taken,
      deviceAfter, unread, rfl, ?_, by decide, by simp [running]⟩
    exact ⟨same, Nat.le_succ _, Nat.le_refl _, Or.inr ⟨waiting, running⟩,
      fun _ settled => settled⟩
  have started : controller.flags.running = true := by
    simpa using waiting
  by_cases running : controller.simState = .running
  · have position := (device.phase.playing running).2.2
    have sentThere := next (by omega)
    rw [position, Nat.add_sub_cancel] at sentThere
    have nonempty : sent side.other ≠ [] := by
      intro empty
      simp [empty] at sentThere
    obtain ⟨after, later, taken, deviceAfter, stillRunning, same, unread, further,
      settled⟩ :=
      device.takeBundle succeeds peer.genuine (peer.keyed nonempty) running
        peer.near sentThere
    refine ⟨.ok, after, ⟨tally.read + 1, tally.remote + 1, later⟩, taken,
      deviceAfter, unread, rfl, ?_, by decide, by simp [stillRunning]⟩
    exact ⟨same, Nat.le_succ _, further,
      Or.inl (stillRunning.trans running.symm), fun _ _ => settled⟩
  · obtain ⟨lost, deviceAfter⟩ :=
      device.takeHalted port.recording started running bundle
    refine ⟨.invalidState, controller,
      ⟨tally.read + 1, tally.remote, tally.frame⟩, lost, deviceAfter, rfl, rfl,
      ?_, by decide, by simp [running]⟩
    exact ⟨SameLink.refl controller, Nat.le_succ _, Nat.le_refl _, Or.inl rfl,
      fun isRunning => absurd isRunning running⟩

theorem Onward.trans
    {first second third : Tally}
    {before between after :
      DualSessionController (Core × List DualInputBundle)}
    (earlier : Onward sent side first second before between)
    (later : Onward sent side second third between after)
    (running : between.simState = .running) :
    Onward sent side first third before after := by
  refine ⟨earlier.link.trans later.link, Nat.le_trans earlier.reads later.reads,
    Nat.le_trans earlier.steps later.steps, ?_, ?_⟩
  · obtain same | ⟨waiting, started⟩ := earlier.state
    · obtain stays | ⟨_, started⟩ := later.state
      · exact Or.inl (stays.trans same)
      · exact Or.inl (started.trans (running.symm.trans same))
    · obtain stays | ⟨_, starts⟩ := later.state
      · exact Or.inr ⟨waiting, stays.trans started⟩
      · exact Or.inr ⟨waiting, starts⟩
  · intro isRunning settled
    exact later.settled isRunning (earlier.settled running settled)

/-- The frames of the peer behind the next one. -/
theorem drop_framesOf
    {bundles : List DualInputBundle}
    {position : Nat}
    {frame : Bytes}
    {tail : List Bytes}
    (shape : (framesOf beacon bundles).drop position = frame :: tail) :
    (framesOf beacon bundles)[position]? = some frame ∧
      (framesOf beacon bundles).drop (position + 1) = tail := by
  refine ⟨?_, ?_⟩
  · rw [← List.head?_drop, shape]
    rfl
  · rw [← List.tail_drop, shape]
    rfl

theorem Device.withAccumulator
    {read remote frame : Nat}
    (device : controller.Device context keys side sent read remote frame)
    (bytes : Bytes) :
    ({ controller with readAccumulator := bytes }).Device context keys side sent
      read remote frame :=
  ⟨⟨device.bound.binding, device.bound.owners, device.bound.seat⟩,
    device.scheduler, device.phase, device.progress, device.room, device.older,
    device.batch⟩

theorem Onward.ofAccumulator
    {tally later : Tally}
    {bytes : Bytes}
    {after : DualSessionController (Core × List DualInputBundle)}
    (onward : Onward sent side tally later
      { controller with readAccumulator := bytes } after) :
    Onward sent side tally later controller after :=
  ⟨⟨onward.link.writeQueue, onward.link.streamOpen, onward.link.openOutstanding,
      onward.link.writeOutstanding, onward.link.readOutstanding,
      onward.link.wantRead, onward.link.receiveStream⟩,
    onward.reads, onward.steps, onward.state, onward.settled⟩

/-- Whole frames are taken in; a part of a frame stays in the accumulator. -/
theorem Reader.ingestLoop
    (succeeds : port.Succeeds)
    (fuel : Nat)
    (reader : controller.Reader context keys side sent beacon rest tally)
    (peer : Peer context keys sent beacon side tally.frame) :
    ∃ result after later,
      controller.ingestLoop port.recording fuel = (result, after) ∧
        after.Reader context keys side sent beacon rest later ∧
        Onward sent side tally later controller after ∧
        result ≠ .protocolViolation ∧
        (controller.readAccumulator.length < fuel →
          after.simState = .running →
            after.readAccumulator.length < 160) ∧
        (160 ≤ controller.readAccumulator.length →
          0 < fuel → tally.read < later.read) := by
  induction fuel generalizing controller tally with
  | zero =>
      refine ⟨.ok, controller, tally, rfl, reader, Onward.refl _ _ _ _,
        by decide, ?_, ?_⟩
      · intro negative
        exact absurd negative (Nat.not_lt_zero _)
      · intro _ positive
        exact absurd positive (Nat.lt_irrefl 0)
  | succ fuel inductionHypothesis =>
      obtain ⟨short, part⟩ | ⟨bytes, tail, back, isNext, whole, remaining⟩ :=
        Framing.flatten_cases (by decide)
          (fun frame member => framesOf_sized frame (List.mem_of_mem_drop member))
          reader.stream
      · have isPart : ∃ bundle batch, controller.readAccumulator =
            (frameOf bundle batch).take controller.readAccumulator.length := by
          obtain empty | ⟨bytes, tail, isNext, taken⟩ := part
          · exact ⟨{}, 0, by simp [empty]⟩
          · obtain ⟨bundle, batch, rfl, _⟩ :=
              framesOf_getElem? (drop_framesOf isNext).1
            exact ⟨bundle, batch, taken⟩
        obtain ⟨bundle, batch, taken⟩ := isPart
        refine ⟨.ok, controller, tally,
          ingestLoop_part _ _ taken short, reader,
          Onward.refl _ _ _ _, by decide, fun _ _ => short, ?_⟩
        intro whole
        omega
      · obtain ⟨there, behind⟩ := drop_framesOf isNext
        obtain ⟨bundle, batch, rfl, first, next⟩ := framesOf_getElem? there
        obtain ⟨ofFrame, sample⟩ := peer.sample first next
        obtain ⟨result, after, later, taken, device, unread, position, onward,
          lawful, isOk⟩ :=
          (reader.device.withAccumulator back).takeRemote succeeds peer next
        have round := ingestLoop_frame port.recording fuel
          reader.device.bound sample whole taken
        have following : after.Reader context keys side sent beacon rest later := by
          refine ⟨device, ?_, ?_⟩
          · rw [position]
            exact (List.getElem?_eq_some_iff.mp there).1
          · rw [unread, position, behind]
            exact remaining
        by_cases accepted : result = .ok
        · rw [if_pos accepted] at round
          have running := isOk.mp accepted
          obtain ⟨lastResult, last, lastTally, looped, lastReader, lastOnward,
            lastLawful, drained, _⟩ :=
            inductionHypothesis following (peer.later onward.steps)
          refine ⟨lastResult, last, lastTally, round.trans looped, lastReader,
            (onward.trans lastOnward running).ofAccumulator, lastLawful, ?_, ?_⟩
          · intro enough
            apply drained
            have longer := congrArg List.length whole
            rw [List.length_append, length_frameOf] at longer
            rw [unread]
            change back.length < fuel
            omega
          · intro _ _
            have reads := lastOnward.reads
            omega
        · refine ⟨result, after, later, ?_, following, onward.ofAccumulator,
            lawful, ?_, fun _ _ => by omega⟩
          · rw [round, if_neg accepted]
          · intro _ running
            exact absurd (isOk.mpr running) accepted

end DualSessionController

end FlyNes.Dual
