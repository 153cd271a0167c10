import FlyNes.DualIngest

namespace FlyNes.Dual

open ByteString

/-!
# The own input of a device

The first input a device gets for a frame is sent to the peer and taken in.  A
second one for the same frame has other sample numbers; the window takes it for
an attempt to rewrite history, and the scheduler freezes.
-/

/-- One more bundle of a device. -/
def extend
    (sent : Side → List DualInputBundle)
    (side : Side)
    (bundle : DualInputBundle) : Side → List DualInputBundle :=
  Function.update sent side (sent side ++ [bundle])

section Extend

variable {context : DualInputKey}
variable {keys : Side → KeyId}
variable {sent : Side → List DualInputBundle}
variable {side : Side}
variable {bundle : DualInputBundle}

@[simp]
theorem extend_self :
    extend sent side bundle side = sent side ++ [bundle] := by
  simp [extend]

@[simp]
theorem extend_other :
    extend sent side bundle side.other = sent side.other := by
  simp [extend, side.other_ne]

theorem extend_grows
    (sent : Side → List DualInputBundle)
    (side : Side)
    (bundle : DualInputBundle)
    (sender : Side) :
    sent sender <+: extend sent side bundle sender := by
  obtain rfl | rfl := sender.eq_or_other side
  · rw [extend_self]
    exact List.prefix_append _ _
  · rw [extend_other]

theorem Genuine.extend
    (genuine : Genuine context keys sent)
    (sample : Sample context keys side (sent side).length bundle)
    (narrow : (sent side).length + 1 < 2 ^ 62) :
    Genuine context keys (extend sent side bundle) := by
  refine ⟨?_, ?_⟩
  · intro sender frame found there
    obtain rfl | rfl := sender.eq_or_other side
    · rw [extend_self, List.getElem?_append] at there
      split at there
      · exact genuine.sample sender frame found there
      next later =>
        obtain ⟨position, rfl⟩ : frame - (sent sender).length = 0 ∧
            bundle = found := by
          rw [List.getElem?_singleton] at there
          split at there
          next isNew => exact ⟨isNew, Option.some.inj there⟩
          next => cases there
        have last : frame = (sent sender).length := by
          omega
        rw [last]
        exact sample
    · rw [extend_other] at there
      exact genuine.sample _ frame found there
  · rw [Side.forall_iff side, extend_self, extend_other]
    refine ⟨?_, genuine.narrow side.other⟩
    rw [List.length_append]
    exact narrow

theorem received_extend
    (remote : Nat) :
    Function.update (received sent side remote) side
        ((sent side).length + 1) =
      received (extend sent side bundle) side remote := by
  funext sender
  obtain rfl | rfl := sender.eq_or_other side
  · simp
  · rw [Function.update_of_ne (Side.other_ne side), received_other,
      received_other]

end Extend

/-- A scheduler that freezes does not change the rest. -/
theorem Phase.freeze
    {read remote : Nat}
    {flags : RunFlags}
    {state : DualSimState}
    (phase : Phase read remote flags state)
    (started : flags.running = true) :
    Phase read remote flags .frozen := by
  refine ⟨phase.loaded, phase.thawed, ?_, phase.started, ?_,
    fun _ _ => Or.inr rfl, phase.behind⟩
  · intro notRunning
    rw [started] at notRunning
    cases notRunning
  · intro running
    cases running

namespace DualSessionController

variable {Core : Type}
variable {context : DualInputKey}
variable {keys : Side → KeyId}
variable {side : Side}
variable {sent : Side → List DualInputBundle}
variable {read remote frame : Nat}
variable {controller :
  DualSessionController (Core × List DualInputBundle)}

/-- A report has increasing sample numbers from the own counter on. -/
theorem samplesOf_sequence
    {base : UInt64}
    (room : ¬ base.toNat > 2 ^ 64 - 1 - 4)
    (input : SessionInput)
    (seat port : Port) :
    (samplesOf input seat base port).sequence.toNat =
      base.toNat + port.val := by
  have small := port.isLt
  simp only [samplesOf, UInt64.toNat_add, UInt64.toNat_ofNat']
  change port.val < 4 at small
  omega

/-- The own counter has moved on. -/
theorem Device.withSequence
    (device : controller.Device context keys side sent read remote frame)
    {next : UInt64}
    (further : controller.localSequence.toNat ≤ next.toNat) :
    ({ controller with localSequence := next }).Device context keys side sent
      read remote frame := by
  refine ⟨⟨device.bound.binding, device.bound.owners, device.bound.seat⟩,
    device.scheduler, device.phase, device.progress, ?_, ?_, device.batch⟩
  · exact Nat.lt_of_lt_of_le device.room further
  · intro bundle member
    exact Nat.lt_of_lt_of_le (device.older bundle member) further

/-- An input that is not refused at once. -/
def takesInput
    (input : SessionInput)
    (controller : DualSessionController Core) : Bool :=
  controller.flags.running && !controller.flags.frozen &&
    !controller.flags.paused &&
    decide (input.expectedSeatRevision = controller.context.seatRevision) &&
    decide (controller.localSequence ≠ 0) &&
    decide (controller.localSequence.toNat ≤ 2 ^ 64 - 1 - 4)

/-- What an input of the own player does to a device. -/
inductive Submitted
    (context : DualInputKey)
    (keys : Side → KeyId)
    (side : Side)
    (sent : Side → List DualInputBundle)
    (read remote frame : Nat)
    (input : SessionInput)
    (before after : DualSessionController (Core × List DualInputBundle)) :
    Prop where
  | refused
      (device : after.Device context keys side sent read remote frame)
      (link : SameLink before after)
      (unread : after.readAccumulator = before.readAccumulator)
      (state : after.simState = before.simState)
  | rewritten
      (device : after.Device context keys side sent read remote frame)
      (link : SameLink before after)
      (unread : after.readAccumulator = before.readAccumulator)
      (takes : before.takesInput input = true)
      (again : frame < (sent side).length)
      (state : after.simState = .frozen)
  | sent
      (bundle : DualInputBundle)
      (later : Nat)
      (sample : Sample context keys side (sent side).length bundle)
      (genuine : Genuine context keys (extend sent side bundle))
      (device : after.Device context keys side (extend sent side bundle) read
        remote later)
      (queued : after.writeQueue = before.writeQueue ++
        [frameOf bundle ((sent side).length + 1)])
      (link : SameLink { before with writeQueue := after.writeQueue } after)
      (unread : after.readAccumulator = before.readAccumulator)
      (further : frame ≤ later)
      (running : before.simState = .running)
      (state : after.simState = .running)
      (settled : ¬ (later < (extend sent side bundle side).length ∧
        later < remote))

variable {bundle : DualInputBundle}

/-- A bundle that can be encoded is framed whole. -/
theorem queueFrame_encoded
    (controller : DualSessionController (Core × List DualInputBundle))
    {ofFrame : Nat}
    (sample : Sample context keys side ofFrame bundle)
    {batch : UInt64}
    (positive : batch ≠ 0) :
    queueFrame bundle batch controller =
      (.ok,
        { controller with
          writeQueue := controller.writeQueue ++
            [Wire.recordBytes kCanonicalInputTag
              (inputRecord bundle
                { authorityTerm := 1
                  modeGeneration := 1
                  batchSequence := batch })] }) := by
  simp only [queueFrame, sample.encode positive,
    encodeAppFrame_input (length_inputRecord bundle _), Wire.length_recordBytes,
    length_inputRecord]
  rfl

/-- A sample is queued as its frame. -/
theorem queueFrame_sample
    (controller : DualSessionController (Core × List DualInputBundle))
    {ofFrame count : Nat}
    (sample : Sample context keys side ofFrame bundle)
    (batch : controller.batchSequence.toNat = count + 1)
    (next : UInt64) :
    queueFrame bundle controller.batchSequence
        { controller with batchSequence := next } =
      (.ok,
        { controller with
          batchSequence := next
          writeQueue := controller.writeQueue ++
            [frameOf bundle (count + 1)] }) := by
  have positive : controller.batchSequence ≠ 0 := by
    intro zero
    rw [zero] at batch
    cases batch
  have number : UInt64.ofNat (count + 1) = controller.batchSequence := by
    rw [← batch, UInt64.ofNat_toNat]
  rw [queueFrame_encoded _ sample positive, frameOf, number]

theorem checkedDualNextSequence_of_small
    {current : UInt64}
    {count : Nat}
    (position : current.toNat = count + 1)
    (small : count + 1 < 2 ^ 62) :
    checkedDualNextSequence current = some (current + 1) ∧
      (current + 1).toNat = count + 2 := by
  refine ⟨?_, ?_⟩
  · rw [checkedDualNextSequence, if_neg]
    rintro (zero | last)
    · rw [zero] at position
      cases position
    · omega
  · rw [UInt64.toNat_add, UInt64.toNat_one]
    omega

variable {scheduler : DualRunScheduler (Core × List DualInputBundle)}

variable (device : controller.Device context keys side sent read remote frame)

include device

/-- The bundle a device builds of its input. -/
theorem Device.build
    (next : scheduler.nextFrame = UInt64.ofNat frame)
    (samples : DualPortInputArray) :
    canonicalInputBuild
        { controller.context with frameIndex := scheduler.nextFrame }
        (UInt8.ofNat controller.localSeat)
        (controller.owners controller.localSeat).signingKeyId samples =
      canonicalInputBuild { context with frameIndex := UInt64.ofNat frame }
        (UInt8.ofNat side.seat) (keys side) samples := by
  rw [device.bound.binding, device.bound.seat, device.bound.owners,
    seating_seat, next]

variable {samples : DualPortInputArray}

/-- The first input for a frame is taken in and queued. -/
theorem Device.queueFirst
    (genuine : Genuine context keys sent)
    (lockstep : scheduler.Lockstep context keys sent
      (received sent side remote) frame)
    (running : scheduler.state = .running)
    (fresh : (sent side).length = frame)
    (narrow : (sent side).length + 1 < 2 ^ 62)
    (built : canonicalInputBuild
      { context with frameIndex := UInt64.ofNat frame }
      (UInt8.ofNat side.seat) (keys side) samples = .ok bundle) :
    ∃ taken next,
      queueLocalBundle samples scheduler controller =
          (.ok,
            { controller with
              scheduler := some taken
              batchSequence := next
              writeQueue := controller.writeQueue ++
                [frameOf bundle ((sent side).length + 1)] }) ∧
        taken.state = .running ∧
        taken.Lockstep context keys (extend sent side bundle)
          (received (extend sent side bundle) side remote) frame ∧
        next.toNat = (sent side).length + 2 := by
  have sample := sample_of_build built
  have keyed := (canonicalInputBuild_ok built).2.2.2.2.1
  have grown : scheduler.Lockstep context keys (extend sent side bundle)
      (received sent side remote) frame := by
    refine lockstep.append device.progress.received_le ?_
      (extend_grows sent side bundle)
    exact (Side.forall_iff side).mpr ⟨device.progress.own,
      Nat.le_trans device.progress.theirs device.progress.reach⟩
  have more : Genuine context keys (extend sent side bundle) := by
    apply genuine.extend _ narrow
    rw [fresh]
    exact sample
  obtain ⟨taken, accepted, stillRunning, inStep⟩ :=
    grown.acceptRemoteInput more running side
      (by rw [received_self, extend_self, List.getElem?_concat_length]) keyed
      (by rw [received_self]; exact device.progress.own)
      (by rw [received_self]; omega)
  rw [received_self, received_extend] at inStep
  obtain ⟨checked, next⟩ :=
    checkedDualNextSequence_of_small device.batch narrow
  refine ⟨taken, controller.batchSequence + 1, ?_, stillRunning, inStep, next⟩
  have localAccepted :
      scheduler.acceptLocalInput samples (UInt8.ofNat controller.localSeat) =
        (.accepted, .accepted, taken) := by
    rw [device.bound.seat, lockstep.acceptLocalInput running built, accepted]
  simp only [queueLocalBundle, device.build lockstep.next, built,
    localAccepted, checked]
  have queued := queueFrame_sample
    { controller with scheduler := some taken } sample device.batch
    (controller.batchSequence + 1)
  simpa using queued

/-- A second input for a frame freezes the scheduler. -/
theorem Device.queueAgain
    (genuine : Genuine context keys sent)
    (lockstep : scheduler.Lockstep context keys sent
      (received sent side remote) frame)
    (running : scheduler.state = .running)
    (again : frame < (sent side).length)
    (built : canonicalInputBuild
      { context with frameIndex := UInt64.ofNat frame }
      (UInt8.ofNat side.seat) (keys side) samples = .ok bundle)
    (newer : ∀ old ∈ sent side,
      (old.ports side.seat).inputSequence ≠
        (samples side.seat).sequence) :
    ∃ frozen,
      queueLocalBundle samples scheduler controller =
          (.invalidState, { controller with scheduler := some frozen }) ∧
        frozen.state = .frozen ∧
        frozen.Lockstep context keys sent (received sent side remote)
          frame := by
  have sample := sample_of_build built
  obtain ⟨_, _, _, _, keyed, numbers, _⟩ := canonicalInputBuild_ok built
  have there := List.getElem?_eq_getElem again
  obtain ⟨frozen, refused, isFrozen, inStep⟩ :=
    lockstep.resubmit genuine running there (by rw [received_self]; exact again)
      sample keyed (by
        rw [numbers]
        exact newer _ (List.getElem_mem again))
  refine ⟨frozen, ?_, isFrozen, inStep⟩
  have localRefused :
      scheduler.acceptLocalInput samples (UInt8.ofNat controller.localSeat) =
        (.invalidState, .rejectedEquivocation, frozen) := by
    rw [device.bound.seat, lockstep.acceptLocalInput running built, refused]
  simp [queueLocalBundle, device.build lockstep.next, built, localRefused]

/-- A stopped device takes no input. -/
theorem Device.queueHalted
    (isScheduler : controller.scheduler = some scheduler)
    (lockstep : scheduler.Lockstep context keys sent
      (received sent side remote) frame)
    (halted : scheduler.state ≠ .running)
    (built : canonicalInputBuild
      { context with frameIndex := UInt64.ofNat frame }
      (UInt8.ofNat side.seat) (keys side) samples = .ok bundle) :
    queueLocalBundle samples scheduler controller =
      (.invalidState, controller) := by
  have refused := DualRunScheduler.acceptLocalInput_halted lockstep.inUse
    halted samples (UInt8.ofNat controller.localSeat)
  simp [queueLocalBundle, device.build lockstep.next, built, refused]
  rw [← isScheduler]

omit device in
/-- An input is refused at once, or goes on to the queue. -/
theorem submitLocal_cases
    {port : DualRuntimePort (Core × List DualInputBundle)}
    (isScheduler : controller.scheduler = some scheduler)
    (input : SessionInput) :
    (∃ result,
        controller.submitLocal port input = (result, controller) ∧
          result ≠ .protocolViolation) ∨
      (controller.takesInput input = true ∧
        controller.flags.running = true ∧
        ¬ controller.localSequence.toNat > 2 ^ 64 - 1 - 4 ∧
        controller.submitLocal port input =
          thenStep port
            (queueLocalBundle
              (samplesOf input controller.localSeat controller.localSequence)
              scheduler
              { controller with
                localSequence := controller.localSequence + 4 })) := by
  unfold submitLocal
  by_cases closed : (!controller.flags.running || controller.flags.frozen ||
      controller.flags.paused) = true
  · rw [if_pos closed]
    exact Or.inl ⟨_, rfl, by decide⟩
  rw [if_neg closed]
  simp only [Bool.or_eq_true, Bool.not_eq_true', not_or,
    Bool.not_eq_false] at closed
  simp only [isScheduler]
  by_cases stale :
      input.expectedSeatRevision ≠ controller.context.seatRevision
  · rw [if_pos stale]
    exact Or.inl ⟨_, rfl, by decide⟩
  rw [if_neg stale]
  by_cases exhausted : controller.localSequence = 0 ∨
      controller.localSequence.toNat > 2 ^ 64 - 1 - 4
  · rw [if_pos exhausted]
    exact Or.inl ⟨_, rfl, by decide⟩
  rw [if_neg exhausted]
  rw [not_or] at exhausted
  refine Or.inr ⟨?_, closed.1.1, exhausted.2, rfl⟩
  rw [ne_eq, not_not] at stale
  have small := Nat.not_lt.mp exhausted.2
  simp only [takesInput, closed, stale, exhausted.1, small, decide_true,
    Bool.and_true, ne_eq, not_false_eq_true]
  simp

/-- The sample numbers of a new input are not in use yet. -/
theorem Device.newer
    (room : ¬ controller.localSequence.toNat > 2 ^ 64 - 1 - 4)
    (input : SessionInput)
    (old : DualInputBundle)
    (member : old ∈ sent side) :
    (old.ports side.seat).inputSequence ≠
      (samplesOf input side.seat controller.localSequence
        side.seat).sequence := by
  intro same
  have older := device.older old member
  have number := samplesOf_sequence room input side.seat side.seat
  rw [← same] at number
  omega

/-- A device that has taken in and queued its input for the next frame. -/
theorem Device.queued
    {scheduler taken : DualRunScheduler (Core × List DualInputBundle)}
    (isScheduler : controller.scheduler = some scheduler)
    (running : scheduler.state = .running)
    (fresh : (sent side).length = frame)
    (room : ¬ controller.localSequence.toNat > 2 ^ 64 - 1 - 4)
    {input : SessionInput}
    (built : canonicalInputBuild
      { context with frameIndex := UInt64.ofNat frame }
      (UInt8.ofNat side.seat) (keys side)
      (samplesOf input side.seat controller.localSequence) = .ok bundle)
    (stillRunning : taken.state = .running)
    (inStep : taken.Lockstep context keys (extend sent side bundle)
      (received (extend sent side bundle) side remote) frame)
    {number : UInt64}
    (batch : number.toNat = (sent side).length + 2)
    (queue : List Bytes) :
    ({ controller with
        localSequence := controller.localSequence + 4
        scheduler := some taken
        batchSequence := number
        writeQueue := queue }).Device context keys side
      (extend sent side bundle) read remote frame := by
  have next : (controller.localSequence + 4).toNat =
      controller.localSequence.toNat + 4 := by
    have four : (4 : UInt64).toNat = 4 := rfl
    rw [UInt64.toNat_add, four]
    omega
  have length : (extend sent side bundle side).length =
      (sent side).length + 1 := by
    rw [extend_self, List.length_append]
    rfl
  have progress := device.progress
  have state : controller.simState = .running := by
    rw [simState, isScheduler]
    exact running
  refine ⟨⟨device.bound.binding, device.bound.owners, device.bound.seat⟩,
    ⟨taken, rfl, inStep⟩, ?_, ?_, ?_, ?_, ?_⟩
  · have phase := device.phase
    rw [state, ← stillRunning] at phase
    exact phase
  · refine ⟨?_, ?_, progress.theirs, ?_⟩
    · rw [length]
      omega
    · rw [length]
      omega
    · rw [extend_other]
      exact progress.reach
  · have ownRoom := device.room
    rw [length, next]
    omega
  · intro old member
    rw [extend_self, List.mem_append, List.mem_singleton] at member
    rw [next]
    obtain earlier | rfl := member
    · have older := device.older old earlier
      omega
    · rw [(canonicalInputBuild_ok built).2.2.2.2.2.1,
        samplesOf_sequence room input side.seat side.seat]
      have small := side.seat_lt
      omega
  · rw [length, batch]

/-- Everything an input of the own player can do. -/
theorem Device.submitLocal
    {port : DualRuntimePort Core}
    (succeeds : port.Succeeds)
    (genuine : Genuine context keys sent)
    (heard : controller.flags.running = true →
      allZero (keys side.other) = false)
    (input : SessionInput) :
    ∃ result after,
      controller.submitLocal port.recording input = (result, after) ∧
        result ≠ .protocolViolation ∧
        Submitted context keys side sent read remote frame input controller
          after := by
  obtain ⟨scheduler, isScheduler, lockstep⟩ := device.scheduler
  obtain ⟨result, refused, lawful⟩ | ⟨takes, started, room, queues⟩ :=
    submitLocal_cases isScheduler input
  · exact ⟨result, controller, refused, lawful,
      .refused device (SameLink.refl controller) rfl rfl⟩
  rw [queues]
  have next : (controller.localSequence + 4).toNat =
      controller.localSequence.toNat + 4 := by
    have four : (4 : UInt64).toNat = 4 := rfl
    rw [UInt64.toNat_add, four]
    omega
  have counted : ({ controller with
      localSequence := controller.localSequence + 4 }).Device context keys side
        sent read remote frame :=
    device.withSequence (by omega)
  have ownSamples :
      samplesOf input controller.localSeat controller.localSequence =
        samplesOf input side.seat controller.localSequence := by
    rw [device.bound.seat]
  rw [ownSamples]
  cases built : canonicalInputBuild
      { context with frameIndex := UInt64.ofNat frame }
      (UInt8.ofNat side.seat) (keys side)
      (samplesOf input side.seat controller.localSequence) with
  | error status =>
      have refused : queueLocalBundle
          (samplesOf input side.seat controller.localSequence) scheduler
          { controller with
            localSequence := controller.localSequence + 4 } =
          (.invalidArgument,
            { controller with
              localSequence := controller.localSequence + 4 }) := by
        rw [queueLocalBundle, counted.build lockstep.next, built]
      rw [refused]
      refine ⟨_, _, rfl, by decide, .refused counted ?_ rfl rfl⟩
      exact ⟨rfl, rfl, rfl, rfl, rfl, rfl, rfl⟩
  | ok bundle =>
      by_cases running : scheduler.state = .running
      swap
      · rw [counted.queueHalted isScheduler lockstep running built]
        refine ⟨_, _, rfl, by decide, .refused counted ?_ rfl rfl⟩
        exact ⟨rfl, rfl, rfl, rfl, rfl, rfl, rfl⟩
      by_cases again : frame < (sent side).length
      · obtain ⟨frozen, refused, isFrozen, inStep⟩ :=
          counted.queueAgain genuine lockstep running again built
            (device.newer room input)
        rw [refused]
        refine ⟨_, _, rfl, by decide, .rewritten ?_ ?_ rfl takes again isFrozen⟩
        · refine ⟨⟨device.bound.binding, device.bound.owners,
            device.bound.seat⟩, ⟨frozen, rfl, inStep⟩, ?_, device.progress,
            counted.room, counted.older, device.batch⟩
          change Phase read remote controller.flags frozen.state
          rw [isFrozen]
          exact device.phase.freeze started
        · exact ⟨rfl, rfl, rfl, rfl, rfl, rfl, rfl⟩
      · have fresh : (sent side).length = frame :=
          Nat.le_antisymm (Nat.not_lt.mp again) device.progress.own
        have narrow : (sent side).length + 1 < 2 ^ 62 := by
          have ownRoom := device.room
          omega
        obtain ⟨taken, number, queued, stillRunning, inStep, batch⟩ :=
          counted.queueFirst genuine lockstep running fresh narrow built
        have grown := device.queued isScheduler running fresh room built
          stillRunning inStep batch
          (controller.writeQueue ++ [frameOf bundle ((sent side).length + 1)])
        have sample : Sample context keys side (sent side).length bundle := by
          rw [fresh]
          exact sample_of_build built
        have more := genuine.extend sample narrow
        have keyed : ∀ sender, allZero (keys sender) = false :=
          (Side.forall_iff side).mpr ⟨sample.keyed, heard started⟩
        obtain ⟨after, later, stepped, deviceAfter, isRunning, same, unread,
          further, settled⟩ := grown.tryStep succeeds more keyed stillRunning
        rw [queued, thenStep, stepped]
        refine ⟨.ok, after, rfl, by decide,
          .sent bundle later sample more deviceAfter same.writeQueue ?_ unread
            further ?_ isRunning settled⟩
        · exact ⟨rfl, same.streamOpen, same.openOutstanding,
            same.writeOutstanding, same.readOutstanding, same.wantRead,
            same.receiveStream⟩
        · rw [simState, isScheduler]
          exact running

end DualSessionController

end FlyNes.Dual
