import FlyNes.DualMoves

namespace FlyNes.Dual

/-!
# Runs of a dual session

Two devices that were started on the same session keep the invariant whatever
calls are made on them.
-/

namespace DualSetup

/-- What the inputs of a session are bound to. -/
def context (setup : DualSetup) : DualInputKey :=
  { sessionId := setup.sessionId
    branchId := setup.branchId
    timelineEpoch := 1
    seatRevision := 1 }

/-- The keys of the two devices. -/
def keys (setup : DualSetup) (side : Side) : KeyId :=
  ownerKey (setup.publicKey side)

/-- Both devices seat the two players alike. -/
theorem ownersOf_inputs
    (setup : DualSetup)
    (side : Side) :
    DualSessionController.ownersOf (setup.inputs side) = seating setup.keys := by
  cases side <;> rfl

end DualSetup

variable {config : PendingConfig} {flags : RunFlags} {inputs : DualStartInputs}

/-- A start is always on the first timeline. -/
theorem PendingConfig.readStartRef_epoch
    {expected : DualStartRef}
    (read : config.readStartRef flags inputs = .ok expected) :
    expected.content.timelineEpoch = 1 := by
  unfold PendingConfig.readStartRef at read
  split at read
  · cases read
  split at read
  · cases read
  split at read
  · cases read
  split at read
  · cases read
  · cases read
    rfl

theorem PendingConfig.readStartRef_ne_ok :
    config.readStartRef flags inputs ≠ .error .ok := by
  intro read
  unfold PendingConfig.readStartRef at read
  split at read
  · cases read
  split at read
  · cases read
  split at read
  · cases read
  split at read
  · cases read
  · cases read

/-- A scheduler that has loaded its runtime and bound its window. -/
theorem DualRunScheduler.begin_ok
    {Core : Type}
    {port : DualRuntimePort Core}
    {content : DualContentRef}
    {context : DualInputKey}
    {owners : Port → DualOwnerKey}
    {before after : DualRunScheduler Core}
    (begun : before.begin_ port .dual content context owners = (.ok, after)) :
    ∃ window,
      before.window.begin_ context owners = (.ok, window) ∧
        after =
          { core := (port.load content before.core).2
            window := window
            state := .ready
            mode := .dual
            content := content
            context := context } := by
  unfold DualRunScheduler.begin_ at begun
  split at begun
  next refused => exact absurd rfl refused
  split at begun
  · cases begun
  simp only at begun
  split at begun
  next failed => exact absurd (congrArg Prod.fst begun) failed
  split at begun
  next window bound =>
    cases begun
    exact ⟨window, bound, rfl⟩
  next => cases begun

namespace DualSessionController

variable {Core : Type}
variable {controller :
  DualSessionController (Core × List DualInputBundle)}

variable {port : DualRuntimePort Core} {core : Core}

/-- What a controller is once it has been started. -/
theorem startDual_ok
    {before after : DualSessionController Core}
    {inputs : DualStartInputs}
    (begun : before.startDual port inputs core = (.ok, after)) :
    ∃ window content,
      DualInputWindow.begin_
          { sessionId := inputs.sessionId
            branchId := inputs.branchId
            timelineEpoch := 1
            seatRevision := 1 } (ownersOf inputs) {} = (.ok, window) ∧
        after =
          { before with
            scheduler := some
              { core := (port.load content core).2
                window := window
                state := .ready
                mode := .dual
                content := content
                context :=
                  { sessionId := inputs.sessionId
                    branchId := inputs.branchId
                    timelineEpoch := 1
                    seatRevision := 1 } }
            context :=
              { sessionId := inputs.sessionId
                branchId := inputs.branchId
                timelineEpoch := 1
                seatRevision := 1 }
            content := content
            owners := ownersOf inputs
            localSeat := if inputs.localIsInitiator then 0 else 1
            localSequence := 1
            batchSequence := 1
            lastDigest := {}
            connection := inputs.quicConnection
            localIsListener := inputs.localIsListener
            wantStream := true
            streamOpen := false
            wantRead := false
            flags := { localRuntimeReady := true }
            peerRuntimeReady := false
            freezeReason := .none } := by
  unfold startDual at begun
  split at begun
  next refused isRefused =>
    cases begun
    exact absurd isRefused PendingConfig.readStartRef_ne_ok
  next expected read =>
  have epoch := PendingConfig.readStartRef_epoch read
  simp only [epoch] at begun
  split at begun
  · cases begun
  split at begun
  next scheduler started =>
    obtain ⟨window, bound, rfl⟩ := DualRunScheduler.begin_ok started
    cases begun
    exact ⟨window, expected.content, bound, rfl⟩
  next refused _ notOk _ =>
    cases begun
    exact absurd rfl notOk

/-- The device has the sample of a port for its next frame. -/
def holdsSample
    (controller : DualSessionController Core)
    (port : Port) : Bool :=
  match controller.scheduler with
  | none => false
  | some scheduler =>
      (scheduler.window.ensureRecord scheduler.nextFrame).provided port

/-- A device that has just been started has not sent or read anything. -/
theorem Unstarted.device
    {before after : DualSessionController (Core × List DualInputBundle)}
    {setup : DualSetup}
    {side : Side}
    (unstarted : before.Unstarted)
    (begun : before.startDual port.recording (setup.inputs side) (core, []) =
      (.ok, after)) :
    after.Device setup.context setup.keys side (fun _ => []) 0 0 0 ∧
      after.Linked none [] 0 ∧
      after.readAccumulator = [] ∧
      after.unissued = [] ∧
      after.simState = .ready := by
  obtain ⟨window, content, bound, rfl⟩ := startDual_ok begun
  rw [setup.ownersOf_inputs] at bound
  have lockstep := DualInputWindow.lockstep_begin bound
  rw [unstarted, setup.ownersOf_inputs]
  refine ⟨⟨⟨rfl, rfl, ?_⟩, ⟨_, rfl, ?_, rfl, rfl, rfl⟩, ?_, ?_, ?_, ?_, rfl⟩, ?_,
    rfl, rfl, rfl⟩
  · cases side <;> rfl
  · have nothing : received (fun _ => []) side 0 = fun _ => 0 := by
      funext sender
      obtain rfl | rfl := sender.eq_or_other side
      · rw [received_self]
        rfl
      · rw [received_other]
    rw [nothing]
    exact lockstep
  · refine ⟨rfl, rfl, fun _ => ⟨rfl, rfl, rfl⟩, ?_, ?_, ?_, Nat.le_refl 0⟩
    · intro running
      cases running
    · intro running
      cases running
    · intro running
      cases running
  · exact ⟨Nat.le_refl 0, Nat.zero_le 1, Nat.le_refl 0, Nat.le_refl 0⟩
  · exact Nat.zero_lt_one
  · intro bundle member
    cases member
  · refine ⟨?_, ?_, ?_, fun _ => ⟨rfl, rfl, rfl, rfl, rfl⟩, ?_⟩
    · exact fun announced => absurd rfl announced
    · intro opening
      cases opening
    · intro writing
      cases writing
    · exact fun nonempty => absurd rfl nonempty

end DualSessionController

/-- The device a call is made on. -/
def DualMove.side : DualMove → Side
  | .submitLocal side _ => side
  | .pause side => side
  | .pollEffect side => side
  | .completeQuery side _ => side
  | .completeOpen side _ _ => side
  | .completeWrite side => side
  | .completeRead side _ => side

namespace DualNet

variable {Core : Type}
variable {world : DualWorld Core}
variable {setup : DualSetup}
variable {context : DualInputKey}
variable {keys : Side → KeyId}
variable {ghost : Ghost}
variable {net : DualNet Core}

/-- Two devices that have just been started are in step. -/
theorem Started.joint
    (started : net.Started world setup) :
    net.Joint setup.context setup.keys {} := by
  refine ⟨⟨?_, ?_⟩, ?_⟩
  · intro side frame bundle sentThere
    cases sentThere
  · exact fun _ => Nat.two_pow_pos 62
  · intro side
    obtain ⟨before, core, unstarted, begun⟩ := started.begun side
    obtain ⟨device, linked, _, unissued, _⟩ := unstarted.device begun
    obtain ⟨peer, peerCore, peerUnstarted, peerBegun⟩ :=
      started.begun side.other
    obtain ⟨_, _, unread, _⟩ := peerUnstarted.device peerBegun
    refine ⟨?_, device, linked, Nat.le_refl 0, ?_⟩
    · intro bundle announced
      cases announced
    · rw [unread, unissued, started.wire side]
      rfl

/-- Whether a device has a sample for its next frame. -/
theorem Joint.holdsSample_iff
    (joint : net.Joint context keys ghost)
    (side : Side) :
    ((net.controllers side).holdsSample side.seat = true ↔
        (ghost.tally side).frame < (ghost.sent side).length) ∧
      ((net.controllers side).holdsSample side.other.seat = true ↔
        (ghost.tally side).frame < (ghost.tally side).remote) := by
  have device := (joint.sides side).device
  obtain ⟨scheduler, isScheduler, lockstep⟩ := device.scheduler
  have narrow : (ghost.tally side).frame < 2 ^ 64 := by
    have own := device.progress.own
    have bound := joint.genuine.narrow side
    omega
  have pending := lockstep.window.pending joint.genuine narrow
  have holds : ∀ sender : Side,
      (net.controllers side).holdsSample sender.seat = true ↔
        (ghost.tally side).frame <
          received ghost.sent side (ghost.tally side).remote sender := by
    intro sender
    have next : scheduler.nextFrame = scheduler.window.stepFrontier :=
      lockstep.next.trans lockstep.window.step.symm
    rw [DualSessionController.holdsSample, isScheduler]
    simp only [next]
    constructor
    · exact pending.taken sender
    · intro taken
      have there := List.getElem?_eq_getElem
        (Nat.lt_of_lt_of_le taken (device.progress.received_le sender))
      exact (pending.keeps sender _ taken there).2.1
  have own := holds side
  have theirs := holds side.other
  rw [received_self] at own
  rw [received_other] at theirs
  exact ⟨own, theirs⟩

/-- An input comes at most once for a frame, but for those refused at once. -/
def Fresh (net : DualNet Core) : DualMove → Prop
  | .submitLocal side input =>
      (net.controllers side).takesInput input = true →
        (net.controllers side).holdsSample side.seat = false
  | _ => True

/-- A completed read leaves at least one whole frame in the accumulator. -/
def Whole (net : DualNet Core) : DualMove → Prop
  | .completeRead side count =>
      (net.controllers side).readOutstanding = true →
        kFramedInputBytes ≤ (net.controllers side).readAccumulator.length +
          ((net.wire side.other).take count).length
  | _ => True

/-- Every call of a run is made in a state that allows it. -/
def Always
    (world : DualWorld Core)
    (Allows : DualNet Core → DualMove → Prop)
    (net : DualNet Core) : List DualMove → Prop
  | [] => True
  | move :: moves =>
      Allows net move ∧ Always world Allows (net.step world move) moves

instance (net : DualNet Core) : (move : DualMove) → Decidable (net.Fresh move)
  | .submitLocal side input =>
      inferInstanceAs (Decidable
        ((net.controllers side).takesInput input = true →
          (net.controllers side).holdsSample side.seat = false))
  | .pause _ => .isTrue trivial
  | .pollEffect _ => .isTrue trivial
  | .completeQuery _ _ => .isTrue trivial
  | .completeOpen _ _ _ => .isTrue trivial
  | .completeWrite _ => .isTrue trivial
  | .completeRead _ _ => .isTrue trivial

instance (net : DualNet Core) : (move : DualMove) → Decidable (net.Whole move)
  | .submitLocal _ _ => .isTrue trivial
  | .pause _ => .isTrue trivial
  | .pollEffect _ => .isTrue trivial
  | .completeQuery _ _ => .isTrue trivial
  | .completeOpen _ _ _ => .isTrue trivial
  | .completeWrite _ => .isTrue trivial
  | .completeRead side count =>
      inferInstanceAs (Decidable
        ((net.controllers side).readOutstanding = true →
          kFramedInputBytes ≤ (net.controllers side).readAccumulator.length +
            ((net.wire side.other).take count).length))

instance decidableAlways
    (world : DualWorld Core)
    (Allows : DualNet Core → DualMove → Prop)
    [∀ net move, Decidable (Allows net move)] :
    (net : DualNet Core) → (moves : List DualMove) →
      Decidable (net.Always world Allows moves)
  | _, [] => .isTrue trivial
  | net, move :: moves =>
      have := decidableAlways world Allows (net.step world move) moves
      inferInstanceAs (Decidable
        (Allows net move ∧ Always world Allows (net.step world move) moves))

theorem Always.append
    {Allows : DualNet Core → DualMove → Prop}
    {first second : List DualMove}
    (always : net.Always world Allows (first ++ second)) :
    net.Always world Allows first ∧
      (net.run world first).Always world Allows second := by
  induction first generalizing net with
  | nil => exact ⟨trivial, always⟩
  | cons move first inductionHypothesis =>
      obtain ⟨allowed, rest⟩ := always
      obtain ⟨before, after⟩ := inductionHypothesis rest
      exact ⟨⟨allowed, before⟩, after⟩

theorem Advance.weaken
    {side : Side}
    {fair stricter whole : Prop}
    {later : Ghost}
    {after : DualNet Core}
    (advance : Advance context keys side fair whole ghost later net after)
    (implies : stricter → fair) :
    Advance context keys side stricter whole ghost later net after :=
  ⟨advance.joint, advance.bystander, advance.begun, advance.lawful,
    fun strict => advance.thaws (implies strict), advance.listens⟩

/-- Every call keeps the invariant. -/
theorem Joint.step
    (joint : net.Joint context keys ghost)
    (succeeds : ∀ side, (world.ports side).Succeeds)
    (move : DualMove) :
    ∃ later,
      Advance context keys move.side (net.Fresh move) (net.Whole move) ghost
        later net (net.step world move) := by
  cases move with
  | submitLocal side input =>
      obtain ⟨later, advance⟩ := joint.submitLocal succeeds side input
      refine ⟨later, advance.weaken ?_⟩
      intro fresh takes again
      have free := fresh takes
      rw [(joint.holdsSample_iff side).1.mpr again] at free
      cases free
  | pause side => exact ⟨ghost, joint.pause world side⟩
  | pollEffect side => exact ⟨ghost, joint.pollEffect world side⟩
  | completeQuery side choice =>
      exact ⟨ghost, joint.completeQuery world side choice⟩
  | completeOpen side resource value0 =>
      exact joint.completeOpen world side resource value0
  | completeWrite side => exact ⟨ghost, joint.completeWrite world side⟩
  | completeRead side count => exact joint.completeRead succeeds side count

/-- No scheduler is frozen. -/
def Thawed (net : DualNet Core) : Prop :=
  ∀ side, (net.controllers side).simState ≠ .frozen

/-- Both devices listen. -/
def Listening (ghost : Ghost) (net : DualNet Core) : Prop :=
  ∀ side, (net.controllers side).Listening (ghost.beacon side)
    (ghost.sent side) (ghost.tally side)

section Advance

variable {side : Side}
variable {fair whole : Prop}
variable {later : Ghost}
variable {after : DualNet Core}

theorem Advance.thawed
    (advance : Advance context keys side fair whole ghost later net after)
    (isFair : fair)
    (thawed : net.Thawed) :
    after.Thawed := by
  refine (Side.forall_iff side).mpr ⟨advance.thaws isFair (thawed side), ?_⟩
  rw [advance.bystander.1]
  exact thawed side.other

theorem Advance.listening
    (advance : Advance context keys side fair whole ghost later net after)
    (isWhole : whole)
    (listening : net.Listening ghost) :
    after.Listening later := by
  obtain ⟨controller, sent, beacon, tally⟩ := advance.bystander
  refine (Side.forall_iff side).mpr
    ⟨advance.listens isWhole (listening side), ?_⟩
  rw [controller, sent, beacon, tally]
  exact listening side.other

theorem Advance.announced
    (advance : Advance context keys side fair whole ghost later net after)
    (sender : Side)
    (announced : ghost.beacon sender ≠ none) :
    later.beacon sender ≠ none := by
  obtain rfl | rfl := sender.eq_or_other side
  · exact advance.begun announced
  · rw [advance.bystander.2.2.1]
    exact announced

end Advance

/-- What a whole run keeps. -/
structure Course
    (context : DualInputKey)
    (keys : Side → KeyId)
    (fair whole : Prop)
    (ghost later : Ghost)
    (net after : DualNet Core) : Prop where
  joint : after.Joint context keys later
  lawful : SessionResult.protocolViolation ∉ net.answers →
    SessionResult.protocolViolation ∉ after.answers
  thawed : fair → net.Thawed → after.Thawed
  listening : whole → net.Listening ghost → after.Listening later
  announced : ∀ side, ghost.beacon side ≠ none → later.beacon side ≠ none

theorem Joint.run
    (joint : net.Joint context keys ghost)
    (succeeds : ∀ side, (world.ports side).Succeeds)
    (moves : List DualMove) :
    ∃ later,
      Course context keys (net.Always world Fresh moves)
        (net.Always world Whole moves) ghost later net
        (net.run world moves) := by
  induction moves generalizing net ghost with
  | nil => exact ⟨ghost, joint, id, fun _ => id, fun _ => id, fun _ => id⟩
  | cons move moves inductionHypothesis =>
      obtain ⟨between, advance⟩ := joint.step succeeds move
      obtain ⟨later, course⟩ := inductionHypothesis advance.joint
      refine ⟨later, course.joint, ?_, ?_, ?_, ?_⟩
      · exact fun before => course.lawful (advance.lawful before)
      · exact fun always thawed =>
          course.thawed always.2 (advance.thawed always.1 thawed)
      · exact fun always listening =>
          course.listening always.2 (advance.listening always.1 listening)
      · exact fun side announced =>
          course.announced side (advance.announced side announced)

theorem Started.thawed
    (started : net.Started world setup) :
    net.Thawed := by
  intro side frozen
  obtain ⟨before, core, unstarted, begun⟩ := started.begun side
  rw [(unstarted.device begun).2.2.2.2] at frozen
  cases frozen

theorem Started.listening
    (net : DualNet Core) :
    net.Listening {} :=
  fun _ announced => absurd rfl announced

/-- The frames a device has stepped are those of the run. -/
theorem Joint.stepped
    (joint : net.Joint context keys ghost)
    (side : Side) :
    net.stepped side =
      jointInputs context keys ghost.sent (ghost.tally side).frame := by
  obtain ⟨scheduler, isScheduler, lockstep⟩ := (joint.sides side).device.scheduler
  rw [DualNet.stepped, isScheduler]
  exact lockstep.stepped

end DualNet

/-! ### What is stepped -/

section JointInputs

variable {context : DualInputKey}
variable {keys : Side → KeyId}
variable {sent : Side → List DualInputBundle}

/-- The inputs are those of the frames from 0 on. -/
theorem jointInputs_frameIndex
    {count : Nat}
    (narrow : count < 2 ^ 64) :
    (jointInputs context keys sent count).map (·.key.frameIndex.toNat) =
      List.range count := by
  rw [jointInputs, List.map_map]
  conv_rhs => rw [← List.map_id (List.range count)]
  apply List.map_congr_left
  intro frame member
  have below := List.mem_range.mp member
  change (UInt64.ofNat frame).toNat = frame
  rw [UInt64.toNat_ofNat']
  omega

/-- An input is known by its frame. -/
theorem jointInputs_inj
    {firstCount secondCount : Nat}
    (firstNarrow : firstCount < 2 ^ 64)
    (secondNarrow : secondCount < 2 ^ 64)
    {first second : DualInputBundle}
    (isFirst : first ∈ jointInputs context keys sent firstCount)
    (isSecond : second ∈ jointInputs context keys sent secondCount)
    (sameFrame : first.key.frameIndex = second.key.frameIndex) :
    first = second ∧ first.predictedPortMask = 0 := by
  obtain ⟨frame, member, rfl⟩ := List.mem_map.mp isFirst
  obtain ⟨other, otherMember, rfl⟩ := List.mem_map.mp isSecond
  have below := List.mem_range.mp member
  have otherBelow := List.mem_range.mp otherMember
  have same : frame = other := by
    have sameNat := congrArg UInt64.toNat sameFrame
    change (UInt64.ofNat frame).toNat = (UInt64.ofNat other).toNat at sameNat
    rw [UInt64.toNat_ofNat', UInt64.toNat_ofNat'] at sameNat
    omega
  subst same
  exact ⟨rfl, rfl⟩

end JointInputs

end FlyNes.Dual
