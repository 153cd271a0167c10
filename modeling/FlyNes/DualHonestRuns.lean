import FlyNes.DualRuns

namespace FlyNes.Dual

open ByteString

/-!
# Two honest devices

Whatever calls are made on two honest devices, both step the same frames.  They
freeze only when a player's input comes twice for a frame, and a device that
waits for its peer has asked for bytes as long as its reads end at frames.
-/

/-! ### A session on two devices -/

/-- Devices whose runtimes do nothing. -/
def idleWorld : DualWorld Unit where
  ports _ := idlePort

theorem idleWorld_succeeds
    (side : Side) :
    (idleWorld.ports side).Succeeds :=
  ⟨fun _ _ => rfl, fun _ _ => rfl, fun _ _ => rfl⟩

/-- A controller on which both players have confirmed a game. -/
def confirmedController :
    DualSessionController (Unit × List DualInputBundle) :=
  { config :=
      { selected := true
        selectedContent := Block.copy 32 [7]
        pendingStartBound := true
        localConfirmed := true
        peerConfirmed := true } }

def pairedSetup : DualSetup where
  sessionId := Block.copy 16 [1]
  branchId := Block.copy 16 [2]
  publicKey side :=
    match side with
    | .initiator => Block.copy 65 [4, 1]
    | .responder => Block.copy 65 [4, 2]
  distinct := by decide
  connection _ := 5
  listener side := side = .responder

/-- Both devices right after their start. -/
def pairedNet : DualNet Unit where
  controllers side :=
    (confirmedController.startDual (idleWorld.ports side).recording
      (pairedSetup.inputs side) ((), [])).2

theorem pairedNet_started : pairedNet.Started idleWorld pairedSetup := by
  refine ⟨?_, ?_, fun _ => rfl, rfl⟩
  · intro side
    have ok : (confirmedController.startDual (idleWorld.ports side).recording
        (pairedSetup.inputs side) ((), [])).1 = .ok := by
      cases side <;> decide
    exact ⟨confirmedController, (), rfl, Prod.ext ok rfl⟩
  · intro side
    cases side <;> decide

/-- A device opens its stream and starts to write its beacon. -/
def introduction (side : Side) : List DualMove :=
  [.pollEffect side, .completeOpen side 1 2, .pollEffect side]

/-- A device writes its beacon and asks for bytes. -/
def greeting (side : Side) : List DualMove :=
  introduction side ++ [.completeWrite side, .pollEffect side]

/-- Both devices greet and take in the beacon of the other. -/
def greetings : List DualMove :=
  greeting .initiator ++ greeting .responder ++
    [.completeRead .initiator 256, .completeRead .responder 256]

/-- One frame, the first read of which ends within it. -/
def firstFrame : List DualMove :=
  [.submitLocal .initiator { buttons := 1 }, .pollEffect .initiator,
    .submitLocal .responder { buttons := 2 }, .pollEffect .responder,
    .completeWrite .initiator, .pollEffect .initiator,
    .completeRead .initiator 160, .completeWrite .responder,
    .pollEffect .responder, .completeRead .responder 100]

namespace DualNet

variable {Core : Type}
variable {world : DualWorld Core}
variable {setup : DualSetup}
variable {net : DualNet Core}

/-! ### Agreement -/

/--
Both devices step the frames from 0 on, one after another, and a frame that both
have stepped was stepped with the same input, which has no predicted port.
-/
theorem stepped_frames_agree
    (succeeds : ∀ side, (world.ports side).Succeeds)
    (started : net.Started world setup)
    (moves : List DualMove) :
    (∀ side,
        ((net.run world moves).stepped side).map (·.key.frameIndex.toNat) =
          List.range ((net.run world moves).stepped side).length) ∧
      ∀ first ∈ (net.run world moves).stepped .initiator,
        ∀ second ∈ (net.run world moves).stepped .responder,
          first.key.frameIndex = second.key.frameIndex →
            (∀ port,
                (first.ports port).mask = (second.ports port).mask ∧
                  (first.ports port).inputSequence =
                    (second.ports port).inputSequence) ∧
              first.predictedPortMask = 0 ∧ first = second := by
  obtain ⟨ghost, course⟩ := started.joint.run succeeds moves
  have joint := course.joint
  have narrow : ∀ side, (ghost.tally side).frame < 2 ^ 64 := by
    intro side
    have own := (joint.sides side).device.progress.own
    have bound := joint.genuine.narrow side
    omega
  refine ⟨?_, ?_⟩
  · intro side
    rw [joint.stepped side, jointInputs_frameIndex (narrow side), jointInputs,
      List.length_map, List.length_range]
  · intro first isFirst second isSecond sameFrame
    rw [joint.stepped] at isFirst isSecond
    obtain ⟨rfl, real⟩ := jointInputs_inj (narrow .initiator)
      (narrow .responder) isFirst isSecond sameFrame
    exact ⟨fun _ => ⟨rfl, rfl⟩, real, rfl⟩

/-- Both devices have stepped the first frame, with the buttons of both. -/
theorem stepped_first_frame :
    (((pairedNet.run idleWorld
          (greetings ++ firstFrame)).stepped .initiator).map fun bundle =>
        ((bundle.ports 0).mask, (bundle.ports 1).mask)) = [(1, 2)] ∧
      ∀ first ∈ (pairedNet.run idleWorld
          (greetings ++ firstFrame)).stepped .initiator,
        ∀ second ∈ (pairedNet.run idleWorld
            (greetings ++ firstFrame)).stepped .responder,
          first.key.frameIndex = second.key.frameIndex → first = second := by
  refine ⟨by decide +kernel, ?_⟩
  intro first isFirst second isSecond sameFrame
  exact ((stepped_frames_agree idleWorld_succeeds pairedNet_started
    (greetings ++ firstFrame)).2 first isFirst second isSecond sameFrame).2.2

/-! ### Freezing -/

/--
While an input comes at most once for a frame, no scheduler freezes; a device
never takes its peer for a violator and never has more than two frames to read.
-/
theorem honest_run_stays_thawed
    (succeeds : ∀ side, (world.ports side).Succeeds)
    (started : net.Started world setup)
    (moves : List DualMove)
    (fresh : net.Always world Fresh moves) :
    (∀ side,
        ((net.run world moves).controllers side).simState ≠ .frozen ∧
          ((net.run world moves).controllers side).flags.frozen = false ∧
          ((net.run world moves).controllers side).readAccumulator.length ≤
            2 * kFramedInputBytes) ∧
      SessionResult.protocolViolation ∉ (net.run world moves).answers := by
  obtain ⟨ghost, course⟩ := started.joint.run succeeds moves
  refine ⟨?_, ?_⟩
  · intro side
    refine ⟨course.thawed fresh started.thawed side,
      (course.joint.sides side).device.phase.thawed, ?_⟩
    exact Nat.le_trans (Nat.le_add_right _ _) (course.joint.accumulator_le side)
  · apply course.lawful
    rw [started.answers]
    exact List.not_mem_nil

theorem first_frame_stays_thawed :
    pairedNet.Always idleWorld Fresh (greetings ++ firstFrame) ∧
      ((pairedNet.run idleWorld
        (greetings ++ firstFrame)).controllers .initiator).simState ≠
          .frozen := by
  have fresh : pairedNet.Always idleWorld Fresh (greetings ++ firstFrame) := by
    decide +kernel
  exact ⟨fresh, ((honest_run_stays_thawed idleWorld_succeeds pairedNet_started
    (greetings ++ firstFrame) fresh).1 .initiator).1⟩

/-- An input for the frame that already has one, before the peer's has come. -/
def hurriedInputs : List DualMove :=
  greetings ++
    [.submitLocal .initiator { buttons := 1 },
      .submitLocal .initiator { buttons := 1 }]

/-- A second input for a frame freezes the device, though nobody pauses. -/
theorem second_input_freezes :
    (∀ side, (idleWorld.ports side).Succeeds) ∧
      pairedNet.Started idleWorld pairedSetup ∧
      (∀ side, DualMove.pause side ∉ hurriedInputs) ∧
      ((pairedNet.run idleWorld hurriedInputs).controllers
        .initiator).simState = .frozen := by
  refine ⟨idleWorld_succeeds, pairedNet_started, ?_, by decide +kernel⟩
  intro side
  simp [hurriedInputs, greetings, greeting, introduction]

/-! ### Listening -/

/-- Some of the next polls, one after another, offers the effect. -/
def Offers
    (controller : DualSessionController Core)
    (effect : Effect) : Prop :=
  ∃ count,
    ((fun polled => (DualSessionController.pollEffect polled).2)^[count]
      controller).pollEffect.1 = some effect

variable {controller : DualSessionController Core}

/-- A device with nothing else to do asks for bytes when it wants them. -/
theorem pollEffect_grantRead
    (thawed : controller.flags.frozen = false)
    (opened : controller.streamOpen = true ∧ controller.receiveStream ≠ 0)
    (wanted : controller.wantRead = true)
    (unasked : controller.readOutstanding = false)
    (unwritten : controller.writeQueue = [])
    (noQuery : ¬ (controller.catalogStarted &&
      !controller.config.catalogComplete &&
      !controller.catalogQueryOutstanding) = true) :
    controller.pollEffect.1 =
      some (.grantRead controller.receiveStream kStateCommitReadCredit) := by
  simp only [DualSessionController.pollEffect, thawed, noQuery, opened, wanted,
    unasked, unwritten]
  simp [opened.2]

/-- The catalog is asked first, but only once. -/
theorem offers_grantRead
    (thawed : controller.flags.frozen = false)
    (opened : controller.streamOpen = true ∧ controller.receiveStream ≠ 0)
    (wanted : controller.wantRead = true)
    (unasked : controller.readOutstanding = false)
    (unwritten : controller.writeQueue = []) :
    Offers controller
      (.grantRead controller.receiveStream kStateCommitReadCredit) := by
  by_cases query : (controller.catalogStarted &&
      !controller.config.catalogComplete &&
      !controller.catalogQueryOutstanding) = true
  · have polled : controller.pollEffect.2 =
        { controller with catalogQueryOutstanding := true } := by
      rw [DualSessionController.pollEffect, if_neg (by simp [thawed]),
        if_pos query]
    refine ⟨1, ?_⟩
    rw [Function.iterate_one, polled]
    exact pollEffect_grantRead thawed opened wanted unasked unwritten (by simp)
  · exact ⟨0, pollEffect_grantRead thawed opened wanted unasked unwritten query⟩

/-- A poll that offers nothing changes nothing. -/
theorem pollEffect_none
    (nothing : controller.pollEffect.1 = none) :
    controller.pollEffect.2 = controller := by
  unfold DualSessionController.pollEffect at nothing ⊢
  split_ifs at nothing ⊢
  all_goals rfl

theorem not_offers
    (nothing : controller.pollEffect.1 = none)
    (effect : Effect) :
    ¬ Offers controller effect := by
  rintro ⟨count, offered⟩
  rw [Function.iterate_fixed (pollEffect_none nothing), nothing] at offered
  cases offered

/-- A device that waits for its peer listens, or is about to write. -/
theorem Joint.asks
    {context : DualInputKey}
    {keys : Side → KeyId}
    {ghost : Ghost}
    {side : Side}
    (joint : net.Joint context keys ghost)
    (listening : net.Listening ghost)
    (announced : ghost.beacon side ≠ none)
    (thawed : (net.controllers side).simState ≠ .frozen)
    (unpaused : (net.controllers side).flags.paused = false)
    (waits : (net.controllers side).flags.running = false ∨
      ((net.controllers side).holdsSample side.seat = true ∧
        (net.controllers side).holdsSample side.other.seat = false)) :
    (net.controllers side).readOutstanding = true ∨
      Offers (net.controllers side)
        (.grantRead (net.controllers side).receiveStream
          kStateCommitReadCredit) ∨
      (net.controllers side).writeQueue ≠ [] := by
  have own := joint.sides side
  by_cases asked : (net.controllers side).readOutstanding = true
  · exact Or.inl asked
  by_cases writes : (net.controllers side).writeQueue = []
  swap
  · exact Or.inr (Or.inr writes)
  obtain wanted | isAsked | isWriting | ⟨heard, level⟩ :=
    listening side announced
  · refine Or.inr (Or.inl ?_)
    exact offers_grantRead own.device.phase.thawed
      (own.linked.opened announced) wanted (by simpa using asked) writes
  · exact absurd isAsked asked
  · exact absurd writes isWriting
  · exfalso
    have started : (net.controllers side).flags.running = true := by
      by_contra notRunning
      have unheard := (own.device.phase.waiting (by simpa using notRunning)).2.2
      omega
    obtain notRunning | ⟨sent, missing⟩ := waits
    · rw [started] at notRunning
      cases notRunning
    have running : (net.controllers side).simState = .running :=
      (own.device.phase.halted started unpaused).resolve_right thawed
    have below := (joint.holdsSample_iff side).1.mp sent
    have reached := level running
    rw [(joint.holdsSample_iff side).2.mpr (by omega)] at missing
    cases missing

/--
A device that has completed a write and waits for its peer listens, as long as
every completed read brings a whole frame: it waits for the beacon, or it has
its own sample for the next frame and not its peer's.
-/
theorem waiting_device_listens
    (succeeds : ∀ side, (world.ports side).Succeeds)
    (started : net.Started world setup)
    (before after : List DualMove)
    (side : Side)
    (wrote :
      ((net.run world before).controllers side).writeOutstanding = true)
    (whole : net.Always world Whole (before ++ .completeWrite side :: after))
    (controller : DualSessionController (Core × List DualInputBundle))
    (reached : controller =
      (net.run world (before ++ .completeWrite side :: after)).controllers side)
    (thawed : controller.simState ≠ .frozen)
    (unpaused : controller.flags.paused = false)
    (waits : controller.flags.running = false ∨
      (controller.holdsSample side.seat = true ∧
        controller.holdsSample side.other.seat = false)) :
    controller.readOutstanding = true ∨
      Offers controller
        (.grantRead controller.receiveStream kStateCommitReadCredit) ∨
      controller.writeQueue ≠ [] := by
  subst reached
  obtain ⟨wholeBefore, wholeAfter⟩ := whole.append
  obtain ⟨between, earlier⟩ := started.joint.run succeeds before
  obtain ⟨ghost, later⟩ := earlier.joint.run succeeds
    (.completeWrite side :: after)
  have linked := (earlier.joint.sides side).linked
  have announced : between.beacon side ≠ none := by
    intro unsent
    exact linked.writing wrote (linked.silent unsent).2.2.2.2
  have listening := later.listening wholeAfter
    (earlier.listening wholeBefore (Started.listening net))
  rw [run, List.foldl_append] at thawed unpaused waits ⊢
  exact later.joint.asks listening (later.announced side announced) thawed
    unpaused waits

theorem introduced_device_listens :
    pairedNet.Always idleWorld Whole
        (introduction .initiator ++ .completeWrite .initiator :: []) ∧
      ∃ controller,
        controller =
            (pairedNet.run idleWorld
              (introduction .initiator ++
                .completeWrite .initiator :: [])).controllers .initiator ∧
          (controller.readOutstanding = true ∨
            Offers controller
              (.grantRead controller.receiveStream kStateCommitReadCredit) ∨
            controller.writeQueue ≠ []) := by
  have whole : pairedNet.Always idleWorld Whole
      (introduction .initiator ++ .completeWrite .initiator :: []) := by
    decide
  refine ⟨whole, _, rfl, ?_⟩
  exact waiting_device_listens idleWorld_succeeds pairedNet_started
    (introduction .initiator) [] .initiator (by decide +kernel) whole _ rfl
    (by decide +kernel) (by decide +kernel) (Or.inl (by decide +kernel))

/--
After the beacons a device has not received its peer's sample for frame 0, and
does not listen before it writes again.
-/
theorem silent_before_first_input :
    (∀ side, (idleWorld.ports side).Succeeds) ∧
      pairedNet.Started idleWorld pairedSetup ∧
      (∃ after, greetings =
        introduction .initiator ++ .completeWrite .initiator :: after) ∧
      ((pairedNet.run idleWorld
        (introduction .initiator)).controllers
          .initiator).writeOutstanding = true ∧
      ∃ controller,
        controller = (pairedNet.run idleWorld greetings).controllers .initiator ∧
          controller.streamOpen = true ∧
          controller.simState = .running ∧
          controller.flags.frozen = false ∧
          controller.flags.paused = false ∧
          controller.holdsSample Side.responder.seat = false ∧
          controller.readOutstanding = false ∧
          controller.writeQueue = [] ∧
          controller.writeOutstanding = false ∧
          ∀ effect, ¬ Offers controller effect := by
  refine ⟨idleWorld_succeeds, pairedNet_started, ⟨_, rfl⟩, by decide +kernel, _,
    rfl, by decide +kernel, by decide +kernel, by decide +kernel,
    by decide +kernel, by decide +kernel, by decide +kernel, by decide +kernel,
    by decide +kernel, ?_⟩
  exact not_offers (by decide +kernel)

end DualNet

end FlyNes.Dual
