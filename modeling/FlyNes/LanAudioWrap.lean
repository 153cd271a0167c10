import FlyNes.LanAdmission
import FlyNes.LanAudioRuns
import FlyNes.LanChunks

namespace FlyNes.LanMvp

open ByteString
open Emulation (Metronome NesCore kAudioScratchSamples metronome)
open Lockstep (wrap64 Frame Buffer)
open LanMvp.Wire (Kind Message Decoder)

/-!
# A round without an end

The counters of a session have 64 bits.  A guest whose core has two samples in every frame
plays 2^63 frames: the producer's counter is then at zero again, while the position up to
which samples have been pulled is not.
-/

/-! ## Frames of the counting core -/

/-- Time stands still, and there is always memory. -/
def calm : Outside Metronome where
  nowNs _ := 0
  memory _ _ := true

/-- A runtime that has played some frames and waits for the next one. -/
structure Ticking (frames : Nat) (played : Played Metronome) : Prop where
  produced : played.produced = 2 * frames
  owned : ∃ nes, played.runtime.nes = some nes
  loaded : played.runtime.romLoaded = true
  next :
    ∀ input : Emulation.FrameInput,
      input.timelineEpoch = 1 → input.frameIndex = UInt64.ofNat frames →
        played.runtime.expectsFrame input = true

variable {played : Played Metronome}

/-- A runtime behind a frame, whose digest can be copied. -/
theorem copyFrameDigest_of_fresh
    {nes : Metronome}
    {frame : Nat}
    (fresh : played.runtime.hasFrameDigest = true)
    (complete : played.runtime.hasCompleteFrame = true)
    (set : played.runtime.timelineSet = true)
    (epoch : played.runtime.timelineEpoch = 1)
    (next : played.runtime.nextFrameIndex = UInt64.ofNat frame + 1)
    (owned : played.runtime.nes = some nes) :
    ∃ digest, played.copyFrameDigest metronome calm 1 frame = some digest := by
  have last : played.runtime.nextFrameIndex - 1 = UInt64.ofNat frame := by
    rw [next]
    exact UInt64.add_sub_cancel _ 1
  have valid :
      ¬ Emulation.checkHeader (header Emulation.kFrameDigestSize) Emulation.kFrameDigestSize ≠
        .ok := by
    decide
  have current :
      (!played.runtime.hasFrameDigest || !played.runtime.hasCompleteFrame ||
          !played.runtime.timelineSet || played.runtime.timelineEpoch != UInt64.ofNat 1 ||
          played.runtime.nextFrameIndex - 1 != UInt64.ofNat frame) =
        false := by
    simp [fresh, complete, set, epoch, last]
  unfold Played.copyFrameDigest Emulation.Runtime.copyFrameDigest
  rw [if_neg valid, current, if_neg (by decide), owned]
  exact ⟨_, rfl⟩

variable {State : Type}

/-- A step that goes through leaves the core in its new state. -/
theorem published_core
    (runtime : Emulation.Runtime State)
    (input : Emulation.FrameInput)
    (ran : Emulation.RanFrames)
    (later : State)
    (pixels : Block Emulation.kRgb565Bytes) :
    (runtime.published input ran later pixels 0).nes = some later ∧
      (runtime.published input ran later pixels 0).romLoaded = runtime.romLoaded := by
  obtain ⟨pcm, pcmRead, pcmCount, pcmReadSequence, pushed⟩ :=
    @Emulation.Runtime.pushPcm_frame State { runtime.latched input with nes := some later }
      ran.samples
  unfold Emulation.Runtime.published
  rw [pushed]
  exact ⟨rfl, rfl⟩

variable {frames : Nat}

/-- The next frame is played, and its digest can be copied. -/
theorem Ticking.step
    {input : FrameInput}
    (ticking : Ticking frames played)
    (epoch : input.timelineEpoch = 1)
    (index : input.frameIndex = frames) :
    ∃ stepped result digest,
      played.stepFrame metronome calm input = some (stepped, result) ∧
        Ticking (frames + 1) stepped ∧
        stepped.copyFrameDigest metronome calm 1 frames = some digest := by
  obtain ⟨nes, owned⟩ := ticking.owned
  have epoch' : input.toRuntime.timelineEpoch = 1 := by
    simp [FrameInput.toRuntime, epoch]
  have index' : input.toRuntime.frameIndex = UInt64.ofNat frames := by
    simp [FrameInput.toRuntime, index]
  have runs :
      played.runtime.stepFrame metronome input.toRuntime
          (header Emulation.kFrameResultSize) 0 =
        played.runtime.runStep metronome nes input.toRuntime 0 :=
    Emulation.Runtime.stepFrame_runs 0 rfl rfl ticking.loaded
      (ticking.next _ epoch' index') owned
  obtain ⟨ran, later, result, pixels, two, whole⟩ :
      ∃ ran later frame pixels,
        ran.samples.length = 2 ∧
          played.runtime.runStep metronome nes input.toRuntime 0 =
            ({ result := .ok, frame := some frame, produced := ran.samples },
              played.runtime.published input.toRuntime ran later pixels 0) :=
    ⟨_, _, _, _, rfl, Emulation.Runtime.runStep_whole 0 rfl rfl (Int.le_refl 0) rfl
      (Emulation.metronome_videoFrame _)⟩
  obtain ⟨sameNes, sameRom⟩ :=
    published_core played.runtime input.toRuntime ran later pixels
  have next :
      (played.runtime.published input.toRuntime ran later pixels 0).nextFrameIndex =
        UInt64.ofNat frames + 1 :=
    congrArg (· + 1) index'
  have stepped :
      played.stepFrame metronome calm input =
        some
          ({ runtime := played.runtime.published input.toRuntime ran later pixels 0
             produced := played.produced + ran.samples.length },
            .ofRuntime result) := by
    have answer := runs.trans whole
    unfold Played.stepFrame
    simp only [calm, answer]
    rfl
  obtain ⟨digest, copied⟩ :=
    @copyFrameDigest_of_fresh
      { runtime := played.runtime.published input.toRuntime ran later pixels 0
        produced := played.produced + ran.samples.length }
      later frames rfl rfl rfl epoch' next sameNes
  refine ⟨_, _, digest, stepped, ?_, copied⟩
  refine ⟨?_, ⟨later, sameNes⟩, sameRom.trans ticking.loaded, ?_⟩
  · change played.produced + ran.samples.length = 2 * (frames + 1)
    rw [two, ticking.produced]
    rfl
  · intro following sameEpoch sameIndex
    change
      (following.timelineEpoch == input.toRuntime.timelineEpoch &&
        following.frameIndex ==
          (played.runtime.published input.toRuntime ran later pixels 0).nextFrameIndex) = true
    rw [sameEpoch, sameIndex, next, epoch', UInt64.ofNat_add]
    simp

/-- A pull takes samples only. -/
theorem pullPcm_core
    (runtime : Emulation.Runtime State)
    (capacity : Nat)
    (header : Emulation.StructHeader) :
    (runtime.pullPcm capacity header true).2.nes = runtime.nes ∧
      (runtime.pullPcm capacity header true).2.romLoaded = runtime.romLoaded ∧
      (runtime.pullPcm capacity header true).2.expectsFrame = runtime.expectsFrame := by
  unfold Emulation.Runtime.pullPcm
  split
  · exact ⟨rfl, rfl, rfl⟩
  · split
    · exact ⟨rfl, rfl, rfl⟩
    · split
      · exact ⟨rfl, rfl, rfl⟩
      · exact ⟨rfl, rfl, rfl⟩

theorem Ticking.pull
    {frames capacity : Nat}
    {played pulled : Played Metronome}
    {block : PcmBlock}
    (ticking : Ticking frames played)
    (pull : played.pullPcm capacity = some (pulled, block)) :
    Ticking frames pulled := by
  obtain ⟨nes, romLoaded, expects⟩ :=
    pullPcm_core played.runtime capacity (header Emulation.kPcmBlockSize)
  unfold Played.pullPcm at pull
  dsimp only at pull
  split at pull
  · rw [← (Prod.mk.inj (Option.some.inj pull)).1]
    exact
      { produced := ticking.produced
        owned := nes ▸ ticking.owned
        loaded := romLoaded ▸ ticking.loaded
        next := expects ▸ ticking.next }
  · cases pull

/-! ## Frames of the session -/

/-- A provider that takes every operation, on a clock that stands still. -/
def steady : Env (Played Metronome) :=
  playbackEnv metronome calm FlyNes.Wire.sha256 (fun _ => 0) (fun _ => quicAccepted)

/-- A round that has completed some frames, and has not heard of a digest. -/
structure Game.Beating (frames : Nat) (game : Game (Played Metronome)) : Prop where
  running : game.state = .running
  unpaused : game.paused = false
  completed : game.completedFrames = frames
  loaded : ∃ played, game.runtime = some played ∧ Ticking frames played
  unheard : game.remoteDigests = ∅

/-- What a frame does not touch. -/
structure Game.Onward {R : Type} (game later : Game R) : Prop where
  inputs : later.inputs = game.inputs
  nextSubmitFrame : later.nextSubmitFrame = game.nextSubmitFrame
  pcmConsumed : later.pcmConsumed = game.pcmConsumed

variable {R : Type} {env : Env R} {session : Session R}

/-- Behind a write that is under way a message only joins the queue. -/
theorem queueMessage_behind
    {kind : Kind}
    {payload : Bytes}
    (alive : session.state ≠ .ended)
    (busy : session.writeInflight = true)
    (fits : Message.Fits ⟨kind, payload⟩) :
    session.queueMessage env kind payload = (true, session.pushed kind payload) := by
  unfold Session.queueMessage
  rw [Wire.encode_eq_some fits]
  dsimp only
  rw [if_neg alive]
  unfold Session.beginNextWrite
  split
  · rfl
  · rw [if_pos (Or.inl busy)]
    rfl

variable {digest : Hash}

/-- A digest goes into the queue, and waits for the peer's. -/
theorem publishDigest_unheard
    {runtime : R}
    {frame : Nat}
    (loaded : session.runtime = some runtime)
    (copied : env.runtime.copyFrameDigest runtime 1 frame = some digest)
    (alive : session.state ≠ .ended)
    (busy : session.writeInflight = true)
    (unheard : session.remoteDigests = ∅) :
    session.publishDigest env frame =
      ((session.withGame (Game.keepDigest frame digest)).note
        (.published frame digest)).pushed .digest (appendU64 frame ++ digest.bytes) := by
  have fits : Message.Fits ⟨.digest, appendU64 frame ++ digest.bytes⟩ := by
    simp [Message.Fits, Message.bodySize, Wire.kMaxBodySize, digest.sized]
  have queued :=
    @queueMessage_behind R env
      ((session.withGame (Game.keepDigest frame digest)).note (.published frame digest))
      .digest (appendU64 frame ++ digest.bytes) alive busy fits
  unfold Session.publishDigest
  rw [loaded]
  simp only [copied]
  rw [queued]
  unfold Session.compareDigest
  have single :
      (((session.withGame (Game.keepDigest frame digest)).note
        (.published frame digest)).pushed .digest
          (appendU64 frame ++ digest.bytes)).digestPair frame = none := by
    change Game.digestPair frame (Game.keepDigest frame digest session.toGame) = none
    unfold Game.digestPair Game.keepDigest
    rw [unheard]
    simp
  rw [single]

theorem Game.Beating.keepDigest
    {frames frame : Nat}
    {game : Game (Played Metronome)}
    (beating : game.Beating frames) :
    (game.keepDigest frame digest).Beating frames :=
  ⟨beating.running, beating.unpaused, beating.completed, beating.loaded, beating.unheard⟩

variable {session : Session (Played Metronome)}

/-- A frame completes, whether it carries a digest or not. -/
theorem runFrame_beats
    {frame : Frame}
    (beating : session.Beating frames)
    (index : frame.index = frames)
    (small : frames + 1 < 2 ^ 64)
    (busy : session.writeInflight = true) :
    ∃ game writes log,
      session.runFrame steady frame =
          { session with
            toGame := game
            writes := writes
            log := log
            lastProgress := 0
            ticks := session.ticks + 1 } ∧
        game.Beating (frames + 1) ∧ session.Onward game := by
  obtain ⟨played, loaded, ticking⟩ := beating.loaded
  obtain ⟨stepped, result, digest, step, ticks, copied⟩ :=
    @Ticking.step played frames (session.frameInput frame) ticking rfl index
  have step' :
      steady.runtime.stepFrame played (session.frameInput frame) = some (stepped, result) :=
    step
  have next : wrap64 (frame.index + 1) = frames + 1 := by
    rw [index]
    exact wrap64_of_lt small
  have completed : (session.completeFrame frame stepped result).Beating (frames + 1) :=
    { running := beating.running
      unpaused := beating.unpaused
      completed := next
      loaded := ⟨stepped, rfl, ticks⟩
      unheard := beating.unheard }
  have copied' : steady.runtime.copyFrameDigest stepped 1 frame.index = some digest := by
    rw [index]
    exact copied
  unfold Session.runFrame
  rw [loaded]
  simp only [step']
  split
  · rw [publishDigest_unheard ?_ copied' ?_ ?_ ?_]
    · exact ⟨_, _, _, rfl, completed.keepDigest, ⟨rfl, rfl, rfl⟩⟩
    · rfl
    · change session.state ≠ .ended
      rw [beating.running]
      rintro ⟨⟩
    · exact busy
    · exact beating.unheard
  · exact ⟨_, _, _, rfl, completed, ⟨rfl, rfl, rfl⟩⟩

/-! ## Reading from the peer -/

section Reading

variable {env : Env R} {session : Session R}

/-- A session that waits for bytes, with a write under way. -/
structure Attentive (operation : Nat) (session : Session R) : Prop where
  operations : session.operations = [(3, .write), (operation, .read)]
  nextOperation : session.nextOperation = operation + 1
  write : 3 < operation
  writing : session.writeInflight = true
  receiving : session.recvStream ≠ 0
  decoder : session.decoder = {}

/-- The session after a read has come back. -/
def Session.receipt (bytes : Bytes) (session : Session R) : Session R :=
  { session with
    operations := [(3, .write)]
    readInflight := false
    traffic := session.traffic ++ [(session.state, .consumed bytes)] }

theorem beginRead_taken
    (takes : ∀ operation, env.answer operation = quicAccepted)
    (ready : session.readInflight = false)
    (receiving : session.recvStream ≠ 0)
    (alive : session.state ≠ .ended) :
    ∃ traffic,
      session.beginRead env =
        (true,
          { session with
            readInflight := true
            operations := session.operations ++ [(session.nextOperation, .read)]
            nextOperation := session.nextOperation + 1
            traffic := traffic }) := by
  have asked :
      ¬ (session.readInflight = true ∨ session.recvStream = 0 ∨ session.state = .ended) := by
    simp [ready, receiving, alive]
  unfold Session.beginRead
  rw [if_neg asked]
  simp only [Session.submit, takes, if_true]
  exact ⟨_, rfl⟩

theorem drain_deaf
    (fuel : Nat)
    (decoder : session.decoder = {}) :
    session.drain env fuel = session := by
  cases fuel with
  | zero => rfl
  | succ fuel =>
      unfold Session.drain
      split
      · rfl
      · have nothing : session.decoder.pop = (none, session.decoder) := by
          rw [decoder]
          rfl
        rw [nothing]

variable {message : Message}

theorem drain_popped
    {decoder : Decoder}
    {fuel : Nat}
    (alive : session.state ≠ .ended)
    (popped : session.decoder.pop = (some message, decoder)) :
    session.drain env (fuel + 1) =
      Session.drain env fuel
        (Session.handleMessage env message { session with decoder := decoder }) := by
  rw [Session.drain, if_neg alive, popped]

theorem push_frame
    (fits : message.Fits) :
    ({} : Decoder).push message.frame = (true, { bytes := message.frame }) := by
  have wellFormed : ¬ Wire.Malformed message.frame := by
    intro malformed
    exact malformed.stuck message [] fits (List.append_nil _).symm
  change Decoder.validateFront { bytes := message.frame } = _
  rw [Decoder.validateFront_eq, if_neg wellFormed]

theorem pop_frame
    (fits : message.Fits) :
    Decoder.pop { bytes := message.frame } = (some message, {}) := by
  have popped := Decoder.pop_of_frame fits []
  rwa [List.append_nil, if_neg (by simp [Wire.Malformed])] at popped

/-- A decoder with one whole message in it gives it to the handler. -/
theorem drain_frame
    (empty : session.decoder = {})
    (alive : session.state ≠ .ended)
    (fits : message.Fits)
    (kept : ((session.receipt message.frame).handleMessage env message).decoder = {}) :
    Session.drain env (message.frame.length + 1)
        { session.receipt message.frame with decoder := { bytes := message.frame } } =
      (session.receipt message.frame).handleMessage env message := by
  have same :
      ({ session.receipt message.frame with decoder := {} } : Session R) =
        session.receipt message.frame := by
    rw [← empty]
    rfl
  have popped :=
    @drain_popped R env
      { session.receipt message.frame with decoder := { bytes := message.frame } }
      message {} message.frame.length alive (pop_frame fits)
  rw [popped]
  change Session.drain env _ (Session.handleMessage env message
    { session.receipt message.frame with decoder := {} }) = _
  rw [same]
  exact drain_deaf _ kept

/-- One whole message is acted on, and the next read begins. -/
theorem consume_message
    {operation : Nat}
    (attentive : Attentive operation session)
    (alive : session.state ≠ .ended)
    (fits : message.Fits)
    (kept : ((session.receipt message.frame).handleMessage env message).decoder = {}) :
    session.consume env ⟨operation, quicOk, 0, message.frame⟩ =
      (((session.receipt message.frame).handleMessage env message).beginRead env).2 := by
  have found : session.operations.lookup operation = some .read := by
    have other : (operation == 3) = false := beq_eq_false_iff_ne.mpr attentive.write.ne'
    rw [attentive.operations, List.lookup_cons, other]
    simp
  have left :
      (session.operations.filter fun pending => pending.1 ≠ operation) = [(3, .write)] := by
    rw [attentive.operations]
    simp [attentive.write.ne]
  unfold Session.consume
  simp only [found, if_neg alive, left]
  rw [if_neg (by simp)]
  unfold Session.consumeRead
  simp only [attentive.decoder, push_frame fits]
  rw [if_neg (by simp [Message.frame])]
  change
    (if
        (Session.drain env (message.frame.length + 1)
          { session.receipt message.frame with
            decoder := { bytes := message.frame } }).decoder.failed = true then _
      else (Session.beginRead env (Session.drain env (message.frame.length + 1)
          { session.receipt message.frame with
            decoder := { bytes := message.frame } })).2) = _
  rw [drain_frame attentive.decoder alive fits kept, kept]
  rfl

/-! ## Advancing -/

variable {buffer : Buffer}

theorem advanceLoop_idle
    (inputs : session.inputs = some buffer)
    (nothing : buffer.popReady = none)
    (fuel : Nat) :
    session.advanceLoop env fuel = session := by
  cases fuel with
  | zero => rfl
  | succ fuel =>
      rw [Session.advanceLoop, inputs]
      dsimp only
      rw [nothing]
      split <;> rfl

variable {rest : Buffer}

theorem advanceLoop_popped
    {frame : Frame}
    {fuel : Nat}
    (running : session.state = .running)
    (inputs : session.inputs = some buffer)
    (popped : buffer.popReady = some (frame, rest)) :
    session.advanceLoop env (fuel + 1) =
      Session.advanceLoop env fuel
        (Session.runFrame env frame { session with inputs := some rest }) := by
  rw [Session.advanceLoop, if_neg (not_not.mpr running), inputs]
  dsimp only
  rw [popped]

theorem advance_loop
    {runtime : R}
    (running : session.state = .running)
    (unpaused : session.paused = false)
    (inputs : session.inputs = some buffer)
    (loaded : session.runtime = some runtime) :
    session.advance env = session.advanceLoop env (buffer.slots.keys.length + 1) := by
  rw [Session.advance, inputs]
  dsimp only
  rw [if_neg (by simp [running, unpaused, loaded])]

theorem advance_idle
    (inputs : session.inputs = some buffer)
    (nothing : buffer.popReady = none) :
    session.advance env = session := by
  rw [Session.advance, inputs]
  dsimp only
  split
  · rfl
  · exact advanceLoop_idle inputs nothing _

/-- The peer's buttons for a frame that lacks the local ones are only stored. -/
theorem handleMessage_input
    {payload : Bytes}
    (running : session.state = .running)
    (inputs : session.inputs = some buffer)
    (sized : payload.length = 12)
    (put :
      buffer.putRemote (bigEndianU64 payload) (bigEndianU32 (payload.drop 8)) =
        (.accepted, rest))
    (nothing : rest.popReady = none) :
    ∃ log,
      session.handleMessage env ⟨.input, payload⟩ =
        { session with inputs := some rest, log := log } := by
  have dispatched :
      session.handleMessage env ⟨.input, payload⟩ =
        Session.handleInput env ⟨.input, payload⟩
          (session.note (.received session.state session.lobbyGeneration ⟨.input, payload⟩)) := by
    simp [Session.handleMessage, Session.dispatch, Session.note, running]
  rw [dispatched]
  refine
    ⟨session.log ++
      [.received session.state session.lobbyGeneration ⟨.input, payload⟩] ++
      [.stored (bigEndianU64 payload) .accepted], ?_⟩
  have inputs' :
      (session.note (.received session.state session.lobbyGeneration
        ⟨.input, payload⟩)).inputs = some buffer := inputs
  unfold Session.handleInput
  rw [inputs']
  dsimp only
  rw [if_neg (by simp [Session.note, running, sized]), put]
  dsimp only
  rw [if_neg (by simp)]
  exact advance_idle rfl nothing

/-- The host's word that matches starts the round of a guest. -/
theorem handleMessage_start
    (guest : session.role = .guest)
    (configuring : session.state = .configuring)
    (localReady : session.localReady = true)
    (peerReady : session.peerReady = true)
    (agreed : session.configsMatch = true) :
    session.handleMessage env ⟨.start, session.localConfigHash.bytes⟩ =
      Session.enterRunning env
        (session.note (.received session.state session.lobbyGeneration
          ⟨.start, session.localConfigHash.bytes⟩)) := by
  have sized := session.localConfigHash.sized
  simp [Session.handleMessage, Session.dispatch, Session.handleStart, Session.note, guest,
    configuring, localReady, peerReady, sized, agreed]

/-- Buttons that are in time and can be sent let the round go on. -/
theorem submitInput_accepted
    {buttons : UInt32}
    {sent : Session R}
    (running : session.state = .running)
    (unpaused : session.paused = false)
    (inputs : session.inputs = some buffer)
    (early : session.nextSubmitFrame < wrap64 (session.completedFrames + kInputDelay))
    (put : buffer.putLocal session.nextSubmitFrame buttons = (.accepted, rest))
    (queued :
      Session.queueMessage env .input
          (appendU64 session.nextSubmitFrame ++ appendU32 buttons)
          { session with inputs := some rest } =
        (true, sent)) :
    session.submitInput env buttons =
      (true,
        Session.advance env
          { sent with nextSubmitFrame := wrap64 (sent.nextSubmitFrame + 1) }) := by
  unfold Session.submitInput
  rw [inputs]
  dsimp only
  rw [if_neg (by simp [running, unpaused, early]), put]
  dsimp only
  rw [queued]
  rfl

end Reading

/-- A buffer that lacks both masks of every frame from the next one on. -/
structure Drained (frames : Nat) (buffer : Buffer) : Prop where
  window : buffer.window = kInputWindow
  nextFrame : buffer.nextFrame = frames
  empty : ∀ side index, buffer.mask side index = none

variable {buffer : Buffer}

theorem popReady_of_unset
    (unset : buffer.mask true buffer.nextFrame = none) :
    buffer.popReady = none := by
  cases popped : buffer.popReady with
  | none => rfl
  | some outcome =>
      obtain ⟨frame, rest⟩ := outcome
      have stored := (Buffer.popReady_eq_some popped).2.1
      rw [unset] at stored
      cases stored

/-- A frame that is ready runs, and the loop goes on behind it. -/
theorem advanceLoop_beats
    {frames fuel : Nat}
    {frame : Frame}
    {buffer rest : Buffer}
    (beating : session.Beating frames)
    (inputs : session.inputs = some buffer)
    (popped : buffer.popReady = some (frame, rest))
    (index : frame.index = frames)
    (small : frames + 1 < 2 ^ 64)
    (busy : session.writeInflight = true) :
    ∃ game writes log,
      session.advanceLoop steady (fuel + 1) =
          Session.advanceLoop steady fuel
            { session with
              toGame := game
              writes := writes
              log := log
              lastProgress := 0
              ticks := session.ticks + 1 } ∧
        game.Beating (frames + 1) ∧
        Game.Onward { session.toGame with inputs := some rest } game := by
  have ready : Game.Beating frames { session.toGame with inputs := some rest } :=
    ⟨beating.running, beating.unpaused, beating.completed, beating.loaded, beating.unheard⟩
  obtain ⟨game, writes, log, ran, beats, onward⟩ :=
    @runFrame_beats frames { session with inputs := some rest } frame ready index small busy
  refine ⟨game, writes, log, ?_, beats, onward⟩
  rw [advanceLoop_popped beating.running inputs popped, ran]

/-- A session that has just entered a round, at time zero. -/
def Session.entered {R : Type} (session : Session R) : Session R :=
  { session with
    toGame := session.beginRound
    lastProgress := 0
    ticks := session.ticks + 1
    log := session.log ++ [.moved session.state .running] }

/-- The two frames of the input delay run as soon as the round begins. -/
theorem enterRunning_beats
    (configuring : session.state = .configuring)
    (unpaused : session.paused = false)
    (loaded : session.runtime = some played)
    (ticking : Ticking 0 played)
    (localReady : session.localReady = true)
    (peerReady : session.peerReady = true)
    (agreed : session.configsMatch = true)
    (busy : session.writeInflight = true) :
    ∃ game writes log ticks,
      session.enterRunning steady =
          { session with
            toGame := game
            writes := writes
            log := log
            lastProgress := 0
            ticks := ticks } ∧
        game.Beating 2 ∧ game.nextSubmitFrame = 2 ∧ game.pcmConsumed = 0 ∧
        ∃ buffer, game.inputs = some buffer ∧ Drained 2 buffer := by
  have begun : Game.Beating 0 session.beginRound :=
    ⟨rfl, unpaused, rfl, ⟨played, loaded, ticking⟩, rfl⟩
  have first :
      Game.delayedInputs.popReady =
        some (⟨0, 0, 0⟩,
          { Game.delayedInputs with
            nextFrame := 1, slots := Game.delayedInputs.slots.erase 0 }) := by
    rfl
  have second :
      ({ Game.delayedInputs with
          nextFrame := 1, slots := Game.delayedInputs.slots.erase 0 } : Buffer).popReady =
        some (⟨1, 0, 0⟩, { window := kInputWindow, nextFrame := 2 }) := by
    rfl
  have enters : session.enterRunning steady = session.entered.advance steady := by
    unfold Session.enterRunning
    rw [if_neg (by simp [configuring, loaded, localReady, peerReady, agreed])]
    rfl
  have loop := @advance_loop _ steady session.entered _ _ rfl unpaused rfl loaded
  obtain ⟨game, writes, log, one, beats, onward⟩ :=
    @advanceLoop_beats session.entered 0 2 _ _ _ begun rfl first rfl (by decide) busy
  obtain ⟨game', writes', log', two, beats', onward'⟩ :=
    @advanceLoop_beats
      { session.entered with
        toGame := game
        writes := writes
        log := log
        ticks := session.ticks + 2 }
      1 1 _ _ _ beats onward.inputs second rfl (by decide) busy
  have looped := loop.trans (one.trans (two.trans (advanceLoop_idle onward'.inputs rfl 1)))
  have done := enters.trans looped
  refine ⟨game', writes', log', _, done, beats', ?_, ?_, _, onward'.inputs, ⟨rfl, rfl, ?_⟩⟩
  · rw [onward'.nextSubmitFrame]
    exact onward.nextSubmitFrame
  · rw [onward'.pcmConsumed]
    exact onward.pcmConsumed
  · intro side index
    cases side <;> rfl

/-! ## One frame after the other -/

/-- A guest that waits for the peer's buttons of the next frame. -/
structure Waiting (frames : Nat) (session : Session (Played Metronome)) : Prop where
  attentive : Attentive (frames + 5) session
  beating : session.Beating frames
  next : session.nextSubmitFrame = frames
  buffer : ∃ buffer, session.inputs = some buffer ∧ Drained frames buffer

/-- On a clock that stands still no round stalls. -/
theorem pump_running
    {event : Event}
    (running : (session.consume steady event).state = .running)
    (unpaused : (session.consume steady event).paused = false) :
    session.pump steady [event] = (session.consume steady event).tick := by
  have uninviting : Session.expireInvite steady (session.consume steady event) =
      session.consume steady event := by
    unfold Session.expireInvite
    rw [if_neg (by simp [running])]
  unfold Session.pump
  simp only [List.foldl_cons, List.foldl_nil, uninviting]
  unfold Session.expireProgress
  rw [if_pos (by simp [running, unpaused]), if_neg]
  change ¬ 0 - _ ≥ kProgressTimeout
  rw [Nat.zero_sub]
  decide

theorem steady_takes (operation : Nat) : steady.answer operation = quicAccepted :=
  rfl

/-- What a message that is handled leaves of the streams. -/
structure SameStreams {R : Type} (session later : Session R) : Prop where
  operations : later.operations = session.operations
  nextOperation : later.nextOperation = session.nextOperation
  readInflight : later.readInflight = session.readInflight
  writeInflight : later.writeInflight = session.writeInflight
  recvStream : later.recvStream = session.recvStream
  decoder : later.decoder = session.decoder

/-- A read that comes back with one message: it is handled, and the next read begins. -/
theorem pump_message
    {operation : Nat}
    {message : Message}
    {session handled : Session (Played Metronome)}
    (attentive : Attentive operation session)
    (alive : session.state ≠ .ended)
    (fits : message.Fits)
    (handles : (session.receipt message.frame).handleMessage steady message = handled)
    (same : SameStreams (session.receipt message.frame) handled)
    (running : handled.state = .running)
    (unpaused : handled.paused = false) :
    Attentive (operation + 1)
        (session.pump steady [⟨operation, quicOk, 0, message.frame⟩]) ∧
      (session.pump steady [⟨operation, quicOk, 0, message.frame⟩]).toGame = handled.toGame := by
  have decoder : handled.decoder = {} := same.decoder.trans attentive.decoder
  have receiving : handled.recvStream ≠ 0 := by
    rw [same.recvStream]
    exact attentive.receiving
  obtain ⟨traffic, reads⟩ :=
    @beginRead_taken _ steady handled steady_takes same.readInflight receiving
      (by rw [running]; rintro ⟨⟩)
  have consumed := consume_message attentive alive fits (handles ▸ decoder)
  rw [handles, reads] at consumed
  rw [pump_running (by rw [consumed]; exact running) (by rw [consumed]; exact unpaused), consumed]
  refine ⟨?_, rfl⟩
  exact
    { operations := by
        change handled.operations ++ [(handled.nextOperation, _)] = _
        rw [same.operations, same.nextOperation]
        exact congrArg (fun next => [(3, Operation.write), (next, .read)]) attentive.nextOperation
      nextOperation := by
        change handled.nextOperation + 1 = _
        rw [same.nextOperation]
        exact congrArg (· + 1) attentive.nextOperation
      write := Nat.lt_succ_of_lt attentive.write
      writing := same.writeInflight.trans attentive.writing
      receiving := receiving
      decoder := decoder }

/-- The host's word lets the guest play the frames of the input delay. -/
theorem pump_start
    (attentive : Attentive 6 session)
    (guest : session.role = .guest)
    (configuring : session.state = .configuring)
    (unpaused : session.paused = false)
    (loaded : session.runtime = some played)
    (ticking : Ticking 0 played)
    (localReady : session.localReady = true)
    (peerReady : session.peerReady = true)
    (agreed : session.configsMatch = true) :
    Waiting 2
        (session.pump steady
          [⟨6, quicOk, 0, Message.frame ⟨.start, session.localConfigHash.bytes⟩⟩]) ∧
      (session.pump steady
        [⟨6, quicOk, 0, Message.frame ⟨.start, session.localConfigHash.bytes⟩⟩]).pcmConsumed =
          0 := by
  have fits : Message.Fits ⟨.start, session.localConfigHash.bytes⟩ := by
    simp [Message.Fits, Message.bodySize, Wire.kMaxBodySize, session.localConfigHash.sized]
  have alive : session.state ≠ .ended := by
    rw [configuring]
    rintro ⟨⟩
  have started :=
    @handleMessage_start _ steady
      (session.receipt (Message.frame ⟨.start, session.localConfigHash.bytes⟩))
      guest configuring localReady peerReady agreed
  obtain ⟨game, writes, log, ticks, entered, beats, next, consumed, buffer⟩ :=
    @enterRunning_beats played
      ((session.receipt (Message.frame ⟨.start, session.localConfigHash.bytes⟩)).note
        (.received session.state session.lobbyGeneration
          ⟨.start, session.localConfigHash.bytes⟩))
      configuring unpaused loaded ticking localReady peerReady agreed attentive.writing
  obtain ⟨later, sameGame⟩ :=
    pump_message attentive alive fits (started.trans entered) ⟨rfl, rfl, rfl, rfl, rfl, rfl⟩
      beats.running beats.unpaused
  refine ⟨?_, (congrArg Game.pcmConsumed sameGame).trans consumed⟩
  exact
    { attentive := later
      beating := sameGame ▸ beats
      next := (congrArg Game.nextSubmitFrame sameGame).trans next
      buffer := sameGame ▸ buffer }

/-- A buffer with the remote mask of the next frame and nothing else. -/
structure Heard (frames : Nat) (buffer : Buffer) : Prop where
  window : buffer.window = kInputWindow
  nextFrame : buffer.nextFrame = frames
  remote : ∃ mask, buffer.mask false frames = some mask
  empty : ∀ side index, ¬ (index = frames ∧ side = false) → buffer.mask side index = none

theorem Drained.hear
    (drained : Drained frames buffer)
    (mask : UInt32) :
    ∃ rest, buffer.putRemote frames mask = (.accepted, rest) ∧ Heard frames rest := by
  have window := drained.window
  have nextFrame := drained.nextFrame
  refine ⟨_, Buffer.put_of_empty mask (by omega) (by rw [window, kInputWindow]; omega)
    (drained.empty false frames), window, nextFrame, ⟨mask, ?_⟩, ?_⟩
  · rw [Buffer.mask_of_insert, if_pos ⟨rfl, rfl⟩]
  · intro side index other
    rw [Buffer.mask_of_insert, if_neg other]
    exact drained.empty side index

/-- With the local mask the frame is ready, and nothing is left behind it. -/
theorem Heard.submit
    (heard : Heard frames buffer)
    (small : frames + 1 < 2 ^ 64)
    (mask : UInt32) :
    ∃ rest frame last,
      buffer.putLocal frames mask = (.accepted, rest) ∧
        rest.popReady = some (frame, last) ∧ frame.index = frames ∧
        Drained (frames + 1) last := by
  have window := heard.window
  have nextFrame := heard.nextFrame
  obtain ⟨remote, stored⟩ := heard.remote
  have put :=
    @Buffer.put_of_empty frames true buffer mask (by omega)
      (by rw [window, kInputWindow]; omega) (heard.empty true frames (by simp))
  generalize shape :
    ({ buffer with
        slots := buffer.slots.insert frames ((buffer.slot frames).store true mask) } :
      Buffer) = rest at put
  have masks : ∀ side index,
      rest.mask side index =
        if index = frames ∧ side = true then some mask else buffer.mask side index := by
    intro side index
    rw [← shape]
    exact Buffer.mask_of_insert buffer frames index true side mask
  have first : rest.nextFrame = frames := by
    rw [← shape]
    exact nextFrame
  have localMask : rest.mask true rest.nextFrame = some mask := by
    rw [first, masks, if_pos ⟨rfl, rfl⟩]
  have remoteMask : rest.mask false rest.nextFrame = some remote := by
    rw [first, masks, if_neg (by simp)]
    exact stored
  obtain ⟨last, popped⟩ := Buffer.popReady_of_masks localMask remoteMask
  obtain ⟨_, _, _, rfl⟩ := Buffer.popReady_eq_some popped
  refine ⟨rest, _, _, put, popped, first, ?_, ?_, ?_⟩
  · change rest.window = _
    rw [← shape]
    exact window
  · change wrap64 (rest.nextFrame + 1) = _
    rw [first]
    exact wrap64_of_lt small
  · intro side index
    rw [Buffer.mask_of_erase, first]
    split
    · rfl
    · next other =>
      rw [masks, if_neg (fun same => other same.1)]
      exact heard.empty side index (fun same => other same.1)

/-- The buttons of the peer for a frame: none is held. -/
def released (frames : Nat) : Message :=
  ⟨.input, appendU64 frames ++ appendU32 0⟩

theorem released_fits (frames : Nat) : (released frames).Fits := by
  simp [released, Message.Fits, Message.bodySize, Wire.kMaxBodySize]

/-- The remote mask of the next frame is stored, and waits for the local one. -/
theorem pump_input
    (waiting : Waiting frames session)
    (small : frames < 2 ^ 64) :
    ∃ buffer,
      Attentive (frames + 6)
          (session.pump steady [⟨frames + 5, quicOk, 0, (released frames).frame⟩]) ∧
        (session.pump steady [⟨frames + 5, quicOk, 0, (released frames).frame⟩]).toGame =
          { session.toGame with inputs := some buffer } ∧
        Heard frames buffer := by
  obtain ⟨buffer, inputs, drained⟩ := waiting.buffer
  obtain ⟨rest, put, heard⟩ :=
    drained.hear (bigEndianU32 ((released frames).payload.drop 8))
  have nothing : rest.popReady = none :=
    popReady_of_unset (heard.empty true rest.nextFrame (by simp))
  have alive : session.state ≠ .ended := by
    rw [waiting.beating.running]
    rintro ⟨⟩
  have read :
      buffer.putRemote (bigEndianU64 (released frames).payload)
          (bigEndianU32 ((released frames).payload.drop 8)) =
        (.accepted, rest) := by
    have index : bigEndianU64 (released frames).payload = frames := by
      simp only [released, bigEndianU64_appendU64]
      exact wrap64_of_lt small
    rw [index]
    exact put
  obtain ⟨log, handles⟩ :=
    @handleMessage_input _ steady (session.receipt (released frames).frame) buffer rest
      (released frames).payload waiting.beating.running inputs (by simp [released]) read nothing
  obtain ⟨attentive, game⟩ :=
    pump_message waiting.attentive alive (released_fits frames) handles
      ⟨rfl, rfl, rfl, rfl, rfl, rfl⟩ waiting.beating.running waiting.beating.unpaused
  exact ⟨rest, attentive, game, heard⟩

/-- With the local buttons the frame runs, and the guest waits for the next one. -/
theorem submitInput_waiting
    (attentive : Attentive (frames + 6) session)
    (beating : session.Beating frames)
    (next : session.nextSubmitFrame = frames)
    (inputs : session.inputs = some buffer)
    (heard : Heard frames buffer)
    (small : frames + 2 < 2 ^ 64) :
    Waiting (frames + 1) (session.submitInput steady 0).2 ∧
      (session.submitInput steady 0).2.pcmConsumed = session.pcmConsumed := by
  obtain ⟨rest, frame, last, put, popped, index, drained⟩ := heard.submit (by omega) 0
  obtain ⟨played, loaded, ticking⟩ := beating.loaded
  have alive : session.state ≠ .ended := by
    rw [beating.running]
    rintro ⟨⟩
  have early : session.nextSubmitFrame < wrap64 (session.completedFrames + kInputDelay) := by
    rw [next, beating.completed, kInputDelay, wrap64_of_lt small]
    omega
  have fits : Message.Fits ⟨.input, appendU64 session.nextSubmitFrame ++ appendU32 0⟩ :=
    released_fits session.nextSubmitFrame
  have submitted :=
    submitInput_accepted beating.running beating.unpaused inputs early (next ▸ put)
      (@queueMessage_behind _ steady { session with inputs := some rest } .input _ alive
        attentive.writing fits)
  generalize counted :
    ({ Session.pushed .input (appendU64 session.nextSubmitFrame ++ appendU32 0)
        { session with inputs := some rest } with
      nextSubmitFrame :=
        wrap64 ((Session.pushed .input (appendU64 session.nextSubmitFrame ++ appendU32 0)
          { session with inputs := some rest }).nextSubmitFrame + 1) } :
      Session (Played Metronome)) = ready at submitted
  have readyInputs : ready.inputs = some rest := counted ▸ rfl
  have readyBeats : ready.Beating frames :=
    counted ▸
      ⟨beating.running, beating.unpaused, beating.completed, beating.loaded, beating.unheard⟩
  have readyNext : ready.nextSubmitFrame = frames + 1 := by
    rw [← counted]
    change wrap64 (session.nextSubmitFrame + 1) = _
    rw [next]
    exact wrap64_of_lt (by omega)
  have readyAttentive : Attentive (frames + 6) ready :=
    counted ▸
      ⟨attentive.operations, attentive.nextOperation, attentive.write, attentive.writing,
        attentive.receiving, attentive.decoder⟩
  have readyConsumed : ready.pcmConsumed = session.pcmConsumed := counted ▸ rfl
  obtain ⟨played, loaded, _⟩ := readyBeats.loaded
  obtain ⟨game, writes, log, ran, beats, onward⟩ :=
    advanceLoop_beats readyBeats readyInputs popped index (by omega) readyAttentive.writing
  have idle :=
    @advanceLoop_idle _ steady
      { ready with
        toGame := game
        writes := writes
        log := log
        lastProgress := 0
        ticks := ready.ticks + 1 }
      last onward.inputs (popReady_of_unset (drained.empty true last.nextFrame))
      rest.slots.keys.length
  have done :=
    (advance_loop readyBeats.running readyBeats.unpaused readyInputs loaded).trans
      (ran.trans idle)
  rw [submitted, done]
  refine ⟨?_, onward.pcmConsumed.trans readyConsumed⟩
  exact
    { attentive :=
        ⟨readyAttentive.operations, readyAttentive.nextOperation, readyAttentive.write,
          readyAttentive.writing, readyAttentive.receiving, readyAttentive.decoder⟩
      beating := beats
      next := onward.nextSubmitFrame.trans readyNext
      buffer := ⟨last, onward.inputs, drained⟩ }

/-- The calls that play one frame: the peer's buttons come, and the local ones go. -/
def beat (frames : Nat) : List Call :=
  [.completion ⟨frames + 5, quicOk, 0, (released frames).frame⟩, .submitInput 0]

theorem beat_played
    (frames : Nat)
    (session : Session (Played Metronome)) :
    (beat frames).foldl (fun (endpoint : Endpoint (Played Metronome)) call =>
        endpoint.call steady call) { session := session } =
      { session :=
          ((session.pump steady
            [⟨frames + 5, quicOk, 0, (released frames).frame⟩]).submitInput steady 0).2 } := by
  simp only [beat, List.foldl_cons, List.foldl_nil, Endpoint.call, Endpoint.completion,
    Endpoint.flyLanMvpSubmitInput, Endpoint.pump, List.nil_append]

theorem beat_waiting
    (waiting : Waiting frames session)
    (small : frames + 2 < 2 ^ 64) :
    ∃ later,
      (beat frames).foldl (fun (endpoint : Endpoint (Played Metronome)) call =>
          endpoint.call steady call) { session := session } =
        { session := later } ∧
      Waiting (frames + 1) later ∧ later.pcmConsumed = session.pcmConsumed := by
  obtain ⟨buffer, attentive, game, heard⟩ := pump_input waiting (by omega)
  have beating := waiting.beating
  obtain ⟨later, consumed⟩ :=
    submitInput_waiting attentive
      (game ▸
        ⟨beating.running, beating.unpaused, beating.completed, beating.loaded,
          beating.unheard⟩)
      ((congrArg Game.nextSubmitFrame game).trans waiting.next)
      (congrArg Game.inputs game) heard small
  have same := congrArg Game.pcmConsumed game
  exact ⟨_, beat_played frames session, later, consumed.trans same⟩

/-- The calls that play some frames behind the two of the input delay. -/
def beats (count : Nat) : List Call :=
  (List.range count).flatMap fun played => beat (played + 2)

theorem beats_waiting
    (waiting : Waiting 2 session)
    (count : Nat)
    (small : count + 3 < 2 ^ 64) :
    ∃ later,
      (beats count).foldl (fun (endpoint : Endpoint (Played Metronome)) call =>
          endpoint.call steady call) { session := session } =
        { session := later } ∧
      Waiting (count + 2) later ∧ later.pcmConsumed = session.pcmConsumed := by
  induction count with
  | zero => exact ⟨session, rfl, waiting, rfl⟩
  | succ count inductionHypothesis =>
      obtain ⟨middle, first, before, kept⟩ := inductionHypothesis (by omega)
      obtain ⟨later, last, after, same⟩ := beat_waiting before (by omega)
      refine ⟨later, ?_, ?_, same.trans kept⟩
      · rw [beats, List.range_succ, List.flatMap_append, List.foldl_append]
        change List.foldl _ (List.foldl _ _ (beats count)) _ = _
        rw [first]
        simpa using last
      · have shift : count + 1 + 2 = count + 2 + 1 := by omega
        rw [shift]
        exact after

/-! ## The run -/

/-- A ROM of one byte. -/
def shortRom : Bytes :=
  [1]

/-- The configuration that both sides choose. -/
def shortConfig : Hash :=
  makeConfigHash FlyNes.Wire.sha256 (FlyNes.Wire.sha256 shortRom) ⟨1, 150247, 2500, 48000⟩

/-- A guest joins, chooses what its host has chosen, and both confirm it. -/
def agreement : List Call :=
  [.join (ascii "10.0.0.2") ((formatInvite sampleInvite).getD []),
    .completion ⟨1, quicOk, 7, []⟩, .snapshotRead,
    .completion ⟨2, quicOk, 8, appendU64 9⟩, .snapshotRead,
    .completion ⟨4, quicOk, 0,
      Message.frame ⟨.accept, sampleInvite.token.bytes⟩ ++
        Message.frame ⟨.config, (FlyNes.Wire.sha256 shortRom).bytes ++ shortConfig.bytes⟩⟩,
    .selectGame shortRom [], .confirm,
    .completion ⟨5, quicOk, 0, Message.frame ⟨.ready, shortConfig.bytes⟩⟩, .snapshotRead]

/-- The host's word to start. -/
def startEvent : Event :=
  ⟨6, quicOk, 0, Message.frame ⟨.start, shortConfig.bytes⟩⟩

theorem agreement_ready :
    let session := (Endpoint.run steady agreement).session
    (Endpoint.run steady agreement).events = [] ∧
      session.operations = [(3, .write), (6, .read)] ∧ session.nextOperation = 7 ∧
      session.writeInflight = true ∧ session.recvStream ≠ 0 ∧ session.decoder = {} ∧
      session.role = .guest ∧ session.state = .configuring ∧ session.paused = false ∧
      session.localReady = true ∧ session.peerReady = true ∧ session.configsMatch = true ∧
      session.localConfigHash = shortConfig ∧
      (session.runtime.map fun played =>
          (played.produced, played.runtime.nes.isSome, played.runtime.romLoaded,
            played.runtime.timelineSet)) =
        some (0, true, true, false) := by
  decide +kernel

/-- The host's word starts the round. -/
theorem agreement_starts :
    Waiting 2 ((Endpoint.run steady agreement).session.pump steady [startEvent]) ∧
      ((Endpoint.run steady agreement).session.pump steady [startEvent]).pcmConsumed = 0 := by
  obtain ⟨_, operations, nextOperation, writing, receiving, decoder, guest, configuring, unpaused,
    localReady, peerReady, agreed, config, runtime⟩ := agreement_ready
  obtain ⟨played, loaded, facts⟩ := Option.map_eq_some_iff.mp runtime
  simp only [Prod.mk.injEq] at facts
  obtain ⟨produced, owned, rom, unset⟩ := facts
  have ticking : Ticking 0 played :=
    { produced := produced
      owned := Option.isSome_iff_exists.mp owned
      loaded := rom
      next := by
        intro input _ index
        unfold Emulation.Runtime.expectsFrame
        rw [unset, index]
        rfl }
  unfold startEvent
  rw [← config]
  exact pump_start ⟨operations, nextOperation, by decide, writing, receiving, decoder⟩ guest
    configuring unpaused loaded ticking localReady peerReady agreed

/-- The samples of the first two frames can be pulled. -/
theorem pullPcm_waiting
    {takings : List Taking}
    {account : AudioAccount}
    (kept : Kept takings account (session.party none))
    (waiting : Waiting 2 session)
    (unconsumed : session.pcmConsumed = 0) :
    Waiting 2 (session.pullPcm steady 1).2 ∧
      0 < (session.pullPcm steady 1).2.pcmConsumed := by
  have emulated : steady.runtime = playback metronome calm := rfl
  have accounted : session.Accounted account := kept.accounted
  obtain ⟨played, loaded, ticking⟩ := waiting.beating.loaded
  have produced : account.produced = 4 :=
    (accounted.loaded played loaded).produced.symm.trans ticking.produced
  have available : wrap64 (session.pcmProduced + (2 ^ 64 - session.pcmConsumed)) ≠ 0 := by
    rw [accounted.produced, produced, unconsumed]
    decide
  obtain ⟨_, pulled, block, within, pull, positive, first, _, result⟩ :=
    pullPcm_available emulated accounted loaded available Nat.one_ne_zero
  rw [result]
  have beating := waiting.beating
  refine ⟨⟨?_, ?_, waiting.next, waiting.buffer⟩, ?_⟩
  · exact
      ⟨waiting.attentive.operations, waiting.attentive.nextOperation, waiting.attentive.write,
        waiting.attentive.writing, waiting.attentive.receiving, waiting.attentive.decoder⟩
  · exact
      ⟨beating.running, beating.unpaused, beating.completed, ⟨pulled, rfl, ticking.pull pull⟩,
        beating.unheard⟩
  · change 0 < wrap64 (block.firstSampleSequence + block.sampleCount)
    have start : wrap64 played.oldest = played.oldest := wrap64_of_lt (by omega)
    rw [first, start, wrap64_of_lt (by omega)]
    omega

/-- Behind the agreement, one sample of the first two frames is pulled. -/
def opening : List Call :=
  agreement ++ [.completion startEvent, .pullPcm 1]

theorem run_append
    (env : Env R)
    (first second : List Call) :
    Endpoint.run env (first ++ second) =
      second.foldl (fun (endpoint : Endpoint R) call => endpoint.call env call)
        (Endpoint.run env first) :=
  List.foldl_append

theorem opening_waiting :
    ∃ session,
      Endpoint.run steady opening = { session := session } ∧
        Waiting 2 session ∧ 0 < session.pcmConsumed := by
  have emulated : steady.runtime = playback metronome calm := rfl
  obtain ⟨waiting, unconsumed⟩ := agreement_starts
  have audible := audible_run emulated agreement
  have silent := agreement_ready.1
  unfold opening
  rw [run_append]
  generalize Endpoint.run steady agreement = agreed at waiting unconsumed audible silent ⊢
  obtain ⟨session, events⟩ := agreed
  obtain rfl : events = [] := silent
  have other : ∀ capacity, Call.completion startEvent ≠ .pullPcm capacity := by
    rintro _ ⟨⟩
  have started : Audible _ { session := session, events := [startEvent] } :=
    audible.quiet emulated other
  obtain ⟨account, kept⟩ := (started.pumped emulated).kept
  exact ⟨_, rfl, pullPcm_waiting kept waiting unconsumed⟩

/-- A guest plays 2^63 frames of two samples each. -/
def marathon : List Call :=
  opening ++ beats (2 ^ 63 - 2)

/--
In every run the counters are positions of one sequence of samples modulo 2^64: the
samples that the frames of the round have produced, and a position not beyond them up to
which they have been pulled.  The blocks of a round lie behind one another.  Until a round
has produced 2^64 samples, the counters and the sequences are the positions.
-/
theorem audio_accounted
    {State : Type}
    (core : NesCore State)
    (outside : Outside State)
    (sha256 : Bytes → Hash)
    (clock : Nat → Nat)
    (answer : Nat → Int)
    (calls : List Call) :
    let env := playbackEnv core outside sha256 clock answer
    let session := (Endpoint.run env calls).session
    (∃ account : AudioAccount,
      session.pcmProduced = wrap64 account.produced ∧
        session.pcmConsumed = wrap64 account.consumed ∧
        (∀ played, session.runtime = some played → played.produced = account.produced) ∧
        account.produced ≤ kAudioScratchSamples * (roundTally session.log).frames ∧
        (account.produced < 2 ^ 64 → session.pcmConsumed ≤ session.pcmProduced)) ∧
      (∀ taking ∈ takings env calls,
        0 < taking.block.sampleCount ∧
          taking.block.firstSampleSequence = wrap64 taking.start) ∧
      (takings env calls).Pairwise fun earlier later =>
        earlier.round = later.round →
          earlier.finish ≤ later.start ∧
            (later.start < 2 ^ 64 →
              earlier.block.firstSampleSequence + earlier.block.sampleCount ≤
                later.block.firstSampleSequence) := by
  intro env session
  have emulated : env.runtime = playback core outside := rfl
  have audible := audible_run emulated calls
  obtain ⟨account, kept⟩ := audible.kept
  have produced := kept.accounted.produced
  have consumed := kept.accounted.consumed
  refine ⟨⟨account, produced, consumed, ?_, kept.bounded, ?_⟩, audible.numbered, ?_⟩
  · intro played loaded
    exact (kept.accounted.loaded played loaded).produced
  · intro small
    change session.pcmProduced = _ at produced
    change session.pcmConsumed = _ at consumed
    rw [produced, consumed, wrap64_of_lt small,
      wrap64_of_lt (account.ordered.trans_lt small)]
    exact account.ordered
  · refine audible.ordered.imp_of_mem ?_
    intro earlier later first second ordered same
    refine ⟨ordered same, fun small => ?_⟩
    have finish := ordered same
    have below : earlier.start < 2 ^ 64 := by
      unfold Taking.finish at finish
      omega
    rw [(audible.numbered earlier first).2, (audible.numbered later second).2,
      wrap64_of_lt small, wrap64_of_lt below]
    exact finish

/-- After 2^64 samples the producer's counter is behind the consumer's. -/
theorem counters_wrap :
    ¬ (Endpoint.run steady marathon).session.pcmConsumed ≤
      (Endpoint.run steady marathon).session.pcmProduced := by
  obtain ⟨session, opened, waiting, consumed⟩ := opening_waiting
  obtain ⟨later, played, done, same⟩ := beats_waiting waiting (2 ^ 63 - 2) (by decide)
  have last : Endpoint.run steady marathon = { session := later } := by
    rw [marathon, run_append, opened, played]
  have audible := audible_run (show steady.runtime = playback metronome calm from rfl) marathon
  rw [last] at audible ⊢
  obtain ⟨account, kept⟩ := audible.kept
  obtain ⟨runtime, loaded, ticking⟩ := done.beating.loaded
  have total : account.produced = 2 ^ 64 :=
    (kept.accounted.loaded runtime loaded).produced.symm.trans ticking.produced
  have produced : later.pcmProduced = wrap64 account.produced := kept.accounted.produced
  have zero : wrap64 (2 ^ 64) = 0 := Nat.mod_self _
  rw [produced, total, zero, same]
  omega

end FlyNes.LanMvp
