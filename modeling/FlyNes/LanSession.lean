import FlyNes.LanSessionState

namespace FlyNes.LanMvp

open ByteString
open Lockstep (wrap64 Frame Buffer)
open Wire (Kind Message)

/-!
# The LAN session state machine

Every function of the session is a function from the session before a call to
the session after it.  Field updates that belong to the protocol are functions
on `Game`; the functions on `Session` around them follow the control flow of the
implementation and write the history.
-/

namespace Game

variable {R : Type}

/-- Drop the running game. -/
def stopRuntime (game : Game R) : Game R :=
  { game with inputs := none, runtime := none }

/-- The protocol part of ending a session. -/
def finish (reason : Reason) (game : Game R) : Game R :=
  { game.stopRuntime with state := .ended, reason := reason }

/-- Both sides are configured alike. -/
def configsMatch (game : Game R) : Bool :=
  game.localConfigured && game.peerConfigured &&
    sameBytes game.localRomHash.bytes game.remoteRomHash.bytes &&
    sameBytes game.localConfigHash.bytes game.remoteConfigHash.bytes

/-- Forget the game that was selected or played. -/
def clearGame (game : Game R) : Game R :=
  { game.stopRuntime with
    localConfigured := false
    peerConfigured := false
    localReady := false
    peerReady := false
    localRomHash := default
    remoteRomHash := default
    localConfigHash := default
    remoteConfigHash := default
    localDigests := ∅
    remoteDigests := ∅
    completedFrames := 0
    lastDigestFrame := 0
    pcmProduced := 0
    pcmConsumed := 0
    paused := false
    peerGameKey := []
    appliedButtons := (0, 0)
    lastStateDigest := default
    reason := .none }

/-- An input buffer that holds zero masks for the frames of the input delay. -/
def delayedInputs : Buffer :=
  (List.range kInputDelay).foldl
    (fun buffer frame =>
      ((buffer.putLocal frame 0).2.putRemote frame 0).2)
    { window := kInputWindow }

/-- A fresh round. -/
def beginRound (game : Game R) : Game R :=
  { game with
    state := .running
    reason := .none
    completedFrames := 0
    pcmProduced := 0
    pcmConsumed := 0
    lastDigestFrame := 0
    lastStateDigest := default
    inputs := some delayedInputs
    nextSubmitFrame := kInputDelay
    localDigests := ∅
    remoteDigests := ∅ }

/-- The input handed to the runtime for a ready frame. -/
def frameInput (game : Game R) (frame : Frame) : FrameInput where
  timelineEpoch := 1
  frameIndex := frame.index
  buttons :=
    if game.role = .host then
      (frame.localMask, frame.remoteMask)
    else
      (frame.remoteMask, frame.localMask)
  inputSequence := (wrap64 (frame.index + 1), wrap64 (frame.index + 1))
  batchSequence := wrap64 (frame.index + 1)

/-- The protocol state after a frame has run. -/
def completeFrame
    (frame : Frame)
    (runtime : R)
    (result : FrameResult)
    (game : Game R) : Game R :=
  { game with
    runtime := some runtime
    completedFrames := wrap64 (frame.index + 1)
    pcmProduced :=
      if result.pcmPublished then
        wrap64 (result.audioLastSampleSequence + 1)
      else
        game.pcmProduced
    appliedButtons := (game.frameInput frame).buttons }

/-- Keep the digest of the frame just completed. -/
def keepDigest (frame : Nat) (digest : Hash) (game : Game R) : Game R :=
  { game with
    localDigests := game.localDigests.insert frame digest
    lastDigestFrame := frame
    lastStateDigest := digest }

/-- Both sides' digests of a frame, when both are known. -/
def digestPair (frame : Nat) (game : Game R) : Option (Hash × Hash) :=
  match game.localDigests.lookup frame, game.remoteDigests.lookup frame with
  | some ours, some theirs => some (ours, theirs)
  | _, _ => none

/-- Drop both sides' digests of a frame. -/
def forgetDigests (frame : Nat) (game : Game R) : Game R :=
  { game with
    localDigests := game.localDigests.erase frame
    remoteDigests := game.remoteDigests.erase frame }

/-- The peer announces another configuration than before. -/
def configChanged (payload : Bytes) (game : Game R) : Bool :=
  game.peerConfigured &&
    (!sameBytes game.remoteRomHash.bytes (payload.take 32) ||
      !sameBytes game.remoteConfigHash.bytes ((payload.drop 32).take 32))

/-- Take over the configuration announced by the peer. -/
def recordConfig (payload : Bytes) (game : Game R) : Game R :=
  let changed := game.configChanged payload
  { game with
    remoteRomHash := Block.copy 32 payload
    remoteConfigHash := Block.copy 32 (payload.drop 32)
    peerGameKey := payload.drop 64
    peerConfigured := true
    localReady := !changed && game.localReady
    peerReady := !changed && game.peerReady
    state := .configuring }

/-- Why a just recorded peer configuration does not fit the local one. -/
def configConflict (game : Game R) : Option Reason :=
  if game.localConfigured &&
      !sameBytes game.localRomHash.bytes game.remoteRomHash.bytes then
    some .romMismatch
  else if game.localConfigured &&
      !sameBytes game.localConfigHash.bytes game.remoteConfigHash.bytes then
    some .configMismatch
  else
    none

/-- Withdraw both confirmations and report why. -/
def withdraw (reason : Reason) (game : Game R) : Game R :=
  { game with reason := reason, localReady := false, peerReady := false }

/-- Why a local selection does not fit what the peer has announced. -/
def selectionConflict
    (romHash configHash : Hash)
    (game : Game R) : Option Reason :=
  if game.peerConfigured &&
      !sameBytes romHash.bytes game.remoteRomHash.bytes then
    some .romMismatch
  else if game.peerConfigured &&
      !sameBytes configHash.bytes game.remoteConfigHash.bytes then
    some .configMismatch
  else
    none

/-- Take over a local selection. -/
def commitSelection
    (runtime : R)
    (romHash configHash : Hash)
    (game : Game R) : Game R :=
  { game with
    runtime := some runtime
    localRomHash := romHash
    localConfigHash := configHash
    localConfigured := true
    localReady := false
    peerReady := false
    reason := .none
    state := .configuring }

end Game

/-- Text of the configuration hash's compatibility label. -/
def kCompatibility : Bytes :=
  ascii "flynes-lan-mvp-nestopia-v1"

/-- Hash of everything two sides must agree on before they play. -/
def makeConfigHash
    (sha256 : Bytes → Hash)
    (romHash : Hash)
    (timing : SourceTiming) : Hash :=
  sha256
    (romHash.bytes ++ kCompatibility ++ appendU32 timing.sourceRegion ++
      appendU32 timing.frameRateNumerator ++
      appendU32 timing.frameRateDenominator ++ appendU32 timing.sampleRate)

namespace Session

variable {R : Type}

/-- Append one deed to the history. -/
def note (effect : Effect) (session : Session R) : Session R :=
  { session with log := session.log ++ [effect] }

/-- Apply a protocol update. -/
def withGame (update : Game R → Game R) (session : Session R) : Session R :=
  { session with toGame := update session.toGame }

/-- Assign the state and record the change. -/
def moveTo (target : State) (session : Session R) : Session R :=
  { session with
    state := target
    log := session.log ++ [.moved session.state target] }

/-- Count one reading of the clock. -/
def tick (session : Session R) : Session R :=
  { session with ticks := session.ticks + 1 }

/-- Read the clock as the time of the last progress. -/
def touchProgress (env : Env R) (session : Session R) : Session R :=
  { session with
    lastProgress := env.clock session.ticks
    ticks := session.ticks + 1 }

/-- Close a provider resource the session holds. -/
def closeResource (resource : Nat) (session : Session R) : Session R :=
  if resource = 0 then
    session
  else
    { session with
      nextOperation := session.nextOperation + 1
      traffic := session.traffic ++
        [(session.state, .close session.nextOperation resource)] }

/-- End the session: drop the game, cancel what is pending, close the link. -/
def endSession (reason : Reason) (session : Session R) : Session R :=
  if session.state = .ended then
    session
  else
    let ended : Session R :=
      { session with
        toGame := session.toGame.finish reason
        qr := []
        writes := []
        writeInflight := false
        readInflight := false
        operations := []
        traffic := session.traffic ++ session.operations.map fun pending =>
          (.ended, .cancel pending.1)
        log := session.log ++ [.moved session.state .ended] }
    (ended.closeResource session.connection).closeResource session.listener

/-- Hand one operation to the provider; a refusal ends the session. -/
def submit
    (env : Env R)
    (kind : Operation)
    (call : ProviderCall)
    (session : Session R) : Bool × Session R :=
  let operation := session.nextOperation
  let result := env.answer operation
  let asked : Session R :=
    { session with
      nextOperation := operation + 1
      traffic := session.traffic ++
        [(session.state,
          .submit operation call (decide (result = quicAccepted)))] }
  if result = quicAccepted then
    (true, { asked with
      operations := session.operations ++ [(operation, kind)] })
  else
    (false,
      endSession .connection
        { asked with
          transportResult := result
          transportOperation := some kind })

/-- Ask for the next bytes of the receive stream. -/
def beginRead (env : Env R) (session : Session R) : Bool × Session R :=
  if session.readInflight ∨ session.recvStream = 0 ∨
      session.state = .ended then
    (true, session)
  else
    let (taken, session) :=
      submit env .read
        (.read session.recvStream (Wire.kMaxBodySize + 2))
        { session with readInflight := true }
    if taken then
      (true, session)
    else
      (false, { session with readInflight := false })

/-- Write the oldest queued frame unless a write is under way. -/
def beginNextWrite (env : Env R) (session : Session R) : Bool × Session R :=
  match session.writes with
  | [] =>
      (true, session)
  | bytes :: _ =>
      if session.writeInflight ∨ session.sendStream = 0 ∨
          session.state = .ended then
        (true, session)
      else
        let (taken, session) :=
          submit env .write (.write session.sendStream bytes)
            { session with writeInflight := true }
        if taken then
          (true, session)
        else
          (false, { session with writeInflight := false })

/--
Queue one message.  A frame pushed after the end of the session is never
written, so it does not enter the history.
-/
def queueMessage
    (env : Env R)
    (kind : Kind)
    (payload : Bytes)
    (session : Session R) : Bool × Session R :=
  match Wire.encode kind payload with
  | none =>
      (false, session.endSession .rejected)
  | some bytes =>
      let pushed : Session R :=
        { session with
          writes := session.writes ++ [bytes]
          log :=
            if session.state = .ended then
              session.log
            else
              session.log ++
                [.queued session.lobbyGeneration ⟨kind, payload⟩] }
      pushed.beginNextWrite env

/-- Compare both sides' digests of a frame once both are there. -/
def compareDigest (frame : Nat) (session : Session R) : Session R :=
  match session.digestPair frame with
  | none =>
      session
  | some (ours, theirs) =>
      if sameBytes ours.bytes theirs.bytes then
        session.withGame (Game.forgetDigests frame)
      else
        session.endSession .desync

/-- Publish the state digest of a completed frame. -/
def publishDigest
    (env : Env R)
    (frame : Nat)
    (session : Session R) : Session R :=
  match session.runtime with
  | none =>
      (session.note (.nullDereference .runtime)).endSession .configMismatch
  | some runtime =>
      match env.runtime.copyFrameDigest runtime 1 frame with
      | none =>
          session.endSession .configMismatch
      | some digest =>
          let kept :=
            (session.withGame (Game.keepDigest frame digest)).note
              (.published frame digest)
          ((kept.queueMessage env .digest
            (appendU64 frame ++ digest.bytes)).2).compareDigest frame

/-- Run one ready frame. -/
def runFrame
    (env : Env R)
    (frame : Frame)
    (session : Session R) : Session R :=
  match session.runtime with
  | none =>
      (session.note (.nullDereference .runtime)).endSession .configMismatch
  | some runtime =>
      let input := session.frameInput frame
      let asked := session.note (.stepped session.paused input)
      match env.runtime.stepFrame runtime input with
      | none =>
          asked.endSession .configMismatch
      | some (runtime, result) =>
          let completed :=
            (asked.withGame
              (Game.completeFrame frame runtime result)).touchProgress env
          if completed.completedFrames % kDigestInterval = 0 then
            completed.publishDigest env frame.index
          else
            completed

/-- The loop of `advance`; `fuel` bounds the number of buffered frames. -/
def advanceLoop (env : Env R) : Nat → Session R → Session R
  | 0, session => session
  | fuel + 1, session =>
      if session.state ≠ .running then
        session
      else
        match session.inputs with
        | none =>
            session.note (.nullDereference .inputs)
        | some inputs =>
            match inputs.popReady with
            | none =>
                session
            | some (frame, inputs) =>
                advanceLoop env fuel
                  (runFrame env frame { session with inputs := some inputs })

/-- Run every frame whose inputs are complete. -/
def advance (env : Env R) (session : Session R) : Session R :=
  match session.inputs with
  | none =>
      session
  | some inputs =>
      if session.state ≠ .running ∨ session.paused ∨
          session.runtime.isNone then
        session
      else
        advanceLoop env (inputs.slots.keys.length + 1) session

/-- Start a round once both sides have confirmed the same configuration. -/
def enterRunning (env : Env R) (session : Session R) : Session R :=
  if session.state = .running ∨ session.runtime.isNone ∨
      !session.configsMatch ∨ !session.localReady ∨ !session.peerReady then
    session
  else
    let entered : Session R :=
      { session with
        toGame := session.toGame.beginRound
        log := session.log ++ [.moved session.state .running] }
    (entered.touchProgress env).advance env

/-- The host starts the round as soon as everything is confirmed. -/
def maybeStartHost (env : Env R) (session : Session R) : Session R :=
  if session.role ≠ .host ∨ session.state = .running ∨
      !session.localReady ∨ !session.peerReady ∨ !session.configsMatch then
    session
  else
    let (sent, session) :=
      session.queueMessage env .start session.localConfigHash.bytes
    if sent then session.enterRunning env else session

/-- Forget the game that was selected or played. -/
def clearGame (session : Session R) : Session R :=
  (session.withGame Game.clearGame).note .cleared

/-- Leave the game: a guest asks the host, the host opens a new generation. -/
def returnLobby (env : Env R) (session : Session R) : Bool × Session R :=
  if session.state = .returning then
    (true, session)
  else if session.state ≠ .running ∧ session.state ≠ .lobby ∧
      session.state ≠ .configuring then
    (false, session)
  else if session.role = .guest then
    (session.moveTo .returning).queueMessage env .lobbyRequest []
  else
    let returning := session.clearGame.moveTo .returning
    let opened : Session R :=
      { returning with
        lobbyGeneration := wrap64 (returning.lobbyGeneration + 1) }
    opened.queueMessage env .lobby (appendU64 opened.lobbyGeneration)

end Session

end FlyNes.LanMvp
