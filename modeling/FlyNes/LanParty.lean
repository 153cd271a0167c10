import FlyNes.LanSessionCalls

namespace FlyNes.LanMvp

open ByteString
open Lockstep (wrap64 Frame Buffer)
open Wire (Kind Message)

/-!
# One side of the protocol

A `Party` is what the protocol can see of a session: its protocol state, its
history, and what the call under way still has to do.  `Act` lists everything a
party can do in one go.  Bytes, provider operations and clock readings are gone;
what they can cause, such as a lost connection, is an act of its own that may
happen at any time.
-/

/-- What a call has decided and not yet done. -/
inductive Debt where
  | start
  | pause (paused : Bool)
deriving DecidableEq

/-- One side of the protocol. -/
structure Party (R : Type) where
  game : Game R := {}
  log : List Effect := []
  owed : Option Debt := none

/-- What an observer sees of an act besides the message it sends. -/
inductive Label where
  | silent
  | heard (message : Message)
  | garbled
  | opened (role : Role)
  | selected (rom config : Hash)
  | confirmed
deriving DecidableEq

/-- The message an act takes in. -/
def Label.input : Label → List Message
  | .heard message => [message]
  | _ => []

/-- An act takes in one message at most. -/
theorem Label.input_cases
    (label : Label) :
    label.input = [] ∨ ∃ message, label.input = [message] := by
  cases label with
  | heard message =>
      exact Or.inr ⟨message, rfl⟩
  | _ =>
      exact Or.inl rfl

/-- An act that is not a decision of the user about a side or a game. -/
def Label.Quiet : Label → Prop
  | .opened _ => False
  | .selected _ _ => False
  | .confirmed => False
  | _ => True

namespace Game

variable {R : Type}

/-- Everything is confirmed and the host can start the round. -/
def Startable (game : Game R) : Prop :=
  game.role = .host ∧ game.localReady = true ∧ game.peerReady = true ∧
    game.configsMatch = true

/-- Both sides' digests of a frame are known and differ. -/
def DigestClash (frame : Nat) (game : Game R) : Prop :=
  ∃ ours theirs, game.digestPair frame = some (ours, theirs) ∧ ours ≠ theirs

/-- The protocol state after both digests of a frame have been compared. -/
def settleDigest (frame : Nat) (game : Game R) : Game R :=
  { game with
    localDigests :=
      if (game.digestPair frame).isSome then
        game.localDigests.erase frame
      else
        game.localDigests
    remoteDigests :=
      if (game.digestPair frame).isSome then
        game.remoteDigests.erase frame
      else
        game.remoteDigests }

/-- The protocol state after a frame has been popped and run. -/
def ranFrame
    (frame : Frame)
    (inputs : Buffer)
    (runtime : R)
    (result : FrameResult)
    (game : Game R) : Game R :=
  completeFrame frame runtime result { game with inputs := some inputs }

/-- The host's answer to an admitted guest. -/
def identify (sha256 : Bytes → Hash) (game : Game R) : Game R :=
  { game with
    sessionId := Block.copy 16
      (sha256 (game.invite.token.bytes ++ game.invite.spkiPin.bytes)).bytes }

/-- The guest's game after its host has opened a new lobby. -/
def followLobby (payload : Bytes) (game : Game R) : Game R :=
  { game.clearGame with
    lobbyGeneration := bigEndianU64 payload
    state := .lobby }

/-- The host's game after it has opened a new lobby. -/
def openLobby (game : Game R) : Game R :=
  { game.clearGame with
    lobbyGeneration := wrap64 (game.lobbyGeneration + 1)
    state := .returning }

/-- The states in which a game can be left. -/
def CanLeave (game : Game R) : Prop :=
  game.state = .running ∨ game.state = .lobby ∨ game.state = .configuring

/-- A message is one the party can take in its present state. -/
def Accepts (message : Message) (game : Game R) : Prop :=
  match message.kind with
  | .join =>
      game.role = .host ∧ game.state = .inviting ∧
        message.payload = game.invite.token.bytes
  | .accept =>
      game.role = .guest ∧ game.state = .joining ∧
        message.payload.length = 16
  | .config =>
      (game.state = .lobby ∨ game.state = .configuring) ∧
        64 ≤ message.payload.length ∧
        message.payload.length < 64 + peerGameKeySize
  | .ready =>
      (game.state = .lobby ∨ game.state = .configuring) ∧
        game.peerConfigured = true ∧
        message.payload = game.remoteConfigHash.bytes
  | .start =>
      game.role = .guest ∧ game.state = .configuring ∧
        message.payload = game.localConfigHash.bytes ∧
        game.localReady = true ∧ game.peerReady = true ∧
        game.configsMatch = true
  | .input =>
      game.state = .running ∧ message.payload.length = 12 ∧
        game.inputs.isSome
  | .digest =>
      game.state = .running ∧ message.payload.length = 40 ∧
        ¬ DigestClash (bigEndianU64 message.payload)
          { game with
            remoteDigests := game.remoteDigests.insert
              (bigEndianU64 message.payload)
              (Block.copy 32 (message.payload.drop 8)) }
  | .pause =>
      message.payload.length = 1
  | .lobbyRequest =>
      game.role = .host ∧ message.payload = []
  | .lobby =>
      game.role = .guest ∧ message.payload.length = 8
  | .lobbyAck =>
      game.role = .host ∧ game.state = .returning ∧
        message.payload.length = 8 ∧
        bigEndianU64 message.payload = game.lobbyGeneration
  | _ =>
      False

/-- The messages that are handled before the barrier. -/
def PassesBarrier (message : Message) (game : Game R) : Prop :=
  (message.kind = .lobbyRequest ∨ message.kind = .lobby ∨
    message.kind = .lobbyAck) ∧ game.Accepts message

/-- A well-formed digest that is turned away in a round is a desync. -/
def Blames (message : Message) (reason : Reason) (game : Game R) : Prop :=
  message.kind = .digest →
  game.state = .running →
  message.payload.length = 40 →
  reason = .desync

theorem blames_of_kind
    {message : Message}
    {reason : Reason}
    {game : Game R}
    (other : message.kind ≠ .digest) :
    game.Blames message reason :=
  fun digest => absurd digest other

/-- A message the party takes in without any consequence. -/
inductive Ignores (message : Message) (game : Game R) : Prop where
  | request :
      message.kind = .lobbyRequest → game.Accepts message →
      ¬ game.CanLeave → Ignores message game
  | barrier :
      game.state = .returning → ¬ game.PassesBarrier message →
      Ignores message game
  | pause :
      message.kind = .pause → game.Accepts message →
      game.state ≠ .running → Ignores message game
  | start :
      message.kind = .start → game.Accepts message →
      game.runtime = none → Ignores message game

end Game

namespace Party

variable {R : Type}

/-- Append deeds to the history. -/
def logged (effects : List Effect) (party : Party R) : Party R :=
  { party with log := party.log ++ effects }

/-- Replace the protocol state and append deeds to the history. -/
def become
    (game : Game R)
    (effects : List Effect)
    (party : Party R) : Party R :=
  { party with game := game, log := party.log ++ effects }

/-- The record of a message that has arrived. -/
def receipt (message : Message) (party : Party R) : Effect :=
  .received party.game.state party.game.lobbyGeneration message

/-- The record of a message sent in the present generation. -/
def posting (kind : Kind) (payload : Bytes) (party : Party R) : Effect :=
  .queued party.game.lobbyGeneration ⟨kind, payload⟩

/-- The party after its session has ended. -/
def finish (reason : Reason) (effects : List Effect) (party : Party R) : Party R :=
  { party with
    game := party.game.finish reason
    log := party.log ++ effects ++ [.moved party.game.state .ended] }

end Party

/-- The provider turns some operation away. -/
def Env.Refuses {R : Type} (env : Env R) : Prop :=
  ∃ operation, env.answer operation ≠ quicAccepted

namespace Game

variable {R : Type}

/-- A frame can be run now; `inputs` is the buffer without it. -/
structure FrameReady
    (frame : Frame)
    (inputs : Buffer)
    (runtime : R)
    (game : Game R) : Prop where
  running : game.state = .running
  unpaused : game.paused = false
  loaded : game.runtime = some runtime
  popped :
    ∃ buffer, game.inputs = some buffer ∧
      buffer.popReady = some (frame, inputs)

end Game

open Game

/-- The frames that carry a digest. -/
def digestDue (frame : Frame) : Prop :=
  wrap64 (frame.index + 1) % kDigestInterval = 0

/--
Everything a party can do in one go, with the message it takes in (in the label)
and the message it sends.
-/
inductive Act {R : Type} (env : Env R) :
    Label → Party R → Option Message → Party R → Prop where
  /-- The link breaks, a clock runs out or the user gives up. -/
  | finish {party : Party R} (reason : Reason) :
      party.game.state ≠ .ended →
      reason = .connection ∨ reason = .expired ∨ reason = .cancelled ∨
        reason = .stall →
      Act env .silent party none (party.finish reason [])
  /-- Bytes that are no frame end the session. -/
  | garbled {party : Party R} :
      party.game.state ≠ .ended →
      Act env .garbled party none (party.finish .rejected [])
  /-- Code that still runs after the end touches bookkeeping only. -/
  | drift {party : Party R} (next : Nat) (ours theirs : Digests)
      (owed : Option Debt) :
      party.game.state = .ended →
      Act env .silent party none
        { party with
          game :=
            { party.game with
              nextSubmitFrame := next
              localDigests := ours
              remoteDigests := theirs }
          owed := owed }
  | frame {party : Party R} {frame : Frame} {inputs : Buffer}
      {runtime after : R} {result : FrameResult} :
      party.game.FrameReady frame inputs runtime →
      env.runtime.stepFrame runtime (party.game.frameInput frame) =
        some (after, result) →
      ¬ digestDue frame →
      Act env .silent party none
        (party.become (party.game.ranFrame frame inputs after result)
          [.stepped false (party.game.frameInput frame)])
  | digest {party : Party R} {frame : Frame} {inputs : Buffer}
      {runtime after : R} {result : FrameResult} {hash : Hash} :
      party.game.FrameReady frame inputs runtime →
      env.runtime.stepFrame runtime (party.game.frameInput frame) =
        some (after, result) →
      digestDue frame →
      env.runtime.copyFrameDigest after 1 frame.index = some hash →
      ¬ ((party.game.ranFrame frame inputs after result).keepDigest
        frame.index hash).DigestClash frame.index →
      Act env .silent party
        (some ⟨.digest, appendU64 frame.index ++ hash.bytes⟩)
        (party.become
          (((party.game.ranFrame frame inputs after result).keepDigest
            frame.index hash).settleDigest frame.index)
          [.stepped false (party.game.frameInput frame),
            .published frame.index hash,
            party.posting .digest (appendU64 frame.index ++ hash.bytes)])
  | clash {party : Party R} {frame : Frame} {inputs : Buffer}
      {runtime after : R} {result : FrameResult} {hash : Hash}
      (reason : Reason) :
      party.game.FrameReady frame inputs runtime →
      env.runtime.stepFrame runtime (party.game.frameInput frame) =
        some (after, result) →
      digestDue frame →
      env.runtime.copyFrameDigest after 1 frame.index = some hash →
      ((party.game.ranFrame frame inputs after result).keepDigest
        frame.index hash).DigestClash frame.index →
      reason = .desync ∨ (reason = .connection ∧ env.Refuses) →
      Act env .silent party
        (some ⟨.digest, appendU64 frame.index ++ hash.bytes⟩)
        ((party.become
          ((party.game.ranFrame frame inputs after result).keepDigest
            frame.index hash) []).finish reason
          [.stepped false (party.game.frameInput frame),
            .published frame.index hash,
            party.posting .digest (appendU64 frame.index ++ hash.bytes)])
  | frameFailed {party : Party R} {frame : Frame} {inputs : Buffer}
      {runtime : R} :
      party.game.FrameReady frame inputs runtime →
      env.runtime.stepFrame runtime (party.game.frameInput frame) = none →
      Act env .silent party none
        (party.finish .configMismatch
          [.stepped false (party.game.frameInput frame)])
  | digestFailed {party : Party R} {frame : Frame} {inputs : Buffer}
      {runtime after : R} {result : FrameResult} :
      party.game.FrameReady frame inputs runtime →
      env.runtime.stepFrame runtime (party.game.frameInput frame) =
        some (after, result) →
      digestDue frame →
      env.runtime.copyFrameDigest after 1 frame.index = none →
      Act env .silent party none
        ((party.become (party.game.ranFrame frame inputs after result)
          []).finish .configMismatch
          [.stepped false (party.game.frameInput frame)])
  | opened {party : Party R} (role : Role) (target : State)
      (invite : Invite) :
      party.owed = none →
      party.game.state = .idle →
      (role = .host ∧ target = .inviting) ∨
        (role = .guest ∧ target = .joining) →
      Act env (.opened role) party none
        (party.become
          { party.game with role := role, invite := invite, state := target }
          [.moved .idle target])
  | addressed {party : Party R} (invite : Invite) (deadline : Nat) :
      party.owed = none →
      party.game.state ≠ .ended →
      invite.token = party.game.invite.token →
      Act env .silent party none
        (party.become
          { party.game with invite := invite, deadline := deadline } [])
  | selected {party : Party R} {runtime : R} {romHash configHash : Hash}
      (rom gameKey : Bytes) :
      party.owed = none →
      party.game.state = .lobby ∨ party.game.state = .configuring →
      Session.loadCandidate env rom = some (some (runtime, romHash, configHash)) →
      gameKey.length < peerGameKeySize →
      party.game.selectionConflict romHash configHash = none →
      Act env (.selected romHash configHash) party
        (some ⟨.config, romHash.bytes ++ configHash.bytes ++ gameKey⟩)
        (party.become
          (party.game.commitSelection runtime romHash configHash)
          [.moved party.game.state .configuring,
            party.posting .config
              (romHash.bytes ++ configHash.bytes ++ gameKey)])
  /-- A selection that fails only leaves its reason. -/
  | reasoned {party : Party R} (reason : Reason) :
      party.owed = none →
      party.game.state = .lobby ∨ party.game.state = .configuring →
      Act env .silent party none
        (party.become { party.game with reason := reason } [])
  | confirmed {party : Party R} :
      party.owed = none →
      party.game.state = .configuring →
      party.game.localConfigured = true →
      party.game.localReady = false →
      Act env .confirmed party
        (some ⟨.ready, party.game.localConfigHash.bytes⟩)
        { party with
          game := { party.game with localReady := true }
          log := party.log ++
            [party.posting .ready party.game.localConfigHash.bytes]
          owed := some .start }
  | started {party : Party R} :
      party.owed = some .start →
      party.game.state = .lobby ∨ party.game.state = .configuring →
      party.game.Startable →
      party.game.runtime.isSome →
      Act env .silent party
        (some ⟨.start, party.game.localConfigHash.bytes⟩)
        { party with
          game := party.game.beginRound
          log := party.log ++
            [party.posting .start party.game.localConfigHash.bytes,
              .moved party.game.state .running]
          owed := none }
  | startLost {party : Party R} :
      party.owed = some .start →
      party.game.state = .lobby ∨ party.game.state = .configuring →
      party.game.Startable →
      env.Refuses →
      Act env .silent party
        (some ⟨.start, party.game.localConfigHash.bytes⟩)
        (party.finish .connection
          [party.posting .start party.game.localConfigHash.bytes])
  /-- Without a runtime the round is announced but not entered. -/
  | startIdle {party : Party R} :
      party.owed = some .start →
      party.game.state = .lobby ∨ party.game.state = .configuring →
      party.game.Startable →
      party.game.runtime = none →
      Act env .silent party
        (some ⟨.start, party.game.localConfigHash.bytes⟩)
        { party with
          log := party.log ++
            [party.posting .start party.game.localConfigHash.bytes]
          owed := none }
  | unstarted {party : Party R} :
      party.owed = some .start →
      party.game.state ≠ .ended →
      ¬ party.game.Startable →
      Act env .silent party none { party with owed := none }
  | submitted {party : Party R} {before after : Buffer} (buttons : UInt32) :
      party.owed = none →
      party.game.state = .running →
      party.game.paused = false →
      party.game.nextSubmitFrame <
        wrap64 (party.game.completedFrames + kInputDelay) →
      party.game.inputs = some before →
      before.putLocal party.game.nextSubmitFrame buttons =
        (.accepted, after) →
      Act env .silent party
        (some ⟨.input,
          appendU64 party.game.nextSubmitFrame ++ appendU32 buttons⟩)
        (party.become
          { party.game with
            inputs := some after
            nextSubmitFrame := wrap64 (party.game.nextSubmitFrame + 1) }
          [party.posting .input
            (appendU64 party.game.nextSubmitFrame ++ appendU32 buttons)])
  /-- The host decides by itself and tells its guest at the end of the call. -/
  | decided {party : Party R} (paused : Bool) :
      party.owed = none →
      party.game.state = .running →
      party.game.role = .host →
      Act env .silent party none
        { party with
          game := { party.game with paused := paused }
          owed := some (.pause paused) }
  | announced {party : Party R} (paused : Bool) :
      party.owed = some (.pause paused) →
      party.game.state ≠ .ended →
      Act env .silent party (some ⟨.pause, [if paused then 1 else 0]⟩)
        { party with
          log := party.log ++
            [party.posting .pause [if paused then 1 else 0]]
          owed := none }
  /-- A guest only asks for a pause. -/
  | asked {party : Party R} (paused : Bool) :
      party.owed = none →
      party.game.state = .running →
      party.game.role ≠ .host →
      Act env .silent party (some ⟨.pause, [if paused then 1 else 0]⟩)
        (party.logged [party.posting .pause [if paused then 1 else 0]])
  | requested {party : Party R} :
      party.owed = none →
      party.game.CanLeave →
      party.game.role = .guest →
      Act env .silent party (some ⟨.lobbyRequest, []⟩)
        (party.become { party.game with state := .returning }
          [.moved party.game.state .returning,
            party.posting .lobbyRequest []])
  | called {party : Party R} :
      party.owed = none →
      party.game.CanLeave →
      party.game.role ≠ .guest →
      Act env .silent party
        (some ⟨.lobby, appendU64 party.game.openLobby.lobbyGeneration⟩)
        (party.become party.game.openLobby
          [.cleared, .moved party.game.state .returning,
            .queued party.game.openLobby.lobbyGeneration
              ⟨.lobby, appendU64 party.game.openLobby.lobbyGeneration⟩])
  | pulled {party : Party R} {runtime after : R} {samples : Nat}
      {block : PcmBlock} (pcmConsumed : Nat) :
      party.owed = none →
      party.game.runtime = some runtime →
      env.runtime.pullPcm runtime samples = some (after, block) →
      Act env .silent party none
        (party.become
          { party.game with runtime := some after, pcmConsumed := pcmConsumed }
          [])
  /-- The guest presents its token as soon as the streams stand. -/
  | joined {party : Party R} :
      party.owed = none →
      party.game.state = .joining →
      party.game.role = .guest →
      (∀ effect ∈ party.log, ∃ source target, effect = .moved source target) →
      Act env .silent party (some ⟨.join, party.game.invite.token.bytes⟩)
        (party.logged [party.posting .join party.game.invite.token.bytes])
  | ignored {party : Party R} (message : Message) :
      party.owed = none →
      party.game.state ≠ .ended →
      party.game.Ignores message →
      Act env (.heard message) party none
        (party.logged [party.receipt message])
  | refused {party : Party R} (message : Message) (reason : Reason) :
      party.owed = none →
      party.game.state ≠ .ended →
      party.game.state ≠ .returning →
      message.kind = .join ∨ ¬ party.game.Accepts message →
      party.game.Blames message reason →
      Act env (.heard message) party none
        (party.finish reason [party.receipt message])
  | requestHeard {party : Party R} (message : Message) :
      party.owed = none →
      message.kind = .lobbyRequest →
      party.game.Accepts message →
      party.game.CanLeave →
      Act env (.heard message) party
        (some ⟨.lobby, appendU64 party.game.openLobby.lobbyGeneration⟩)
        (party.become party.game.openLobby
          [party.receipt message, .cleared,
            .moved party.game.state .returning,
            .queued party.game.openLobby.lobbyGeneration
              ⟨.lobby, appendU64 party.game.openLobby.lobbyGeneration⟩])
  | lobbyHeard {party : Party R} (message : Message) :
      party.owed = none →
      party.game.state ≠ .ended →
      message.kind = .lobby →
      party.game.Accepts message →
      Act env (.heard message) party
        (some ⟨.lobbyAck, message.payload⟩)
        (party.become (party.game.followLobby message.payload)
          [party.receipt message, .cleared, .moved party.game.state .lobby,
            .queued (bigEndianU64 message.payload)
              ⟨.lobbyAck, message.payload⟩])
  | ackHeard {party : Party R} (message : Message) :
      party.owed = none →
      message.kind = .lobbyAck →
      party.game.Accepts message →
      Act env (.heard message) party none
        (party.become { party.game with state := .lobby }
          [party.receipt message, .moved .returning .lobby])
  /-- The host follows a guest's request and tells it so. -/
  | pauseEchoed {party : Party R} (message : Message) :
      party.owed = none →
      message.kind = .pause →
      party.game.Accepts message →
      party.game.state = .running →
      party.game.role = .host →
      Act env (.heard message) party (some ⟨.pause, message.payload⟩)
        (party.become
          { party.game with paused := message.payload.getD 0 0 ≠ 0 }
          [party.receipt message, party.posting .pause message.payload])
  | pauseFollowed {party : Party R} (message : Message) :
      party.owed = none →
      message.kind = .pause →
      party.game.Accepts message →
      party.game.state = .running →
      party.game.role ≠ .host →
      Act env (.heard message) party none
        (party.become
          { party.game with paused := message.payload.getD 0 0 ≠ 0 }
          [party.receipt message])
  | admitted {party : Party R} (message : Message) (now : Nat) :
      party.owed = none →
      message.kind = .join →
      party.game.Accepts message →
      now < party.game.deadline →
      Act env (.heard message) party
        (some ⟨.accept, (party.game.identify env.sha256).sessionId.bytes⟩)
        (party.become
          { party.game.identify env.sha256 with state := .lobby }
          [party.receipt message, .admitted now party.game.deadline,
            party.posting .accept
              (party.game.identify env.sha256).sessionId.bytes,
            .moved .inviting .lobby])
  | admitLost {party : Party R} (message : Message) (now : Nat) :
      party.owed = none →
      message.kind = .join →
      party.game.Accepts message →
      now < party.game.deadline →
      env.Refuses →
      Act env (.heard message) party
        (some ⟨.accept, (party.game.identify env.sha256).sessionId.bytes⟩)
        ((party.become (party.game.identify env.sha256) []).finish .connection
          [party.receipt message, .admitted now party.game.deadline,
            party.posting .accept
              (party.game.identify env.sha256).sessionId.bytes])
  | accepted {party : Party R} (message : Message) :
      party.owed = none →
      message.kind = .accept →
      party.game.Accepts message →
      Act env (.heard message) party none
        (party.become
          { party.game with
            sessionId := Block.copy 16 message.payload
            state := .lobby }
          [party.receipt message, .moved .joining .lobby])
  | configRefused {party : Party R} (message : Message) (reason : Reason) :
      party.owed = none →
      message.kind = .config →
      party.game.Accepts message →
      (party.game.recordConfig message.payload).configConflict = some reason →
      Act env (.heard message) party none
        (party.become
          ((party.game.recordConfig message.payload).withdraw reason)
          [party.receipt message, .moved party.game.state .configuring])
  | configHeard {party : Party R} (message : Message) :
      party.owed = none →
      message.kind = .config →
      party.game.Accepts message →
      (party.game.recordConfig message.payload).configConflict = none →
      Act env (.heard message) party none
        { party with
          game := party.game.recordConfig message.payload
          log := party.log ++
            [party.receipt message, .moved party.game.state .configuring]
          owed := some .start }
  | readyHeard {party : Party R} (message : Message) :
      party.owed = none →
      message.kind = .ready →
      party.game.Accepts message →
      Act env (.heard message) party none
        { party with
          game := { party.game with peerReady := true }
          log := party.log ++ [party.receipt message]
          owed := some .start }
  | startHeard {party : Party R} (message : Message) :
      party.owed = none →
      message.kind = .start →
      party.game.Accepts message →
      party.game.runtime.isSome →
      Act env (.heard message) party none
        (party.become party.game.beginRound
          [party.receipt message, .moved .configuring .running])
  | inputHeard {party : Party R} {before after : Buffer} {result : Lockstep.Put}
      (message : Message) :
      party.owed = none →
      message.kind = .input →
      party.game.Accepts message →
      party.game.inputs = some before →
      before.putRemote (bigEndianU64 message.payload)
        (bigEndianU32 (message.payload.drop 8)) = (result, after) →
      result ≠ .conflict →
      result ≠ .outOfWindow →
      Act env (.heard message) party none
        (party.become { party.game with inputs := some after }
          [party.receipt message,
            .stored (bigEndianU64 message.payload) result])
  | inputRefused {party : Party R} {before after : Buffer}
      {result : Lockstep.Put} (message : Message) :
      party.owed = none →
      message.kind = .input →
      party.game.Accepts message →
      party.game.inputs = some before →
      before.putRemote (bigEndianU64 message.payload)
        (bigEndianU32 (message.payload.drop 8)) = (result, after) →
      result = .conflict ∨ result = .outOfWindow →
      Act env (.heard message) party none
        (party.finish .rejected
          [party.receipt message,
            .stored (bigEndianU64 message.payload) result])
  | digestHeard {party : Party R} (message : Message) :
      party.owed = none →
      message.kind = .digest →
      party.game.Accepts message →
      Act env (.heard message) party none
        (party.become
          (settleDigest (bigEndianU64 message.payload)
            { party.game with
              remoteDigests := party.game.remoteDigests.insert
                (bigEndianU64 message.payload)
                (Block.copy 32 (message.payload.drop 8)) })
          [party.receipt message])

end FlyNes.LanMvp
