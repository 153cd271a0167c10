import FlyNes.LanChunks
import FlyNes.LanFinality
import FlyNes.LanStreams

namespace FlyNes.LanMvp

open ByteString
open Lockstep (wrap64 Frame Buffer)
open Wire (Kind Message Decoder)

/-!
# The reading side of a session

Only the consumption of a read touches the decoder, and a session that has not
ended keeps its pending read.  Everything else a session does is shown here to
leave its reading side alone.
-/

/-- The numbers of the pending operations have been handed out before. -/
def Session.Counted {R : Type} (session : Session R) : Prop :=
  ∀ pending ∈ session.operations, pending.1 < session.nextOperation

/-- The session goes on as far as its reading side is concerned, or it ends. -/
structure KeepsReading {R : Type} (before after : Session R) : Prop where
  decoder : after.decoder = before.decoder
  consumed : consumed after.traffic = consumed before.traffic
  heard : heard after.log = heard before.log
  final :
    before.state = .ended →
    after.state = .ended ∧ after.reason = before.reason
  counted : before.Counted → after.Counted
  reads :
    after.state ≠ .ended →
    after.recvStream = before.recvStream ∧
      after.readInflight = before.readInflight ∧
      ∀ operation,
        before.operations.lookup operation = some .read →
        after.operations.lookup operation = some .read

namespace KeepsReading

variable
  {R : Type}
  {env : Env R}
  {session before middle after : Session R}

theorem refl :
    KeepsReading session session :=
  ⟨rfl, rfl, rfl, fun ended => ⟨ended, rfl⟩, id,
    fun _ => ⟨rfl, rfl, fun _ pending => pending⟩⟩

theorem trans
    (first : KeepsReading before middle)
    (second : KeepsReading middle after) :
    KeepsReading before after where
  decoder := second.decoder.trans first.decoder
  consumed := second.consumed.trans first.consumed
  heard := second.heard.trans first.heard
  final := by
    intro ended
    obtain ⟨middleEnded, middleReason⟩ := first.final ended
    obtain ⟨afterEnded, afterReason⟩ := second.final middleEnded
    exact ⟨afterEnded, afterReason.trans middleReason⟩
  counted := second.counted ∘ first.counted
  reads := by
    intro alive
    have middleAlive : middle.state ≠ .ended := fun ended =>
      alive (second.final ended).1
    obtain ⟨stream, inflight, operations⟩ := second.reads alive
    obtain ⟨firstStream, firstInflight, firstOperations⟩ :=
      first.reads middleAlive
    exact ⟨stream.trans firstStream, inflight.trans firstInflight,
      fun operation pending =>
        operations operation (firstOperations operation pending)⟩

/-- Updates that do not touch the byte streams. -/
theorem of_channel
    (channel : after.toChannel = before.toChannel)
    (heard : LanMvp.heard after.log = LanMvp.heard before.log)
    (final :
      before.state = .ended →
      after.state = .ended ∧ after.reason = before.reason) :
    KeepsReading before after where
  decoder := congrArg Channel.decoder channel
  consumed := congrArg (fun channel => LanMvp.consumed channel.traffic) channel
  heard := heard
  final := final
  counted := by
    unfold Session.Counted
    rw [congrArg Channel.operations channel,
      congrArg Channel.nextOperation channel]
    exact id
  reads := fun _ =>
    ⟨congrArg Channel.recvStream channel,
      congrArg Channel.readInflight channel,
      fun operation pending => by
        rw [congrArg Channel.operations channel]
        exact pending⟩

/-- A change of state recorded in the history. -/
theorem of_moved
    (alive : before.state ≠ .ended)
    (channel : after.toChannel = before.toChannel)
    {source target : State}
    (log : after.log = before.log ++ [.moved source target]) :
    KeepsReading before after :=
  of_channel channel (by rw [log]; simp [LanMvp.heard])
    (fun ended => absurd ended alive)

theorem note
    {effect : Effect}
    (silent : LanMvp.heard [effect] = []) :
    KeepsReading session (session.note effect) :=
  of_channel rfl (by simp [Session.note, silent]) fun ended => ⟨ended, rfl⟩

theorem tick :
    KeepsReading session session.tick :=
  of_channel rfl rfl fun ended => ⟨ended, rfl⟩

theorem touchProgress :
    KeepsReading session (session.touchProgress env) :=
  of_channel rfl rfl fun ended => ⟨ended, rfl⟩

theorem withGame
    {update : Game R → Game R}
    (state : (update session.toGame).state = session.state)
    (reason :
      session.state = .ended →
      (update session.toGame).reason = session.reason) :
    KeepsReading session (session.withGame update) :=
  of_channel rfl rfl fun ended => ⟨state.trans ended, reason ended⟩

theorem moveTo
    (alive : session.state ≠ .ended)
    (target : State) :
    KeepsReading session (session.moveTo target) :=
  of_moved alive rfl rfl

theorem closeResource
    (resource : Nat) :
    KeepsReading session (session.closeResource resource) := by
  unfold Session.closeResource
  split
  · exact refl
  · refine ⟨rfl, by simp [LanMvp.consumed], rfl, fun ended => ⟨ended, rfl⟩, ?_,
      fun _ => ⟨rfl, rfl, fun _ pending => pending⟩⟩
    intro counted pending member
    exact Nat.lt_succ_of_lt (counted pending member)

theorem endSession
    (reason : Reason) :
    KeepsReading session (session.endSession reason) := by
  by_cases ended : session.state = .ended
  · rw [Session.endSession_of_ended reason ended]
    exact refl
  · unfold Session.endSession
    rw [if_neg ended]
    dsimp only
    refine trans ?_ ((closeResource _).trans (closeResource _))
    refine ⟨rfl, ?_, ?_, fun stopped => absurd stopped ended, ?_,
      fun alive => absurd rfl alive⟩
    · simp [LanMvp.consumed, List.flatMap_map]
    · simp [LanMvp.heard]
    · intro _ pending member
      cases member

theorem submit
    (kind : Operation)
    (call : ProviderCall) :
    KeepsReading session (session.submit env kind call).2 := by
  unfold Session.submit
  dsimp only
  split
  · refine ⟨rfl, ?_, rfl, fun ended => ⟨ended, rfl⟩, ?_,
      fun _ => ⟨rfl, rfl, fun operation pending => ?_⟩⟩
    · simp [LanMvp.consumed]
    · intro counted pending member
      rcases List.mem_append.mp member with old | new
      · exact Nat.lt_succ_of_lt (counted pending old)
      · rw [List.mem_singleton.mp new]
        exact Nat.lt_succ_self _
    · dsimp only
      rw [List.lookup_append, pending]
      rfl
  · dsimp only
    refine trans ?_ (endSession .connection)
    refine ⟨rfl, ?_, rfl, fun ended => ⟨ended, rfl⟩, ?_,
      fun _ => ⟨rfl, rfl, fun operation pending => pending⟩⟩
    · simp [LanMvp.consumed]
    · intro counted pending member
      exact Nat.lt_succ_of_lt (counted pending member)

theorem beginNextWrite :
    KeepsReading session (session.beginNextWrite env).2 := by
  unfold Session.beginNextWrite
  split
  · exact refl
  · next bytes rest shape =>
      split
      · exact refl
      · have raised :
            KeepsReading session { session with writeInflight := true } :=
          ⟨rfl, rfl, rfl, fun ended => ⟨ended, rfl⟩, id,
            fun _ => ⟨rfl, rfl, fun operation pending => pending⟩⟩
        have submitted :
            KeepsReading session
              (Session.submit env .write (.write session.sendStream bytes)
                { session with writeInflight := true }).2 :=
          raised.trans (submit .write (.write session.sendStream bytes))
        dsimp only
        split
        · exact submitted
        · exact submitted.trans
            ⟨rfl, rfl, rfl, fun ended => ⟨ended, rfl⟩, id,
              fun _ => ⟨rfl, rfl, fun operation pending => pending⟩⟩

theorem queueMessage
    (kind : Kind)
    (payload : Bytes) :
    KeepsReading session (session.queueMessage env kind payload).2 := by
  unfold Session.queueMessage
  split
  · exact endSession .rejected
  · next bytes encoded =>
      dsimp only
      refine trans ?_ beginNextWrite
      refine ⟨rfl, rfl, ?_, fun ended => ⟨ended, rfl⟩, id,
        fun _ => ⟨rfl, rfl, fun operation pending => pending⟩⟩
      dsimp only
      split
      · rfl
      · simp [LanMvp.heard]

theorem clearGame
    (alive : session.state ≠ .ended) :
    KeepsReading session session.clearGame :=
  trans (withGame rfl fun ended => absurd ended alive) (note rfl)

/-!
## Frames
-/

theorem compareDigest
    (frame : Nat) :
    KeepsReading session (session.compareDigest frame) := by
  unfold Session.compareDigest
  split
  · exact refl
  · split
    · exact withGame rfl fun _ => rfl
    · exact endSession .desync

theorem publishDigest
    (frame : Nat) :
    KeepsReading session (session.publishDigest env frame) := by
  unfold Session.publishDigest
  split
  · exact (note rfl).trans (endSession .configMismatch)
  · split
    · exact endSession .configMismatch
    · next digest copied =>
        have kept :
            KeepsReading session
              ((session.withGame (Game.keepDigest frame digest)).note
                (.published frame digest)) :=
          (withGame rfl fun _ => rfl).trans (note rfl)
        exact kept.trans ((queueMessage .digest _).trans (compareDigest frame))

theorem runFrame
    (frame : Frame) :
    KeepsReading session (session.runFrame env frame) := by
  unfold Session.runFrame
  split
  · exact (note rfl).trans (endSession .configMismatch)
  · have asked :
        KeepsReading session
          (session.note (.stepped session.paused (session.frameInput frame))) :=
      note rfl
    dsimp only
    split
    · exact asked.trans (endSession .configMismatch)
    · next runtime result stepped =>
        have completed :
            KeepsReading session
              (((session.note
                (.stepped session.paused (session.frameInput frame))).withGame
                (Game.completeFrame frame runtime result)).touchProgress env) :=
          asked.trans ((withGame rfl fun _ => rfl).trans touchProgress)
        split
        · exact completed.trans (publishDigest frame.index)
        · exact completed

theorem advanceLoop
    (fuel : Nat) :
    KeepsReading session (session.advanceLoop env fuel) := by
  induction fuel generalizing session with
  | zero =>
      exact refl
  | succ fuel inductionHypothesis =>
      unfold Session.advanceLoop
      split
      · exact refl
      · split
        · exact note rfl
        · split
          · exact refl
          · next frame inputs ready =>
              have taken :
                  KeepsReading session { session with inputs := some inputs } :=
                of_channel rfl rfl fun ended => ⟨ended, rfl⟩
              exact taken.trans ((runFrame frame).trans inductionHypothesis)

theorem advance :
    KeepsReading session (session.advance env) := by
  unfold Session.advance
  split
  · exact refl
  · split
    · exact refl
    · exact advanceLoop _

theorem enterRunning
    (stopped : session.state = .ended → session.runtime = none) :
    KeepsReading session (session.enterRunning env) := by
  unfold Session.enterRunning
  split
  · exact refl
  · next startable =>
      have alive : session.state ≠ .ended := by
        intro ended
        simp [stopped ended] at startable
      dsimp only
      refine trans ?_ (touchProgress.trans advance)
      exact of_moved alive rfl rfl

theorem state_of_written
    (written : session.beginNextWrite env = (true, after)) :
    after.state = session.state := by
  have attempt : Session.Attempt env session (session.beginNextWrite env) :=
    Session.beginNextWrite_attempt session
  rw [written] at attempt
  cases attempt with
  | kept game _ _ =>
      rw [game]

variable {kind : Kind} {payload : Bytes}

/-- A message that has been queued leaves the session open. -/
theorem alive_of_sent
    (alive : session.state ≠ .ended)
    (sent : session.queueMessage env kind payload = (true, after)) :
    after.state ≠ .ended := by
  unfold Session.queueMessage at sent
  split at sent
  · simp at sent
  · rw [state_of_written sent]
    exact alive

/-- What is done after a message has been queued starts in an open session. -/
theorem queueThen
    {next : Session R → Session R}
    (alive : session.state ≠ .ended)
    (keeps :
      ∀ queued : Session R,
        queued.state ≠ .ended →
        KeepsReading queued (next queued)) :
    KeepsReading session
      (if (session.queueMessage env kind payload).1 then
        next (session.queueMessage env kind payload).2
      else
        (session.queueMessage env kind payload).2) := by
  have queued : KeepsReading session (session.queueMessage env kind payload).2 :=
    queueMessage kind payload
  split
  · next sent =>
      have open' : (session.queueMessage env kind payload).2.state ≠ .ended :=
        alive_of_sent alive (Prod.ext sent rfl)
      exact queued.trans (keeps _ open')
  · exact queued

theorem maybeStartHost
    (stopped : session.state = .ended → session.runtime = none) :
    KeepsReading session (session.maybeStartHost env) := by
  unfold Session.maybeStartHost
  split
  · exact refl
  · by_cases ended : session.state = .ended
    · rw [Session.queueMessage_of_ended ended (Session.fits_start session)]
      refine trans ?_ (enterRunning stopped)
      exact ⟨rfl, rfl, rfl, fun ended => ⟨ended, rfl⟩, id,
        fun _ => ⟨rfl, rfl, fun operation pending => pending⟩⟩
    · exact queueThen ended fun queued open' =>
        enterRunning fun queuedEnded => absurd queuedEnded open'

theorem returnLobby :
    KeepsReading session (session.returnLobby env).2 := by
  unfold Session.returnLobby
  split
  · exact refl
  · split
    · exact refl
    · next away =>
        have alive : session.state ≠ .ended := by
          intro ended
          simp [ended] at away
        split
        · exact (moveTo alive .returning).trans (queueMessage .lobbyRequest [])
        · have returning :
              KeepsReading session (session.clearGame.moveTo .returning) :=
            (clearGame alive).trans (of_moved alive rfl rfl)
          dsimp only
          refine returning.trans (trans ?_ (queueMessage .lobby _))
          exact of_channel rfl rfl fun ended => ⟨ended, rfl⟩

/-!
## Messages
-/

theorem handleLobby
    (message : Message)
    (alive : session.state ≠ .ended) :
    KeepsReading session (session.handleLobby env message) := by
  unfold Session.handleLobby
  dsimp only
  refine trans ?_ (queueMessage .lobbyAck message.payload)
  refine (clearGame alive).trans ?_
  exact of_moved alive rfl rfl

theorem handlePause
    (message : Message) :
    KeepsReading session (session.handlePause env message) := by
  unfold Session.handlePause
  split
  · exact refl
  · dsimp only
    generalize shape :
      Session.touchProgress env
        { session with
          paused := decide (message.payload.getD 0 0 ≠ 0) } = set
    have kept : KeepsReading session set := by
      rw [← shape]
      exact of_channel rfl rfl fun ended => ⟨ended, rfl⟩
    by_cases host : set.role = .host
    · rw [if_pos host]
      have echoed :
          KeepsReading session
            (set.queueMessage env .pause message.payload).2 :=
        kept.trans (queueMessage .pause message.payload)
      split
      · exact echoed
      · exact echoed.trans advance
    · rw [if_neg host]
      split
      · exact kept
      · exact kept.trans advance

theorem refuseJoin :
    KeepsReading session (session.refuseJoin env) :=
  tick.trans (endSession _)

theorem handleJoin
    (message : Message)
    (alive : session.state ≠ .ended) :
    KeepsReading session (session.handleJoin env message) := by
  unfold Session.handleJoin
  split
  · exact refuseJoin
  · dsimp only
    split
    · exact tick.trans refuseJoin
    · refine trans ?_
        (queueThen alive fun queued open' => moveTo open' .lobby)
      exact of_channel rfl (by simp [Session.tick, LanMvp.heard]) fun ended => ⟨ended, rfl⟩

theorem handleAccept
    (message : Message)
    (alive : session.state ≠ .ended) :
    KeepsReading session (session.handleAccept message) := by
  unfold Session.handleAccept
  split
  · exact endSession .rejected
  · exact of_moved alive rfl rfl

theorem handleConfig
    (message : Message)
    (alive : session.state ≠ .ended) :
    KeepsReading session (session.handleConfig env message) := by
  unfold Session.handleConfig
  split
  · exact endSession .rejected
  · dsimp only
    generalize shape :
      ({ session with
        toGame := session.toGame.recordConfig message.payload
        log := session.log ++ [.moved session.state .configuring] } :
        Session R) = recorded
    have kept : KeepsReading session recorded := by
      rw [← shape]
      exact of_moved alive rfl rfl
    have configuring : recorded.state ≠ .ended := by
      rw [← shape]
      simp [Game.recordConfig]
    split
    · exact kept.trans (withGame rfl fun ended => absurd ended configuring)
    · exact kept.trans
        (maybeStartHost fun ended => absurd ended configuring)

theorem handleReady
    (message : Message)
    (alive : session.state ≠ .ended) :
    KeepsReading session (session.handleReady env message) := by
  unfold Session.handleReady
  split
  · exact endSession .configMismatch
  · dsimp only
    refine trans ?_ (maybeStartHost fun ended => absurd ended alive)
    exact of_channel rfl rfl fun ended => ⟨ended, rfl⟩

theorem handleStart
    (message : Message)
    (alive : session.state ≠ .ended) :
    KeepsReading session (session.handleStart env message) := by
  unfold Session.handleStart
  split
  · exact endSession .configMismatch
  · exact enterRunning fun ended => absurd ended alive

theorem handleInput
    (message : Message) :
    KeepsReading session (session.handleInput env message) := by
  unfold Session.handleInput
  split
  · exact endSession .rejected
  · split
    · exact endSession .rejected
    · dsimp only
      split
      · refine trans ?_ (endSession .rejected)
        exact of_channel rfl (by simp [LanMvp.heard]) fun ended => ⟨ended, rfl⟩
      · refine trans ?_ advance
        exact of_channel rfl (by simp [LanMvp.heard]) fun ended => ⟨ended, rfl⟩

theorem handleDigest
    (message : Message) :
    KeepsReading session (session.handleDigest message) := by
  unfold Session.handleDigest
  split
  · exact endSession .rejected
  · dsimp only
    refine trans ?_ (compareDigest _)
    exact of_channel rfl rfl fun ended => ⟨ended, rfl⟩

/-- Acting on a message leaves the reading side alone. -/
theorem dispatch
    (message : Message)
    (alive : session.state ≠ .ended) :
    KeepsReading session (session.dispatch env message) := by
  unfold Session.dispatch
  split
  · exact returnLobby
  split
  · exact handleLobby message alive
  split
  · exact moveTo alive .lobby
  split
  · exact refl
  split
  · exact handlePause message
  split
  · exact handleJoin message alive
  · exact handleAccept message alive
  · exact handleConfig message alive
  · exact handleReady message alive
  · exact handleStart message alive
  · exact handleInput message
  · exact handleDigest message
  · exact endSession .peerEnded
  · exact endSession .rejected

/-!
## Completions and calls
-/

theorem consumeMaterial
    (event : Event) :
    KeepsReading session (session.consumeMaterial env event) := by
  unfold Session.consumeMaterial
  split
  · exact endSession .connection
  · dsimp only
    refine trans ?_ (submit .listen _)
    exact of_channel rfl rfl fun ended => ⟨ended, rfl⟩

theorem consumeListen
    (event : Event) :
    KeepsReading session (session.consumeListen env event) := by
  have bound :
      KeepsReading session { session with listener := event.resource } :=
    of_channel rfl rfl fun ended => ⟨ended, rfl⟩
  unfold Session.consumeListen
  split
  · exact bound.trans (endSession .connection)
  · dsimp only
    split
    · exact bound.trans (endSession .connection)
    · exact bound.trans (endSession .connection)
    · split
      · refine trans ?_ (endSession .connection)
        exact of_channel rfl rfl fun ended => ⟨ended, rfl⟩
      · refine trans ?_ (submit .accept _)
        exact of_channel rfl rfl fun ended => ⟨ended, rfl⟩

theorem consumeConnection
    (kind : Operation)
    (call : Nat → ProviderCall)
    (event : Event) :
    KeepsReading session (session.consumeConnection env kind call event) := by
  have connected :
      KeepsReading session { session with connection := event.resource } :=
    of_channel rfl rfl fun ended => ⟨ended, rfl⟩
  unfold Session.consumeConnection
  split
  · exact connected.trans (endSession .connection)
  · exact connected.trans (submit kind _)

theorem consumeWrite :
    KeepsReading session (session.consumeWrite env) := by
  unfold Session.consumeWrite
  refine trans ?_ beginNextWrite
  exact ⟨rfl, rfl, rfl, fun ended => ⟨ended, rfl⟩, id,
    fun _ => ⟨rfl, rfl, fun operation pending => pending⟩⟩

theorem expireInvite :
    KeepsReading session (session.expireInvite env) := by
  unfold Session.expireInvite
  split
  · split
    · exact tick.trans (endSession .expired)
    · exact tick
  · exact refl

theorem expireProgress :
    KeepsReading session (session.expireProgress env) := by
  unfold Session.expireProgress
  split
  · split
    · exact tick.trans (endSession .stall)
    · exact tick
  · exact refl

theorem host
    (hostIpv4 : Bytes)
    (token : Block 16) :
    KeepsReading session (session.host env hostIpv4 token).2 := by
  unfold Session.host
  split
  · exact refl
  · split
    · exact refl
    · next ip parsed started =>
        have idle : session.state ≠ .ended := by
          simp only [not_not] at started
          simp [started]
        dsimp only
        refine trans ?_ (submit .material .generateSelfSigned)
        exact of_moved idle rfl rfl

theorem join
    (localIpv4 qrText : Bytes) :
    KeepsReading session (session.join env localIpv4 qrText).2 := by
  unfold Session.join
  split
  · split
    · exact refl
    · next invite ip parsedInvite parsedIp started =>
        have idle : session.state ≠ .ended := by
          simp only [not_not] at started
          simp [started]
        dsimp only
        refine trans ?_ (submit .connect _)
        exact of_moved idle rfl rfl
  · exact refl

theorem selectGame
    (rom gameKey : Bytes) :
    KeepsReading session (session.selectGame env rom gameKey).2 := by
  unfold Session.selectGame
  split
  · exact refl
  · next choosing =>
      have alive : session.state ≠ .ended := by
        intro ended
        simp [ended] at choosing
      split
      · exact refl
      · exact of_channel rfl rfl fun ended => absurd ended alive
      · split
        · exact of_channel rfl rfl fun ended => absurd ended alive
        · dsimp only
          refine trans ?_ (queueMessage .config _)
          exact of_moved alive rfl rfl

theorem confirm :
    KeepsReading session (session.confirm env).2 := by
  unfold Session.confirm
  split
  · exact refl
  · next configured =>
      have alive : session.state ≠ .ended := by
        intro ended
        simp [ended] at configured
      split
      · exact refl
      · dsimp only
        have confirmed :
            KeepsReading session { session with localReady := true } :=
          of_channel rfl rfl fun ended => ⟨ended, rfl⟩
        have fits : Message.Fits ⟨.ready, session.localConfigHash.bytes⟩ :=
          Session.fits_start session
        generalize shape :
          ({ session with localReady := true } : Session R) = ready
            at confirmed ⊢
        have readyAlive : ready.state ≠ .ended := by
          rw [← shape]
          exact alive
        have attempt :
            Session.Attempt env
              (ready.pushed .ready session.localConfigHash.bytes)
              (ready.queueMessage env .ready session.localConfigHash.bytes) :=
          Session.queueMessage_attempt readyAlive fits
        refine (confirmed.trans (queueMessage .ready _)).trans
          (maybeStartHost ?_)
        generalize
          ready.queueMessage env .ready session.localConfigHash.bytes =
            outcome at attempt ⊢
        cases attempt with
        | kept game _ _ =>
            intro ended
            rw [game] at ended
            exact absurd ended readyAlive
        | lost _ _ game _ _ =>
            intro _
            rw [game]
            rfl

theorem submitInput
    (buttons : UInt32) :
    KeepsReading session (session.submitInput env buttons).2 := by
  unfold Session.submitInput
  split
  · exact refl
  · next inputs held =>
      dsimp only
      split
      · exact refl
      · next playing =>
          have alive : session.state ≠ .ended := by
            intro ended
            simp [ended] at playing
          split
          · next stored put =>
              have kept :
                  KeepsReading session { session with inputs := some stored } :=
                of_channel rfl rfl fun ended => ⟨ended, rfl⟩
              have queued :
                  KeepsReading session
                    (Session.queueMessage env .input
                      (appendU64 session.nextSubmitFrame ++ appendU32 buttons)
                      { session with inputs := some stored }).2 :=
                kept.trans (queueMessage .input _)
              split
              · refine (queued.trans ?_).trans advance
                exact of_channel rfl rfl fun ended => ⟨ended, rfl⟩
              · exact queued
          · exact of_channel rfl rfl fun ended => ⟨ended, rfl⟩

theorem setPaused
    (paused : Bool) :
    KeepsReading session (session.setPaused env paused).2 := by
  unfold Session.setPaused
  split
  · exact refl
  · refine trans ?_ (queueMessage .pause _)
    dsimp only
    split
    · have set :
          KeepsReading session
            (Session.touchProgress env { session with paused := paused }) :=
        of_channel rfl rfl fun ended => ⟨ended, rfl⟩
      split
      · exact set
      · exact set.trans advance
    · exact refl

theorem pullPcm
    (sampleCapacity : Nat) :
    KeepsReading session (session.pullPcm env sampleCapacity).2 := by
  unfold Session.pullPcm
  split
  · exact refl
  · dsimp only
    split
    · exact refl
    · split
      · exact refl
      · exact of_channel rfl rfl fun ended => ⟨ended, rfl⟩

end KeepsReading

end FlyNes.LanMvp
