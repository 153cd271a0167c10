import FlyNes.LanFrameMoves

namespace FlyNes.LanMvp

open ByteString
open Lockstep (wrap64 Frame Buffer)
open Wire (Kind Message Decoder)
open Session

/-!
# Acting on a message, as moves

A message that has come off the decoder and into the history is dispatched to
its handler.  Every handler completes the act that began with taking the
message.
-/

/-- A message has been taken and recorded but not yet acted on. -/
structure Arrival
    {R : Type}
    (message : Message)
    (station : Station R)
    (session : Session R) : Prop where
  game : session.toGame = station.party.game
  log :
    session.log = station.party.log ++ [station.party.receipt message]
  idle : station.party.owed = none
  alive : station.party.game.state ≠ .ended
  takes : Takes [message] station.channel.decoder session.decoder
  channel :
    session.toChannel =
      { station.channel with decoder := session.decoder }

namespace Arrival

variable
  {R : Type}
  {env : Env R}
  {message : Message}
  {station : Station R}
  {session : Session R}

variable (arrival : Arrival message station session)

include arrival

theorem sessionAlive :
    session.state ≠ .ended := by
  rw [arrival.game]
  exact arrival.alive

theorem tick :
    Arrival message station session.tick :=
  ⟨arrival.game, arrival.log, arrival.idle, arrival.alive, arrival.takes,
    arrival.channel⟩

theorem traffic :
    session.traffic = station.channel.traffic := by
  have same := congrArg Channel.traffic arrival.channel
  exact same

variable {after : Session R}

/-- An act that the party has made is one that the session has made. -/
theorem act_becomes
    {game : Game R}
    {entries : List Effect}
    {output : Option Message}
    (act :
      Act env (.heard message) station.party output (station.party.become game entries))
    (sameGame : after.toGame = game)
    (sameLog : after.log = station.party.log ++ entries) :
    Act env (.heard message) station.party output (after.party none) := by
  rw [← arrival.idle]
  exact Session.act_becomes act sameGame sameLog

/-- A message without consequence is one act. -/
theorem ignored_moves
    (ignores : session.toGame.Ignores message) :
    Moves env station (session.station none station.waiting) := by
  have act :
      Act env (.heard message) station.party none (session.party none) := by
    have shape :
        session.party none =
          station.party.logged [station.party.receipt message] := by
      unfold Session.party Party.logged
      rw [arrival.game, arrival.log, ← arrival.idle]
    rw [shape]
    rw [arrival.game] at ignores
    exact Act.ignored message arrival.idle arrival.alive ignores
  exact act_moves act trivial arrival.alive arrival.sessionAlive
    arrival.takes arrival.channel

/-- A message that is turned away ends the session. -/
theorem refused_moves
    (reason : Reason)
    (present : session.state ≠ .returning)
    (refused :
      message.kind = .join ∨ ¬ session.toGame.Accepts message)
    (blames : session.toGame.Blames message reason) :
    Moves env station ((session.endSession reason).station none station.waiting) := by
  have natural :
      Act env (.heard message) station.party none
        (station.party.finish reason [station.party.receipt message]) := by
    rw [arrival.game] at present refused blames
    exact Act.refused message reason arrival.idle arrival.alive present
      refused blames
  have act :
      Act env (.heard message) station.party none
        ⟨session.toGame.finish reason,
          session.log ++ [.moved session.state .ended], none⟩ := by
    unfold Party.finish at natural
    rw [arrival.idle] at natural
    rw [arrival.game, arrival.log]
    exact natural
  exact halt_moves session.decoder act trivial (by simp) arrival.alive
    arrival.sessionAlive arrival.takes arrival.traffic List.suffix_rfl

variable {owed : Option Debt}

/-- An act that completes the message and leaves the session alive. -/
theorem completed_moves
    (act : Act env (.heard message) station.party none (after.party owed))
    (alive : after.state ≠ .ended)
    (channel : after.toChannel = session.toChannel) :
    Moves env station (after.station owed station.waiting) := by
  have decoder : after.decoder = session.decoder := by
    have same := congrArg Channel.decoder channel
    exact same
  refine act_moves act trivial arrival.alive alive ?_ ?_
  · rw [decoder]
    exact arrival.takes
  · rw [decoder, channel]
    exact arrival.channel

/-- An act that completes the message with an answer. -/
theorem answered_moves
    {kind : Kind}
    {payload : Bytes}
    (act :
      Act env (.heard message) station.party (some ⟨kind, payload⟩)
        ((after.pushed kind payload).party owed))
    (alive : after.state ≠ .ended)
    (channel : after.toChannel = session.toChannel)
    (sendable : Sendable ⟨kind, payload⟩) :
    Moves env station
      ((after.queueMessage env kind payload).2.station owed station.waiting) := by
  have decoder : after.decoder = session.decoder := by
    have same := congrArg Channel.decoder channel
    exact same
  have posted :
      Move env (.heard message) station
        ((after.pushed kind payload).station owed station.waiting) := by
    refine post_move act arrival.alive alive ?_ ?_ sendable
    · rw [decoder]
      exact arrival.takes
    · rw [decoder, channel]
      exact arrival.channel
  exact (Moves.single posted trivial).trans
    (queueMessage_moves owed alive sendable.1)

/-!
## The lobby barrier
-/

theorem handleLobby_moves
    (kind : message.kind = .lobby)
    (accepts : session.toGame.Accepts message) :
    Moves env station ((session.handleLobby env message).station none station.waiting) := by
  have eight : message.payload.length = 8 := by
    unfold Game.Accepts at accepts
    rw [kind] at accepts
    exact accepts.2
  have fits : Message.Fits ⟨.lobbyAck, message.payload⟩ :=
    fits_of_length (by rw [eight]; decide)
  unfold handleLobby
  refine arrival.answered_moves ?_ (by simp [moveTo]) rfl ⟨fits, by simp⟩
  rw [arrival.game] at accepts
  refine arrival.act_becomes
    (Act.lobbyHeard message arrival.idle arrival.alive kind accepts) ?_ ?_
  · simp [pushed, moveTo, clearGame, withGame, note, arrival.game, Game.followLobby,
      Game.clearGame, Game.stopRuntime]
  · simp [pushed, moveTo, clearGame, withGame, note, arrival.game, arrival.log,
      Game.clearGame, Game.stopRuntime]

omit arrival in
theorem fits_lobby
    (generation : Nat) :
    Message.Fits ⟨.lobby, appendU64 generation⟩ := by
  apply fits_of_length
  simp

omit arrival in
theorem returnLobby_of_bound
    (bound : ¬ session.toGame.CanLeave) :
    (session.returnLobby env).2 = session := by
  unfold returnLobby
  by_cases returning : session.state = .returning
  · rw [if_pos returning]
  · rw [if_neg returning, if_pos]
    unfold Game.CanLeave at bound
    simp only [not_or] at bound
    exact bound

/-- The session in which the host has opened a new lobby. -/
def opened (session : Session R) : Session R :=
  { session with
    toGame := session.toGame.openLobby
    log := session.log ++ [.cleared, .moved session.state .returning] }

omit arrival in
theorem returnLobby_of_host
    (leaves : session.toGame.CanLeave)
    (host : session.role ≠ .guest) :
    session.returnLobby env =
      (opened session).queueMessage env .lobby
        (appendU64 (opened session).lobbyGeneration) := by
  have present : session.state ≠ .returning := by
    rcases leaves with running | lobby | configuring
    · simp [running]
    · simp [lobby]
    · simp [configuring]
  have leaving :
      ¬ (session.state ≠ .running ∧ session.state ≠ .lobby ∧
        session.state ≠ .configuring) := by
    rintro ⟨notRunning, notLobby, notConfiguring⟩
    rcases leaves with running | lobby | configuring
    · exact notRunning running
    · exact notLobby lobby
    · exact notConfiguring configuring
  have shape :
      ({ session.clearGame.moveTo .returning with
          lobbyGeneration :=
            wrap64 ((session.clearGame.moveTo .returning).lobbyGeneration +
              1) } : Session R) = opened session := by
    simp [opened, clearGame, withGame, note, moveTo, Game.openLobby,
      Game.clearGame, Game.stopRuntime]
  unfold returnLobby
  rw [if_neg present, if_neg leaving, if_neg host]
  dsimp only
  rw [shape]
  rfl

theorem requestHeard_moves
    (kind : message.kind = .lobbyRequest)
    (accepts : session.toGame.Accepts message) :
    Moves env station ((session.returnLobby env).2.station none station.waiting) := by
  by_cases leaves : session.toGame.CanLeave
  · have host : session.role = .host := by
      unfold Game.Accepts at accepts
      rw [kind] at accepts
      exact accepts.1
    rw [returnLobby_of_host leaves (by simp [host])]
    refine arrival.answered_moves ?_ (by simp [opened, Game.openLobby]) rfl
      ⟨fits_lobby _, by simp⟩
    have sameGame : (opened session).toGame = station.party.game.openLobby := by
      rw [← arrival.game]
      rfl
    rw [arrival.game] at accepts leaves
    rw [sameGame]
    refine arrival.act_becomes
      (Act.requestHeard message arrival.idle kind accepts leaves) ?_ ?_
    · simp [pushed, sameGame]
    · simp [pushed, opened, arrival.game, arrival.log]
  · rw [returnLobby_of_bound leaves]
    exact arrival.ignored_moves (Game.Ignores.request kind accepts leaves)

theorem ackHeard_moves
    (kind : message.kind = .lobbyAck)
    (accepts : session.toGame.Accepts message) :
    Moves env station ((session.moveTo .lobby).station none station.waiting) := by
  refine arrival.completed_moves ?_ (by simp [moveTo]) rfl
  have returning : session.state = .returning := by
    unfold Game.Accepts at accepts
    rw [kind] at accepts
    exact accepts.2.1
  rw [arrival.game] at accepts
  refine arrival.act_becomes (Act.ackHeard message arrival.idle kind accepts) ?_ ?_
  · simp [moveTo, ← arrival.game]
  · simp [moveTo, returning, arrival.log]

/-!
## Pausing
-/

theorem handlePause_moves
    (kind : message.kind = .pause)
    (accepts : session.toGame.Accepts message) :
    Moves env station ((session.handlePause env message).station none station.waiting) := by
  unfold handlePause
  by_cases running : session.state = .running
  · rw [if_neg (not_not.mpr running)]
    have one : message.payload.length = 1 := by
      unfold Game.Accepts at accepts
      rw [kind] at accepts
      exact accepts
    have fits : Message.Fits ⟨.pause, message.payload⟩ :=
      fits_of_length (by rw [one]; decide)
    dsimp only
    generalize shape :
      touchProgress env
        ({ session with
            paused := decide (message.payload.getD 0 0 ≠ 0) } : Session R) =
        set
    have setGame :
        set.toGame =
          { station.party.game with
            paused := decide (message.payload.getD 0 0 ≠ 0) } := by
      rw [← shape, ← arrival.game]
      rfl
    have setLog :
        set.log =
          station.party.log ++ [station.party.receipt message] := by
      rw [← shape, ← arrival.log]
      rfl
    have setChannel : set.toChannel = session.toChannel := by
      rw [← shape]
      rfl
    have setAlive : set.state ≠ .ended := by
      rw [setGame]
      exact arrival.alive
    have setRole : set.role = session.role := by
      rw [setGame, arrival.game]
    rw [arrival.game] at accepts running
    have echoed :
        Moves env station
          ((if set.role = .host then
            (set.queueMessage env .pause message.payload).2
          else
            set).station none station.waiting) := by
      by_cases host : set.role = .host
      · rw [if_pos host]
        refine arrival.answered_moves ?_ setAlive setChannel
          ⟨fits, by simp⟩
        rw [setRole, arrival.game] at host
        refine arrival.act_becomes
          (Act.pauseEchoed message arrival.idle kind accepts running host) ?_ ?_
        · simp [pushed, setGame]
        · simp [pushed, setGame, setLog, Party.posting]
      · rw [if_neg host]
        refine arrival.completed_moves ?_ setAlive setChannel
        rw [setRole, arrival.game] at host
        exact arrival.act_becomes
          (Act.pauseFollowed message arrival.idle kind accepts running host) setGame setLog
    generalize
      (if set.role = .host then
        (set.queueMessage env .pause message.payload).2
      else
        set) = answered at echoed ⊢
    by_cases paused : answered.paused = true
    · rw [if_pos paused]
      exact echoed
    · rw [if_neg paused]
      exact echoed.trans (advance_moves none answered)
  · rw [if_pos running]
    exact arrival.ignored_moves (Game.Ignores.pause kind accepts running)

/-!
## Admission
-/

theorem refuseJoin_moves
    (present : session.state ≠ .returning)
    (kind : message.kind = .join) :
    Moves env station ((session.refuseJoin env).station none station.waiting) := by
  unfold refuseJoin
  exact arrival.tick.refused_moves _ present (Or.inl kind)
    (Game.blames_of_kind (by simp [kind]))

/-- The session that has accepted a guest's token. -/
def recognised (env : Env R) (now : Nat) (session : Session R) : Session R :=
  { session with
    sessionId := (session.toGame.identify env.sha256).sessionId
    qr := []
    log := session.log ++ [.admitted now session.deadline] }

theorem admitted_moves
    (now : Nat)
    (kind : message.kind = .join)
    (accepts : session.toGame.Accepts message)
    (early : now < session.deadline) :
    let outcome :=
      (recognised env now session).queueMessage env .accept
        (recognised env now session).sessionId.bytes
    Moves env station
      ((if outcome.1 then outcome.2.moveTo .lobby
        else outcome.2).station none station.waiting) := by
  have inviting : session.state = .inviting := by
    unfold Game.Accepts at accepts
    rw [kind] at accepts
    exact accepts.2.1
  have fits :
      Message.Fits
        ⟨.accept, (recognised env now session).sessionId.bytes⟩ := by
    apply fits_of_length
    simp [Block.sized]
  have alive : (recognised env now session).state ≠ .ended :=
    arrival.sessionAlive
  have attempt :
      Attempt env
        (pushed .accept (recognised env now session).sessionId.bytes
          (recognised env now session))
        ((recognised env now session).queueMessage env .accept
          (recognised env now session).sessionId.bytes) :=
    queueMessage_attempt alive fits
  have deadline : session.deadline = station.party.game.deadline := by
    rw [arrival.game]
  have sameId :
      (recognised env now session).sessionId =
        (station.party.game.identify env.sha256).sessionId := by
    rw [← arrival.game]
    rfl
  rw [arrival.game] at accepts inviting
  cases outcome :
      (recognised env now session).queueMessage env .accept
        (recognised env now session).sessionId.bytes with
  | mk sent after =>
      rw [outcome] at attempt
      dsimp only
      cases attempt with
      | kept game log moves =>
          rw [if_pos rfl]
          have act :
              Act env (.heard message) station.party
                (some ⟨.accept,
                  (recognised env now session).sessionId.bytes⟩)
                ((after.moveTo .lobby).party none) := by
            rw [sameId]
            refine arrival.act_becomes
              (Act.admitted message now arrival.idle kind accepts (deadline ▸ early)) ?_ ?_
            · simp [moveTo, game, pushed, recognised, arrival.game, Game.identify]
            · simp [moveTo, game, log, pushed, recognised, inviting, arrival.game,
                arrival.log, Party.posting, Game.identify]
          exact post_moves act trivial arrival.alive (by simp [moveTo, Session.party])
            arrival.takes arrival.channel ⟨fits, by simp⟩ moves
      | lost refuses _ game log severed =>
          rw [if_neg (by simp)]
          have act :
              Act env (.heard message) station.party
                (some ⟨.accept,
                  (recognised env now session).sessionId.bytes⟩)
                (after.party none) := by
            have natural :
                Act env (.heard message) station.party
                  (some ⟨.accept,
                    (station.party.game.identify
                      env.sha256).sessionId.bytes⟩)
                  ((station.party.become
                    (station.party.game.identify env.sha256) []).finish
                    .connection
                    [station.party.receipt message,
                      .admitted now station.party.game.deadline,
                      station.party.posting .accept
                        (station.party.game.identify
                          env.sha256).sessionId.bytes]) :=
              Act.admitLost message now arrival.idle kind accepts
                (deadline ▸ early) refuses
            have shape :
                after.party none =
                  (station.party.become
                    (station.party.game.identify env.sha256) []).finish
                    .connection
                    [station.party.receipt message,
                      .admitted now station.party.game.deadline,
                      station.party.posting .accept
                        (station.party.game.identify
                          env.sha256).sessionId.bytes] := by
              unfold Session.party Party.become Party.finish
              rw [← arrival.idle, game, log]
              simp [pushed, recognised, arrival.game, arrival.log,
                Party.posting, Game.identify, Game.finish, Game.stopRuntime]
            rw [shape, sameId]
            exact natural
          have ended : after.state = .ended := by
            rw [game]
            rfl
          refine severed_moves session.decoder severed alive act trivial
            (by simp) arrival.alive ended arrival.takes ?_ arrival.traffic
            List.suffix_rfl
          simpa [Sendable] using fits

theorem handleJoin_moves
    (present : session.state ≠ .returning)
    (kind : message.kind = .join) :
    Moves env station ((session.handleJoin env message).station none station.waiting) := by
  unfold handleJoin
  by_cases foreign :
      session.role ≠ .host ∨ session.state ≠ .inviting ∨
        message.payload.length ≠ session.invite.token.bytes.length
  · rw [if_pos foreign]
    exact arrival.refuseJoin_moves present kind
  · rw [if_neg foreign]
    simp only [not_or, not_not] at foreign
    obtain ⟨host, inviting, length⟩ := foreign
    dsimp only
    by_cases wrong :
        env.clock session.ticks ≥ session.tick.deadline ∨
          (!sameBytes session.tick.invite.token.bytes message.payload) = true
    · rw [if_pos wrong]
      exact arrival.tick.refuseJoin_moves present kind
    · rw [if_neg wrong]
      simp only [not_or, Nat.not_le, ge_iff_le, Bool.not_eq_true',
        Bool.not_eq_false] at wrong
      obtain ⟨early, same⟩ := wrong
      have token : message.payload = session.invite.token.bytes := by
        have equal := (sameBytes_iff length.symm).mp same
        exact equal.symm
      have accepts : session.tick.toGame.Accepts message := by
        unfold Game.Accepts
        rw [kind]
        exact ⟨host, inviting, token⟩
      exact arrival.tick.admitted_moves (env.clock session.ticks) kind
        accepts early

theorem handleAccept_moves
    (present : session.state ≠ .returning)
    (kind : message.kind = .accept) :
    Moves env station ((session.handleAccept message).station none station.waiting) := by
  unfold handleAccept
  by_cases wrong :
      session.role ≠ .guest ∨ session.state ≠ .joining ∨
        message.payload.length ≠ 16
  · rw [if_pos wrong]
    refine arrival.refused_moves _ present (Or.inr ?_)
      (Game.blames_of_kind (by simp [kind]))
    unfold Game.Accepts
    rw [kind]
    rintro ⟨guest, joining, length⟩
    rcases wrong with notGuest | notJoining | notLength
    · exact notGuest guest
    · exact notJoining joining
    · exact notLength length
  · rw [if_neg wrong]
    simp only [not_or, not_not] at wrong
    obtain ⟨guest, joining, length⟩ := wrong
    refine arrival.completed_moves ?_ (by simp [moveTo]) rfl
    have accepts : session.toGame.Accepts message := by
      unfold Game.Accepts
      rw [kind]
      exact ⟨guest, joining, length⟩
    rw [arrival.game] at accepts joining
    refine arrival.act_becomes (Act.accepted message arrival.idle kind accepts) ?_ ?_
    · simp [moveTo, arrival.game]
    · simp [moveTo, arrival.game, arrival.log, joining]

/-!
## Configuration
-/

/-- The session that has taken over the peer's configuration. -/
def configured (payload : Bytes) (session : Session R) : Session R :=
  { session with
    toGame := session.toGame.recordConfig payload
    log := session.log ++ [.moved session.state .configuring] }

theorem handleConfig_moves
    (present : session.state ≠ .returning)
    (kind : message.kind = .config) :
    Moves env station ((session.handleConfig env message).station none station.waiting) := by
  unfold handleConfig
  by_cases wrong :
      (session.state ≠ .lobby ∧ session.state ≠ .configuring) ∨
        message.payload.length < 64 ∨
        message.payload.length ≥ 64 + peerGameKeySize
  · rw [if_pos wrong]
    refine arrival.refused_moves _ present (Or.inr ?_)
      (Game.blames_of_kind (by simp [kind]))
    unfold Game.Accepts
    rw [kind]
    rintro ⟨settled, atLeast, atMost⟩
    rcases wrong with ⟨notLobby, notConfiguring⟩ | short | long
    · rcases settled with lobby | configuring
      · exact notLobby lobby
      · exact notConfiguring configuring
    · exact absurd atLeast (Nat.not_le.mpr short)
    · exact absurd atMost (Nat.not_lt.mpr long)
  · rw [if_neg wrong]
    simp only [not_or, not_and_or, not_not, Nat.not_lt, Nat.not_le,
      ge_iff_le] at wrong
    have accepts : session.toGame.Accepts message := by
      unfold Game.Accepts
      rw [kind]
      exact wrong
    rw [arrival.game] at accepts
    have recordedGame :
        (configured message.payload session).toGame =
          station.party.game.recordConfig message.payload := by
      rw [← arrival.game]
      rfl
    have recordedLog :
        (configured message.payload session).log =
          station.party.log ++
            [station.party.receipt message,
              .moved station.party.game.state .configuring] := by
      unfold configured
      rw [arrival.log, arrival.game]
      simp
    dsimp only
    split
    · next reason conflict =>
        refine arrival.completed_moves ?_ (by
          simp [withGame, Game.withdraw, Game.recordConfig]) rfl
        rw [arrival.game] at conflict
        exact arrival.act_becomes
          (Act.configRefused message reason arrival.idle kind accepts conflict)
          (congrArg (Game.withdraw reason) recordedGame) recordedLog
    · next conflict =>
        have recorded :
            Moves env station
              ((configured message.payload session).station
                (some .start) station.waiting) := by
          refine arrival.completed_moves ?_ (by
            simp [configured, Game.recordConfig]) rfl
          unfold Session.party
          rw [recordedGame, recordedLog]
          rw [arrival.game] at conflict
          exact Act.configHeard message arrival.idle kind accepts conflict
        refine recorded.trans (maybeStartHost_moves ?_ ?_)
        · exact Or.inr (Or.inr rfl)
        · intro ended
          cases ended

theorem handleReady_moves
    (present : session.state ≠ .returning)
    (kind : message.kind = .ready) :
    Moves env station ((session.handleReady env message).station none station.waiting) := by
  unfold handleReady
  have accepts_iff :
      session.toGame.Accepts message ↔
        ¬ ((session.state ≠ .configuring ∧ session.state ≠ .lobby) ∨
          message.payload.length ≠ 32 ∨
          (!session.peerConfigured) = true ∨
          (!sameBytes session.remoteConfigHash.bytes message.payload) =
            true) := by
    unfold Game.Accepts
    rw [kind]
    simp only [not_or, not_and_or, not_not, Bool.not_eq_true',
      Bool.not_eq_false]
    constructor
    · rintro ⟨settled, configured, same⟩
      have length : message.payload.length = 32 := by
        rw [same]
        exact session.remoteConfigHash.sized
      refine ⟨settled.symm, length, configured, ?_⟩
      rw [sameBytes_iff (by rw [length, session.remoteConfigHash.sized])]
      exact same.symm
    · rintro ⟨settled, length, configured, same⟩
      rw [sameBytes_iff (by rw [length, session.remoteConfigHash.sized])]
        at same
      exact ⟨settled.symm, configured, same.symm⟩
  by_cases accepts : session.toGame.Accepts message
  · rw [if_neg (accepts_iff.mp accepts)]
    have settled : session.state = .lobby ∨ session.state = .configuring := by
      unfold Game.Accepts at accepts
      rw [kind] at accepts
      exact accepts.1
    have confirmed :
        Moves env station
          (({ session with peerReady := true } : Session R).station
            (some .start) station.waiting) := by
      refine arrival.completed_moves ?_ arrival.sessionAlive rfl
      have shape :
          ({ session with peerReady := true } : Session R).party
              (some .start) =
            { station.party with
              game := { station.party.game with peerReady := true }
              log := station.party.log ++ [station.party.receipt message]
              owed := some .start } := by
        unfold Session.party
        rw [← arrival.game, ← arrival.log]
      rw [shape]
      rw [arrival.game] at accepts
      exact Act.readyHeard message arrival.idle kind accepts
    refine confirmed.trans (maybeStartHost_moves (Or.inr settled) ?_)
    intro ended
    exact absurd ended arrival.sessionAlive
  · rw [if_pos (not_not.mp (mt accepts_iff.mpr accepts))]
    exact arrival.refused_moves _ present (Or.inr accepts)
      (Game.blames_of_kind (by simp [kind]))

theorem handleStart_moves
    (present : session.state ≠ .returning)
    (kind : message.kind = .start) :
    Moves env station ((session.handleStart env message).station none station.waiting) := by
  unfold handleStart
  have accepts_iff :
      session.toGame.Accepts message ↔
        ¬ (session.role ≠ .guest ∨ session.state ≠ .configuring ∨
          message.payload.length ≠ 32 ∨ (!session.localReady) = true ∨
          (!session.peerReady) = true ∨
          (!sameBytes session.localConfigHash.bytes message.payload) =
            true ∨
          (!session.toGame.configsMatch) = true) := by
    unfold Game.Accepts
    rw [kind]
    simp only [not_or, not_not, Bool.not_eq_true', Bool.not_eq_false]
    constructor
    · rintro ⟨guest, configuring, same, ours, theirs, matching⟩
      have length : message.payload.length = 32 := by
        rw [same]
        exact session.localConfigHash.sized
      refine ⟨guest, configuring, length, ours, theirs, ?_, matching⟩
      rw [sameBytes_iff (by rw [length, session.localConfigHash.sized])]
      exact same.symm
    · rintro ⟨guest, configuring, length, ours, theirs, same, matching⟩
      rw [sameBytes_iff (by rw [length, session.localConfigHash.sized])]
        at same
      exact ⟨guest, configuring, same.symm, ours, theirs, matching⟩
  by_cases accepts : session.toGame.Accepts message
  · rw [if_neg (accepts_iff.mp accepts)]
    cases loaded : session.runtime with
    | none =>
        rw [enterRunning_of_unloaded loaded]
        exact arrival.ignored_moves
          (Game.Ignores.start kind accepts loaded)
    | some runtime =>
        have parts := accepts
        unfold Game.Accepts at parts
        rw [kind] at parts
        obtain ⟨_, configuring, _, ours, theirs, matching⟩ := parts
        have entered :
            session.enterRunning env =
              (session.begun.touchProgress env).advance env := by
          refine enterRunning_of_ready ?_ ?_ matching ours theirs
          · simp [configuring]
          · simp [loaded]
        have began : Moves env station (session.begun.station none station.waiting) := by
          refine arrival.completed_moves ?_ (by
            simp [begun, Game.beginRound]) rfl
          have isLoaded : station.party.game.runtime.isSome := by
            rw [← arrival.game, loaded]
            rfl
          rw [arrival.game] at accepts
          refine arrival.act_becomes
            (Act.startHeard message arrival.idle kind accepts isLoaded) ?_ ?_
          · simp [begun, arrival.game]
          · simp [begun, configuring, arrival.log]
        rw [entered]
        exact began.trans (begun_moves none)
  · rw [if_pos (not_not.mp (mt accepts_iff.mpr accepts))]
    exact arrival.refused_moves _ present (Or.inr accepts)
      (Game.blames_of_kind (by simp [kind]))

/-!
## The round
-/

theorem handleInput_moves
    (present : session.state ≠ .returning)
    (kind : message.kind = .input) :
    Moves env station ((session.handleInput env message).station none station.waiting) := by
  unfold handleInput
  cases inputs : session.inputs with
  | none =>
      refine arrival.refused_moves _ present (Or.inr ?_)
        (Game.blames_of_kind (by simp [kind]))
      unfold Game.Accepts
      rw [kind]
      rintro ⟨_, _, hasInputs⟩
      rw [inputs] at hasInputs
      cases hasInputs
  | some buffer =>
      dsimp only
      by_cases wrong :
          session.state ≠ .running ∨ message.payload.length ≠ 12
      · rw [if_pos wrong]
        refine arrival.refused_moves _ present (Or.inr ?_)
          (Game.blames_of_kind (by simp [kind]))
        unfold Game.Accepts
        rw [kind]
        rintro ⟨running, length, _⟩
        rcases wrong with notRunning | notLength
        · exact notRunning running
        · exact notLength length
      · rw [if_neg wrong]
        simp only [not_or, not_not] at wrong
        obtain ⟨running, length⟩ := wrong
        have accepts : session.toGame.Accepts message := by
          unfold Game.Accepts
          rw [kind]
          exact ⟨running, length, by simp [inputs]⟩
        rw [arrival.game] at accepts inputs
        cases stored :
            buffer.putRemote (bigEndianU64 message.payload)
              (bigEndianU32 (message.payload.drop 8)) with
        | mk result after =>
            dsimp only
            generalize shape :
              ({ session with
                  inputs := some after
                  log := session.log ++
                    [.stored (bigEndianU64 message.payload) result] } :
                Session R) = kept
            have keptGame :
                kept.toGame =
                  { station.party.game with inputs := some after } := by
              rw [← shape, ← arrival.game]
            have keptLog :
                kept.log =
                  station.party.log ++
                    [station.party.receipt message,
                      .stored (bigEndianU64 message.payload) result] := by
              rw [← shape]
              simp [arrival.log]
            have keptChannel : kept.toChannel = session.toChannel := by
              rw [← shape]
            have keptAlive : kept.state ≠ .ended := by
              rw [keptGame]
              exact arrival.alive
            by_cases bad : result = .conflict ∨ result = .outOfWindow
            · rw [if_pos bad]
              have natural :
                  Act env (.heard message) station.party none
                    (station.party.finish .rejected
                      [station.party.receipt message,
                        .stored (bigEndianU64 message.payload) result]) :=
                Act.inputRefused message arrival.idle kind accepts inputs
                  stored bad
              have act :
                  Act env (.heard message) station.party none
                    ⟨kept.toGame.finish .rejected,
                      kept.log ++ [.moved kept.state .ended], none⟩ := by
                unfold Party.finish at natural
                rw [arrival.idle] at natural
                rw [keptGame, keptLog]
                exact natural
              have traffic := congrArg Channel.traffic keptChannel
              refine halt_moves session.decoder act trivial (by simp)
                arrival.alive keptAlive arrival.takes ?_ ?_
              · exact traffic.trans arrival.traffic
              · exact List.suffix_rfl
            · rw [if_neg bad]
              simp only [not_or] at bad
              have act : Act env (.heard message) station.party none (kept.party none) :=
                arrival.act_becomes
                  (Act.inputHeard message arrival.idle kind accepts inputs stored bad.1
                    bad.2)
                  keptGame keptLog
              exact (arrival.completed_moves act keptAlive
                keptChannel).trans (advance_moves none kept)

omit arrival in
theorem endSession_remoteDigests
    (reason : Reason)
    (digests : Digests) :
    ({ session with remoteDigests := digests } : Session R).endSession
        reason =
      { session.endSession reason with
        remoteDigests := digests } := by
  unfold endSession closeResource
  dsimp only
  split_ifs <;> rfl

theorem handleDigest_moves
    (present : session.state ≠ .returning)
    (kind : message.kind = .digest) :
    Moves env station ((session.handleDigest message).station none station.waiting) := by
  unfold handleDigest
  by_cases wrong :
      session.state ≠ .running ∨ message.payload.length ≠ 40
  · rw [if_pos wrong]
    refine arrival.refused_moves _ present (Or.inr ?_) ?_
    · unfold Game.Accepts
      rw [kind]
      rintro ⟨running, length, _⟩
      rcases wrong with notRunning | notLength
      · exact notRunning running
      · exact notLength length
    · intro _ running length
      rcases wrong with notRunning | notLength
      · exact absurd running notRunning
      · exact absurd length notLength
  · rw [if_neg wrong]
    simp only [not_or, not_not] at wrong
    obtain ⟨running, length⟩ := wrong
    dsimp only
    generalize shape :
      ({ session with
          remoteDigests := session.remoteDigests.insert
            (bigEndianU64 message.payload)
            (Block.copy 32 (message.payload.drop 8)) } : Session R) = kept
    have keptGame :
        kept.toGame =
          { session.toGame with
            remoteDigests := session.remoteDigests.insert
              (bigEndianU64 message.payload)
              (Block.copy 32 (message.payload.drop 8)) } := by
      rw [← shape]
    have keptLog : kept.log = session.log := by
      rw [← shape]
    have keptChannel : kept.toChannel = session.toChannel := by
      rw [← shape]
    have keptAlive : kept.state ≠ .ended := by
      rw [keptGame]
      exact arrival.sessionAlive
    by_cases clash :
        kept.toGame.DigestClash (bigEndianU64 message.payload)
    · rw [compareDigest_of_clash clash]
      have refused :
          Moves env station ((session.endSession .desync).station none station.waiting) := by
        refine arrival.refused_moves _ present (Or.inr ?_) (fun _ _ _ => rfl)
        unfold Game.Accepts
        rw [kind]
        rintro ⟨_, _, agreement⟩
        rw [keptGame] at clash
        exact agreement clash
      have ended : (session.endSession .desync).state = .ended :=
        endSession_state _
      rw [← shape, endSession_remoteDigests]
      exact refused.trans (dead_moves none none ended rfl rfl rfl rfl)
    · rw [compareDigest_of_agreement clash]
      have accepts : session.toGame.Accepts message := by
        unfold Game.Accepts
        rw [kind]
        refine ⟨running, length, ?_⟩
        rw [keptGame] at clash
        exact clash
      rw [arrival.game] at accepts keptGame
      refine arrival.completed_moves ?_ ?_ keptChannel
      · exact arrival.act_becomes (Act.digestHeard message arrival.idle kind accepts)
          (congrArg (Game.settleDigest _) keptGame) (keptLog.trans arrival.log)
      · unfold withGame
        rw [settleDigest_state]
        exact keptAlive

/-!
## Dispatch
-/

omit arrival in
theorem accepts_request
    (kind : message.kind = .lobbyRequest) :
    session.toGame.Accepts message ↔
      session.role = .host ∧ message.payload = [] := by
  unfold Game.Accepts
  rw [kind]

omit arrival in
theorem accepts_lobby
    (kind : message.kind = .lobby) :
    session.toGame.Accepts message ↔
      session.role = .guest ∧ message.payload.length = 8 := by
  unfold Game.Accepts
  rw [kind]

omit arrival in
theorem accepts_ack
    (kind : message.kind = .lobbyAck) :
    session.toGame.Accepts message ↔
      session.role = .host ∧ session.state = .returning ∧
        message.payload.length = 8 ∧
        bigEndianU64 message.payload = session.lobbyGeneration := by
  unfold Game.Accepts
  rw [kind]

/-- The handlers behind the barrier. -/
theorem behindBarrier_moves
    (present : session.state ≠ .returning)
    (request :
      ¬ (message.kind = .lobbyRequest ∧ session.role = .host ∧
        message.payload = []))
    (lobby :
      ¬ (message.kind = .lobby ∧ session.role = .guest ∧
        message.payload.length = 8))
    (ack :
      ¬ (message.kind = .lobbyAck ∧ session.role = .host ∧
        session.state = .returning ∧ message.payload.length = 8 ∧
        bigEndianU64 message.payload = session.lobbyGeneration))
    (pause : ¬ (message.kind = .pause ∧ message.payload.length = 1)) :
    Moves env station
      ((match message.kind with
        | .join => session.handleJoin env message
        | .accept => session.handleAccept message
        | .config => session.handleConfig env message
        | .ready => session.handleReady env message
        | .start => session.handleStart env message
        | .input => session.handleInput env message
        | .digest => session.handleDigest message
        | .endSession => session.endSession .peerEnded
        | _ => session.endSession .rejected).station none station.waiting) := by
  have refusedUnless
      (reason : Reason)
      (other : message.kind ≠ .digest)
      (refused : ¬ session.toGame.Accepts message) :
      Moves env station ((session.endSession reason).station none station.waiting) :=
    arrival.refused_moves reason present (Or.inr refused)
      (Game.blames_of_kind other)
  cases kind : message.kind with
  | join =>
      exact arrival.handleJoin_moves present kind
  | accept =>
      exact arrival.handleAccept_moves present kind
  | config =>
      exact arrival.handleConfig_moves present kind
  | ready =>
      exact arrival.handleReady_moves present kind
  | start =>
      exact arrival.handleStart_moves present kind
  | input =>
      exact arrival.handleInput_moves present kind
  | digest =>
      exact arrival.handleDigest_moves present kind
  | endSession =>
      refine refusedUnless _ (by simp [kind]) ?_
      unfold Game.Accepts
      rw [kind]
      exact id
  | pause =>
      refine refusedUnless _ (by simp [kind]) ?_
      unfold Game.Accepts
      rw [kind]
      exact fun one => pause ⟨kind, one⟩
  | lobbyRequest =>
      refine refusedUnless _ (by simp [kind]) ?_
      rw [accepts_request kind]
      exact fun accepts => request ⟨kind, accepts⟩
  | lobby =>
      refine refusedUnless _ (by simp [kind]) ?_
      rw [accepts_lobby kind]
      exact fun accepts => lobby ⟨kind, accepts⟩
  | lobbyAck =>
      refine refusedUnless _ (by simp [kind]) ?_
      rw [accepts_ack kind]
      exact fun accepts => ack ⟨kind, accepts⟩
  | other byte unnamed =>
      refine refusedUnless _ (by simp [kind]) ?_
      unfold Game.Accepts
      rw [kind]
      exact id

/-- Whatever a message says, acting on it is a sequence of moves. -/
theorem dispatch_moves :
    Moves env station ((session.dispatch env message).station none station.waiting) := by
  unfold dispatch
  by_cases request :
      message.kind = .lobbyRequest ∧ session.role = .host ∧
        message.payload = []
  · rw [if_pos request]
    exact arrival.requestHeard_moves request.1
      ((accepts_request request.1).mpr request.2)
  rw [if_neg request]
  by_cases lobby :
      message.kind = .lobby ∧ session.role = .guest ∧
        message.payload.length = 8
  · rw [if_pos lobby]
    exact arrival.handleLobby_moves lobby.1
      ((accepts_lobby lobby.1).mpr lobby.2)
  rw [if_neg lobby]
  by_cases ack :
      message.kind = .lobbyAck ∧ session.role = .host ∧
        session.state = .returning ∧ message.payload.length = 8 ∧
        bigEndianU64 message.payload = session.lobbyGeneration
  · rw [if_pos ack]
    exact arrival.ackHeard_moves ack.1 ((accepts_ack ack.1).mpr ack.2)
  rw [if_neg ack]
  by_cases returning : session.state = .returning
  · rw [if_pos returning]
    refine arrival.ignored_moves (Game.Ignores.barrier returning ?_)
    rintro ⟨isRequest | isLobby | isAck, accepts⟩
    · exact request ⟨isRequest, (accepts_request isRequest).mp accepts⟩
    · exact lobby ⟨isLobby, (accepts_lobby isLobby).mp accepts⟩
    · exact ack ⟨isAck, (accepts_ack isAck).mp accepts⟩
  rw [if_neg returning]
  by_cases pause : message.kind = .pause ∧ message.payload.length = 1
  · rw [if_pos pause]
    refine arrival.handlePause_moves pause.1 ?_
    unfold Game.Accepts
    rw [pause.1]
    exact pause.2
  rw [if_neg pause]
  exact arrival.behindBarrier_moves returning request lobby ack pause

end Arrival

namespace Session

variable {R : Type} {env : Env R} {waiting : List Event}

/-- One message off the decoder. -/
theorem handleMessage_moves
    {session : Session R}
    {message : Message}
    {rest : Decoder}
    (alive : session.state ≠ .ended)
    (popped : session.decoder.pop = (some message, rest)) :
    Moves env (session.station none waiting)
      ((handleMessage env message
        { session with decoder := rest }).station none waiting) := by
  obtain ⟨fits, bytes, whole, restWhole⟩ := Decoder.pop_eq_some popped
  have arrival :
      Arrival message (session.station none waiting)
        (({ session with decoder := rest } : Session R).note
          (.received session.state session.lobbyGeneration message)) :=
    ⟨rfl, rfl, rfl, alive, ⟨fits, whole, restWhole, bytes⟩, rfl⟩
  exact arrival.dispatch_moves

/-- The decoding loop. -/
theorem drain_moves
    (fuel : Nat)
    (session : Session R) :
    Moves env (session.station none waiting)
      ((drain env fuel session).station none waiting) := by
  induction fuel generalizing session with
  | zero =>
      exact Moves.refl
  | succ fuel inductionHypothesis =>
      unfold drain
      by_cases ended : session.state = .ended
      · rw [if_pos ended]
        exact Moves.refl
      · rw [if_neg ended]
        cases popped : session.decoder.pop with
        | mk front rest =>
            cases front with
            | none =>
                exact Moves.single (Move.starved ended popped) trivial
            | some message =>
                exact (handleMessage_moves ended popped).trans
                  (inductionHypothesis _)

end Session

end FlyNes.LanMvp
