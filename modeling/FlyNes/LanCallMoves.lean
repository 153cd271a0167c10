import FlyNes.LanMessageMoves

namespace FlyNes.LanMvp

open ByteString
open Lockstep (wrap64)
open Wire (Kind Message Decoder)

/-!
# Every call is a sequence of moves

A pump consumes the completions that have arrived, one after another, and then
looks at the clock.  Every public call pumps first.  The results hold for every
session and every provider, whatever has been delivered.
-/

namespace Session

variable {R : Type} {env : Env R} {waiting : List Event}

/-!
## Completions
-/

variable {rest : List Event} {session : Session R}

/-- A session that is cut off ends with a lost connection. -/
theorem cut_moves
    {cut : Session R}
    {reason : Reason}
    (alive : session.state ≠ .ended)
    (cause :
      reason = .connection ∨ reason = .expired ∨ reason = .cancelled ∨
        reason = .stall)
    (game : cut.toGame = session.toGame)
    (log : cut.log = session.log)
    (traffic : cut.traffic = session.traffic)
    (suffix : rest <:+ waiting) :
    Moves env (session.station none waiting)
      ((cut.endSession reason).station none rest) := by
  have act :
      Act env .silent (session.party none) none
        ⟨cut.toGame.finish reason,
          cut.log ++ [.moved cut.state .ended], none⟩ := by
    have natural :
        Act env .silent (session.party none) none
          ((session.party none).finish reason []) :=
      Act.finish reason alive cause
    unfold Party.finish at natural
    rw [List.append_nil] at natural
    rw [game, log]
    exact natural
  have cutAlive : cut.state ≠ .ended := by
    rw [game]
    exact alive
  exact halt_moves session.decoder act trivial (by simp) alive cutAlive rfl
    traffic suffix

variable {event : Event} {done next : Operation}

/-- One setup operation is done and the next one is handed out. -/
theorem prepared_moves
    {prepared : Session R}
    (call : ProviderCall)
    (alive : session.state ≠ .ended)
    (pending : session.operations.lookup event.operation = some done)
    (order :
      (done = .material ∧ next = .listen) ∨
        (done = .listen ∧ next = .accept) ∨
        (done = .accept ∧ next = .acceptStream) ∨
        (done = .connect ∧ next = .openStream))
    (game :
      prepared.toGame =
        { session.toGame with
          invite := prepared.invite
          deadline := prepared.deadline })
    (token : prepared.invite.token = session.invite.token)
    (empty : call.carries = [])
    (log : prepared.log = session.log)
    (channel :
      prepared.toChannel = session.toChannel.forget event.operation) :
    Moves env (session.station none (event :: rest))
      ((prepared.submit env next call).2.station none rest) := by
  have addressed : Act env .silent (session.party none) none (prepared.party none) :=
    act_becomes (Act.addressed prepared.invite prepared.deadline rfl alive token) game
      (log.trans (List.append_nil _).symm)
  have preparedAlive : prepared.state ≠ .ended := by
    rw [game]
    exact alive
  have state : prepared.state = session.state := by
    rw [game]
  have traffic : prepared.traffic = session.traffic := by
    have same := congrArg Channel.traffic channel
    exact same
  unfold submit
  by_cases taken : env.answer prepared.nextOperation = quicAccepted
  · simp only [taken, if_true, decide_true]
    have move :
        Move env .silent (session.station none (event :: rest))
          ⟨(session.party none).become
            { session.toGame with
              invite := prepared.invite
              deadline := prepared.deadline } [],
            Channel.ask session.state next call
              (session.toChannel.forget event.operation), rest⟩ :=
      Move.prepared call prepared.invite prepared.deadline rfl alive rfl
        pending order token empty
    have shape :
        ({ prepared with
            nextOperation := prepared.nextOperation + 1
            operations := prepared.operations ++
              [(prepared.nextOperation, next)]
            traffic := prepared.traffic ++
              [(prepared.state, .submit prepared.nextOperation call true)] } :
            Session R).station none rest =
          ⟨(session.party none).become
            { session.toGame with
              invite := prepared.invite
              deadline := prepared.deadline } [],
            Channel.ask session.state next call
              (session.toChannel.forget event.operation), rest⟩ := by
      unfold Session.station Session.party Party.become Channel.ask
      rw [← channel, ← game, state, List.append_nil, ← log]
    rw [shape]
    exact Moves.single move trivial
  · simp only [taken, if_false, decide_false]
    generalize shape :
      ({ prepared with
          nextOperation := prepared.nextOperation + 1
          traffic := prepared.traffic ++
            [(prepared.state, .submit prepared.nextOperation call false)]
          transportResult := env.answer prepared.nextOperation
          transportOperation := some next } : Session R) = asked
    have askedGame : asked.toGame = prepared.toGame := by
      rw [← shape]
    have askedLog : asked.log = session.log := by
      rw [← shape]
      exact log
    have askedTraffic :
        asked.traffic =
          session.traffic ++
            [(session.state,
              .submit prepared.nextOperation call false)] := by
      rw [← shape, ← traffic, ← state]
    have turned :
        Moves env (session.station none (event :: rest))
          (({ session with
              traffic := session.traffic ++
                [(session.state,
                  .submit prepared.nextOperation call false)] } :
              Session R).station none (event :: rest)) :=
      Moves.single
        (Move.turned session.state prepared.nextOperation call alive alive)
        trivial
    have moved :
        Moves env
          (({ session with
              traffic := session.traffic ++
                [(session.state,
                  .submit prepared.nextOperation call false)] } :
              Session R).station none (event :: rest))
          (({ session with
              toGame := prepared.toGame
              traffic := session.traffic ++
                [(session.state,
                  .submit prepared.nextOperation call false)] } :
              Session R).station none (event :: rest)) := by
      have act :
          Act env .silent (session.party none) none
            ⟨prepared.toGame, session.log, none⟩ := by
        rw [← log]
        exact addressed
      exact act_moves act trivial alive preparedAlive rfl rfl
    refine (turned.trans moved).trans
      (cut_moves ?_ (Or.inl rfl) askedGame askedLog askedTraffic ?_)
    · exact preparedAlive
    · exact List.suffix_cons event rest

variable {session taken : Session R}

theorem consumeMaterial_moves
    (alive : session.state ≠ .ended)
    (pending : session.operations.lookup event.operation = some .material)
    (game : taken.toGame = session.toGame)
    (log : taken.log = session.log)
    (channel : taken.toChannel = session.toChannel.forget event.operation) :
    Moves env (session.station none (event :: rest))
      ((taken.consumeMaterial env event).station none rest) := by
  unfold consumeMaterial
  by_cases bad : event.resource = 0 ∨ event.bytes = []
  · rw [if_pos bad]
    have traffic := congrArg Channel.traffic channel
    exact cut_moves alive (Or.inl rfl) game log traffic
      (List.suffix_cons event rest)
  · rw [if_neg bad]
    refine prepared_moves _ alive pending (Or.inl ⟨rfl, rfl⟩) ?_ ?_ rfl log
      channel
    · simp [game]
    · simp [game]

theorem consumeListen_moves
    (alive : session.state ≠ .ended)
    (pending : session.operations.lookup event.operation = some .listen)
    (game : taken.toGame = session.toGame)
    (log : taken.log = session.log)
    (channel : taken.toChannel = session.toChannel.forget event.operation) :
    Moves env (session.station none (event :: rest))
      ((taken.consumeListen env event).station none rest) := by
  have traffic : taken.traffic = session.traffic := by
    have same := congrArg Channel.traffic channel
    exact same
  have cut
      {broken : Session R}
      (brokenGame : broken.toGame = session.toGame)
      (brokenLog : broken.log = session.log)
      (brokenTraffic : broken.traffic = session.traffic) :
      Moves env (session.station none (event :: rest))
        ((broken.endSession .connection).station none rest) :=
    cut_moves alive (Or.inl rfl) brokenGame brokenLog brokenTraffic
      (List.suffix_cons event rest)
  unfold consumeListen
  dsimp only
  by_cases bad : event.resource = 0 ∨ event.bytes = []
  · rw [if_pos bad]
    exact cut game log traffic
  · rw [if_neg bad]
    split
    · exact cut game log traffic
    · exact cut game log traffic
    · next port _ _ =>
        split
        · have readdressed :
              Moves env (session.station none (event :: rest))
                (({ session with
                    invite := { session.invite with port := port } } :
                  Session R).station none (event :: rest)) := by
            have act :
                Act env .silent (session.party none) none
                  (({ session with
                      invite := { session.invite with port := port } } :
                    Session R).party none) :=
              act_becomes
                (Act.addressed { session.invite with port := port } session.deadline rfl
                  alive rfl)
                rfl (List.append_nil _).symm
            exact act_moves act trivial alive alive rfl rfl
          refine readdressed.trans
            (cut_moves alive (Or.inl rfl) ?_ log traffic
              (List.suffix_cons event rest))
          simp [game]
        · refine prepared_moves _ alive pending
            (Or.inr (Or.inl ⟨rfl, rfl⟩)) ?_ ?_ rfl log channel
          · simp [game]
          · simp [game]

theorem consumeConnection_moves
    (call : Nat → ProviderCall)
    (empty : ∀ resource, (call resource).carries = [])
    (alive : session.state ≠ .ended)
    (pending : session.operations.lookup event.operation = some done)
    (order :
      (done = .accept ∧ next = .acceptStream) ∨
        (done = .connect ∧ next = .openStream))
    (game : taken.toGame = session.toGame)
    (log : taken.log = session.log)
    (channel : taken.toChannel = session.toChannel.forget event.operation) :
    Moves env (session.station none (event :: rest))
      ((taken.consumeConnection env next call event).station none rest) := by
  unfold consumeConnection
  dsimp only
  by_cases bad : event.resource = 0
  · rw [if_pos bad]
    have traffic := congrArg Channel.traffic channel
    exact cut_moves alive (Or.inl rfl) game log traffic
      (List.suffix_cons event rest)
  · rw [if_neg bad]
    refine prepared_moves _ alive pending (Or.inr (Or.inr order)) ?_ ?_
      (empty event.resource) log channel
    · simp [game]
    · simp [game]

theorem fits_join
    (session : Session R) :
    Message.Fits ⟨.join, session.invite.token.bytes⟩ := by
  apply fits_of_length
  simp [Block.sized]

/-- Both streams stand: a guest presents its token, both start reading. -/
theorem wired_moves
    {wired : Session R}
    (alive : session.state ≠ .ended)
    (pending : session.operations.lookup event.operation = some done)
    (streams : done = .openStream ∨ done = .acceptStream)
    (wiredGame : wired.toGame = session.toGame)
    (wiredLog : wired.log = session.log)
    (wiredChannel :
      wired.toChannel =
        Channel.forget event.operation
          { session.toChannel with
            sendStream := event.resource
            recvStream := bigEndianU64 event.bytes }) :
    let joined :=
      if wired.role = .guest then
        (wired.queueMessage env .join wired.invite.token.bytes).2
      else
        wired
    Moves env (session.station none (event :: rest))
      ((((joined.beginRead env).2).beginNextWrite env).2.station
        none rest) := by
  have wiredAlive : wired.state ≠ .ended := by
    rw [wiredGame]
    exact alive
  have joined :
      Moves env (session.station none (event :: rest))
        ((if wired.role = .guest then
          (wired.queueMessage env .join wired.invite.token.bytes).2
        else
          wired).station none rest) := by
    by_cases guest : wired.role = .guest
    · rw [if_pos guest]
      have isGuest : session.role = .guest := by
        rw [← wiredGame]
        exact guest
      have move :
          Move env .silent (session.station none (event :: rest))
            ⟨(session.party none).logged
              [(session.party none).posting .join
                session.invite.token.bytes],
              Channel.forget event.operation
                { session.toChannel with
                  sendStream := event.resource
                  recvStream := bigEndianU64 event.bytes
                  writes := session.writes ++
                    [Message.frame
                      ⟨.join, session.invite.token.bytes⟩] }, rest⟩ :=
        Move.joined _ _ alive rfl isGuest rfl pending streams
      have shape :
          (wired.pushed .join wired.invite.token.bytes).station none rest =
            ⟨(session.party none).logged
              [(session.party none).posting .join
                session.invite.token.bytes],
              Channel.forget event.operation
                { session.toChannel with
                  sendStream := event.resource
                  recvStream := bigEndianU64 event.bytes
                  writes := session.writes ++
                    [Message.frame
                      ⟨.join, session.invite.token.bytes⟩] }, rest⟩ := by
        unfold Session.station Session.party pushed Party.logged
          Party.posting
        dsimp only
        rw [wiredChannel, wiredLog, wiredGame]
        rfl
      rw [← shape] at move
      exact (Moves.single move trivial).trans
        (queueMessage_moves none wiredAlive (fits_join wired))
    · rw [if_neg guest]
      have notGuest : session.role ≠ .guest := by
        rw [← wiredGame]
        exact guest
      have move :
          Move env .silent (session.station none (event :: rest))
            ⟨session.party none,
              Channel.forget event.operation
                { session.toChannel with
                  sendStream := event.resource
                  recvStream := bigEndianU64 event.bytes }, rest⟩ :=
        Move.streams _ _ alive rfl notGuest rfl pending streams
      rw [← wiredChannel] at move
      rw [station_eq none rest wiredGame wiredLog]
      exact Moves.single move trivial
  intro joinedSession
  have reading : Attempt env joinedSession (joinedSession.beginRead env) :=
    beginRead_attempt joinedSession
  exact joined.trans
    ((reading.moves none rest).trans
      ((beginNextWrite_attempt _).moves none rest))

theorem consumeStreams_moves
    (alive : session.state ≠ .ended)
    (pending : session.operations.lookup event.operation = some done)
    (streams : done = .openStream ∨ done = .acceptStream)
    (game : taken.toGame = session.toGame)
    (log : taken.log = session.log)
    (channel : taken.toChannel = session.toChannel.forget event.operation) :
    Moves env (session.station none (event :: rest))
      ((taken.consumeStreams env event).station none rest) := by
  unfold consumeStreams
  by_cases bad : event.resource = 0 ∨ event.bytes.length ≠ 8
  · rw [if_pos bad]
    have traffic := congrArg Channel.traffic channel
    exact cut_moves alive (Or.inl rfl) game log traffic
      (List.suffix_cons event rest)
  · rw [if_neg bad]
    have wiredChannel :
        ({ taken with
            sendStream := event.resource
            recvStream := bigEndianU64 event.bytes } :
            Session R).toChannel =
          Channel.forget event.operation
            { session.toChannel with
              sendStream := event.resource
              recvStream := bigEndianU64 event.bytes } := by
      dsimp only
      rw [channel]
      rfl
    exact wired_moves alive pending streams game log wiredChannel

theorem consumeWrite_moves
    (alive : session.state ≠ .ended)
    (pending : session.operations.lookup event.operation = some .write)
    (game : taken.toGame = session.toGame)
    (log : taken.log = session.log)
    (channel : taken.toChannel = session.toChannel.forget event.operation) :
    Moves env (session.station none (event :: rest))
      ((taken.consumeWrite env).station none rest) := by
  unfold consumeWrite
  have move :
      Move env .silent (session.station none (event :: rest))
        ⟨session.party none,
          Channel.forget event.operation
            { session.toChannel with
              writeInflight := false
              writes := session.writes.drop 1 }, rest⟩ :=
    Move.written alive rfl pending
  generalize shape :
    ({ taken with
        writeInflight := false
        writes := taken.writes.drop 1 } : Session R) = written
  have writtenGame : written.toGame = session.toGame := by
    rw [← shape]
    exact game
  have writtenLog : written.log = session.log := by
    rw [← shape]
    exact log
  have writtenChannel :
      written.toChannel =
        Channel.forget event.operation
          { session.toChannel with
            writeInflight := false
            writes := session.writes.drop 1 } := by
    rw [← shape]
    dsimp only
    rw [channel]
    rfl
  rw [← writtenChannel] at move
  have done :
      Moves env (session.station none (event :: rest))
        (written.station none rest) := by
    rw [station_eq none rest writtenGame writtenLog]
    exact Moves.single move trivial
  exact done.trans ((beginNextWrite_attempt written).moves none rest)

/-- Bytes that are no frame end the session. -/
theorem garbled_moves
    {broken : Session R}
    (alive : session.state ≠ .ended)
    (bad : session.decoder.validateFront.1 = false)
    (game : broken.toGame = session.toGame)
    (log : broken.log = session.log)
    (traffic : broken.traffic = session.traffic) :
    Moves env (session.station none rest)
      ((broken.endSession .rejected).station none rest) := by
  have brokenAlive : broken.state ≠ .ended := by
    rw [game]
    exact alive
  obtain ⟨closing, closes, endTraffic, endOperations⟩ :=
    endSession_channel .rejected brokenAlive
  have natural :
      Act env .garbled (session.party none) none
        ((session.party none).finish .rejected []) :=
    Act.garbled alive
  have shape :
      (broken.endSession .rejected).station none rest =
        ⟨(session.party none).finish .rejected [],
          (broken.endSession .rejected).toChannel, rest⟩ := by
    unfold Session.station Session.party Party.finish
    rw [endSession_toGame _ brokenAlive, endSession_log _ brokenAlive, game,
      log, List.append_nil]
  rw [shape]
  refine Moves.single
    (Move.garbled closing natural alive bad List.suffix_rfl endOperations ?_
      closes) trivial
  rw [endTraffic, traffic]
  rfl

theorem push_eq
    {decoder pushed : Decoder}
    {bytes : Bytes}
    {valid : Bool}
    (push : decoder.push bytes = (valid, pushed)) :
    (valid = true →
      pushed = { decoder with bytes := decoder.bytes ++ bytes }) ∧
    (valid = false →
      ({ decoder with
          bytes := decoder.bytes ++ bytes } : Decoder).validateFront.1 =
        false) := by
  unfold Decoder.push at push
  split at push
  · next failed =>
      obtain ⟨rfl, rfl⟩ := Prod.mk.inj push
      refine ⟨by simp, fun _ => ?_⟩
      unfold Decoder.validateFront
      rw [if_pos (Or.inl failed)]
      simp [failed]
  · refine ⟨?_, ?_⟩
    · rintro rfl
      exact (Decoder.validateFront_of_true push).1
    · rintro rfl
      rw [push]

theorem consumeRead_moves
    (alive : session.state ≠ .ended)
    (ok : event.result = quicOk)
    (pending : session.operations.lookup event.operation = some .read)
    (game : taken.toGame = session.toGame)
    (log : taken.log = session.log)
    (channel : taken.toChannel = session.toChannel.forget event.operation) :
    Moves env (session.station none (event :: rest))
      ((taken.consumeRead env event).station none rest) := by
  have move :
      Move env .silent (session.station none (event :: rest))
        ⟨session.party none,
          Channel.forget event.operation
            { session.toChannel with
              readInflight := false
              decoder := { session.decoder with
                bytes := session.decoder.bytes ++ event.bytes }
              traffic := session.traffic ++
                [(session.state, .consumed event.bytes)] }, rest⟩ :=
    Move.arrived alive rfl pending ok
  generalize shape :
    ({ taken with
        readInflight := false
        decoder := { taken.decoder with
          bytes := taken.decoder.bytes ++ event.bytes }
        traffic := taken.traffic ++
          [(taken.state, .consumed event.bytes)] } : Session R) = arrived
  have arrivedGame : arrived.toGame = session.toGame := by
    rw [← shape]
    exact game
  have arrivedLog : arrived.log = session.log := by
    rw [← shape]
    exact log
  have arrivedChannel :
      arrived.toChannel =
        Channel.forget event.operation
          { session.toChannel with
            readInflight := false
            decoder := { session.decoder with
              bytes := session.decoder.bytes ++ event.bytes }
            traffic := session.traffic ++
              [(session.state, .consumed event.bytes)] } := by
    rw [← shape]
    dsimp only
    rw [channel, game]
    rfl
  have arrivedAlive : arrived.state ≠ .ended := by
    rw [arrivedGame]
    exact alive
  have arrives :
      Moves env (session.station none (event :: rest))
        (arrived.station none rest) := by
    rw [← arrivedChannel] at move
    rw [station_eq none rest arrivedGame arrivedLog]
    exact Moves.single move trivial
  refine arrives.trans ?_
  unfold consumeRead
  dsimp only
  by_cases empty : event.bytes = []
  · rw [if_pos empty]
    refine cut_moves arrivedAlive (Or.inl rfl) ?_ ?_ ?_ List.suffix_rfl
    · rw [← shape]
    · rw [← shape]
    · rw [← shape]
  · rw [if_neg empty]
    cases push : taken.decoder.push event.bytes with
    | mk valid decoder =>
        obtain ⟨whenValid, whenBad⟩ := push_eq push
        dsimp only
        cases valid with
        | false =>
            rw [if_pos (show (!false) = true from rfl)]
            refine garbled_moves arrivedAlive ?_ ?_ ?_ ?_
            · rw [← shape]
              exact whenBad rfl
            · rw [← shape]
            · rw [← shape]
            · rw [← shape]
        | true =>
            rw [if_neg (by simp)]
            have decoded := whenValid rfl
            subst decoded
            rw [shape]
            have drained :
                Moves env (arrived.station none rest)
                  ((drain env
                    ((taken.decoder.bytes ++ event.bytes).length + 1)
                    arrived).station none rest) :=
              drain_moves _ arrived
            generalize
              drain env ((taken.decoder.bytes ++ event.bytes).length + 1)
                arrived = after at drained ⊢
            by_cases failed : after.decoder.failed = true
            · rw [if_pos failed]
              exact drained
            · rw [if_neg failed]
              exact drained.trans ((beginRead_attempt after).moves none rest)

/-- One completion. -/
theorem consume_moves
    (event : Event)
    (rest : List Event)
    (session : Session R) :
    Moves env (session.station none (event :: rest))
      ((session.consume env event).station none rest) := by
  unfold consume
  cases pending : session.operations.lookup event.operation with
  | none =>
      exact Moves.single (Move.dropped rfl (Or.inl pending)) trivial
  | some kind =>
      dsimp only
      by_cases ended : session.state = .ended
      · rw [if_pos ended]
        exact Moves.single (Move.dropped rfl (Or.inr ended)) trivial
      · rw [if_neg ended]
        by_cases ok : event.result = quicOk
        · rw [if_neg (not_not.mpr ok)]
          cases kind with
          | material =>
              exact consumeMaterial_moves ended pending rfl rfl rfl
          | listen =>
              exact consumeListen_moves ended pending rfl rfl rfl
          | accept =>
              exact consumeConnection_moves _ (fun _ => rfl) ended pending
                (Or.inl ⟨rfl, rfl⟩) rfl rfl rfl
          | connect =>
              exact consumeConnection_moves _ (fun _ => rfl) ended pending
                (Or.inr ⟨rfl, rfl⟩) rfl rfl rfl
          | openStream =>
              exact consumeStreams_moves ended pending (Or.inl rfl) rfl rfl
                rfl
          | acceptStream =>
              exact consumeStreams_moves ended pending (Or.inr rfl) rfl rfl
                rfl
          | write =>
              exact consumeWrite_moves ended pending rfl rfl rfl
          | read =>
              exact consumeRead_moves ended ok pending rfl rfl rfl
        · rw [if_pos ok]
          exact cut_moves ended (Or.inl rfl) rfl rfl rfl
            (List.suffix_cons event rest)

/-- Any number of completions. -/
theorem consumeAll_moves
    (events : List Event)
    (session : Session R) :
    Moves env (session.station none events)
      ((events.foldl
        (fun (session : Session R) event => session.consume env event)
        session).station none []) := by
  induction events generalizing session with
  | nil =>
      exact Moves.refl
  | cons event rest inductionHypothesis =>
      exact (consume_moves event rest session).trans
        (inductionHypothesis (session.consume env event))

theorem expireInvite_moves
    (session : Session R) :
    Moves env (session.station none waiting)
      ((session.expireInvite env).station none waiting) := by
  unfold expireInvite
  by_cases open' :
      session.role = .host ∧ session.state = .inviting ∧ session.qr ≠ []
  · rw [if_pos open']
    have alive : session.state ≠ .ended := by
      rw [open'.2.1]
      simp
    by_cases late : env.clock session.ticks ≥ session.deadline
    · rw [if_pos late]
      exact cut_moves alive (Or.inr (Or.inl rfl)) rfl rfl rfl
        List.suffix_rfl
    · rw [if_neg late]
      exact Moves.refl
  · rw [if_neg open']
    exact Moves.refl

theorem expireProgress_moves
    (session : Session R) :
    Moves env (session.station none waiting)
      ((session.expireProgress env).station none waiting) := by
  unfold expireProgress
  by_cases playing : session.state = .running ∧ (!session.paused) = true
  · rw [if_pos playing]
    have alive : session.state ≠ .ended := by
      rw [playing.1]
      simp
    by_cases late :
        env.clock session.ticks - session.lastProgress ≥ kProgressTimeout
    · rw [if_pos late]
      exact cut_moves alive (Or.inr (Or.inr (Or.inr rfl))) rfl rfl rfl
        List.suffix_rfl
    · rw [if_neg late]
      exact Moves.refl
  · rw [if_neg playing]
    exact Moves.refl

/-- A pump consumes everything that has arrived. -/
theorem pump_moves
    (events : List Event)
    (session : Session R) :
    Moves env (session.station none events)
      ((session.pump env events).station none []) := by
  unfold pump
  exact ((consumeAll_moves events session).trans
    (expireInvite_moves _)).trans (expireProgress_moves _)

/-!
## Public calls
-/

/-- At most one decision among any number of other moves. -/
def Decides
    (env : Env R)
    (decision : Label → Prop)
    (before after : Station R) : Prop :=
  Moves env before after ∨
    ∃ label middle,
      decision label ∧
      Move env label before middle ∧
      Moves env middle after

/-- Hosting and joining open a session and hand out its first operation. -/
theorem opened_decides
    {opened : Session R}
    {kind : Operation}
    (call : ProviderCall)
    (empty : call.carries = [])
    (idle : session.state = .idle)
    (side :
      (opened.role = .host ∧ opened.state = .inviting ∧
        kind = .material) ∨
        (opened.role = .guest ∧ opened.state = .joining ∧
          kind = .connect))
    (game :
      opened.toGame =
        { session.toGame with
          role := opened.role
          invite := opened.invite
          state := opened.state })
    (log : opened.log = session.log ++ [.moved .idle opened.state])
    (channel : opened.toChannel = session.toChannel) :
    Decides env (fun label => label = .opened opened.role)
      (session.station none waiting)
      ((opened.submit env kind call).2.station none waiting) := by
  have alive : session.state ≠ .ended := by
    rw [idle]
    simp
  have openedAlive : opened.state ≠ .ended := by
    rcases side with ⟨_, inviting, _⟩ | ⟨_, joining, _⟩
    · simp [inviting]
    · simp [joining]
  unfold submit
  by_cases taken : env.answer opened.nextOperation = quicAccepted
  · simp only [taken, if_true, decide_true]
    have move :
        Move env (.opened opened.role) (session.station none waiting)
          ⟨(session.party none).become
            { session.toGame with
              role := opened.role
              invite := opened.invite
              state := opened.state }
            [.moved .idle opened.state],
            session.toChannel.ask opened.state kind call, waiting⟩ :=
      Move.setup call opened.role opened.state opened.invite rfl idle side
        empty
    have shape :
        ({ opened with
            nextOperation := opened.nextOperation + 1
            operations := opened.operations ++ [(opened.nextOperation, kind)]
            traffic := opened.traffic ++
              [(opened.state, .submit opened.nextOperation call true)] } :
            Session R).station none waiting =
          ⟨(session.party none).become
            { session.toGame with
              role := opened.role
              invite := opened.invite
              state := opened.state }
            [.moved .idle opened.state],
            session.toChannel.ask opened.state kind call, waiting⟩ := by
      unfold Session.station Session.party Party.become Channel.ask
      rw [← game, ← channel, log]
    rw [shape]
    exact Or.inr ⟨_, _, rfl, move, Moves.refl⟩
  · simp only [taken, if_false, decide_false]
    have act :
        Act env (.opened opened.role) (session.party none) none
          (opened.party none) := by
      refine act_becomes
        (Act.opened opened.role opened.state opened.invite rfl idle ?_) game log
      rcases side with ⟨host, inviting, _⟩ | ⟨guest, joining, _⟩
      · exact Or.inl ⟨host, inviting⟩
      · exact Or.inr ⟨guest, joining⟩
    have first :
        Move env (.opened opened.role) (session.station none waiting)
          (opened.station none waiting) := by
      refine act_move act alive openedAlive ?_ ?_
      · exact congrArg Channel.decoder channel
      · rw [channel]
        rfl
    have turned :
        Moves env (opened.station none waiting)
          (({ opened with
              traffic := opened.traffic ++
                [(opened.state,
                  .submit opened.nextOperation call false)] } :
              Session R).station none waiting) :=
      Moves.single
        (Move.turned opened.state opened.nextOperation call openedAlive
          openedAlive) trivial
    have cut :
        Moves env
          (({ opened with
              traffic := opened.traffic ++
                [(opened.state,
                  .submit opened.nextOperation call false)] } :
              Session R).station none waiting)
          ((endSession .connection
            { opened with
              nextOperation := opened.nextOperation + 1
              traffic := opened.traffic ++
                [(opened.state, .submit opened.nextOperation call false)]
              transportResult := env.answer opened.nextOperation
              transportOperation := some kind }).station none waiting) :=
      cut_moves openedAlive (Or.inl rfl) rfl rfl rfl List.suffix_rfl
    exact Or.inr ⟨_, _, rfl, first, turned.trans cut⟩

theorem host_decides
    (hostIpv4 : Bytes)
    (token : Block 16)
    (session : Session R) :
    Decides env (fun label => label = .opened .host)
      (session.station none waiting)
      ((session.host env hostIpv4 token).2.station none waiting) := by
  unfold Session.host
  split
  · exact Or.inl Moves.refl
  · next ip _ =>
      by_cases idle : session.state = .idle
      · rw [if_neg (not_not.mpr idle)]
        dsimp only
        refine opened_decides _ rfl idle (Or.inl ⟨rfl, rfl, rfl⟩) rfl ?_ rfl
        simp [moveTo, idle]
      · rw [if_pos idle]
        exact Or.inl Moves.refl

theorem join_decides
    (localIpv4 qrText : Bytes)
    (session : Session R) :
    Decides env (fun label => label = .opened .guest)
      (session.station none waiting)
      ((session.join env localIpv4 qrText).2.station none waiting) := by
  unfold Session.join
  split
  · next invite ip _ _ =>
      by_cases idle : session.state = .idle
      · rw [if_neg (not_not.mpr idle)]
        dsimp only
        refine opened_decides _ rfl idle (Or.inr ⟨rfl, rfl, rfl⟩) rfl ?_ rfl
        simp [moveTo, idle]
      · rw [if_pos idle]
        exact Or.inl Moves.refl
  · exact Or.inl Moves.refl

variable {gameKey : Bytes}

theorem fits_config
    (romHash configHash : Hash)
    (short : gameKey.length < peerGameKeySize) :
    Message.Fits
      ⟨.config, romHash.bytes ++ configHash.bytes ++ gameKey⟩ := by
  apply fits_of_length
  unfold peerGameKeySize at short
  simp only [List.length_append, romHash.sized, configHash.sized]
  omega

theorem selectGame_decides
    {rom : Bytes}
    (short : gameKey.length < peerGameKeySize)
    (session : Session R) :
    Decides env
      (fun label =>
        ∃ runtime romHash configHash,
          loadCandidate env rom = some (some (runtime, romHash, configHash)) ∧
          label = .selected romHash configHash)
      (session.station none waiting)
      ((session.selectGame env rom gameKey).2.station none waiting) := by
  unfold selectGame
  by_cases away : session.state ≠ .lobby ∧ session.state ≠ .configuring
  · rw [if_pos away]
    exact Or.inl Moves.refl
  · rw [if_neg away]
    have settled : session.state = .lobby ∨ session.state = .configuring := by
      simpa only [not_and_or, not_not] using away
    have alive : session.state ≠ .ended := by
      rcases settled with lobby | configuring
      · simp [lobby]
      · simp [configuring]
    have reasoned
        (reason : Reason) :
        Moves env (session.station none waiting)
          (({ session with reason := reason } : Session R).station none
            waiting) := by
      have act :
          Act env .silent (session.party none) none
            (({ session with reason := reason } : Session R).party none) :=
        act_becomes (Act.reasoned reason rfl settled) rfl (List.append_nil _).symm
      exact act_moves act trivial alive alive rfl rfl
    split
    · exact Or.inl Moves.refl
    · exact Or.inl (reasoned .romInvalid)
    · next runtime romHash configHash loaded =>
        cases conflict :
            session.toGame.selectionConflict romHash configHash with
        | some reason =>
            exact Or.inl (reasoned reason)
        | none =>
            refine Or.inr ⟨.selected romHash configHash, _,
              ⟨runtime, romHash, configHash, loaded, rfl⟩, ?_,
              queueMessage_moves none ?_ (fits_config romHash configHash short)⟩
            · have act :
                  Act env (.selected romHash configHash) (session.party none)
                    (some ⟨.config,
                      romHash.bytes ++ configHash.bytes ++ gameKey⟩)
                    ((session.party none).become
                      (session.toGame.commitSelection runtime romHash
                        configHash)
                      [.moved session.state .configuring,
                        (session.party none).posting .config
                          (romHash.bytes ++ configHash.bytes ++
                            gameKey)]) :=
                Act.selected rom gameKey rfl settled loaded short conflict
              have shape :
                  (pushed .config
                    (romHash.bytes ++ configHash.bytes ++ gameKey)
                    { session with
                      toGame := session.toGame.commitSelection runtime
                        romHash configHash
                      log := session.log ++
                        [.moved session.state .configuring] }).party none =
                    (session.party none).become
                      (session.toGame.commitSelection runtime romHash
                        configHash)
                      [.moved session.state .configuring,
                        (session.party none).posting .config
                          (romHash.bytes ++ configHash.bytes ++
                            gameKey)] := by
                simp [pushed, Session.party, Party.become, Party.posting,
                  Game.commitSelection]
              rw [← shape] at act
              exact post_move act alive (by simp [Session.party, pushed,
                Game.commitSelection]) rfl rfl
                ⟨fits_config romHash configHash short, by simp⟩
            · simp [Game.commitSelection]

theorem confirm_decides
    (session : Session R) :
    Decides env (fun label => label = .confirmed)
      (session.station none waiting)
      ((session.confirm env).2.station none waiting) := by
  unfold confirm
  by_cases away :
      session.state ≠ .configuring ∨ (!session.localConfigured) = true ∨
        session.runtime.isNone = true
  · rw [if_pos away]
    exact Or.inl Moves.refl
  · rw [if_neg away]
    simp only [not_or, not_not, Bool.not_eq_true', Bool.not_eq_false]
      at away
    obtain ⟨configuring, configured, _⟩ := away
    have alive : session.state ≠ .ended := by
      rw [configuring]
      simp
    by_cases already : session.localReady = true
    · rw [if_pos already]
      exact Or.inl Moves.refl
    · rw [if_neg already]
      dsimp only
      have fits :
          Message.Fits ⟨.ready, session.localConfigHash.bytes⟩ := by
        apply fits_of_length
        simp [session.localConfigHash.sized]
      generalize shape :
        ({ session with localReady := true } : Session R) = ready
      have readyGame :
          ready.toGame = { session.toGame with localReady := true } := by
        rw [← shape]
      have readyAlive : ready.state ≠ .ended := by
        rw [readyGame]
        exact alive
      have posted :
          Move env .confirmed (session.station none waiting)
            ((ready.pushed .ready session.localConfigHash.bytes).station
              (some .start) waiting) := by
        have act :
            Act env .confirmed (session.party none)
              (some ⟨.ready, session.localConfigHash.bytes⟩)
              ((ready.pushed .ready session.localConfigHash.bytes).party
                (some .start)) := by
          rw [← shape]
          exact Act.confirmed rfl configuring configured
            (Bool.eq_false_iff.mpr already)
        refine post_move act alive readyAlive ?_ ?_ ⟨fits, by simp⟩
        · rw [← shape]
          rfl
        · rw [← shape]
          rfl
      have queued :
          Moves env
            ((ready.pushed .ready session.localConfigHash.bytes).station
              (some .start) waiting)
            ((ready.queueMessage env .ready
              session.localConfigHash.bytes).2.station (some .start)
              waiting) :=
        queueMessage_moves (some .start) readyAlive fits
      have attempt :
          Attempt env (ready.pushed .ready session.localConfigHash.bytes)
            (ready.queueMessage env .ready session.localConfigHash.bytes) :=
        queueMessage_attempt readyAlive fits
      have startIt :
          Moves env
            ((ready.queueMessage env .ready
              session.localConfigHash.bytes).2.station (some .start) waiting)
            (((ready.queueMessage env .ready
              session.localConfigHash.bytes).2.maybeStartHost env).station
              none waiting) := by
        generalize
          ready.queueMessage env .ready session.localConfigHash.bytes =
            outcome at attempt
        cases attempt with
        | kept game _ _ =>
            refine maybeStartHost_moves (Or.inr (Or.inr ?_)) ?_
            · rw [game]
              change ready.state = .configuring
              rw [readyGame]
              exact configuring
            · intro ended
              rw [game] at ended
              exact absurd ended readyAlive
        | lost _ _ game _ _ =>
            refine maybeStartHost_moves (Or.inl ?_) ?_
            · rw [game]
              rfl
            · intro _
              rw [game]
              rfl
      exact Or.inr ⟨.confirmed, _, rfl, posted, queued.trans startIt⟩

theorem fits_input
    (frame : Nat)
    (buttons : UInt32) :
    Message.Fits ⟨.input, appendU64 frame ++ appendU32 buttons⟩ := by
  apply fits_of_length
  simp

/-- An accepted input is sent and may complete a frame. -/
theorem submitted_moves
    {buffer after : Lockstep.Buffer}
    {buttons : UInt32}
    (running : session.state = .running)
    (unpaused : session.paused = false)
    (early :
      session.nextSubmitFrame <
        wrap64 (session.completedFrames + kInputDelay))
    (inputs : session.inputs = some buffer)
    (stored :
      buffer.putLocal session.nextSubmitFrame buttons = (.accepted, after)) :
    let outcome :=
      queueMessage env .input
        (appendU64 session.nextSubmitFrame ++ appendU32 buttons)
        { session with inputs := some after }
    Moves env (session.station none waiting)
      ((if outcome.1 then
        (true, advance env
          { outcome.2 with
            nextSubmitFrame := wrap64 (outcome.2.nextSubmitFrame + 1) })
      else
        (false, outcome.2)).2.station none waiting) := by
  have alive : session.state ≠ .ended := by
    rw [running]
    simp
  have fits := fits_input session.nextSubmitFrame buttons
  generalize payloadShape :
    appendU64 session.nextSubmitFrame ++ appendU32 buttons = payload at fits
  generalize shape :
    ({ session with inputs := some after } : Session R) = kept
  have keptGame :
      kept.toGame = { session.toGame with inputs := some after } := by
    rw [← shape]
  have keptAlive : kept.state ≠ .ended := by
    rw [keptGame]
    exact alive
  have natural :
      Act env .silent (session.party none) (some ⟨.input, payload⟩)
        ((session.party none).become
          { session.toGame with
            inputs := some after
            nextSubmitFrame := wrap64 (session.nextSubmitFrame + 1) }
          [(session.party none).posting .input payload]) := by
    rw [← payloadShape]
    exact Act.submitted buttons rfl running unpaused early inputs stored
  have act :
      Act env .silent (session.party none) (some ⟨.input, payload⟩)
        ⟨{ kept.toGame with
            nextSubmitFrame := wrap64 (session.nextSubmitFrame + 1) },
          (kept.pushed .input payload).log, none⟩ := by
    rw [← shape]
    exact natural
  have attempt :
      Attempt env (kept.pushed .input payload)
        (kept.queueMessage env .input payload) :=
    queueMessage_attempt keptAlive fits
  intro outcome
  change Attempt env (kept.pushed .input payload) outcome at attempt
  have takes : Takes [] session.decoder kept.decoder := by
    rw [← shape]
    rfl
  have channel :
      kept.toChannel =
        { session.toChannel with decoder := kept.decoder } := by
    rw [← shape]
  generalize outcome = result at attempt
  cases attempt with
  | @kept sent game log moves =>
      simp only [if_true]
      have counted :
          Moves env (session.station none waiting)
            (({ sent with
                nextSubmitFrame := wrap64 (sent.nextSubmitFrame + 1) } :
                Session R).station none waiting) := by
        have countedGame :
            ({ sent with
                nextSubmitFrame := wrap64 (sent.nextSubmitFrame + 1) } :
                Session R).toGame =
              { kept.toGame with
                nextSubmitFrame :=
                  wrap64 (session.nextSubmitFrame + 1) } := by
          dsimp only
          rw [game, ← shape]
          rfl
        rw [station_eq none waiting countedGame log]
        exact post_moves act trivial alive keptAlive takes channel
          ⟨fits, by simp⟩ moves
      exact counted.trans (advance_moves none _)
  | @lost sent refuses _ game log severed =>
      simp only [Bool.false_eq_true, if_false]
      have posted :
          Moves env (session.station none waiting)
            ⟨⟨{ kept.toGame with
                nextSubmitFrame := wrap64 (session.nextSubmitFrame + 1) },
              (kept.pushed .input payload).log, none⟩,
              (kept.pushed .input payload).toChannel, waiting⟩ :=
        Moves.single
          (post_move act alive keptAlive takes channel ⟨fits, by simp⟩)
          trivial
      have broken :
          Moves env
            ⟨⟨{ kept.toGame with
                nextSubmitFrame := wrap64 (session.nextSubmitFrame + 1) },
              (kept.pushed .input payload).log, none⟩,
              (kept.pushed .input payload).toChannel, waiting⟩
            (({ sent with
                nextSubmitFrame := wrap64 (session.nextSubmitFrame + 1) } :
                Session R).station none waiting) := by
        have lost :
            Moves env
              ⟨⟨{ kept.toGame with
                  nextSubmitFrame := wrap64 (session.nextSubmitFrame + 1) },
                (kept.pushed .input payload).log, none⟩,
                (kept.pushed .input payload).toChannel, waiting⟩
              ⟨(Party.mk
                { kept.toGame with
                  nextSubmitFrame := wrap64 (session.nextSubmitFrame + 1) }
                (kept.pushed .input payload).log none).finish .connection [],
                sent.toChannel, waiting⟩ :=
          lost_moves severed keptAlive keptAlive
        have lostGame :
            ({ sent with
                nextSubmitFrame := wrap64 (session.nextSubmitFrame + 1) } :
                Session R).toGame =
              Game.finish .connection
                { kept.toGame with
                  nextSubmitFrame :=
                    wrap64 (session.nextSubmitFrame + 1) } := by
          dsimp only
          rw [game]
          rfl
        unfold Party.finish at lost
        rw [List.append_nil] at lost
        rw [station_eq none waiting lostGame log]
        exact lost
      have ended : sent.state = .ended := by
        rw [game]
        rfl
      have settled :
          Moves env
            (({ sent with
                nextSubmitFrame := wrap64 (session.nextSubmitFrame + 1) } :
                Session R).station none waiting)
            (sent.station none waiting) :=
        dead_moves none none ended rfl rfl rfl rfl
      exact (posted.trans broken).trans settled

theorem submitInput_moves
    (buttons : UInt32)
    (session : Session R) :
    Moves env (session.station none waiting)
      ((session.submitInput env buttons).2.station none waiting) := by
  unfold submitInput
  cases inputs : session.inputs with
  | none =>
      exact Moves.refl
  | some buffer =>
      dsimp only
      by_cases blocked :
          session.state ≠ .running ∨ session.paused = true ∨
            session.nextSubmitFrame ≥
              wrap64 (session.completedFrames + kInputDelay)
      · rw [if_pos blocked]
        exact Moves.refl
      · rw [if_neg blocked]
        simp only [not_or, not_not, Bool.not_eq_true, ge_iff_le,
          Nat.not_le] at blocked
        obtain ⟨running, unpaused, early⟩ := blocked
        have alive : session.state ≠ .ended := by
          rw [running]
          simp
        cases stored : buffer.putLocal session.nextSubmitFrame buttons with
        | mk result after =>
            by_cases accepted : result = .accepted
            · subst accepted
              exact submitted_moves running unpaused early inputs stored
            · have same : after = buffer :=
                Lockstep.Buffer.put_refused stored accepted
              have unchanged :
                  ({ session with inputs := some after } : Session R) =
                    session := by
                rw [same, ← inputs]
              cases result with
              | accepted =>
                  exact absurd rfl accepted
              | duplicate | conflict | late | outOfWindow =>
                  dsimp only
                  rw [unchanged]
                  exact Moves.refl

theorem fits_pause
    (paused : Bool) :
    Message.Fits ⟨.pause, [if paused then 1 else 0]⟩ := by
  apply fits_of_length
  simp

theorem setPaused_moves
    (paused : Bool)
    (session : Session R) :
    Moves env (session.station none waiting)
      ((session.setPaused env paused).2.station none waiting) := by
  unfold setPaused
  by_cases running : session.state = .running
  · rw [if_neg (not_not.mpr running)]
    have alive : session.state ≠ .ended := by
      rw [running]
      simp
    dsimp only
    by_cases host : session.role = .host
    · rw [if_pos host]
      have decided :
          Moves env (session.station none waiting)
            ((touchProgress env
              { session with paused := paused }).station
              (some (.pause paused)) waiting) := by
        have act :
            Act env .silent (session.party none) none
              ((touchProgress env
                { session with paused := paused }).party
                (some (.pause paused))) :=
          Act.decided paused rfl running host
        exact act_moves act trivial alive alive rfl rfl
      have advanced :
          Moves env (session.station none waiting)
            ((if paused then
                touchProgress env { session with paused := paused }
              else
                (touchProgress env
                  { session with paused := paused }).advance env).station
              (some (.pause paused)) waiting) := by
        cases paused with
        | false =>
            exact decided.trans (advance_moves _ _)
        | true =>
            exact decided
      generalize
        (if paused then
            touchProgress env { session with paused := paused }
          else
            (touchProgress env
              { session with paused := paused }).advance env) = after
        at advanced ⊢
      refine advanced.trans ?_
      by_cases ended : after.state = .ended
      · rw [queueMessage_of_ended ended (fits_pause paused)]
        exact dead_moves _ _ ended rfl rfl rfl rfl
      · have act :
            Act env .silent (after.party (some (.pause paused)))
              (some ⟨.pause, [if paused then 1 else 0]⟩)
              ((after.pushed .pause [if paused then 1 else 0]).party none) :=
          Act.announced paused rfl ended
        have posted :
            Move env .silent (after.station (some (.pause paused)) waiting)
              ((after.pushed .pause [if paused then 1 else 0]).station none
                waiting) :=
          post_move act ended ended rfl rfl ⟨fits_pause paused, by simp⟩
        exact (Moves.single posted trivial).trans
          (queueMessage_moves none ended (fits_pause paused))
    · rw [if_neg host]
      have act :
          Act env .silent (session.party none)
            (some ⟨.pause, [if paused then 1 else 0]⟩)
            ((session.pushed .pause [if paused then 1 else 0]).party none) :=
        Act.asked paused rfl running host
      have posted :
          Move env .silent (session.station none waiting)
            ((session.pushed .pause [if paused then 1 else 0]).station none
              waiting) :=
        post_move act alive alive rfl rfl ⟨fits_pause paused, by simp⟩
      exact (Moves.single posted trivial).trans
        (queueMessage_moves none alive (fits_pause paused))
  · rw [if_pos running]
    exact Moves.refl

theorem returnLobby_moves
    (session : Session R) :
    Moves env (session.station none waiting)
      ((session.returnLobby env).2.station none waiting) := by
  by_cases leaves : session.toGame.CanLeave
  · have alive : session.state ≠ .ended := by
      rcases leaves with running | lobby | configuring
      · simp [running]
      · simp [lobby]
      · simp [configuring]
    by_cases guest : session.role = .guest
    · have fits : Message.Fits ⟨.lobbyRequest, []⟩ :=
        fits_of_length (by simp)
      have shape :
          session.returnLobby env =
            (session.moveTo .returning).queueMessage env .lobbyRequest [] := by
        unfold returnLobby
        rcases leaves with running | lobby | configuring
        · simp [running, guest]
        · simp [lobby, guest]
        · simp [configuring, guest]
      have act :
          Act env .silent (session.party none) (some ⟨.lobbyRequest, []⟩)
            (((session.moveTo .returning).pushed .lobbyRequest []).party
              none) :=
        act_becomes (Act.requested rfl leaves guest)
          (by simp [pushed, moveTo, Session.party])
          (by simp [pushed, moveTo, Session.party, Party.posting])
      have posted :
          Move env .silent (session.station none waiting)
            (((session.moveTo .returning).pushed .lobbyRequest []).station
              none waiting) :=
        post_move act alive (by simp [pushed, moveTo, Session.party]) rfl rfl
          ⟨fits, by simp⟩
      rw [shape]
      exact (Moves.single posted trivial).trans
        (queueMessage_moves none (by simp [moveTo]) fits)
    · rw [Arrival.returnLobby_of_host leaves guest]
      have act :
          Act env .silent (session.party none)
            (some ⟨.lobby,
              appendU64 (Arrival.opened session).lobbyGeneration⟩)
            (((Arrival.opened session).pushed .lobby
              (appendU64 (Arrival.opened session).lobbyGeneration)).party
              none) :=
        act_becomes (Act.called rfl leaves guest)
          (by simp [pushed, Arrival.opened, Session.party])
          (by simp [pushed, Arrival.opened, Session.party])
      have posted :
          Move env .silent (session.station none waiting)
            (((Arrival.opened session).pushed .lobby
              (appendU64 (Arrival.opened session).lobbyGeneration)).station
              none waiting) :=
        post_move act alive
          (by simp [pushed, Arrival.opened, Session.party, Game.openLobby])
          rfl rfl ⟨Arrival.fits_lobby _, by simp⟩
      exact (Moves.single posted trivial).trans
        (queueMessage_moves none (by simp [Arrival.opened, Game.openLobby])
          (Arrival.fits_lobby _))
  · rw [Arrival.returnLobby_of_bound leaves]
    exact Moves.refl

/-- After the end a session holds no runtime. -/
theorem pullPcm_moves
    (sampleCapacity : Nat)
    (session : Session R)
    (stopped : session.state = .ended → session.runtime = none) :
    Moves env (session.station none waiting)
      ((session.pullPcm env sampleCapacity).2.station none waiting) := by
  unfold Session.pullPcm
  cases loaded : session.runtime with
  | none =>
      exact Moves.refl
  | some runtime =>
      have alive : session.state ≠ .ended := by
        intro ended
        have unloaded := stopped ended
        rw [loaded] at unloaded
        cases unloaded
      dsimp only
      split
      · exact Moves.refl
      · cases pulled :
            env.runtime.pullPcm runtime
              (min
                (wrap64
                  (session.pcmProduced + (2 ^ 64 - session.pcmConsumed)))
                sampleCapacity) with
        | none =>
            exact Moves.refl
        | some outcome =>
            obtain ⟨after, block⟩ := outcome
            dsimp only
            have act :
                Act env .silent (session.party none) none
                  (({ session with
                      runtime := some after
                      pcmConsumed := wrap64
                        (block.firstSampleSequence + block.sampleCount) } :
                      Session R).party none) :=
              act_becomes (Act.pulled _ rfl loaded pulled) rfl (List.append_nil _).symm
            exact act_moves act trivial alive alive rfl rfl

theorem cancel_moves
    (session : Session R) :
    Moves env (session.station none waiting)
      ((session.endSession .cancelled).station none waiting) := by
  by_cases ended : session.state = .ended
  · rw [endSession_of_ended _ ended]
    exact Moves.refl
  · exact cut_moves ended (Or.inr (Or.inr (Or.inl rfl))) rfl rfl rfl
      List.suffix_rfl

end Session

end FlyNes.LanMvp
