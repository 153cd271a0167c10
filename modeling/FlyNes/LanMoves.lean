import Mathlib.Logic.Relation
import FlyNes.LanParty

namespace FlyNes.LanMvp

open ByteString
open Lockstep (wrap64 Frame Buffer)
open Wire (Kind Message Decoder)

/-!
# Moves of a session

A `Station` is a party with its byte streams.  Every function of the session is
a sequence of moves of its station: an act of the party that takes at most one
frame off the decoder and puts at most one frame into the write queue, or an
exchange with the provider that leaves the party alone.
-/

/-- A party with its byte streams and the completions still to be consumed. -/
structure Station (R : Type) where
  party : Party R
  channel : Channel
  waiting : List Event

/-- The frames of the messages an act takes in come off the decoder. -/
def Takes : List Message → Decoder → Decoder → Prop
  | [], before, after => after = before
  | message :: _, before, after =>
      message.Fits ∧ before.failed = false ∧ after.failed = false ∧
        before.bytes = message.frame ++ after.bytes

/-- A message an act may send; the guest's token is presented separately. -/
def Sendable (message : Message) : Prop :=
  message.Fits ∧ message.kind ≠ .join

/-- The exchanges of `end` with the provider. -/
def Closing (traffic : List (State × Traffic)) : Prop :=
  ∀ entry ∈ traffic,
    (∃ operation, entry = (.ended, .cancel operation)) ∨
      ∃ operation resource, entry = (.ended, .close operation resource)

/-- Operations that set the connection up. -/
def Operation.Setup (kind : Operation) : Prop :=
  kind ≠ .read ∧ kind ≠ .write

/-- The bytes a call hands to the provider. -/
def ProviderCall.carries : ProviderCall → Bytes
  | .write _ bytes => bytes
  | _ => []

/-- Drop one pending operation. -/
def Channel.forget (operation : Nat) (channel : Channel) : Channel :=
  { channel with
    operations := channel.operations.filter
      fun pending => pending.1 ≠ operation }

/-- Hand one operation to the provider. -/
def Channel.ask
    (state : State)
    (kind : Operation)
    (call : ProviderCall)
    (channel : Channel) : Channel :=
  { channel with
    nextOperation := channel.nextOperation + 1
    operations := channel.operations ++ [(channel.nextOperation, kind)]
    traffic := channel.traffic ++
      [(state, .submit channel.nextOperation call true)] }

/-- The frame in front of the write queue may be handed to the provider. -/
def Hands (channel : Channel) (handed : List (State × Traffic)) : Prop :=
  handed = [] ∨
    ∃ state operation bytes rest,
      state ≠ .ended ∧
      channel.writes = bytes :: rest ∧
      channel.writeInflight = false ∧
      handed =
        [(state,
          .submit operation (.write channel.sendStream bytes) true)]

/-- Everything a station can do in one go. -/
inductive Move {R : Type} (env : Env R) :
    Label → Station R → Station R → Prop where
  /-- The party acts and its session goes on. -/
  | act {station : Station R} {label : Label} {output : Option Message}
      {party : Party R} (decoder : Decoder) :
      Act env label station.party output party →
      station.party.game.state ≠ .ended →
      party.game.state ≠ .ended →
      Takes label.input station.channel.decoder decoder →
      (∀ message ∈ output, Sendable message) →
      Move env label station
        ⟨party, { station.channel with
          decoder := decoder
          writes := station.channel.writes ++
            output.toList.map Message.frame }, station.waiting⟩
  /-- The party acts and its session ends. -/
  | stop {station : Station R} {label : Label} {output : Option Message}
      {party : Party R} {channel : Channel} {waiting : List Event}
      (decoder : Decoder)
      (handed closing : List (State × Traffic)) :
      Act env label station.party output party →
      label ≠ .garbled →
      station.party.game.state ≠ .ended →
      party.game.state = .ended →
      Takes label.input station.channel.decoder decoder →
      (∀ message ∈ output, Sendable message) →
      waiting <:+ station.waiting →
      channel.operations = [] →
      channel.traffic = station.channel.traffic ++ handed ++ closing →
      Hands
        { station.channel with
          writes := station.channel.writes ++
            output.toList.map Message.frame } handed →
      Closing closing →
      Move env label station ⟨party, channel, waiting⟩
  /-- The front of the decoder is no frame. -/
  | garbled {station : Station R} {party : Party R} {channel : Channel}
      {waiting : List Event} (closing : List (State × Traffic)) :
      Act env .garbled station.party none party →
      station.party.game.state ≠ .ended →
      station.channel.decoder.validateFront.1 = false →
      waiting <:+ station.waiting →
      channel.operations = [] →
      channel.traffic = station.channel.traffic ++ closing →
      Closing closing →
      Move env .garbled station ⟨party, channel, waiting⟩
  /-- No whole frame is left; a bad one stops the decoder for good. -/
  | starved {station : Station R} {rest : Decoder} :
      station.party.game.state ≠ .ended →
      station.channel.decoder.pop = (none, rest) →
      Move env .silent station
        ⟨station.party, { station.channel with decoder := rest },
          station.waiting⟩
  /-- Code that still runs after the end reaches no provider. -/
  | dead {station : Station R} {party : Party R} {channel : Channel} :
      Act env .silent station.party none party →
      station.party.game.state = .ended →
      channel.operations = station.channel.operations →
      channel.traffic = station.channel.traffic →
      Move env .silent station ⟨party, channel, station.waiting⟩
  | write {station : Station R} {bytes : Bytes} {rest : List Bytes}
      (state : State) :
      station.party.game.state ≠ .ended →
      state ≠ .ended →
      station.channel.writes = bytes :: rest →
      station.channel.writeInflight = false →
      station.channel.sendStream ≠ 0 →
      Move env .silent station
        ⟨station.party, Channel.ask state .write
          (.write station.channel.sendStream bytes)
          { station.channel with writeInflight := true },
          station.waiting⟩
  | read {station : Station R} (state : State) :
      station.party.game.state ≠ .ended →
      state ≠ .ended →
      station.channel.readInflight = false →
      station.channel.recvStream ≠ 0 →
      Move env .silent station
        ⟨station.party, Channel.ask state .read
          (.read station.channel.recvStream (Wire.kMaxBodySize + 2))
          { station.channel with readInflight := true },
          station.waiting⟩
  /-- The first operation of a session. -/
  | setup {station : Station R} {kind : Operation} (call : ProviderCall)
      (role : Role) (target : State) (invite : Invite) :
      station.party.owed = none →
      station.party.game.state = .idle →
      (role = .host ∧ target = .inviting ∧ kind = .material) ∨
        (role = .guest ∧ target = .joining ∧ kind = .connect) →
      call.carries = [] →
      Move env (.opened role) station
        ⟨station.party.become
          { station.party.game with
            role := role, invite := invite, state := target }
          [.moved .idle target],
          station.channel.ask target kind call,
          station.waiting⟩
  /-- A setup operation is done and the next one follows. -/
  | prepared {station : Station R} {done next : Operation} {event : Event}
      {rest : List Event} (call : ProviderCall) (invite : Invite)
      (deadline : Nat) :
      station.party.owed = none →
      station.party.game.state ≠ .ended →
      station.waiting = event :: rest →
      station.channel.operations.lookup event.operation = some done →
      (done = .material ∧ next = .listen) ∨
        (done = .listen ∧ next = .accept) ∨
        (done = .accept ∧ next = .acceptStream) ∨
        (done = .connect ∧ next = .openStream) →
      invite.token = station.party.game.invite.token →
      call.carries = [] →
      Move env .silent station
        ⟨station.party.become
          { station.party.game with invite := invite, deadline := deadline } [],
          Channel.ask station.party.game.state next call
            (station.channel.forget event.operation), rest⟩
  /-- The provider turns an operation away. -/
  | turned {station : Station R} (state : State) (operation : Nat)
      (call : ProviderCall) :
      station.party.game.state ≠ .ended →
      state ≠ .ended →
      Move env .silent station
        ⟨station.party, { station.channel with
          traffic := station.channel.traffic ++
            [(state, .submit operation call false)] }, station.waiting⟩
  /-- A completion nobody waits for. -/
  | dropped {station : Station R} {event : Event} {rest : List Event} :
      station.waiting = event :: rest →
      station.channel.operations.lookup event.operation = none ∨
        station.party.game.state = .ended →
      Move env .silent station
        ⟨station.party, station.channel, rest⟩
  | written {station : Station R} {event : Event} {rest : List Event} :
      station.party.game.state ≠ .ended →
      station.waiting = event :: rest →
      station.channel.operations.lookup event.operation = some .write →
      Move env .silent station
        ⟨station.party, Channel.forget event.operation
          { station.channel with
            writeInflight := false
            writes := station.channel.writes.drop 1 }, rest⟩
  | arrived {station : Station R} {event : Event} {rest : List Event} :
      station.party.game.state ≠ .ended →
      station.waiting = event :: rest →
      station.channel.operations.lookup event.operation = some .read →
      event.result = quicOk →
      Move env .silent station
        ⟨station.party, Channel.forget event.operation
          { station.channel with
            readInflight := false
            decoder := { station.channel.decoder with
              bytes := station.channel.decoder.bytes ++ event.bytes }
            traffic := station.channel.traffic ++
              [(station.party.game.state, .consumed event.bytes)] }, rest⟩
  /-- Both streams stand; a guest presents its token. -/
  | streams {station : Station R} {done : Operation} {event : Event}
      {rest : List Event} (sendStream recvStream : Nat) :
      station.party.game.state ≠ .ended →
      station.party.owed = none →
      station.party.game.role ≠ .guest →
      station.waiting = event :: rest →
      station.channel.operations.lookup event.operation = some done →
      done = .openStream ∨ done = .acceptStream →
      Move env .silent station
        ⟨station.party, Channel.forget event.operation
          { station.channel with
            sendStream := sendStream
            recvStream := recvStream }, rest⟩
  | joined {station : Station R} {done : Operation} {event : Event}
      {rest : List Event} (sendStream recvStream : Nat) :
      station.party.game.state ≠ .ended →
      station.party.owed = none →
      station.party.game.role = .guest →
      station.waiting = event :: rest →
      station.channel.operations.lookup event.operation = some done →
      done = .openStream ∨ done = .acceptStream →
      Move env .silent station
        ⟨station.party.logged
          [station.party.posting .join station.party.game.invite.token.bytes],
          Channel.forget event.operation
            { station.channel with
              sendStream := sendStream
              recvStream := recvStream
              writes := station.channel.writes ++
                [Message.frame
                  ⟨.join, station.party.game.invite.token.bytes⟩] }, rest⟩

/-- Any number of moves, none of them a decision. -/
def Moves {R : Type} (env : Env R) : Station R → Station R → Prop :=
  Relation.ReflTransGen fun before after =>
    ∃ label : Label, label.Quiet ∧ Move env label before after

namespace Moves

variable {R : Type} {env : Env R}

theorem refl
    {station : Station R} :
    Moves env station station :=
  Relation.ReflTransGen.refl

theorem trans
    {first second third : Station R}
    (before : Moves env first second)
    (after : Moves env second third) :
    Moves env first third :=
  Relation.ReflTransGen.trans before after

theorem single
    {label : Label}
    {first second : Station R}
    (move : Move env label first second)
    (quiet : label.Quiet) :
    Moves env first second :=
  Relation.ReflTransGen.single ⟨label, quiet, move⟩

end Moves

namespace Session

variable {R : Type} {env : Env R}

/-- The protocol's view of a session in the middle of a call. -/
def party (owed : Option Debt) (session : Session R) : Party R :=
  ⟨session.toGame, session.log, owed⟩

/--
A session without what neither its party nor its streams depend on, with the
completions its pump has still to consume.
-/
def station
    (owed : Option Debt)
    (waiting : List Event)
    (session : Session R) : Station R :=
  ⟨session.party owed, session.toChannel, waiting⟩

/-!
## The end of a session
-/

section End

variable {session : Session R} {waiting : List Event}

theorem closeResource_toGame
    (resource : Nat) :
    (session.closeResource resource).toGame = session.toGame := by
  unfold closeResource
  split <;> rfl

theorem closeResource_log
    (resource : Nat) :
    (session.closeResource resource).log = session.log := by
  unfold closeResource
  split <;> rfl

theorem closeResource_channel
    (resource : Nat)
    (ended : session.state = .ended) :
    ∃ closing,
      Closing closing ∧
      (session.closeResource resource).traffic =
        session.traffic ++ closing ∧
      (session.closeResource resource).operations = session.operations := by
  unfold closeResource
  split
  · exact ⟨[], by simp [Closing], by simp, rfl⟩
  · refine ⟨[(session.state, .close session.nextOperation resource)],
      ?_, rfl, rfl⟩
    intro entry member
    simp only [List.mem_singleton] at member
    exact Or.inr ⟨_, _, by rw [member, ended]⟩

theorem Closing.append
    {first second : List (State × Traffic)}
    (firstCloses : Closing first)
    (secondCloses : Closing second) :
    Closing (first ++ second) := by
  intro entry member
  rcases List.mem_append.mp member with inFirst | inSecond
  · exact firstCloses entry inFirst
  · exact secondCloses entry inSecond

theorem endSession_of_ended
    (reason : Reason)
    (ended : session.state = .ended) :
    session.endSession reason = session := by
  unfold endSession
  exact if_pos ended

theorem endSession_toGame
    (reason : Reason)
    (alive : session.state ≠ .ended) :
    (session.endSession reason).toGame = session.toGame.finish reason := by
  unfold endSession
  rw [if_neg alive, closeResource_toGame, closeResource_toGame]

theorem endSession_state
    (reason : Reason) :
    (session.endSession reason).state = .ended := by
  by_cases ended : session.state = .ended
  · rw [endSession_of_ended reason ended]
    exact ended
  · rw [endSession_toGame reason ended]
    rfl

theorem endSession_log
    (reason : Reason)
    (alive : session.state ≠ .ended) :
    (session.endSession reason).log =
      session.log ++ [.moved session.state .ended] := by
  unfold endSession
  rw [if_neg alive, closeResource_log, closeResource_log]

/-- Everything ending a session does to its streams. -/
theorem endSession_channel
    (reason : Reason)
    (alive : session.state ≠ .ended) :
    ∃ closing,
      Closing closing ∧
      (session.endSession reason).traffic =
        session.traffic ++ closing ∧
      (session.endSession reason).operations = [] := by
  unfold endSession
  rw [if_neg alive]
  dsimp only
  generalize shape :
    ({ session with
        toGame := session.toGame.finish reason
        qr := []
        writes := []
        writeInflight := false
        readInflight := false
        operations := []
        traffic := session.traffic ++ session.operations.map fun pending =>
          (State.ended, Traffic.cancel pending.1)
        log := session.log ++ [.moved session.state .ended] } : Session R) =
      ended
  have endedState : ended.state = .ended := by
    rw [← shape]
    rfl
  obtain ⟨first, firstCloses, firstTraffic, firstOperations⟩ :=
    closeResource_channel session.connection endedState
  have closedState :
      (ended.closeResource session.connection).state = .ended := by
    rw [closeResource_toGame]
    exact endedState
  obtain ⟨second, secondCloses, secondTraffic, secondOperations⟩ :=
    closeResource_channel session.listener closedState
  refine ⟨(session.operations.map fun pending =>
    (State.ended, Traffic.cancel pending.1)) ++ first ++ second,
    ?_, ?_, ?_⟩
  · refine Closing.append (Closing.append ?_ firstCloses) secondCloses
    intro entry member
    obtain ⟨pending, _, rfl⟩ := List.mem_map.mp member
    exact Or.inl ⟨_, rfl⟩
  · rw [secondTraffic, firstTraffic, ← shape]
    simp
  · rw [secondOperations, firstOperations, ← shape]

variable {station : Station R} {label : Label} {owed : Option Debt} {reason : Reason}

/--
A session that ends in the middle of an act makes one move from the station at
which the act began.
-/
theorem stop_move
    {output : Option Message}
    (decoder : Decoder)
    (act :
      Act env label station.party output
        ⟨session.toGame.finish reason,
          session.log ++ [.moved session.state .ended], owed⟩)
    (clean : label ≠ .garbled)
    (begun : station.party.game.state ≠ .ended)
    (alive : session.state ≠ .ended)
    (takes : Takes label.input station.channel.decoder decoder)
    (sendable : ∀ message ∈ output, Sendable message)
    (handed : List (State × Traffic))
    (traffic : session.traffic = station.channel.traffic ++ handed)
    (hands :
      Hands
        { station.channel with
          writes := station.channel.writes ++
            output.toList.map Message.frame } handed)
    (rest : waiting <:+ station.waiting) :
    Move env label station ((session.endSession reason).station owed waiting) := by
  obtain ⟨closing, closes, endTraffic, endOperations⟩ :=
    endSession_channel reason alive
  have shape :
      (session.endSession reason).station owed waiting =
        ⟨⟨session.toGame.finish reason,
          session.log ++ [.moved session.state .ended], owed⟩,
          (session.endSession reason).toChannel, waiting⟩ := by
    unfold Session.station Session.party
    rw [endSession_toGame reason alive, endSession_log reason alive]
  rw [shape]
  refine Move.stop decoder handed closing act clean begun rfl takes sendable
    rest
    endOperations ?_ hands closes
  rw [endTraffic, traffic]

theorem halt_moves
    (decoder : Decoder)
    (act :
      Act env label station.party none
        ⟨session.toGame.finish reason,
          session.log ++ [.moved session.state .ended], owed⟩)
    (quiet : label.Quiet)
    (clean : label ≠ .garbled)
    (begun : station.party.game.state ≠ .ended)
    (alive : session.state ≠ .ended)
    (takes : Takes label.input station.channel.decoder decoder)
    (traffic : session.traffic = station.channel.traffic)
    (rest : waiting <:+ station.waiting) :
    Moves env station ((session.endSession reason).station owed waiting) := by
  have move :
      Move env label station ((session.endSession reason).station owed waiting) := by
    refine stop_move decoder act clean begun alive takes (by simp) [] ?_
      (Or.inl rfl) rest
    rw [traffic, List.append_nil]
  exact Moves.single move quiet

/-- After the end only the write queue and the bookkeeping may change. -/
theorem dead_moves
    {after : Session R}
    (before owed : Option Debt)
    (ended : session.state = .ended)
    (game :
      after.toGame =
        { session.toGame with
          nextSubmitFrame := after.nextSubmitFrame
          localDigests := after.localDigests
          remoteDigests := after.remoteDigests })
    (log : after.log = session.log)
    (operations : after.operations = session.operations)
    (traffic : after.traffic = session.traffic) :
    Moves env (session.station before waiting)
      (after.station owed waiting) := by
  have shape :
      after.station owed waiting =
        ⟨⟨{ session.toGame with
              nextSubmitFrame := after.nextSubmitFrame
              localDigests := after.localDigests
              remoteDigests := after.remoteDigests },
            session.log, owed⟩, after.toChannel, waiting⟩ := by
    unfold Session.station Session.party
    rw [← game, log]
  rw [shape]
  refine Moves.single (Move.dead ?_ ended operations traffic) trivial
  exact Act.drift _ _ _ _ ended

end End

/-!
## Operations of the provider
-/

variable {waiting : List Event}

/-- What a refused operation leaves of the streams. -/
def Severed (session after : Session R) : Prop :=
  ∃ operation call closing,
    Closing closing ∧
    after.traffic =
      session.traffic ++ (session.state, .submit operation call false) ::
        closing ∧
    after.operations = []

/-- The streams move on whatever the party has become meanwhile. -/
def Carries (env : Env R) (session after : Session R) : Prop :=
  ∀ (party : Party R) (waiting : List Event),
    (session.state ≠ .ended → party.game.state ≠ .ended) →
    Moves env ⟨party, session.toChannel, waiting⟩
      ⟨party, after.toChannel, waiting⟩

/--
What comes of an attempt to hand something to the provider: the party goes on
unchanged, or the connection is lost.
-/
inductive Attempt
    (env : Env R)
    (session : Session R) : Bool × Session R → Prop where
  | kept {after : Session R} :
      after.toGame = session.toGame →
      after.log = session.log →
      Carries env session after →
      Attempt env session (true, after)
  | lost {after : Session R} :
      env.Refuses →
      session.state ≠ .ended →
      after.toGame = session.toGame.finish .connection →
      after.log = session.log ++ [.moved session.state .ended] →
      Severed session after →
      Attempt env session (false, after)

variable {session after : Session R} {station : Station R} {label : Label} {party : Party R}

variable {output : Option Message}

/-- An act that ends with a refused operation. -/
theorem severed_moves
    (decoder : Decoder)
    (severed : Severed session after)
    (alive : session.state ≠ .ended)
    (act : Act env label station.party output party)
    (quiet : label.Quiet)
    (clean : label ≠ .garbled)
    (begun : station.party.game.state ≠ .ended)
    (ended : party.game.state = .ended)
    (takes : Takes label.input station.channel.decoder decoder)
    (sendable : ∀ message ∈ output, Sendable message)
    (traffic : session.traffic = station.channel.traffic)
    (rest : waiting <:+ station.waiting) :
    Moves env station ⟨party, after.toChannel, waiting⟩ := by
  obtain ⟨operation, call, closing, closes, afterTraffic,
    afterOperations⟩ := severed
  have first :
      Move env .silent station
        ⟨station.party, { station.channel with
          traffic := station.channel.traffic ++
            [(session.state, .submit operation call false)] },
          station.waiting⟩ :=
    Move.turned session.state operation call begun alive
  have second :
      Move env label
        ⟨station.party, { station.channel with
          traffic := station.channel.traffic ++
            [(session.state, .submit operation call false)] },
          station.waiting⟩
        ⟨party, after.toChannel, waiting⟩ := by
    refine Move.stop decoder [] closing act clean begun ended takes sendable
      rest afterOperations ?_ (Or.inl rfl) closes
    rw [afterTraffic, traffic]
    simp
  exact (Moves.single first trivial).trans (Moves.single second quiet)

/-- A party whose next operation is refused loses its connection. -/
theorem lost_moves
    (severed : Severed session after)
    (alive : session.state ≠ .ended)
    (begun : party.game.state ≠ .ended) :
    Moves env ⟨party, session.toChannel, waiting⟩
      ⟨party.finish .connection [], after.toChannel, waiting⟩ := by
  have act :
      Act env .silent party none (party.finish .connection []) :=
    Act.finish .connection begun (Or.inl rfl)
  exact severed_moves session.decoder severed alive act trivial (by simp)
    begun rfl rfl (by simp) rfl List.suffix_rfl

theorem submit_attempt
    {before session : Session R}
    {kind : Operation}
    {call : ProviderCall}
    (alive : before.state ≠ .ended)
    (game : session.toGame = before.toGame)
    (log : session.log = before.log)
    (traffic : session.traffic = before.traffic)
    (move :
      ∀ (party : Party R) (waiting : List Event),
        party.game.state ≠ .ended →
        Move env .silent ⟨party, before.toChannel, waiting⟩
          ⟨party, Channel.ask before.state kind call session.toChannel,
            waiting⟩) :
    Attempt env before (submit env kind call session) := by
  unfold submit
  by_cases taken : env.answer session.nextOperation = quicAccepted
  · simp only [taken, if_true, decide_true]
    refine Attempt.kept game log ?_
    intro party waiting begun
    have accepted :=
      Moves.single (move party waiting (begun alive)) trivial
    unfold Channel.ask at accepted
    rw [← game] at accepted
    exact accepted
  · simp only [taken, if_false, decide_false]
    generalize shape :
      ({ session with
          nextOperation := session.nextOperation + 1
          traffic := session.traffic ++
            [(session.state, .submit session.nextOperation call false)]
          transportResult := env.answer session.nextOperation
          transportOperation := some kind } : Session R) = asked
    have askedGame : asked.toGame = before.toGame := by
      rw [← shape]
      exact game
    have askedLog : asked.log = before.log := by
      rw [← shape]
      exact log
    have askedAlive : asked.state ≠ .ended := by
      rw [askedGame]
      exact alive
    obtain ⟨closing, closes, endTraffic, endOperations⟩ :=
      endSession_channel .connection askedAlive
    refine Attempt.lost ⟨_, taken⟩ alive ?_ ?_ ?_
    · rw [endSession_toGame _ askedAlive, askedGame]
    · rw [endSession_log _ askedAlive, askedGame, askedLog]
    · refine ⟨session.nextOperation, call, closing, closes, ?_,
        endOperations⟩
      rw [endTraffic, ← shape, ← traffic, ← game]
      simp

variable {session : Session R} {outcome : Bool × Session R}

/-- A flag reset after a refusal changes nothing that still matters. -/
theorem Attempt.reset
    (attempt : Attempt env session outcome)
    (reset : Session R → Session R)
    (game : (reset outcome.2).toGame = outcome.2.toGame)
    (log : (reset outcome.2).log = outcome.2.log)
    (operations : (reset outcome.2).operations = outcome.2.operations)
    (traffic : (reset outcome.2).traffic = outcome.2.traffic) :
    Attempt env session
      (if outcome.1 then (true, outcome.2) else (false, reset outcome.2)) := by
  cases attempt with
  | kept sameGame sameLog moves =>
      exact Attempt.kept sameGame sameLog moves
  | lost refuses alive endGame endLog severed =>
      obtain ⟨operation, call, closing, closes, endTraffic,
        endOperations⟩ := severed
      refine Attempt.lost refuses alive ?_ ?_ ?_
      · exact game.trans endGame
      · exact log.trans endLog
      · exact ⟨operation, call, closing, closes, traffic.trans endTraffic,
          operations.trans endOperations⟩

theorem beginRead_attempt
    (session : Session R) :
    Attempt env session (session.beginRead env) := by
  unfold beginRead
  by_cases blocked :
      session.readInflight ∨ session.recvStream = 0 ∨ session.state = .ended
  · rw [if_pos blocked]
    exact Attempt.kept rfl rfl fun _ _ _ => Moves.refl
  · rw [if_neg blocked]
    simp only [not_or, Bool.not_eq_true] at blocked
    obtain ⟨idle, stream, alive⟩ := blocked
    have attempt :
        Attempt env session
          (submit env .read
            (.read session.recvStream (Wire.kMaxBodySize + 2))
            { session with readInflight := true }) := by
      refine submit_attempt alive rfl rfl rfl ?_
      intro party waiting begun
      exact Move.read session.state begun alive idle stream
    exact attempt.reset
      (fun session => { session with readInflight := false })
      rfl rfl rfl rfl

theorem beginNextWrite_attempt
    (session : Session R) :
    Attempt env session (session.beginNextWrite env) := by
  unfold beginNextWrite
  split
  · exact Attempt.kept rfl rfl fun _ _ _ => Moves.refl
  · next bytes rest queue =>
      by_cases blocked :
          session.writeInflight ∨ session.sendStream = 0 ∨
            session.state = .ended
      · rw [if_pos blocked]
        exact Attempt.kept rfl rfl fun _ _ _ => Moves.refl
      · rw [if_neg blocked]
        simp only [not_or, Bool.not_eq_true] at blocked
        obtain ⟨idle, stream, alive⟩ := blocked
        have attempt :
            Attempt env session
              (submit env .write (.write session.sendStream bytes)
                { session with writeInflight := true }) := by
          refine submit_attempt alive rfl rfl rfl ?_
          intro party waiting begun
          exact Move.write session.state begun alive queue idle stream
        exact attempt.reset
          (fun session => { session with writeInflight := false })
          rfl rfl rfl rfl

/-!
## Queueing a message
-/

theorem beginNextWrite_handed
    (sent : session.beginNextWrite env = (true, after)) :
    ∃ handed,
      after.traffic = session.traffic ++ handed ∧
      Hands session.toChannel handed := by
  unfold beginNextWrite at sent
  split at sent
  · obtain ⟨_, rfl⟩ := Prod.mk.inj sent
    exact ⟨[], by simp, Or.inl rfl⟩
  · next bytes rest queue =>
      by_cases blocked :
          session.writeInflight ∨ session.sendStream = 0 ∨
            session.state = .ended
      · rw [if_pos blocked] at sent
        obtain ⟨_, rfl⟩ := Prod.mk.inj sent
        exact ⟨[], by simp, Or.inl rfl⟩
      · rw [if_neg blocked] at sent
        simp only [not_or, Bool.not_eq_true] at blocked
        obtain ⟨idle, _, alive⟩ := blocked
        by_cases taken : env.answer session.nextOperation = quicAccepted
        · simp only [submit, taken, if_true, decide_true] at sent
          obtain ⟨_, rfl⟩ := Prod.mk.inj sent
          exact ⟨_, rfl,
            Or.inr ⟨_, _, bytes, rest, alive, queue, idle, rfl⟩⟩
        · simp [submit, taken] at sent

/-- The session with a message in its write queue. -/
def pushed (kind : Kind) (payload : Bytes) (session : Session R) : Session R :=
  { session with
    writes := session.writes ++ [Message.frame ⟨kind, payload⟩]
    log := session.log ++ [.queued session.lobbyGeneration ⟨kind, payload⟩] }

variable {kind : Kind} {payload : Bytes}

theorem queueMessage_attempt
    (alive : session.state ≠ .ended)
    (fits : Message.Fits ⟨kind, payload⟩) :
    Attempt env (session.pushed kind payload)
      (session.queueMessage env kind payload) := by
  unfold queueMessage
  rw [Wire.encode_eq_some fits]
  dsimp only
  rw [if_neg alive]
  exact beginNextWrite_attempt _

theorem queueMessage_handed
    (alive : session.state ≠ .ended)
    (fits : Message.Fits ⟨kind, payload⟩)
    (sent : session.queueMessage env kind payload = (true, after)) :
    ∃ handed,
      after.traffic = session.traffic ++ handed ∧
      Hands (session.pushed kind payload).toChannel handed := by
  unfold queueMessage at sent
  rw [Wire.encode_eq_some fits] at sent
  dsimp only at sent
  rw [if_neg alive] at sent
  exact beginNextWrite_handed sent

theorem queueMessage_of_ended
    (ended : session.state = .ended)
    (fits : Message.Fits ⟨kind, payload⟩) :
    session.queueMessage env kind payload =
      (true, { session with
        writes := session.writes ++ [Message.frame ⟨kind, payload⟩] }) := by
  unfold queueMessage
  rw [Wire.encode_eq_some fits]
  dsimp only
  rw [if_pos ended]
  unfold beginNextWrite
  split
  · rfl
  · rw [if_pos (Or.inr (Or.inr ended))]

/-- The act that sends a message puts its frame into the write queue. -/
theorem post_move
    (act : Act env label station.party (some ⟨kind, payload⟩) party)
    (begun : station.party.game.state ≠ .ended)
    (alive : party.game.state ≠ .ended)
    (takes : Takes label.input station.channel.decoder session.decoder)
    (channel :
      session.toChannel =
        { station.channel with decoder := session.decoder })
    (sendable : Sendable ⟨kind, payload⟩) :
    Move env label station
      ⟨party, (session.pushed kind payload).toChannel,
        station.waiting⟩ := by
  have move := Move.act session.decoder act begun alive takes
    (by simpa using sendable)
  have queue : session.writes = station.channel.writes := by
    rw [channel]
  have shape :
      (session.pushed kind payload).toChannel =
        { station.channel with
          decoder := session.decoder
          writes := station.channel.writes ++
            (some (⟨kind, payload⟩ : Message)).toList.map Message.frame } := by
    unfold pushed
    rw [← queue]
    dsimp only
    rw [channel]
    rfl
  rw [shape]
  exact move

theorem post_moves
    (act : Act env label station.party (some ⟨kind, payload⟩) party)
    (quiet : label.Quiet)
    (begun : station.party.game.state ≠ .ended)
    (alive : party.game.state ≠ .ended)
    (takes : Takes label.input station.channel.decoder session.decoder)
    (channel :
      session.toChannel =
        { station.channel with decoder := session.decoder })
    (sendable : Sendable ⟨kind, payload⟩)
    (written : Carries env (session.pushed kind payload) after) :
    Moves env station ⟨party, after.toChannel, station.waiting⟩ :=
  (Moves.single (post_move act begun alive takes channel sendable) quiet).trans
    (written party station.waiting fun _ => alive)

variable {owed : Option Debt}

/-- An act that sends nothing leaves the streams alone. -/
theorem act_move
    (act : Act env label station.party none (session.party owed))
    (begun : station.party.game.state ≠ .ended)
    (alive : session.state ≠ .ended)
    (takes : Takes label.input station.channel.decoder session.decoder)
    (channel :
      session.toChannel =
        { station.channel with decoder := session.decoder }) :
    Move env label station (session.station owed station.waiting) := by
  have move := Move.act session.decoder act begun alive takes (by simp)
  have shape :
      session.station owed station.waiting =
        ⟨session.party owed,
          { station.channel with
            decoder := session.decoder
            writes := station.channel.writes ++
              (none : Option Message).toList.map Message.frame },
          station.waiting⟩ := by
    unfold Session.station
    rw [channel]
    simp
  rw [shape]
  exact move

variable {game : Game R}

/-- An act that a party has made is one that the session with its game and log made. -/
theorem act_becomes
    {entries : List Effect}
    (act : Act env label party output (party.become game entries))
    (sameGame : session.toGame = game)
    (sameLog : session.log = party.log ++ entries) :
    Act env label party output (session.party party.owed) := by
  have shape : session.party party.owed = party.become game entries := by
    unfold Session.party Party.become
    rw [sameGame, sameLog]
  rw [shape]
  exact act

theorem act_moves
    (act : Act env label station.party none (session.party owed))
    (quiet : label.Quiet)
    (begun : station.party.game.state ≠ .ended)
    (alive : session.state ≠ .ended)
    (takes : Takes label.input station.channel.decoder session.decoder)
    (channel :
      session.toChannel =
        { station.channel with decoder := session.decoder }) :
    Moves env station (session.station owed station.waiting) :=
  Moves.single (act_move act begun alive takes channel) quiet

theorem station_eq
    {log : List Effect}
    (owed : Option Debt)
    (waiting : List Event)
    (sameGame : session.toGame = game)
    (sameLog : session.log = log) :
    session.station owed waiting =
      ⟨⟨game, log, owed⟩, session.toChannel, waiting⟩ := by
  subst sameGame
  subst sameLog
  rfl

/-- Whatever comes of an attempt is a sequence of moves. -/
theorem Attempt.moves
    (attempt : Attempt env session outcome)
    (owed : Option Debt)
    (waiting : List Event) :
    Moves env (session.station owed waiting)
      (outcome.2.station owed waiting) := by
  cases attempt with
  | @kept after game log moves =>
      rw [station_eq owed waiting game log]
      exact moves _ waiting id
  | @lost after _ alive game log severed =>
      have broken :
          Moves env (session.station owed waiting)
            ⟨(session.party owed).finish .connection [],
              after.toChannel, waiting⟩ :=
        lost_moves severed alive alive
      unfold Party.finish at broken
      rw [List.append_nil] at broken
      rw [station_eq owed waiting game log]
      exact broken

/-- Handing a queued frame to the provider. -/
theorem queueMessage_moves
    (owed : Option Debt)
    (alive : session.state ≠ .ended)
    (fits : Message.Fits ⟨kind, payload⟩) :
    Moves env ((session.pushed kind payload).station owed waiting)
      ((session.queueMessage env kind payload).2.station owed waiting) :=
  (queueMessage_attempt alive fits).moves owed waiting

/-- A debt dies with its session. -/
theorem forgive_moves
    (before owed : Option Debt)
    (ended : session.state = .ended) :
    Moves env (session.station before waiting)
      (session.station owed waiting) :=
  dead_moves before owed ended rfl rfl rfl rfl

end Session

end FlyNes.LanMvp
