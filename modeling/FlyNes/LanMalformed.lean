import FlyNes.LanReading
import FlyNes.LanAdmission

namespace FlyNes.LanMvp

open ByteString
open Wire (Kind Message Decoder Malformed)

/-!
# Malformed streams

A malformed length field that arrives in front of the decoder ends the session.
One that arrives together with the end of the frame before it does not: the
decoder drops the frame and fails, and the session neither ends nor reads on.
As long as no frame is taken off with such a field right behind it, a session
that has not ended listens, and it ends as soon as it reaches the field.
-/

/-- A whole frame is in front, and a malformed length field right behind it. -/
def Wire.Decoder.Swallowing (decoder : Decoder) : Prop :=
  ¬ Malformed decoder.bytes ∧
    Wire.announced decoder.bytes + 2 ≤ decoder.bytes.length ∧
    Malformed (decoder.bytes.drop (Wire.announced decoder.bytes + 2))

instance (decoder : Decoder) : Decidable decoder.Swallowing :=
  inferInstanceAs (Decidable (_ ∧ _ ∧ _))

namespace Session

variable {R : Type}

/-- While a session drains its decoder, no frame it takes off is swallowed. -/
def DrainsWhole (env : Env R) : Nat → Session R → Prop
  | 0, _ => True
  | fuel + 1, session =>
      session.state = .ended ∨
        (¬ session.decoder.Swallowing ∧
          ∀ message ∈ session.decoder.pop.1,
            DrainsWhole env fuel
              (handleMessage env message
                { session with decoder := session.decoder.pop.2 }))

/-- The session that starts to drain the bytes of a completed read. -/
def arrived (event : Event) (session : Session R) : Session R :=
  { session with
    operations := session.operations.filter
      fun pending => pending.1 ≠ event.operation
    readInflight := false
    traffic := session.traffic ++ [(session.state, .consumed event.bytes)]
    decoder := (session.decoder.push event.bytes).2 }

/-- Consuming one completion swallows no frame. -/
def ConsumesWhole
    (env : Env R)
    (event : Event)
    (session : Session R) : Prop :=
  session.operations.lookup event.operation = some .read →
  session.state ≠ .ended →
  event.result = quicOk →
  DrainsWhole env ((session.arrived event).decoder.bytes.length + 1)
    (session.arrived event)

/-- Consuming completions one after another swallows no frame. -/
def PumpsWhole (env : Env R) : List Event → Session R → Prop
  | [], _ => True
  | event :: rest, session =>
      session.ConsumesWhole env event ∧
        PumpsWhole env rest (session.consume env event)

instance DrainsWhole.decidable
    (env : Env R) :
    (fuel : Nat) → (session : Session R) →
      Decidable (session.DrainsWhole env fuel)
  | 0, _ => isTrue trivial
  | fuel + 1, session =>
      have (message : Message) :=
        DrainsWhole.decidable env fuel
          (handleMessage env message
            { session with decoder := session.decoder.pop.2 })
      inferInstanceAs (Decidable (_ ∨ (_ ∧ ∀ message ∈ _, _)))

instance
    (env : Env R)
    (event : Event)
    (session : Session R) :
    Decidable (session.ConsumesWhole env event) :=
  inferInstanceAs (Decidable (_ → _ → _ → _))

instance PumpsWhole.decidable
    (env : Env R) :
    (events : List Event) → (session : Session R) →
      Decidable (session.PumpsWhole env events)
  | [], _ => isTrue trivial
  | event :: rest, session =>
      have := PumpsWhole.decidable env rest (session.consume env event)
      inferInstanceAs (Decidable (_ ∧ _))

end Session

/-- The calls that consume what has arrived. -/
def Call.Pumps : Call → Prop
  | .host _ _ | .join _ _ | .cancel | .completion _ => False
  | .selectGame rom gameKey => rom ≠ [] ∧ gameKey.length < peerGameKeySize
  | .pullPcm sampleCapacity => sampleCapacity ≠ 0
  | _ => True

instance : DecidablePred Call.Pumps := fun call =>
  match call with
  | .host _ _ | .join _ _ | .cancel | .completion _ => isFalse id
  | .selectGame _ _ => inferInstanceAs (Decidable (_ ∧ _))
  | .pullPcm _ => inferInstanceAs (Decidable (_ ≠ _))
  | .copyInvite | .snapshotRead | .confirm | .submitInput _
  | .setPaused _ | .returnLobby | .copyLatestFrame _ => isTrue trivial

/-- No pump of a list of calls swallows a frame. -/
def Endpoint.RunsWhole
    {R : Type}
    (env : Env R) : List Call → Endpoint R → Prop
  | [], _ => True
  | call :: rest, endpoint =>
      (call.Pumps → endpoint.session.PumpsWhole env endpoint.events) ∧
        RunsWhole env rest (endpoint.call env call)

instance Endpoint.RunsWhole.decidable
    {R : Type}
    (env : Env R) :
    (calls : List Call) → (endpoint : Endpoint R) →
      Decidable (endpoint.RunsWhole env calls)
  | [], _ => isTrue trivial
  | call :: rest, endpoint =>
      have := Endpoint.RunsWhole.decidable env rest (endpoint.call env call)
      inferInstanceAs (Decidable (_ ∧ _))

/-!
## The invariant of the reading side
-/

namespace Session

variable {R : Type} {env : Env R} {session before after : Session R}

/-- The decoder holds what has arrived behind the handled frames. -/
structure Tidy (session : Session R) : Prop where
  sound : session.decoder.failed = false
  stream :
    consumed session.traffic =
      Framing.stream Message.frame (heard session.log) ++
        session.decoder.bytes
  wellFormed : ¬ Malformed session.decoder.bytes

/-- The flag of a read is raised only while one is pending. -/
def Flagged (session : Session R) : Prop :=
  session.readInflight = true →
  ∃ operation, session.operations.lookup operation = some .read

/-- No malformed length field has arrived behind the handled frames. -/
def Clean (session : Session R) : Prop :=
  ∀ rest,
    consumed session.traffic =
      Framing.stream Message.frame (heard session.log) ++ rest →
    ¬ Malformed rest

/-- A session whose decoder is in order, or that has ended in order. -/
structure Settled (session : Session R) : Prop where
  alive :
    session.state ≠ .ended →
    session.Counted ∧ session.Tidy ∧ session.Flagged
  closed :
    session.state = .ended →
    session.reason = .rejected ∨ session.Clean

/-- A settled session that listens to its peer. -/
structure Listening (session : Session R) : Prop extends Settled session where
  reading :
    session.state ≠ .ended →
    session.recvStream ≠ 0 →
    session.readInflight = true

theorem Tidy.clean
    (tidy : session.Tidy) :
    session.Clean := by
  intro rest shape
  rw [tidy.stream] at shape
  rw [← List.append_cancel_left shape]
  exact tidy.wellFormed

theorem Tidy.keep
    (tidy : before.Tidy)
    (keeps : KeepsReading before after) :
    after.Tidy where
  sound := by
    rw [keeps.decoder]
    exact tidy.sound
  stream := by
    rw [keeps.consumed, keeps.heard, keeps.decoder]
    exact tidy.stream
  wellFormed := by
    rw [keeps.decoder]
    exact tidy.wellFormed

theorem Flagged.keep
    (flagged : before.Flagged)
    (keeps : KeepsReading before after)
    (alive : after.state ≠ .ended) :
    after.Flagged := by
  obtain ⟨_, inflight, operations⟩ := keeps.reads alive
  intro raised
  rw [inflight] at raised
  obtain ⟨operation, pending⟩ := flagged raised
  exact ⟨operation, operations operation pending⟩

theorem Settled.keep
    (settled : before.Settled)
    (keeps : KeepsReading before after) :
    after.Settled where
  alive := by
    intro alive
    obtain ⟨counted, tidy, flagged⟩ :=
      settled.alive fun ended => alive (keeps.final ended).1
    exact ⟨keeps.counted counted, tidy.keep keeps, flagged.keep keeps alive⟩
  closed := by
    intro _
    by_cases ended : before.state = .ended
    · rw [(keeps.final ended).2]
      unfold Clean
      rw [keeps.consumed, keeps.heard]
      exact settled.closed ended
    · obtain ⟨_, tidy, _⟩ := settled.alive ended
      exact Or.inr (tidy.keep keeps).clean

theorem Listening.keep
    (listening : before.Listening)
    (keeps : KeepsReading before after) :
    after.Listening where
  toSettled := listening.toSettled.keep keeps
  reading := by
    intro alive
    obtain ⟨stream, inflight, _⟩ := keeps.reads alive
    rw [stream, inflight]
    exact listening.reading fun ended => alive (keeps.final ended).1

/-- A session that has just ended for a broken stream. -/
theorem Listening.of_rejected
    (ended : session.state = .ended)
    (rejected : session.reason = .rejected) :
    session.Listening where
  alive := fun alive => absurd ended alive
  closed := fun _ => Or.inl rejected
  reading := fun alive => absurd ended alive

theorem Listening.of_ended
    (ended : session.state = .ended)
    (settled : session.Settled) :
    session.Listening :=
  ⟨settled, fun alive => absurd ended alive⟩

/-- A session that ends with its decoder in order. -/
theorem Tidy.endSession
    (tidy : session.Tidy)
    (reason : Reason) :
    (session.endSession reason).Listening := by
  have ended : (session.endSession reason).state = .ended :=
    Session.endSession_state reason
  exact Listening.of_ended ended
    ⟨fun alive => absurd ended alive,
      fun _ => Or.inr (tidy.keep (KeepsReading.endSession reason)).clean⟩

theorem lookup_of_counted
    (counted : session.Counted) :
    session.operations.lookup session.nextOperation = none := by
  rw [List.lookup_eq_none_iff]
  intro pending member
  have bound := counted pending member
  simpa using Nat.ne_of_gt bound

/-- Asking for the next bytes makes a settled session listen. -/
theorem Settled.beginRead
    (settled : session.Settled) :
    (session.beginRead env).2.Listening := by
  unfold Session.beginRead
  split
  · next blocked =>
      refine ⟨settled, ?_⟩
      intro alive stream
      simpa [alive, stream] using blocked
  · next idle =>
      simp only [not_or, Bool.not_eq_true] at idle
      obtain ⟨_, _, alive⟩ := idle
      obtain ⟨counted, tidy, _⟩ := settled.alive alive
      have raisedTidy : ({ session with readInflight := true } : Session R).Tidy :=
        ⟨tidy.sound, tidy.stream, tidy.wellFormed⟩
      have keeps :
          KeepsReading ({ session with readInflight := true } : Session R)
            (Session.submit env .read
              (.read session.recvStream (Wire.kMaxBodySize + 2))
              { session with readInflight := true }).2 :=
        KeepsReading.submit _ _
      by_cases taken : env.answer session.nextOperation = quicAccepted
      · rw [Session.submit, if_pos taken] at keeps ⊢
        refine ⟨⟨fun _ => ⟨?_, ?_, ?_⟩, fun ended => absurd ended alive⟩,
          fun _ _ => rfl⟩
        · exact keeps.counted counted
        · exact raisedTidy.keep keeps
        · intro _
          refine ⟨session.nextOperation, ?_⟩
          simp [List.lookup_append, lookup_of_counted counted]
      · rw [Session.submit, if_neg taken] at keeps ⊢
        have ended :
            (Session.endSession .connection
              { session with
                readInflight := true
                nextOperation := session.nextOperation + 1
                traffic := session.traffic ++
                  [(session.state, .submit session.nextOperation
                    (.read session.recvStream (Wire.kMaxBodySize + 2))
                    (decide
                      (env.answer session.nextOperation = quicAccepted)))]
                transportResult := env.answer session.nextOperation
                transportOperation := some .read }).state = .ended :=
          Session.endSession_state _
        have lost := raisedTidy.keep keeps
        exact Listening.of_ended ended
          ⟨fun alive => absurd ended alive,
            fun _ => Or.inr
              (Tidy.clean ⟨lost.sound, lost.stream, lost.wellFormed⟩)⟩

/-- Without a swallowed frame, a decoder without a whole frame stays as it is. -/
theorem pop_of_tidy
    (tidy : session.Tidy)
    (whole : ¬ session.decoder.Swallowing) :
    (session.decoder.pop.1 = none ∧ session.decoder.pop.2 = session.decoder) ∨
      ∃ message rest,
        message.Fits ∧
        session.decoder.bytes = message.frame ++ rest ∧
        ¬ Malformed rest ∧
        session.decoder.pop = (some message, { bytes := rest }) := by
  have shape : session.decoder = { bytes := session.decoder.bytes } := by
    rw [← tidy.sound]
  by_cases stuck :
      Framing.Stuck Message.frame Message.Fits session.decoder.bytes
  · have popped := Decoder.pop_of_stuck tidy.wellFormed stuck
    rw [← shape] at popped
    exact Or.inl ⟨by rw [popped], by rw [popped]⟩
  · unfold Framing.Stuck at stuck
    push Not at stuck
    obtain ⟨message, rest, fits, front⟩ := stuck
    have behind : ¬ Malformed rest := by
      intro malformed
      apply whole
      refine ⟨tidy.wellFormed, ?_, ?_⟩
      · rw [front, Wire.announced_frame fits, List.length_append,
          message.frame_length]
        omega
      · rw [front, Wire.announced_frame fits, ← message.frame_length,
          List.drop_left]
        exact malformed
    have popped := Decoder.pop_of_frame fits rest
    rw [if_neg behind, ← front, ← shape] at popped
    exact Or.inr ⟨message, rest, fits, front, behind, popped⟩

/-- Handling one message of a tidy decoder. -/
theorem Settled.handleMessage
    {message : Message}
    {rest : Bytes}
    (settled : session.Settled)
    (alive : session.state ≠ .ended)
    (front : session.decoder.bytes = message.frame ++ rest)
    (behind : ¬ Malformed rest) :
    (Session.handleMessage env message
      { session with decoder := { bytes := rest } }).Settled := by
  obtain ⟨counted, tidy, flagged⟩ := settled.alive alive
  refine Settled.keep ?_ (KeepsReading.dispatch message alive)
  refine ⟨fun _ => ⟨counted, ⟨rfl, ?_, behind⟩, flagged⟩,
    fun ended => absurd ended alive⟩
  have stream := tidy.stream
  rw [front] at stream
  simpa [Session.note, heard] using stream

/-- A session drains its decoder without leaving it behind broken. -/
theorem Settled.drain
    {fuel : Nat}
    (settled : session.Settled)
    (whole : session.DrainsWhole env fuel) :
    (session.drain env fuel).Settled := by
  induction fuel generalizing session with
  | zero =>
      exact settled
  | succ fuel inductionHypothesis =>
      unfold Session.drain
      by_cases ended : session.state = .ended
      · rw [if_pos ended]
        exact settled
      · rw [if_neg ended]
        obtain ⟨exposed, later⟩ := whole.resolve_left ended
        obtain ⟨_, tidy, _⟩ := settled.alive ended
        rcases pop_of_tidy tidy exposed with ⟨none, same⟩ |
          ⟨message, rest, fits, front, behind, popped⟩
        · rcases popped : session.decoder.pop with ⟨first, remaining⟩
          rw [popped] at none same
          simp only at none same
          subst none same
          exact settled
        · rw [popped] at later ⊢
          exact inductionHypothesis
            (settled.handleMessage ended front behind) (later message rfl)

/-- Bytes that start with no malformed field pass the check of `push`. -/
theorem push_of_tidy
    (tidy : session.Tidy)
    (bytes : Bytes) :
    session.decoder.push bytes =
      if Malformed (session.decoder.bytes ++ bytes) then
        (false, Decoder.broken)
      else
        (true, { bytes := session.decoder.bytes ++ bytes }) := by
  have shape : session.decoder = { bytes := session.decoder.bytes } := by
    rw [← tidy.sound]
  unfold Decoder.push
  rw [tidy.sound, if_neg Bool.false_ne_true, ← Decoder.validateFront_eq, shape]

/-- The consumption of a read, from the session that starts to drain it. -/
theorem consumeRead_eq
    (event : Event)
    (session : Session R) :
    Session.consumeRead env event
        { session with
          operations := session.operations.filter
            fun pending => pending.1 ≠ event.operation } =
      if event.bytes = [] then
        Session.endSession .connection
          { session.arrived event with decoder := session.decoder }
      else if !(session.decoder.push event.bytes).1 then
        (session.arrived event).endSession .rejected
      else
        let drained :=
          (session.arrived event).drain env
            ((session.arrived event).decoder.bytes.length + 1)
        if drained.decoder.failed then drained else (drained.beginRead env).2 :=
  rfl

theorem arrived_counted
    (counted : session.Counted)
    (event : Event) :
    (session.arrived event).Counted :=
  fun pending member => counted pending (List.mem_of_mem_filter member)

theorem arrived_consumed
    (event : Event) :
    consumed (session.arrived event).traffic =
      consumed session.traffic ++ event.bytes := by
  simp [Session.arrived, consumed]

variable {event : Event}

/-- A read whose bytes pass the check of `push` can be drained. -/
theorem arrived_settled
    (listening : session.Listening)
    (alive : session.state ≠ .ended)
    (wellFormed : ¬ Malformed (session.decoder.bytes ++ event.bytes)) :
    (session.arrived event).Settled := by
  obtain ⟨counted, tidy, _⟩ := listening.alive alive
  have decoder :
      (session.arrived event).decoder =
        { bytes := session.decoder.bytes ++ event.bytes } := by
    unfold Session.arrived
    rw [push_of_tidy tidy, if_neg wellFormed]
  have arrivedTidy : (session.arrived event).Tidy := by
    constructor
    · rw [decoder]
    · rw [decoder, arrived_consumed, tidy.stream, List.append_assoc]
      rfl
    · rw [decoder]
      exact wellFormed
  refine ⟨fun _ => ⟨arrived_counted counted event, arrivedTidy, ?_⟩,
    fun ended => absurd ended alive⟩
  intro raised
  cases raised

/-- A completed read leaves the session listening or ended. -/
theorem Listening.consumeRead
    (listening : session.Listening)
    (alive : session.state ≠ .ended)
    (whole :
      DrainsWhole env ((session.arrived event).decoder.bytes.length + 1)
        (session.arrived event)) :
    (Session.consumeRead env event
      { session with
        operations := session.operations.filter
          fun pending => pending.1 ≠ event.operation }).Listening := by
  obtain ⟨_, tidy, _⟩ := listening.alive alive
  rw [consumeRead_eq, push_of_tidy tidy]
  by_cases empty : event.bytes = []
  · rw [if_pos empty]
    have stream :
        consumed (session.arrived event).traffic =
          Framing.stream Message.frame (heard session.log) ++
            session.decoder.bytes := by
      rw [arrived_consumed, empty, List.append_nil, tidy.stream]
    refine Tidy.endSession ?_ .connection
    exact ⟨tidy.sound, stream, tidy.wellFormed⟩
  · rw [if_neg empty]
    by_cases malformed : Malformed (session.decoder.bytes ++ event.bytes)
    · rw [if_pos malformed, if_pos (by rfl)]
      have finished :
          ((session.arrived event).endSession .rejected).toGame =
            (session.arrived event).toGame.finish .rejected :=
        Session.endSession_toGame .rejected alive
      refine Listening.of_rejected (Session.endSession_state _) ?_
      rw [finished]
      rfl
    · rw [if_neg malformed, if_neg (by simp)]
      have drained := (arrived_settled listening alive malformed).drain whole
      dsimp only
      split
      · next failed =>
          refine Listening.of_ended ?_ drained
          by_contra open'
          obtain ⟨_, drainedTidy, _⟩ := drained.alive open'
          rw [drainedTidy.sound] at failed
          cases failed
      · exact drained.beginRead

/-- Both streams stand, and the session starts to listen. -/
theorem Listening.consumeStreams
    (listening : session.Listening) :
    (session.consumeStreams env event).Listening := by
  unfold Session.consumeStreams
  split
  · exact listening.keep (KeepsReading.endSession .connection)
  · dsimp only
    refine Listening.keep (Settled.beginRead ?_) KeepsReading.beginNextWrite
    have wired :
        ({ session with
          sendStream := event.resource
          recvStream := bigEndianU64 event.bytes } : Session R).Settled :=
      ⟨fun alive => by
        obtain ⟨counted, tidy, flagged⟩ := listening.alive alive
        exact ⟨counted, ⟨tidy.sound, tidy.stream, tidy.wellFormed⟩, flagged⟩,
        listening.closed⟩
    split
    · exact wired.keep (KeepsReading.queueMessage .join _)
    · exact wired

/-- Dropping a pending operation that is no read. -/
theorem Listening.forget
    {operation : Nat}
    {kind : Operation}
    (listening : session.Listening)
    (pending : session.operations.lookup operation = some kind)
    (notRead : kind ≠ .read) :
    ({ session with
      operations := session.operations.filter
        fun pending => pending.1 ≠ operation } : Session R).Listening := by
  refine ⟨⟨?_, listening.closed⟩, listening.reading⟩
  intro alive
  obtain ⟨counted, tidy, flagged⟩ := listening.alive alive
  refine ⟨fun pending member => counted pending (List.mem_of_mem_filter member),
    ⟨tidy.sound, tidy.stream, tidy.wellFormed⟩, ?_⟩
  intro raised
  obtain ⟨number, read⟩ := flagged raised
  have different : number ≠ operation := by
    rintro rfl
    rw [pending] at read
    exact notRead (Option.some.inj read)
  refine ⟨number, ?_⟩
  rw [lookup_filter_ne, if_neg different]
  exact read

/-- One completion. -/
theorem Listening.consume
    (listening : session.Listening)
    (whole : session.ConsumesWhole env event) :
    (session.consume env event).Listening := by
  unfold Session.consume
  split
  · exact listening
  · next kind pending =>
      by_cases ended : session.state = .ended
      · rw [if_pos ended]
        exact listening
      · rw [if_neg ended]
        dsimp only
        by_cases ok : event.result = quicOk
        · rw [if_neg (not_not.mpr ok)]
          cases kind with
          | material =>
              exact (listening.forget pending (by simp)).keep
                (KeepsReading.consumeMaterial event)
          | listen =>
              exact (listening.forget pending (by simp)).keep
                (KeepsReading.consumeListen event)
          | accept =>
              exact (listening.forget pending (by simp)).keep
                (KeepsReading.consumeConnection _ _ event)
          | connect =>
              exact (listening.forget pending (by simp)).keep
                (KeepsReading.consumeConnection _ _ event)
          | openStream =>
              exact (listening.forget pending (by simp)).consumeStreams
          | acceptStream =>
              exact (listening.forget pending (by simp)).consumeStreams
          | write =>
              exact (listening.forget pending (by simp)).keep
                KeepsReading.consumeWrite
          | read =>
              exact listening.consumeRead ended (whole pending ended ok)
        · rw [if_pos ok]
          obtain ⟨_, tidy, _⟩ := listening.alive ended
          refine Tidy.endSession ?_ .connection
          exact ⟨tidy.sound, tidy.stream, tidy.wellFormed⟩

/-- Any number of completions, and the timeouts behind them. -/
theorem Listening.pump
    {events : List Event}
    (listening : session.Listening)
    (whole : session.PumpsWhole env events) :
    (session.pump env events).Listening := by
  have consumed :
      (events.foldl
        (fun (session : Session R) event => session.consume env event)
        session).Listening := by
    induction events generalizing session with
    | nil =>
        exact listening
    | cons event rest inductionHypothesis =>
        exact inductionHypothesis (listening.consume whole.1) whole.2
  exact (consumed.keep KeepsReading.expireInvite).keep
    KeepsReading.expireProgress

end Session

namespace Endpoint

variable {R : Type} {env : Env R} {endpoint : Endpoint R}

/-- One call leaves the session listening or ended. -/
theorem call_listening
    (listening : endpoint.session.Listening)
    (call : Call)
    (whole :
      call.Pumps → endpoint.session.PumpsWhole env endpoint.events) :
    (endpoint.call env call).session.Listening := by
  cases call with
  | host hostIpv4 token =>
      exact listening.keep (KeepsReading.host hostIpv4 token)
  | join localIpv4 qrText =>
      exact listening.keep (KeepsReading.join localIpv4 qrText)
  | copyInvite =>
      have pumped := listening.pump (whole trivial)
      simp only [call, flyLanMvpCopyInvite]
      split
      · exact pumped
      · exact pumped
  | snapshotRead =>
      exact listening.pump (whole trivial)
  | selectGame rom gameKey =>
      simp only [call, flyLanMvpSelectGame]
      split
      · exact listening
      · next usable =>
          have pumps : (Call.selectGame rom gameKey).Pumps := by
            simpa [Call.Pumps] using usable
          exact (listening.pump (whole pumps)).keep
            (KeepsReading.selectGame rom gameKey)
  | confirm =>
      exact (listening.pump (whole trivial)).keep KeepsReading.confirm
  | submitInput buttons =>
      exact (listening.pump (whole trivial)).keep
        (KeepsReading.submitInput buttons)
  | setPaused paused =>
      exact (listening.pump (whole trivial)).keep
        (KeepsReading.setPaused paused)
  | returnLobby =>
      exact (listening.pump (whole trivial)).keep KeepsReading.returnLobby
  | copyLatestFrame capacity =>
      exact listening.pump (whole trivial)
  | pullPcm sampleCapacity =>
      simp only [call, flyLanMvpPullPcm]
      split
      · exact listening
      · next positive =>
          exact (listening.pump (whole positive)).keep
            (KeepsReading.pullPcm sampleCapacity)
  | cancel =>
      exact listening.keep (KeepsReading.endSession .cancelled)
  | completion event =>
      exact listening

theorem run_listening
    (calls : List Call)
    (listening : endpoint.session.Listening)
    (whole : endpoint.RunsWhole env calls) :
    (calls.foldl
      (fun (endpoint : Endpoint R) call => endpoint.call env call)
      endpoint).session.Listening := by
  induction calls generalizing endpoint with
  | nil =>
      exact listening
  | cons call rest inductionHypothesis =>
      exact inductionHypothesis (call_listening listening call whole.1) whole.2

theorem initial_listening :
    ({} : Endpoint R).session.Listening where
  alive := by
    intro _
    refine ⟨?_, ⟨rfl, rfl, by simp [Malformed]⟩, ?_⟩
    · intro pending member
      cases member
    · intro raised
      cases raised
  closed := by
    intro ended
    cases ended
  reading := by
    intro _ stream
    exact absurd rfl stream

/--
In every run that takes no frame off its decoder while a malformed length field
stands right behind it: the session has ended or, as soon as it has a stream to
read from, a read is under way; and once it has consumed frames it has handled
and a malformed length field behind them, it has ended with `rejected`.
-/
theorem malformed_stream_ends
    (env : Env R)
    (calls : List Call)
    (whole : ({} : Endpoint R).RunsWhole env calls) :
    let session := (run env calls).session
    (session.state = .ended ∨
      (session.recvStream ≠ 0 →
        session.readInflight = true ∧
          ∃ operation, session.operations.lookup operation = some .read)) ∧
      (∀ (messages : List Message) (rest : Bytes),
        consumed session.traffic =
          Framing.stream Message.frame messages ++ rest →
        heard session.log = messages →
        Malformed rest →
        session.state = .ended ∧ session.reason = .rejected) := by
  intro session
  have listening : session.Listening :=
    run_listening calls initial_listening whole
  refine ⟨?_, ?_⟩
  · by_cases ended : session.state = .ended
    · exact Or.inl ended
    · obtain ⟨_, _, flagged⟩ := listening.alive ended
      refine Or.inr fun stream => ?_
      have raised := listening.reading ended stream
      exact ⟨raised, flagged raised⟩
  · rintro messages rest shape rfl malformed
    by_cases ended : session.state = .ended
    · rcases listening.closed ended with rejected | clean
      · exact ⟨ended, rejected⟩
      · exact absurd malformed (clean rest shape)
    · obtain ⟨_, tidy, _⟩ := listening.alive ended
      exact absurd malformed (tidy.clean rest shape)

end Endpoint

/-- A guest joins and one read brings it some bytes. -/
def joinsAndReads (bytes : Bytes) : List Call :=
  [.join (ascii "10.0.0.2") ((formatInvite sampleInvite).getD []),
    .completion ⟨1, quicOk, 7, []⟩, .snapshotRead,
    .completion ⟨2, quicOk, 8, appendU64 9⟩, .snapshotRead,
    .completion ⟨4, quicOk, 0, bytes⟩, .snapshotRead]

/-- A malformed length field in front of the decoder ends the session. -/
theorem malformed_stream_ends_at_front :
    let session := (Endpoint.run sampleEnv (joinsAndReads [0, 0])).session
    session.state = .ended ∧ session.reason = .rejected :=
  (Endpoint.malformed_stream_ends sampleEnv (joinsAndReads [0, 0])
    (by decide)).2 [] [0, 0] (by decide) (by decide)
    (by decide)

/-- A guest that reads an accept and a malformed length field in one go. -/
theorem swallowed_frame_stops_reading :
    let accept : Message := ⟨.accept, sampleInvite.token.bytes⟩
    let session :=
      (Endpoint.run sampleEnv
        (joinsAndReads (accept.frame ++ [0, 0]))).session
    consumed session.traffic = accept.frame ++ [0, 0] ∧
      Malformed [0, 0] ∧
      session.state = .joining ∧
      session.recvStream ≠ 0 ∧
      session.readInflight = false ∧
      ∀ operation, session.operations.lookup operation ≠ some .read := by
  intro accept session
  have operations : session.operations = [(3, .write)] := by
    decide +kernel
  refine ⟨by decide +kernel, by decide, by decide +kernel, by decide +kernel,
    by decide, ?_⟩
  intro operation
  rw [operations, List.lookup_cons]
  split <;> simp

end FlyNes.LanMvp
