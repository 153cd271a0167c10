import FlyNes.LanRuns

namespace FlyNes.LanMvp

open ByteString
open Wire (Kind Message Decoder)

/-!
# Bytes and messages

What a session has handed to the provider is the frames of the messages it has
queued, one after another, as far as they have been written; the messages it
has handled are those whose frames it has consumed.
-/

/-- The bytes a session has handed to the provider. -/
def sent (traffic : List (State × Traffic)) : Bytes :=
  traffic.flatMap fun entry =>
    match entry.2 with
    | .submit _ call true => call.carries
    | _ => []

/-- The bytes a session has taken over from the provider. -/
def consumed (traffic : List (State × Traffic)) : Bytes :=
  traffic.flatMap fun entry =>
    match entry.2 with
    | .consumed bytes => bytes
    | _ => []

@[simp] theorem sent_append
    (first second : List (State × Traffic)) :
    sent (first ++ second) = sent first ++ sent second := by
  simp [sent]

@[simp] theorem consumed_append
    (first second : List (State × Traffic)) :
    consumed (first ++ second) = consumed first ++ consumed second := by
  simp [consumed]

variable {traffic : List (State × Traffic)}

theorem sent_of_closing
    (closing : Closing traffic) :
    sent traffic = [] := by
  simp only [sent, List.flatMap_eq_nil_iff]
  intro entry member
  rcases closing entry member with ⟨operation, rfl⟩ |
    ⟨operation, resource, rfl⟩ <;> rfl

theorem consumed_of_closing
    (closing : Closing traffic) :
    consumed traffic = [] := by
  simp only [consumed, List.flatMap_eq_nil_iff]
  intro entry member
  rcases closing entry member with ⟨operation, rfl⟩ |
    ⟨operation, resource, rfl⟩ <;> rfl

variable {channel : Channel}

theorem consumed_of_hands
    (hands : Hands channel traffic) :
    consumed traffic = [] := by
  rcases hands with rfl | ⟨state, operation, bytes, rest, _, _, _, rfl⟩ <;>
    rfl

/-- The queued frames the provider does not have yet. -/
def Channel.unsent (channel : Channel) : List Bytes :=
  if channel.writeInflight then channel.writes.drop 1 else channel.writes

theorem unsent_append
    {after : Channel}
    {frames : List Bytes}
    (handed : channel.writeInflight = true → channel.writes ≠ [])
    (inflight : after.writeInflight = channel.writeInflight)
    (writes : after.writes = channel.writes ++ frames) :
    after.unsent = channel.unsent ++ frames := by
  unfold Channel.unsent
  rw [inflight, writes]
  by_cases raised : channel.writeInflight = true
  · have nonempty := handed raised
    cases shape : channel.writes with
    | nil =>
        exact absurd shape nonempty
    | cons head rest =>
        simp [raised]
  · simp [raised]

variable {decoder : Decoder}

/-- A front that is no frame stops the decoder for good. -/
theorem failed_of_validateFront
    {checked : Decoder}
    (invalid : decoder.validateFront = (false, checked)) :
    checked.failed = true := by
  unfold Decoder.validateFront at invalid
  split at invalid
  · simp only [Prod.mk.injEq, Bool.not_eq_false'] at invalid
    rw [← invalid.2]
    exact invalid.1
  · split at invalid
    · rw [← (Prod.mk.inj invalid).2]
    · simp at invalid

variable {rest : Decoder}

/-- A decoder that has no frame to give stays as it is or fails. -/
theorem pop_none
    (popped : decoder.pop = (none, rest))
    (sound : rest.failed = false) :
    rest = decoder := by
  unfold Decoder.pop at popped
  rcases entry : decoder.validateFront with ⟨valid, checked⟩
  simp only [entry] at popped
  cases valid with
  | false =>
      simp only [Bool.not_false, true_or, ↓reduceIte, Prod.mk.injEq,
        true_and] at popped
      rw [← popped, failed_of_validateFront entry] at sound
      cases sound
  | true =>
      obtain ⟨rfl, _⟩ := Decoder.validateFront_of_true entry
      split at popped
      · exact (Prod.mk.inj popped).2.symm
      · split at popped
        · exact (Prod.mk.inj popped).2.symm
        · rcases exit : Decoder.validateFront
            { checked with
              bytes := checked.bytes.drop
                (Wire.announced checked.bytes + 2) } with ⟨valid, remaining⟩
          simp only [exit] at popped
          cases valid with
          | false =>
              rw [← (Prod.mk.inj popped).2, failed_of_validateFront exit]
                at sound
              cases sound
          | true =>
              simp at popped

/-- The bytes and the messages of a session tell the same. -/
structure Station.Streamed {R : Type} (station : Station R) : Prop where
  fitsOut : ∀ message ∈ posted station.party.log, message.Fits
  fitsIn : ∀ message ∈ heard station.party.log, message.Fits
  unsent :
    station.party.game.state ≠ .ended →
    Framing.stream Message.frame (posted station.party.log) =
      sent station.channel.traffic ++ station.channel.unsent.flatten
  written :
    sent station.channel.traffic <+:
      Framing.stream Message.frame (posted station.party.log)
  undecoded :
    station.party.game.state ≠ .ended →
    station.channel.decoder.failed = false →
    Framing.stream Message.frame (heard station.party.log) ++
        station.channel.decoder.bytes =
      consumed station.channel.traffic
  read :
    Framing.stream Message.frame (heard station.party.log) <+:
      consumed station.channel.traffic

namespace Station.Streamed

variable
  {R : Type}
  {env : Env R}
  {label : Label}
  {station after : Station R}
  {party : Party R}
  {output : Option Message}

/-- Nothing that was said changes. -/
theorem of_same
    (streamed : station.Streamed)
    (out : posted after.party.log = posted station.party.log)
    (inn : heard after.party.log = heard station.party.log)
    (alive :
      after.party.game.state ≠ .ended →
      station.party.game.state ≠ .ended)
    (sentSame : sent after.channel.traffic = sent station.channel.traffic)
    (consumedSame :
      consumed after.channel.traffic = consumed station.channel.traffic)
    (unsentSame :
      after.party.game.state ≠ .ended →
      after.channel.unsent = station.channel.unsent)
    (decoderSame :
      after.party.game.state ≠ .ended →
      after.channel.decoder.failed = false →
      after.channel.decoder = station.channel.decoder) :
    after.Streamed := by
  constructor
  · rw [out]
    exact streamed.fitsOut
  · rw [inn]
    exact streamed.fitsIn
  · intro afterAlive
    rw [out, sentSame, unsentSame afterAlive]
    exact streamed.unsent (alive afterAlive)
  · rw [out, sentSame]
    exact streamed.written
  · intro afterAlive sound
    have decoder := decoderSame afterAlive sound
    rw [inn, consumedSame, decoder]
    rw [decoder] at sound
    exact streamed.undecoded (alive afterAlive) sound
  · rw [inn, consumedSame]
    exact streamed.read

theorem fitsOut_of_act
    (streamed : station.Streamed)
    (act : Act env label station.party output party)
    (sendable : ∀ message ∈ output, Sendable message) :
    ∀ message ∈ posted party.log, message.Fits := by
  intro message member
  rw [act.posted_eq] at member
  rcases List.mem_append.mp member with old | new
  · exact streamed.fitsOut message old
  · exact (sendable message (by simpa using new)).1

variable {decoder : Decoder}

theorem fitsIn_of_act
    (streamed : station.Streamed)
    (act : Act env label station.party output party)
    (takes : Takes label.input station.channel.decoder decoder) :
    ∀ message ∈ heard party.log, message.Fits := by
  intro message member
  rw [act.heard_eq] at member
  rcases List.mem_append.mp member with old | new
  · exact streamed.fitsIn message old
  · cases label with
    | heard input =>
        rw [List.mem_singleton.mp new]
        exact takes.1
    | _ =>
        cases new

/-- A message is taken in by decoding its frame. -/
theorem undecoded_of_act
    (streamed : station.Streamed)
    (act : Act env label station.party output party)
    (begun : station.party.game.state ≠ .ended)
    (takes : Takes label.input station.channel.decoder decoder)
    (sound : decoder.failed = false) :
    Framing.stream Message.frame (heard party.log) ++ decoder.bytes =
      consumed station.channel.traffic := by
  rw [act.heard_eq]
  cases label with
  | heard message =>
      obtain ⟨_, beforeSound, _, front⟩ := takes
      rw [← streamed.undecoded begun beforeSound, front]
      simp [Label.input]
  | _ =>
      have same : decoder = station.channel.decoder := takes
      rw [same] at sound ⊢
      rw [← streamed.undecoded begun sound]
      simp [Label.input]

theorem read_of_act
    (streamed : station.Streamed)
    (act : Act env label station.party output party)
    (begun : station.party.game.state ≠ .ended)
    (takes : Takes label.input station.channel.decoder decoder) :
    Framing.stream Message.frame (heard party.log) <+:
      consumed station.channel.traffic := by
  cases label with
  | heard message =>
      have sound : decoder.failed = false := takes.2.2.1
      rw [← streamed.undecoded_of_act act begun takes sound]
      exact List.prefix_append _ _
  | _ =>
      rw [act.heard_eq]
      simpa [Label.input] using streamed.read

theorem act
    (streamed : station.Streamed)
    (orderly : station.Orderly)
    (acted : Act env label station.party output party)
    (begun : station.party.game.state ≠ .ended)
    (takes : Takes label.input station.channel.decoder decoder)
    (sendable : ∀ message ∈ output, Sendable message) :
    Streamed
      ⟨party, { station.channel with
        decoder := decoder
        writes := station.channel.writes ++
          output.toList.map Message.frame }, station.waiting⟩ := by
  have whole :
      Framing.stream Message.frame (posted party.log) =
        sent station.channel.traffic ++
          (station.channel.unsent ++
            output.toList.map Message.frame).flatten := by
    rw [acted.posted_eq, Framing.stream_append, streamed.unsent begun]
    simp [Framing.stream, List.flatMap_def]
  constructor
  · exact streamed.fitsOut_of_act acted sendable
  · exact streamed.fitsIn_of_act acted takes
  · intro _
    have more :
        ({ station.channel with
            decoder := decoder
            writes := station.channel.writes ++
              output.toList.map Message.frame } : Channel).unsent =
          station.channel.unsent ++ output.toList.map Message.frame :=
      unsent_append (orderly.handed begun) rfl rfl
    refine whole.trans ?_
    exact congrArg
      (fun frames => sent station.channel.traffic ++ frames.flatten)
      more.symm
  · rw [whole]
    exact List.prefix_append _ _
  · intro _ sound
    exact streamed.undecoded_of_act acted begun takes sound
  · exact streamed.read_of_act acted begun takes

/-- The last act of a session may still hand one frame to the provider. -/
theorem stop
    (streamed : station.Streamed)
    {channel : Channel}
    {waiting : List Event}
    {handed closing : List (State × Traffic)}
    (acted : Act env label station.party output party)
    (begun : station.party.game.state ≠ .ended)
    (ended : party.game.state = .ended)
    (takes : Takes label.input station.channel.decoder decoder)
    (sendable : ∀ message ∈ output, Sendable message)
    (traffic :
      channel.traffic = station.channel.traffic ++ handed ++ closing)
    (hands :
      Hands
        { station.channel with
          writes := station.channel.writes ++
            output.toList.map Message.frame } handed)
    (closes : Closing closing) :
    Streamed ⟨party, channel, waiting⟩ := by
  have posts :
      Framing.stream Message.frame (posted party.log) =
        sent station.channel.traffic ++ station.channel.unsent.flatten ++
          (output.toList.map Message.frame).flatten := by
    rw [acted.posted_eq, Framing.stream_append, streamed.unsent begun]
    simp [Framing.stream, List.flatMap_def]
  have consumedSame :
      consumed channel.traffic = consumed station.channel.traffic := by
    simp [traffic, consumed_of_hands hands, consumed_of_closing closes]
  constructor
  · exact streamed.fitsOut_of_act acted sendable
  · exact streamed.fitsIn_of_act acted takes
  · exact fun alive => absurd ended alive
  · have sentAll :
        sent channel.traffic = sent station.channel.traffic ++ sent handed := by
      simp [traffic, sent_of_closing closes]
    rw [sentAll, posts]
    rcases hands with rfl |
      ⟨state, operation, bytes, rest, _, queue, lowered, rfl⟩
    · simp only [sent, List.flatMap_nil, List.append_nil,
        List.append_assoc]
      exact List.prefix_append _ _
    · have remaining :
          station.channel.unsent.flatten ++
              (output.toList.map Message.frame).flatten =
            bytes ++ rest.flatten := by
        have lowered' : station.channel.writeInflight = false := lowered
        have queue' :
            station.channel.writes ++ output.toList.map Message.frame =
              bytes :: rest := queue
        rw [← List.flatten_append, Channel.unsent, lowered']
        simp [queue']
      rw [List.append_assoc, remaining]
      simp only [sent, List.flatMap_cons, List.flatMap_nil,
        ProviderCall.carries, List.append_nil, ← List.append_assoc]
      exact List.prefix_append _ _
  · exact fun alive => absurd ended alive
  · rw [consumedSame]
    exact streamed.read_of_act acted begun takes

end Station.Streamed

variable {R : Type} {env : Env R} {label : Label} {station after : Station R}

/-- Every move keeps bytes and messages together. -/
theorem Move.streamed
    (move : Move env label station after)
    (orderly : station.Orderly)
    (before : station.Streamed) :
    after.Streamed := by
  cases move with
  | act decoder acted begun alive takes sendable =>
      exact before.act orderly acted begun takes sendable
  | stop decoder handed closing acted sound begun ended takes sendable suffix
      operations traffic hands closes =>
      exact before.stop acted begun ended takes sendable traffic hands closes
  | garbled closing acted begun invalid suffix operations traffic closes =>
      have takes :
          Takes Label.garbled.input station.channel.decoder
            station.channel.decoder := rfl
      have hands :
          Hands
            { station.channel with
              writes := station.channel.writes ++
                (none : Option Message).toList.map Message.frame } [] :=
        Or.inl rfl
      refine before.stop acted begun ?_ takes (by simp) ?_ hands closes
      · cases acted
        rfl
      · simp [traffic]
  | starved begun popped =>
      exact before.of_same rfl rfl id rfl rfl (fun _ => rfl)
        (fun _ sound => pop_none popped sound)
  | dead acted ended operations traffic =>
      obtain ⟨_, _, log, stillEnded, _⟩ :=
        acted.of_ended ended orderly.stopped
      refine before.of_same (by rw [log]) (by rw [log])
        (fun alive => absurd stillEnded alive) (by rw [traffic])
        (by rw [traffic]) (fun alive => absurd stillEnded alive)
        (fun alive => absurd stillEnded alive)
  | @write _ bytes rest state begun open' queued lowered stream =>
      have posts := before.unsent begun
      rw [Channel.unsent, lowered, queued] at posts
      have sentMore :
          sent (station.channel.traffic ++
            [(state,
              .submit station.channel.nextOperation
                (.write station.channel.sendStream bytes) true)]) =
            sent station.channel.traffic ++ bytes := by
        simp [sent, ProviderCall.carries]
      constructor
      · exact before.fitsOut
      · exact before.fitsIn
      · intro _
        simp only [Channel.ask, Channel.unsent, sentMore]
        simpa [queued] using posts
      · simp only [Channel.ask, sentMore]
        rw [posts]
        simp
      · intro alive sound
        simp only [Channel.ask, consumed_append]
        simpa [consumed] using before.undecoded alive sound
      · simp only [Channel.ask, consumed_append]
        simpa [consumed] using before.read
  | read state begun open' lowered stream =>
      refine before.of_same rfl rfl id ?_ ?_ (fun _ => rfl) (fun _ _ => rfl)
      · simp [Channel.ask, sent, ProviderCall.carries]
      · simp [Channel.ask, consumed]
  | setup call role target invite idle unopened side empty =>
      refine before.of_same ?_ ?_ ?_ ?_ ?_ (fun _ => rfl) (fun _ _ => rfl)
      · simp [posted]
      · simp [heard]
      · simp [unopened]
      · simp [Channel.ask, sent, empty]
      · simp [Channel.ask, consumed]
  | prepared call invite deadline idle begun waiting pending order token
      empty =>
      refine before.of_same ?_ ?_ id ?_ ?_ (fun _ => rfl) (fun _ _ => rfl)
      · simp
      · simp
      · simp [Channel.ask, Channel.forget, sent, empty]
      · simp [Channel.ask, Channel.forget, consumed]
  | turned state operation call begun open' =>
      refine before.of_same rfl rfl id ?_ ?_ (fun _ => rfl) (fun _ _ => rfl)
      · simp [sent]
      · simp [consumed]
  | dropped waiting gone =>
      exact before.of_same rfl rfl id rfl rfl (fun _ => rfl) (fun _ _ => rfl)
  | written begun waiting pending =>
      have raised := orderly.writing.flagged _ (mem_of_lookup pending)
      refine before.of_same rfl rfl id rfl rfl ?_ (fun _ _ => rfl)
      intro _
      simp [Channel.forget, Channel.unsent, raised]
  | @arrived _ event rest begun waiting pending ok =>
      have consumedMore :
          consumed (station.channel.traffic ++
            [(station.party.game.state, .consumed event.bytes)]) =
            consumed station.channel.traffic ++ event.bytes := by
        simp [consumed]
      constructor
      · exact before.fitsOut
      · exact before.fitsIn
      · intro alive
        change _ = sent (station.channel.traffic ++ _) ++
          station.channel.unsent.flatten
        simpa [sent] using before.unsent alive
      · simp only [Channel.forget, sent_append]
        simpa [sent] using before.written
      · intro alive sound
        simp only [Channel.forget, consumedMore, ← List.append_assoc]
        rw [before.undecoded alive sound]
      · simp only [Channel.forget, consumedMore]
        exact before.read.trans (List.prefix_append _ _)
  | streams sendStream recvStream begun idle host waiting pending last =>
      exact before.of_same rfl rfl id rfl rfl (fun _ => rfl) (fun _ _ => rfl)
  | joined sendStream recvStream begun idle guest waiting pending last =>
      have acted :
          Act env .silent station.party
            (some ⟨.join, station.party.game.invite.token.bytes⟩) _ :=
        joined_act orderly guest pending last
      have takes :
          Takes Label.silent.input station.channel.decoder
            station.channel.decoder := rfl
      have fits :
          Message.Fits ⟨.join, station.party.game.invite.token.bytes⟩ :=
        Session.fits_of_length (by simp [Block.sized])
      constructor
      · intro message member
        rw [acted.posted_eq] at member
        rcases List.mem_append.mp member with old | new
        · exact before.fitsOut message old
        · simp only [Option.toList_some, List.mem_singleton] at new
          rw [new]
          exact fits
      · exact before.fitsIn_of_act acted takes
      · intro _
        have more :
            ({ station.channel with
                sendStream := sendStream
                recvStream := recvStream
                writes := station.channel.writes ++
                  [Message.frame
                    ⟨.join, station.party.game.invite.token.bytes⟩] } :
              Channel).unsent =
              station.channel.unsent ++
                [Message.frame
                  ⟨.join, station.party.game.invite.token.bytes⟩] :=
          unsent_append (orderly.handed begun) rfl rfl
        refine Eq.trans ?_ (congrArg
          (fun frames => sent station.channel.traffic ++ frames.flatten)
          more.symm)
        rw [acted.posted_eq, Framing.stream_append, before.unsent begun]
        simp
      · rw [acted.posted_eq, Framing.stream_append]
        exact before.written.trans (List.prefix_append _ _)
      · intro alive sound
        exact before.undecoded_of_act acted begun takes sound
      · exact before.read_of_act acted begun takes

/-!
## Bytes on the way

A completed read waits until the next pump.  Together with what has been
consumed, the bytes of the waiting completions never grow by a move.
-/

/-- The bytes of the completions that some pending reads wait for. -/
def arriving
    (operations : List (Nat × Operation))
    (waiting : List Event) : Bytes :=
  waiting.flatMap fun event =>
    if operations.lookup event.operation = some .read ∧
        event.result = quicOk then
      event.bytes
    else
      []

/-- The bytes the provider has delivered to a session. -/
def Station.delivered {R : Type} (station : Station R) : Bytes :=
  consumed station.channel.traffic ++
    arriving station.channel.operations station.waiting

/-- Operation numbers are used once. -/
structure Station.Numbered {R : Type} (station : Station R) : Prop where
  pending :
    station.party.game.state ≠ .ended →
    ∀ operation kind,
      (operation, kind) ∈ station.channel.operations →
      operation < station.channel.nextOperation
  waiting :
    station.party.game.state ≠ .ended →
    ∀ event ∈ station.waiting,
      event.operation < station.channel.nextOperation

variable {operations : List (Nat × Operation)}

theorem arriving_of_unread
    (unread : ∀ operation, (operation, .read) ∉ operations)
    (waiting : List Event) :
    arriving operations waiting = [] := by
  simp only [arriving, List.flatMap_eq_nil_iff, ite_eq_right_iff, and_imp]
  intro event _ pending
  exact absurd (mem_of_lookup pending) (unread event.operation)

variable {kind : Operation} {number : Nat}

theorem lookup_append_of_ne
    {operation : Nat}
    (different : operation ≠ number) :
    (operations ++ [(number, kind)]).lookup operation =
      operations.lookup operation := by
  have unequal : (operation == number) = false := by
    simpa using different
  simp [List.lookup_append, List.lookup_cons, unequal]

theorem lookup_filter_ne
    (operations : List (Nat × Operation))
    (operation number : Nat) :
    (operations.filter fun pending => pending.1 ≠ number).lookup operation =
      if operation = number then none else operations.lookup operation := by
  induction operations with
  | nil =>
      simp
  | cons pending rest inductionHypothesis =>
      obtain ⟨first, kind⟩ := pending
      by_cases gone : first = number
      · subst gone
        rw [List.filter_cons_of_neg (by simp), inductionHypothesis]
        by_cases same : operation = first
        · simp [same]
        · have different : (operation == first) = false := by
            simpa using same
          simp [List.lookup_cons, same, different]
      · rw [List.filter_cons_of_pos (by simpa using gone),
          List.lookup_cons, List.lookup_cons, inductionHypothesis]
        by_cases same : operation = first
        · subst same
          simp [gone]
        · have different : (operation == first) = false := by
            simpa using same
          simp [different]

/-- Handing out a new operation makes no waiting completion count. -/
theorem arriving_of_ask
    {waiting : List Event}
    (kind : Operation)
    (numbered : ∀ event ∈ waiting, event.operation < number) :
    arriving (operations ++ [(number, kind)]) waiting =
      arriving operations waiting := by
  unfold arriving
  apply List.flatMap_congr
  intro event member
  have different : event.operation ≠ number := by
    have bound := numbered event member
    omega
  rw [lookup_append_of_ne different]

variable {operation : Nat}

/-- Dropping an operation that is no read loses no bytes. -/
theorem arriving_of_forget
    (pending : operations.lookup operation = some kind)
    (notRead : kind ≠ .read)
    (waiting : List Event) :
    arriving
        (operations.filter fun pending => pending.1 ≠ operation) waiting =
      arriving operations waiting := by
  unfold arriving
  apply List.flatMap_congr
  intro event _
  rw [lookup_filter_ne]
  by_cases same : event.operation = operation
  · simp [same, pending, notRead]
  · simp [same]

theorem arriving_suffix
    {event : Event}
    {rest : List Event}
    (unread : operations.lookup event.operation ≠ some .read) :
    arriving operations (event :: rest) = arriving operations rest := by
  simp [arriving, unread]

/-- No read is pending while the connection is being set up. -/
theorem unread_of_setup
    (only : operations = [(operation, kind)])
    (setup : kind.Setup) :
    ∀ number, (number, .read) ∉ operations := by
  intro number member
  rw [only] at member
  simp only [List.mem_singleton, Prod.mk.injEq] at member
  exact setup.1 member.2.symm

/-- After the last operation of the setup nothing is on the way. -/
theorem delivered_of_last
    (orderly : station.Orderly)
    (pending : station.channel.operations.lookup operation = some kind)
    (last : kind = .openStream ∨ kind = .acceptStream)
    (traffic : after.channel.traffic = station.channel.traffic)
    (operations :
      after.channel.operations =
        station.channel.operations.filter
          fun pending => pending.1 ≠ operation) :
    after.delivered <+: station.delivered := by
  have setup := Move.setup_of_last last
  obtain ⟨only, _, _⟩ := orderly.setup_of_lookup pending setup
  have none : after.channel.operations = [] := by
    simp [operations, only]
  unfold Station.delivered
  rw [traffic, none, arriving_of_unread (by simp)]
  simp

/-- A move takes over delivered bytes in order or loses their end. -/
theorem Move.delivered
    (move : Move env label station after)
    (orderly : station.Orderly)
    (numbered : station.Numbered) :
    after.delivered <+: station.delivered := by
  cases move with
  | act decoder acted begun alive takes sendable =>
      exact List.prefix_rfl
  | stop decoder handed closing acted sound begun ended takes sendable suffix
      operations traffic hands closes =>
      simp [Station.delivered, operations, traffic, arriving_of_unread,
        consumed_of_hands hands, consumed_of_closing closes]
  | garbled closing acted begun invalid suffix operations traffic closes =>
      simp [Station.delivered, operations, traffic, arriving_of_unread,
        consumed_of_closing closes]
  | starved begun popped =>
      exact List.prefix_rfl
  | dead acted ended operations traffic =>
      simp [Station.delivered, operations, traffic]
  | write state begun open' queued lowered stream =>
      simp [Station.delivered, Channel.ask, consumed,
        arriving_of_ask _ (numbered.waiting begun)]
  | read state begun open' lowered stream =>
      simp [Station.delivered, Channel.ask, consumed,
        arriving_of_ask _ (numbered.waiting begun)]
  | setup call role target invite idle unopened side empty =>
      have begun : station.party.game.state ≠ .ended := by
        simp [unopened]
      simp [Station.delivered, Channel.ask, consumed,
        arriving_of_ask _ (numbered.waiting begun)]
  | @prepared _ done next event rest call invite deadline idle begun waiting
      pending order token empty =>
      have setup : done.Setup ∧ next.Setup := by
        rcases order with ⟨rfl, rfl⟩ | ⟨rfl, rfl⟩ | ⟨rfl, rfl⟩ | ⟨rfl, rfl⟩ <;>
          exact ⟨⟨by simp, by simp⟩, ⟨by simp, by simp⟩⟩
      obtain ⟨only, _, _⟩ := orderly.setup_of_lookup pending setup.1
      have operations :
          ((station.channel.forget event.operation).ask
            station.party.game.state next call).operations =
            [(station.channel.nextOperation, next)] := by
        simp [Channel.ask, Channel.forget, only]
      have quiet := arriving_of_unread (unread_of_setup operations setup.2)
      simp only [Station.delivered, quiet]
      simp [Channel.ask, Channel.forget, consumed]
  | turned state operation call begun open' =>
      simp [Station.delivered, consumed]
  | @dropped _ event rest waiting gone =>
      have unread :
          station.channel.operations.lookup event.operation ≠
            some .read := by
        rcases gone with none | ended
        · rw [none]
          simp
        · rw [orderly.closed ended]
          simp
      simp [Station.delivered, waiting, arriving_suffix unread]
  | @written _ event rest begun waiting pending =>
      have unread :
          station.channel.operations.lookup event.operation ≠
            some .read := by
        rw [pending]
        simp
      simp only [Station.delivered, Channel.forget, waiting,
        arriving_suffix unread, arriving_of_forget pending (by simp)]
      exact List.prefix_rfl
  | @arrived _ event rest begun waiting pending ok =>
      have gone := orderly.reading.forget (mem_of_lookup pending)
      have unread :
          ∀ number,
            (number, .read) ∉
              station.channel.operations.filter
                fun pending => pending.1 ≠ event.operation := by
        intro number member
        exact absurd (gone.flagged number member) (by simp)
      have front :
          arriving station.channel.operations (event :: rest) =
            event.bytes ++ arriving station.channel.operations rest := by
        simp [arriving, pending, ok]
      unfold Station.delivered
      rw [waiting, front]
      simp only [Channel.forget, arriving_of_unread unread, consumed_append]
      simp [consumed]
  | streams sendStream recvStream begun idle host waiting pending last =>
      exact delivered_of_last orderly pending last rfl rfl
  | joined sendStream recvStream begun idle guest waiting pending last =>
      exact delivered_of_last orderly pending last rfl rfl

namespace Station.Numbered

variable
  {R : Type}
  {env : Env R}
  {station : Station R}

variable {party : Party R} {channel : Channel} {waiting : List Event}

/-- A new operation takes the next number. -/
theorem ask
    (numbered : station.Numbered)
    (begun : station.party.game.state ≠ .ended)
    (state : State)
    (kind : Operation)
    (call : ProviderCall)
    (operations :
      ∀ pending ∈ channel.operations, pending ∈ station.channel.operations)
    (next : channel.nextOperation = station.channel.nextOperation)
    (suffix : waiting <:+ station.waiting) :
    Numbered ⟨party, channel.ask state kind call, waiting⟩ := by
  constructor
  · intro _ operation other member
    simp only [Channel.ask, List.mem_append, List.mem_singleton,
      Prod.mk.injEq] at member ⊢
    rcases member with old | ⟨rfl, _⟩
    · have bound := numbered.pending begun _ _ (operations _ old)
      omega
    · omega
  · intro _ event member
    have bound := numbered.waiting begun event (suffix.subset member)
    simp only [Channel.ask]
    omega

/-- Dropping operations and completions leaves the numbers alone. -/
theorem shrink
    (numbered : station.Numbered)
    (alive :
      party.game.state ≠ .ended → station.party.game.state ≠ .ended)
    (operations :
      ∀ pending ∈ channel.operations, pending ∈ station.channel.operations)
    (next : channel.nextOperation = station.channel.nextOperation)
    (suffix : waiting <:+ station.waiting) :
    Numbered ⟨party, channel, waiting⟩ := by
  constructor
  · intro stillAlive operation kind member
    rw [next]
    exact numbered.pending (alive stillAlive) operation kind
      (operations _ member)
  · intro stillAlive event member
    rw [next]
    exact numbered.waiting (alive stillAlive) event (suffix.subset member)

theorem of_ended
    (ended : party.game.state = .ended) :
    Numbered ⟨party, channel, waiting⟩ where
  pending := fun alive => absurd ended alive
  waiting := fun alive => absurd ended alive

end Station.Numbered

/-- Every move keeps the operation numbers in order. -/
theorem Move.numbered
    (move : Move env label station after)
    (orderly : station.Orderly)
    (before : station.Numbered) :
    after.Numbered := by
  have forgotten
      (operation : Nat) :
      ∀ pending ∈ station.channel.operations.filter
          (fun pending => decide (pending.1 ≠ operation)),
        pending ∈ station.channel.operations :=
    fun pending member => List.mem_of_mem_filter member
  cases move with
  | act decoder acted begun alive takes sendable =>
      exact before.shrink (fun _ => begun) (fun _ member => member) rfl
        List.suffix_rfl
  | stop decoder handed closing acted sound begun ended takes sendable suffix
      operations traffic hands closes =>
      exact Station.Numbered.of_ended ended
  | garbled closing acted begun invalid suffix operations traffic closes =>
      refine Station.Numbered.of_ended ?_
      cases acted
      rfl
  | starved begun popped =>
      exact before.shrink id (fun _ member => member) rfl List.suffix_rfl
  | dead acted ended operations traffic =>
      exact Station.Numbered.of_ended
        (acted.of_ended ended orderly.stopped).2.2.2.1
  | write state begun open' queued lowered stream =>
      exact before.ask begun state _ _ (fun _ member => member) rfl
        List.suffix_rfl
  | read state begun open' lowered stream =>
      exact before.ask begun state _ _ (fun _ member => member) rfl
        List.suffix_rfl
  | setup call role target invite idle unopened side empty =>
      exact before.ask (by simp [unopened]) target _ _
        (fun _ member => member) rfl List.suffix_rfl
  | prepared call invite deadline idle begun waiting pending order token
      empty =>
      exact before.ask begun _ _ _ (forgotten _) rfl
        (waiting ▸ List.suffix_cons _ _)
  | turned state operation call begun open' =>
      exact before.shrink id (fun _ member => member) rfl List.suffix_rfl
  | dropped waiting gone =>
      exact before.shrink id (fun _ member => member) rfl
        (waiting ▸ List.suffix_cons _ _)
  | written begun waiting pending =>
      exact before.shrink id (forgotten _) rfl
        (waiting ▸ List.suffix_cons _ _)
  | arrived begun waiting pending ok =>
      exact before.shrink id (forgotten _) rfl
        (waiting ▸ List.suffix_cons _ _)
  | streams sendStream recvStream begun idle host waiting pending last =>
      exact before.shrink id (forgotten _) rfl
        (waiting ▸ List.suffix_cons _ _)
  | joined sendStream recvStream begun idle guest waiting pending last =>
      exact before.shrink id (forgotten _) rfl
        (waiting ▸ List.suffix_cons _ _)

/-!
## An honest peer

What arrives from a peer that runs this code is the beginning of a stream of
frames, so the decoder never fails on it.
-/

/-- The beginning of a stream of whole frames. -/
def Honest (bytes : Bytes) : Prop :=
  ∃ messages : List Message,
    (∀ message ∈ messages, message.Fits) ∧
    bytes <+: Framing.stream Message.frame messages

variable {bytes : Bytes}

theorem announced_of_within
    {whole : Bytes}
    (within : bytes <+: whole)
    (enough : 2 ≤ bytes.length) :
    Wire.announced bytes = Wire.announced whole := by
  obtain ⟨rest, rfl⟩ := within
  match bytes, enough with
  | first :: second :: tail, _ =>
      rfl

/-- The front of an honest stream announces the size of its first message. -/
theorem Honest.front
    (honest : Honest bytes)
    (enough : 2 ≤ bytes.length) :
    ∃ message : Message,
      message.Fits ∧
      Wire.announced bytes = message.bodySize ∧
      (message.bodySize + 2 ≤ bytes.length →
        Honest (bytes.drop (message.bodySize + 2))) := by
  obtain ⟨messages, fits, within⟩ := honest
  cases messages with
  | nil =>
      have empty : bytes = [] := List.prefix_nil.mp within
      simp [empty] at enough
  | cons message rest =>
      have messageFits := fits message (by simp)
      have size : message.frame.length = message.bodySize + 2 := by
        simp [Message.frame, Message.bodySize]
      rw [Framing.stream, List.flatMap_cons] at within
      refine ⟨message, messageFits, ?_, ?_⟩
      · rw [announced_of_within within enough]
        exact Wire.announced_frame messageFits _
      · intro whole
        refine ⟨rest, fun later member => fits later (by simp [member]), ?_⟩
        obtain ⟨unread, shape⟩ := within
        have dropped := congrArg (List.drop (message.bodySize + 2)) shape
        rw [List.drop_append_of_le_length whole] at dropped
        nth_rewrite 2 [← size] at dropped
        rw [List.drop_left] at dropped
        exact ⟨unread, dropped⟩

theorem Honest.validateFront
    (honest : Honest decoder.bytes)
    (sound : decoder.failed = false) :
    decoder.validateFront = (true, decoder) := by
  unfold Decoder.validateFront
  by_cases short : decoder.bytes.length < 2
  · simp [short, sound]
  · rw [if_neg (by simp [short, sound])]
    obtain ⟨message, fits, size, _⟩ := honest.front (by omega)
    have bound : message.bodySize ≤ Wire.kMaxBodySize := fits
    have positive : message.bodySize ≠ 0 := by
      simp [Message.bodySize]
    rw [if_neg]
    rw [size]
    omega

/-- An honest stream leaves the decoder as it is when no frame is whole. -/
theorem Honest.pop_none
    (honest : Honest decoder.bytes)
    (sound : decoder.failed = false)
    (popped : decoder.pop = (none, rest)) :
    rest = decoder := by
  unfold Decoder.pop at popped
  rw [honest.validateFront sound] at popped
  simp only [Bool.not_true, Bool.false_eq_true, false_or] at popped
  split at popped
  · exact (Prod.mk.inj popped).2.symm
  · next enough =>
      split at popped
      · exact (Prod.mk.inj popped).2.symm
      · next whole =>
          obtain ⟨message, _, size, remaining⟩ :=
            honest.front (by omega)
          rw [size] at popped whole
          have valid :
              Decoder.validateFront
                { decoder with
                  bytes := decoder.bytes.drop (message.bodySize + 2) } =
                (true, { decoder with
                  bytes := decoder.bytes.drop (message.bodySize + 2) }) :=
            Honest.validateFront (remaining (by omega)) sound
          rw [valid] at popped
          simp at popped

end FlyNes.LanMvp
