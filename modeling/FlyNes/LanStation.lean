import FlyNes.LanCallMoves
import FlyNes.LanDeeds

namespace FlyNes.LanMvp

open Wire (Kind Message Decoder)

/-!
# Pending operations

At most one read and one write are under way, the connection is set up by one
operation at a time before anything is sent, and nothing is pending after the
end.  With that, every move is an act of the party or leaves it alone.
-/

/-- The operations that set up the connection of each side. -/
def Operation.Prepares
    (kind : Operation)
    (role : Role)
    (state : State) : Prop :=
  ((kind = .material ∨ kind = .listen ∨ kind = .accept ∨
      kind = .acceptStream) ∧ role = .host ∧ state = .inviting) ∨
    ((kind = .connect ∨ kind = .openStream) ∧ role = .guest ∧
      state = .joining)

/-- A history in which nothing has been sent or received. -/
def Silent (log : List Effect) : Prop :=
  ∀ effect ∈ log, ∃ source target, effect = .moved source target

/-- At most one operation of a kind is pending, and only while its flag is up. -/
structure Exclusive
    (kind : Operation)
    (flag : Bool)
    (operations : List (Nat × Operation)) : Prop where
  flagged :
    ∀ operation, (operation, kind) ∈ operations → flag = true
  single :
    ∀ first second,
      (first, kind) ∈ operations →
      (second, kind) ∈ operations →
      first = second

namespace Exclusive

variable
  {kind other : Operation}
  {flag : Bool}
  {operations : List (Nat × Operation)}
  {operation : Nat}

theorem nil :
    Exclusive kind flag [] where
  flagged := by simp
  single := by simp

/-- A lowered flag lets one operation of the kind be handed out. -/
theorem ask
    (exclusive : Exclusive kind false operations) :
    Exclusive kind true (operations ++ [(operation, kind)]) where
  flagged := by simp
  single := by
    intro first second firstMember secondMember
    have absent : ∀ number, (number, kind) ∉ operations := by
      intro number member
      exact absurd (exclusive.flagged number member) (by simp)
    simp only [List.mem_append, absent, List.mem_singleton,
      Prod.mk.injEq, and_true, false_or] at firstMember secondMember
    rw [firstMember, secondMember]

theorem ask_other
    (exclusive : Exclusive kind flag operations)
    (different : other ≠ kind) :
    Exclusive kind flag (operations ++ [(operation, other)]) := by
  have unchanged :
      ∀ number,
        (number, kind) ∈ operations ++ [(operation, other)] →
        (number, kind) ∈ operations := by
    intro number member
    simpa [different.symm] using member
  constructor
  · intro number member
    exact exclusive.flagged number (unchanged number member)
  · intro first second firstMember secondMember
    exact exclusive.single first second (unchanged first firstMember)
      (unchanged second secondMember)

/-- Once the pending operation is gone its flag may be lowered. -/
theorem forget
    (exclusive : Exclusive kind flag operations)
    (pending : (operation, kind) ∈ operations) :
    Exclusive kind false
      (operations.filter fun pending => pending.1 ≠ operation) := by
  have gone :
      ∀ number,
        (number, kind) ∉
          operations.filter fun pending => pending.1 ≠ operation := by
    intro number member
    rw [List.mem_filter] at member
    have same : number = operation :=
      exclusive.single number operation member.1 pending
    simp [same] at member
  constructor
  · intro number member
    exact absurd member (gone number)
  · intro first second firstMember secondMember
    exact absurd firstMember (gone first)

theorem forget_other
    (exclusive : Exclusive kind flag operations) :
    Exclusive kind flag
      (operations.filter fun pending => pending.1 ≠ operation) := by
  constructor
  · intro number member
    exact exclusive.flagged number (List.mem_of_mem_filter member)
  · intro first second firstMember secondMember
    exact exclusive.single first second
      (List.mem_of_mem_filter firstMember)
      (List.mem_of_mem_filter secondMember)

end Exclusive

theorem mem_of_lookup
    {operations : List (Nat × Operation)}
    {operation : Nat}
    {kind : Operation}
    (found : operations.lookup operation = some kind) :
    (operation, kind) ∈ operations := by
  induction operations with
  | nil =>
      simp at found
  | cons pending rest inductionHypothesis =>
      obtain ⟨number, other⟩ := pending
      rw [List.lookup_cons] at found
      by_cases same : operation = number
      · subst same
        simp only [BEq.rfl, Option.some.injEq] at found
        simp [found]
      · have different : (operation == number) = false := by
          simpa using same
        rw [different] at found
        exact List.mem_cons_of_mem _ (inductionHypothesis found)

namespace Station

variable {R : Type}

/-- Nothing has been sent or received yet. -/
structure Fresh (station : Station R) : Prop where
  owed : station.party.owed = none
  log : Silent station.party.log
  decoder : station.channel.decoder = {}
  recvStream : station.channel.recvStream = 0
  writes : station.channel.writes = []

/-- An empty decoder hands out nothing. -/
theorem Fresh.deaf
    {station : Station R}
    {messages : List Message}
    {decoder : Decoder}
    (fresh : station.Fresh)
    (takes : Takes messages station.channel.decoder decoder) :
    messages = [] := by
  cases messages with
  | nil =>
      rfl
  | cons message rest =>
      have front := takes.2.2.2
      rw [fresh.decoder] at front
      simp [Message.frame] at front

/-- What the pending operations of a session say about it. -/
structure Orderly (station : Station R) : Prop where
  stopped : station.party.Stopped
  chronicled : station.party.Chronicled
  closed :
    station.party.game.state = .ended → station.channel.operations = []
  unopened :
    station.party.game.state = .idle →
    station.channel.operations = [] ∧ station.Fresh
  preparing :
    ∀ operation kind,
      (operation, kind) ∈ station.channel.operations →
      kind.Setup →
      station.channel.operations = [(operation, kind)] ∧
        kind.Prepares station.party.game.role station.party.game.state ∧
        station.Fresh
  reading :
    Exclusive .read station.channel.readInflight station.channel.operations
  writing :
    Exclusive .write station.channel.writeInflight station.channel.operations
  handed :
    station.party.game.state ≠ .ended →
    station.channel.writeInflight = true →
    station.channel.writes ≠ []

namespace Orderly

variable
  {env : Env R}
  {label : Label}
  {station after : Station R}

theorem of_ended
    (stopped : station.party.Stopped)
    (chronicled : station.party.Chronicled)
    (ended : station.party.game.state = .ended)
    (closed : station.channel.operations = []) :
    station.Orderly where
  stopped := stopped
  chronicled := chronicled
  closed := fun _ => closed
  unopened := fun idle => by simp [ended] at idle
  preparing := fun operation kind member => by simp [closed] at member
  reading := closed ▸ Exclusive.nil
  writing := closed ▸ Exclusive.nil
  handed := fun alive => absurd ended alive

/-- Neither the exchanges so far nor the waiting completions matter. -/
theorem of_same
    (orderly : station.Orderly)
    (party : after.party = station.party)
    (operations : after.channel.operations = station.channel.operations)
    (decoder : after.channel.decoder = station.channel.decoder)
    (recvStream : after.channel.recvStream = station.channel.recvStream)
    (writes : after.channel.writes = station.channel.writes)
    (reading : after.channel.readInflight = station.channel.readInflight)
    (writing : after.channel.writeInflight = station.channel.writeInflight) :
    after.Orderly := by
  have kept : station.Fresh → after.Fresh := by
    intro fresh
    exact ⟨party ▸ fresh.owed, party ▸ fresh.log, decoder ▸ fresh.decoder,
      recvStream ▸ fresh.recvStream, writes ▸ fresh.writes⟩
  constructor
  · exact party ▸ orderly.stopped
  · exact party ▸ orderly.chronicled
  · rw [party, operations]
    exact orderly.closed
  · rw [party, operations]
    intro idle
    exact ⟨(orderly.unopened idle).1, kept (orderly.unopened idle).2⟩
  · rw [party, operations]
    intro operation kind member setup
    obtain ⟨only, prepares, fresh⟩ :=
      orderly.preparing operation kind member setup
    exact ⟨only, prepares, kept fresh⟩
  · rw [operations, reading]
    exact orderly.reading
  · rw [operations, writing]
    exact orderly.writing
  · rw [party, writing, writes]
    exact orderly.handed

variable {operation : Nat} {kind : Operation}

/-- A pending operation of the connection's setup is the only one. -/
theorem setup_of_lookup
    (orderly : station.Orderly)
    (pending : station.channel.operations.lookup operation = some kind)
    (setup : kind.Setup) :
    station.channel.operations = [(operation, kind)] ∧
      kind.Prepares station.party.game.role station.party.game.state ∧
      station.Fresh :=
  orderly.preparing operation kind (mem_of_lookup pending) setup

/-- Reads and writes are pending only after the connection has been set up. -/
theorem no_setup_of_mem
    (orderly : station.Orderly)
    (pending : (operation, kind) ∈ station.channel.operations)
    (transfers : ¬ kind.Setup) :
    ∀ number other,
      (number, other) ∈ station.channel.operations → ¬ other.Setup := by
  intro number other member setup
  obtain ⟨only, _, _⟩ := orderly.preparing number other member setup
  rw [only] at pending
  simp only [List.mem_singleton, Prod.mk.injEq] at pending
  rw [pending.2] at transfers
  exact transfers setup

variable {party : Party R} {decoder : Decoder} {output : Option Message}

/-- Before the streams stand an act changes nothing the setup depends on. -/
theorem fresh_of_act
    (act : Act env label station.party output party)
    (unopened : ∀ role, label ≠ .opened role)
    (early :
      station.party.game.state = .idle ∨
        station.party.game.state = .inviting ∨
        station.party.game.state = .joining)
    (alive : party.game.state ≠ .ended)
    (takes : Takes label.input station.channel.decoder decoder)
    (sendable : ∀ message ∈ output, Sendable message)
    (fresh : station.Fresh) :
    party.game.state = station.party.game.state ∧
      party.game.role = station.party.game.role ∧
      Fresh
        ⟨party, { station.channel with
          decoder := decoder
          writes := station.channel.writes ++
            output.toList.map Message.frame }, station.waiting⟩ := by
  have deaf : label.input = [] := fresh.deaf takes
  rw [deaf] at takes
  obtain ⟨state, role, owed, log, rfl⟩ :=
    act.of_early early fresh.owed deaf unopened alive
      (fun message member => (sendable message member).2)
  refine ⟨state, role, owed, ?_, ?_, fresh.recvStream, ?_⟩
  · rw [log]
    exact fresh.log
  · rw [takes]
    exact fresh.decoder
  · simp [fresh.writes]

theorem act
    (orderly : station.Orderly)
    (acted : Act env label station.party output party)
    (alive : party.game.state ≠ .ended)
    (takes : Takes label.input station.channel.decoder decoder)
    (sendable : ∀ message ∈ output, Sendable message) :
    Orderly
      ⟨party, { station.channel with
        decoder := decoder
        writes := station.channel.writes ++
          output.toList.map Message.frame }, station.waiting⟩ where
  stopped := acted.stopped orderly.stopped
  chronicled := acted.chronicled orderly.stopped orderly.chronicled
  closed := fun ended => absurd ended alive
  unopened := by
    intro idle
    obtain ⟨wasIdle, unopened⟩ := acted.idle_of_idle idle
    obtain ⟨none, fresh⟩ := orderly.unopened wasIdle
    obtain ⟨_, _, stillFresh⟩ :=
      fresh_of_act acted unopened (Or.inl wasIdle) alive takes sendable fresh
    exact ⟨none, stillFresh⟩
  preparing := by
    intro operation kind member setup
    obtain ⟨only, prepares, fresh⟩ :=
      orderly.preparing operation kind member setup
    have early :
        station.party.game.state = .inviting ∨
          station.party.game.state = .joining := by
      rcases prepares with ⟨_, _, inviting⟩ | ⟨_, _, joining⟩
      · exact Or.inl inviting
      · exact Or.inr joining
    have unopened : ∀ role, label ≠ .opened role := by
      rintro role rfl
      have idle := acted.idle_of_opened.1
      rcases early with inviting | joining <;> simp_all
    obtain ⟨state, role, stillFresh⟩ :=
      fresh_of_act acted unopened (Or.inr early) alive takes sendable fresh
    refine ⟨only, ?_, stillFresh⟩
    rw [state, role]
    exact prepares
  reading := orderly.reading
  writing := orderly.writing
  handed := by
    intro _ inflight
    have begun : station.party.game.state ≠ .ended := by
      intro ended
      obtain ⟨_, _, _, stillEnded, _⟩ :=
        acted.of_ended ended orderly.stopped
      exact alive stillEnded
    have nonempty := orderly.handed begun inflight
    simp [nonempty]

variable {channel : Channel}

/-- An exchange that only takes an operation in keeps everything in order. -/
theorem ask
    (orderly : station.Orderly)
    (call : ProviderCall)
    (state : State)
    (begun : station.party.game.state ≠ .ended)
    (opened : station.party.game.state ≠ .idle)
    (none :
      ∀ number other,
        (number, other) ∈ station.channel.operations → ¬ other.Setup)
    (transfers : ¬ kind.Setup)
    (operations : channel.operations = station.channel.operations)
    (reading :
      Exclusive .read channel.readInflight
        (channel.operations ++ [(channel.nextOperation, kind)]))
    (writing :
      Exclusive .write channel.writeInflight
        (channel.operations ++ [(channel.nextOperation, kind)]))
    (handed : channel.writeInflight = true → channel.writes ≠ []) :
    Orderly
      ⟨station.party, channel.ask state kind call, station.waiting⟩ where
  stopped := orderly.stopped
  chronicled := orderly.chronicled
  closed := fun ended => absurd ended begun
  unopened := fun idle => absurd idle opened
  preparing := by
    intro number other member setup
    simp only [Channel.ask, operations, List.mem_append, List.mem_singleton,
      Prod.mk.injEq] at member
    rcases member with old | ⟨_, rfl⟩
    · exact absurd setup (none number other old)
    · exact absurd setup transfers
  reading := reading
  writing := writing
  handed := fun _ => handed

variable {waiting : List Event}

/-- A completed transfer leaves everything in order. -/
theorem transferred
    (orderly : station.Orderly)
    (begun : station.party.game.state ≠ .ended)
    (pending : station.channel.operations.lookup operation = some kind)
    (transfers : ¬ kind.Setup)
    (operations : channel.operations = station.channel.operations)
    (reading :
      Exclusive .read channel.readInflight
        (station.channel.operations.filter
          fun pending => pending.1 ≠ operation))
    (writing :
      Exclusive .write channel.writeInflight
        (station.channel.operations.filter
          fun pending => pending.1 ≠ operation))
    (handed : channel.writeInflight = true → channel.writes ≠ []) :
    Orderly ⟨station.party, channel.forget operation, waiting⟩ where
  stopped := orderly.stopped
  chronicled := orderly.chronicled
  closed := fun ended => absurd ended begun
  unopened := by
    intro idle
    have none := (orderly.unopened idle).1
    simp [none] at pending
  preparing := by
    intro number other member setup
    simp only [Channel.forget, operations] at member
    exact absurd setup
      (orderly.no_setup_of_mem (mem_of_lookup pending) transfers number other
        (List.mem_of_mem_filter member))
  reading := by
    simpa only [Channel.forget, operations] using reading
  writing := by
    simpa only [Channel.forget, operations] using writing
  handed := fun _ => handed

/-- The last operation of the setup leaves nothing pending. -/
theorem streams
    (orderly : station.Orderly)
    (begun : station.party.game.state ≠ .ended)
    (pending : station.channel.operations.lookup operation = some kind)
    (setup : kind.Setup)
    (game : party.game = station.party.game)
    (chronicled : party.Chronicled)
    (operations : channel.operations = station.channel.operations)
    (inflight :
      channel.writeInflight = station.channel.writeInflight) :
    Orderly ⟨party, channel.forget operation, waiting⟩ := by
  obtain ⟨only, prepares, fresh⟩ := orderly.setup_of_lookup pending setup
  have empty : (channel.forget operation).operations = [] := by
    simp [Channel.forget, operations, only]
  have opened : station.party.game.state ≠ .idle := by
    rcases prepares with ⟨_, _, inviting⟩ | ⟨_, _, joining⟩ <;> simp_all
  have lowered : channel.writeInflight = false := by
    rw [inflight, Bool.eq_false_iff]
    intro raised
    exact orderly.handed begun raised fresh.writes
  constructor
  · intro ended
    rw [game] at ended ⊢
    exact absurd ended begun
  · exact chronicled
  · intro _
    exact empty
  · intro idle
    rw [game] at idle
    exact absurd idle opened
  · intro number other member
    simp [empty] at member
  · exact empty ▸ Exclusive.nil
  · exact empty ▸ Exclusive.nil
  · intro _ raised
    simp [Channel.forget, lowered] at raised

end Orderly

end Station

/-- A decoder without bytes has no frame and no failure to report. -/
theorem pop_of_empty :
    Decoder.pop {} = (none, {}) := by
  decide

namespace Move

variable
  {R : Type}
  {env : Env R}
  {label : Label}
  {station after : Station R}

variable {kind : Operation}

theorem setup_of_last
    (last : kind = .openStream ∨ kind = .acceptStream) :
    kind.Setup := by
  rcases last with rfl | rfl <;> exact ⟨by simp, by simp⟩

variable {operation : Nat}

/-- The token is the first thing a guest sends. -/
theorem joined_act
    (orderly : station.Orderly)
    (guest : station.party.game.role = .guest)
    (pending : station.channel.operations.lookup operation = some kind)
    (last : kind = .openStream ∨ kind = .acceptStream) :
    Act env .silent station.party
      (some ⟨.join, station.party.game.invite.token.bytes⟩)
      (station.party.logged
        [station.party.posting .join
          station.party.game.invite.token.bytes]) := by
  obtain ⟨_, prepares, fresh⟩ :=
    orderly.setup_of_lookup pending (setup_of_last last)
  have joining : station.party.game.state = .joining := by
    rcases prepares with ⟨_, host, _⟩ | ⟨_, _, joining⟩
    · simp [guest] at host
    · exact joining
  exact Act.joined fresh.owed joining guest fresh.log

/-- Every move is an act of the party or leaves it alone. -/
theorem acts
    (move : Move env label station after)
    (orderly : station.Orderly) :
    (label = .silent ∧ after.party = station.party) ∨
      ∃ output, Act env label station.party output after.party := by
  cases move with
  | act decoder acted begun alive takes sendable =>
      exact Or.inr ⟨_, acted⟩
  | stop decoder handed closing acted sound begun ended takes sendable suffix
      operations traffic hands closes =>
      exact Or.inr ⟨_, acted⟩
  | garbled closing acted begun invalid suffix operations traffic closes =>
      exact Or.inr ⟨_, acted⟩
  | dead acted ended operations traffic =>
      exact Or.inr ⟨_, acted⟩
  | setup call role target invite idle unopened side empty =>
      refine Or.inr ⟨_, Act.opened role target invite idle unopened ?_⟩
      rcases side with ⟨host, inviting, _⟩ | ⟨guest, joining, _⟩
      · exact Or.inl ⟨host, inviting⟩
      · exact Or.inr ⟨guest, joining⟩
  | prepared call invite deadline idle begun waiting pending order token
      empty =>
      exact Or.inr ⟨_, Act.addressed invite deadline idle begun token⟩
  | joined sendStream recvStream begun idle guest waiting pending last =>
      exact Or.inr ⟨_, joined_act orderly guest pending last⟩
  | _ =>
      exact Or.inl ⟨rfl, rfl⟩

theorem prepared_orderly
    (orderly : station.Orderly)
    {done next : Operation}
    {rest : List Event}
    (call : ProviderCall)
    (invite : Invite)
    (deadline : Nat)
    (acted :
      Act env .silent station.party none
        (station.party.become
          { station.party.game with
            invite := invite, deadline := deadline } []))
    (begun : station.party.game.state ≠ .ended)
    (pending : station.channel.operations.lookup operation = some done)
    (order :
      (done = .material ∧ next = .listen) ∨
        (done = .listen ∧ next = .accept) ∨
        (done = .accept ∧ next = .acceptStream) ∨
        (done = .connect ∧ next = .openStream)) :
    Station.Orderly
      ⟨station.party.become
        { station.party.game with invite := invite, deadline := deadline } [],
        Channel.ask station.party.game.state next call
          (station.channel.forget operation), rest⟩ := by
  have setup : done.Setup := by
    rcases order with ⟨rfl, _⟩ | ⟨rfl, _⟩ | ⟨rfl, _⟩ | ⟨rfl, _⟩ <;>
      exact ⟨by simp, by simp⟩
  obtain ⟨only, prepares, fresh⟩ := orderly.setup_of_lookup pending setup
  have opened : station.party.game.state ≠ .idle := by
    rcases prepares with ⟨_, _, inviting⟩ | ⟨_, _, joining⟩ <;> simp_all
  have lowered : station.channel.writeInflight = false := by
    rw [Bool.eq_false_iff]
    intro raised
    exact orderly.handed begun raised fresh.writes
  have operations :
      ((station.channel.forget operation).ask station.party.game.state next
        call).operations = [(station.channel.nextOperation, next)] := by
    simp [Channel.ask, Channel.forget, only]
  have transfers : next ≠ .read ∧ next ≠ .write := by
    rcases order with ⟨_, rfl⟩ | ⟨_, rfl⟩ | ⟨_, rfl⟩ | ⟨_, rfl⟩ <;> simp
  constructor
  · exact acted.stopped orderly.stopped
  · exact acted.chronicled orderly.stopped orderly.chronicled
  · intro ended
    exact absurd ended begun
  · intro unopened
    exact absurd unopened opened
  · intro number kind member _
    rw [operations] at member ⊢
    simp only [List.mem_singleton, Prod.mk.injEq] at member
    obtain ⟨rfl, rfl⟩ := member
    refine ⟨rfl, ?_, fresh.owed, ?_, fresh.decoder, fresh.recvStream,
      fresh.writes⟩
    · rcases order with ⟨rfl, rfl⟩ | ⟨rfl, rfl⟩ | ⟨rfl, rfl⟩ | ⟨rfl, rfl⟩ <;>
        simpa [Operation.Prepares] using prepares
    · simpa using fresh.log
  · rw [operations]
    exact Exclusive.ask_other Exclusive.nil transfers.1
  · rw [operations]
    exact Exclusive.ask_other Exclusive.nil transfers.2
  · intro _ raised
    exact absurd (raised.symm.trans lowered) (by simp)

theorem setup_orderly
    (orderly : station.Orderly)
    {role : Role}
    {target : State}
    {waiting : List Event}
    (call : ProviderCall)
    (invite : Invite)
    (side :
      (role = .host ∧ target = .inviting ∧ kind = .material) ∨
        (role = .guest ∧ target = .joining ∧ kind = .connect))
    (unopened : station.party.game.state = .idle) :
    Station.Orderly
      ⟨station.party.become
        { station.party.game with
          role := role, invite := invite, state := target }
        [.moved .idle target],
        station.channel.ask target kind call, waiting⟩ := by
  obtain ⟨none, fresh⟩ := orderly.unopened unopened
  have operations :
      (station.channel.ask target kind call).operations =
        [(station.channel.nextOperation, kind)] := by
    simp [Channel.ask, none]
  have early : target = .inviting ∨ target = .joining := by
    rcases side with ⟨_, inviting, _⟩ | ⟨_, joining, _⟩
    · exact Or.inl inviting
    · exact Or.inr joining
  have transfers : kind ≠ .read ∧ kind ≠ .write := by
    rcases side with ⟨_, _, rfl⟩ | ⟨_, _, rfl⟩ <;> simp
  have lowered : station.channel.writeInflight = false := by
    rw [Bool.eq_false_iff]
    intro raised
    exact orderly.handed (by simp [unopened]) raised fresh.writes
  constructor
  · rintro ended
    rcases early with rfl | rfl <;> simp at ended
  · have before := orderly.chronicled
    unfold Party.Chronicled at before ⊢
    simp [before, Effect.next, unopened]
  · rintro ended
    rcases early with rfl | rfl <;> simp at ended
  · rintro idle
    rcases early with rfl | rfl <;> simp at idle
  · intro number other member _
    rw [operations] at member ⊢
    simp only [List.mem_singleton, Prod.mk.injEq] at member
    obtain ⟨rfl, rfl⟩ := member
    refine ⟨rfl, ?_, fresh.owed, ?_, fresh.decoder, fresh.recvStream,
      fresh.writes⟩
    · rcases side with ⟨rfl, rfl, rfl⟩ | ⟨rfl, rfl, rfl⟩ <;>
        simp [Operation.Prepares]
    · intro effect member
      rcases List.mem_append.mp member with old | new
      · exact fresh.log effect old
      · exact ⟨_, _, List.mem_singleton.mp new⟩
  · rw [operations]
    exact Exclusive.ask_other Exclusive.nil transfers.1
  · rw [operations]
    exact Exclusive.ask_other Exclusive.nil transfers.2
  · intro _ raised
    exact absurd (raised.symm.trans lowered) (by simp)

/-- Every move keeps the pending operations in order. -/
theorem orderly
    (move : Move env label station after)
    (before : station.Orderly) :
    after.Orderly := by
  cases move with
  | act decoder acted begun alive takes sendable =>
      exact before.act acted alive takes sendable
  | stop decoder handed closing acted sound begun ended takes sendable suffix
      operations traffic hands closes =>
      exact Station.Orderly.of_ended (acted.stopped before.stopped)
        (acted.chronicled before.stopped before.chronicled) ended operations
  | garbled closing acted begun invalid suffix operations traffic closes =>
      refine Station.Orderly.of_ended (acted.stopped before.stopped)
        (acted.chronicled before.stopped before.chronicled) ?_ operations
      cases acted
      rfl
  | @starved _ rest begun popped =>
      have kept :
          station.Fresh →
          Station.Fresh
            ⟨station.party, { station.channel with decoder := rest },
              station.waiting⟩ := by
        intro fresh
        rw [fresh.decoder, pop_of_empty] at popped
        exact ⟨fresh.owed, fresh.log, (Prod.mk.inj popped).2.symm,
          fresh.recvStream, fresh.writes⟩
      exact ⟨before.stopped, before.chronicled, before.closed,
        fun idle => ⟨(before.unopened idle).1, kept (before.unopened idle).2⟩,
        fun operation kind member setup =>
          ⟨(before.preparing operation kind member setup).1,
            (before.preparing operation kind member setup).2.1,
            kept (before.preparing operation kind member setup).2.2⟩,
        before.reading, before.writing, before.handed⟩
  | dead acted ended operations traffic =>
      obtain ⟨_, _, _, stillEnded, _⟩ := acted.of_ended ended before.stopped
      exact Station.Orderly.of_ended (acted.stopped before.stopped)
        (acted.chronicled before.stopped before.chronicled) stillEnded
        (operations.trans (before.closed ended))
  | write state begun open' queued lowered stream =>
      have busy : ¬ station.Fresh := by
        intro fresh
        simp [fresh.writes] at queued
      refine before.ask _ state begun (fun idle => busy (before.unopened idle).2)
        (fun number other member setup =>
          busy (before.preparing number other member setup).2.2)
        (fun setup => setup.2 rfl) rfl ?_ ?_ ?_
      · exact before.reading.ask_other (by simp)
      · exact (lowered ▸ before.writing).ask
      · simp [queued]
  | read state begun open' lowered stream =>
      have busy : ¬ station.Fresh := by
        intro fresh
        exact stream fresh.recvStream
      refine before.ask _ state begun (fun idle => busy (before.unopened idle).2)
        (fun number other member setup =>
          busy (before.preparing number other member setup).2.2)
        (fun setup => setup.1 rfl) rfl ?_ ?_ ?_
      · exact (lowered ▸ before.reading).ask
      · exact before.writing.ask_other (by simp)
      · exact before.handed begun
  | setup call role target invite idle unopened side empty =>
      exact setup_orderly before call invite side unopened
  | prepared call invite deadline idle begun waiting pending order token
      empty =>
      have acted :
          Act env .silent station.party none
            (station.party.become
              { station.party.game with
                invite := invite, deadline := deadline } []) :=
        Act.addressed invite deadline idle begun token
      exact prepared_orderly before call invite deadline acted begun pending
        order
  | turned state operation call begun open' =>
      exact before.of_same rfl rfl rfl rfl rfl rfl rfl
  | dropped waiting gone =>
      exact before.of_same rfl rfl rfl rfl rfl rfl rfl
  | written begun waiting pending =>
      refine before.transferred begun pending (fun setup => setup.2 rfl) rfl
        ?_ ?_ ?_
      · exact before.reading.forget_other
      · exact before.writing.forget (mem_of_lookup pending)
      · simp
  | arrived begun waiting pending ok =>
      refine before.transferred begun pending (fun setup => setup.1 rfl) rfl
        ?_ ?_ ?_
      · exact before.reading.forget (mem_of_lookup pending)
      · exact before.writing.forget_other
      · exact before.handed begun
  | streams sendStream recvStream begun idle host waiting pending last =>
      have setup := setup_of_last last
      exact before.streams begun pending setup rfl before.chronicled rfl rfl
  | joined sendStream recvStream begun idle guest waiting pending last =>
      have setup := setup_of_last last
      have acted :
          Act env .silent station.party
            (some ⟨.join, station.party.game.invite.token.bytes⟩) _ :=
        joined_act before guest pending last
      exact before.streams begun pending setup rfl
        (acted.chronicled before.stopped before.chronicled) rfl rfl

end Move

end FlyNes.LanMvp
