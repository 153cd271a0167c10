import FlyNes.Chronology
import FlyNes.LanDeeds

namespace FlyNes.LanMvp

open ByteString
open Chronology
open Lockstep (wrap64)
open Wire (Kind Message)

/-!
# The course of a connection

The messages of the host alone decide where in the life of a connection a side
stands: a `Lobby` opens the next generation and a `Start` the next round.  The
host is as far as the messages it has sent, the guest as far as those it has
received.
-/

/-- Where a message of the host takes a side. -/
def Stamp.follow (stamp : Stamp) (message : Message) : Stamp :=
  if OpensLobby message then
    { stamp with
      generation := bigEndianU64 message.payload
      epoch := stamp.epoch + 1 }
  else
    { stamp with round := nextRound stamp.round message }

/-- Where the messages of the host lead. -/
def travel (messages : List Message) : Stamp :=
  messages.foldl Stamp.follow {}

/-- Whether a round has been started in the last lobby. -/
def underway (messages : List Message) : Bool :=
  messages.foldl
    (fun started message =>
      if OpensLobby message then
        false
      else
        started || decide (message.kind = .start)) false

/-- At most one round is started in each lobby. -/
def Sober (messages : List Message) : Prop :=
  Every
    (fun earlier message =>
      message.kind = .start → underway earlier = false) messages

/-- What the lobbies carry that a list of messages opens. -/
def lobbies (messages : List Message) : List Bytes :=
  (messages.filter fun message => decide (OpensLobby message)).map
    Message.payload

/-- What the acknowledgements in a list of messages carry. -/
def acks (messages : List Message) : List Bytes :=
  (messages.filter fun message => decide (message.kind = .lobbyAck)).map
    Message.payload

/-- Messages that belong to a round. -/
def Plays (message : Message) : Prop :=
  message.kind = .input ∨ message.kind = .digest ∨ message.kind = .pause

@[simp] theorem travel_concat
    (messages : List Message)
    (message : Message) :
    travel (messages ++ [message]) = (travel messages).follow message := by
  simp [travel]

@[simp] theorem underway_concat
    (messages : List Message)
    (message : Message) :
    underway (messages ++ [message]) =
      if OpensLobby message then
        false
      else
        underway messages || decide (message.kind = .start) := by
  simp [underway]

@[simp] theorem lobbies_append
    (first second : List Message) :
    lobbies (first ++ second) = lobbies first ++ lobbies second := by
  simp [lobbies]

@[simp] theorem acks_append
    (first second : List Message) :
    acks (first ++ second) = acks first ++ acks second := by
  simp [acks]

variable {first second : List Message}

theorem lobbies_within
    (within : first <+: second) :
    lobbies first <+: lobbies second := by
  obtain ⟨rest, rfl⟩ := within
  simp

theorem acks_within
    (within : first <+: second) :
    acks first <+: acks second := by
  obtain ⟨rest, rfl⟩ := within
  simp

/-- The epoch counts the lobbies. -/
theorem travel_epoch
    (messages : List Message) :
    (travel messages).epoch = (lobbies messages).length := by
  induction messages using List.reverseRecOn with
  | nil =>
      rfl
  | append_singleton messages message inductionHypothesis =>
      rw [travel_concat, lobbies_append, List.length_append,
        ← inductionHypothesis]
      by_cases opens : OpensLobby message <;>
        simp [Stamp.follow, lobbies, opens]

/-- Further messages lead further. -/
theorem travel_le
    (messages rest : List Message) :
    (travel messages).epoch ≤ (travel (messages ++ rest)).epoch ∧
      (travel messages).round ≤ (travel (messages ++ rest)).round := by
  induction rest using List.reverseRecOn with
  | nil =>
      simp
  | append_singleton rest message inductionHypothesis =>
      obtain ⟨epochs, rounds⟩ := inductionHypothesis
      rw [← List.append_assoc, travel_concat]
      by_cases opens : OpensLobby message
      · simp only [Stamp.follow, opens, if_true]
        exact ⟨by omega, rounds⟩
      · simp only [Stamp.follow, opens, if_false, nextRound]
        refine ⟨epochs, ?_⟩
        split <;> omega

/-- A round of a later lobby is a later round. -/
theorem round_lt_of_epoch_lt
    (within : first <+: second)
    (later : (travel first).epoch < (travel second).epoch)
    (started : underway second = true) :
    (travel first).round < (travel second).round := by
  obtain ⟨rest, rfl⟩ := within
  induction rest using List.reverseRecOn with
  | nil =>
      simp at later
  | append_singleton rest message inductionHypothesis =>
      rw [← List.append_assoc] at later started ⊢
      rw [travel_concat] at later ⊢
      rw [underway_concat] at started
      by_cases opens : OpensLobby message
      · simp [opens] at started
      · simp only [opens, if_false, Stamp.follow] at later started ⊢
        by_cases start : message.kind = .start
        · have bound := (travel_le first rest).2
          simp only [nextRound, start, if_true]
          omega
        · simp only [start, decide_false, Bool.or_false] at started
          simpa [nextRound, start] using inductionHypothesis later started

/-- Within one lobby there is one round. -/
theorem round_eq_of_epoch_eq
    (within : first <+: second)
    (same : (travel first).epoch = (travel second).epoch)
    (started : underway first = true) :
    underway second = true ∧
      (Sober second → (travel first).round = (travel second).round) := by
  obtain ⟨rest, rfl⟩ := within
  induction rest using List.reverseRecOn with
  | nil =>
      simpa using started
  | append_singleton rest message inductionHypothesis =>
      rw [← List.append_assoc] at same ⊢
      rw [travel_concat] at same ⊢
      rw [underway_concat]
      have bound := (travel_le first rest).1
      by_cases opens : OpensLobby message
      · simp only [Stamp.follow, opens, if_true] at same
        omega
      · simp only [opens, if_false, Stamp.follow] at same ⊢
        obtain ⟨still, rounds⟩ := inductionHypothesis same
        refine ⟨by simp [still], ?_⟩
        intro sober
        have shorter : Sober (first ++ rest) := by
          intro earlier entry later shape
          exact sober earlier entry (later ++ [message]) (by simp [shape])
        have stays : message.kind ≠ .start := by
          intro start
          have idle := sober (first ++ rest) message [] (by simp) start
          rw [still] at idle
          cases idle
        simpa [nextRound, stays] using rounds shorter

/-- In a lobby in which a round is under way, only that round. -/
theorem Sober.of_within
    (sober : Sober second)
    (within : first <+: second) :
    Sober first := by
  obtain ⟨rest, rfl⟩ := within
  intro earlier entry later shape
  exact sober earlier entry (later ++ rest) (by simp [shape])

namespace Game

variable {R : Type} {game : Game R} {message : Message}

/-- A guest follows every new lobby of its host. -/
theorem accepts_of_opensLobby
    (guest : game.role = .guest)
    (opens : OpensLobby message) :
    game.Accepts message := by
  simp [Accepts, opens.1, opens.2, guest]

/-- A message before the barrier is not lost to it. -/
theorem Ignores.not_passes
    (ignores : game.Ignores message)
    (pending : message.kind ≠ .lobbyRequest) :
    ¬ game.PassesBarrier message := by
  rintro ⟨early, accepts⟩
  cases ignores with
  | request kind _ _ =>
      exact pending kind
  | barrier _ blocked =>
      exact blocked ⟨early, accepts⟩
  | pause kind _ _ =>
      simp [kind] at early
  | start kind _ _ =>
      simp [kind] at early

theorem Ignores.not_opensLobby
    (ignores : game.Ignores message)
    (guest : game.role = .guest) :
    ¬ OpensLobby message := by
  intro opens
  exact ignores.not_passes (by simp [opens.1])
    ⟨Or.inr (Or.inl opens.1), accepts_of_opensLobby guest opens⟩

/-- A configured guest takes every `Start` that reaches its lobby. -/
theorem Ignores.returning_of_start
    (ignores : game.Ignores message)
    (start : message.kind = .start)
    (loaded : game.localConfigured = true → game.runtime.isSome) :
    game.state = .returning := by
  cases ignores with
  | request kind _ _ =>
      simp [start] at kind
  | barrier returning _ =>
      exact returning
  | pause kind _ _ =>
      simp [start] at kind
  | start _ accepts unloaded =>
      have configured : game.localConfigured = true := by
        simp_all [Accepts, configsMatch]
      simp [unloaded] at loaded
      simp [loaded] at configured

end Game

/-- How the state of a guest fits the rounds it has heard of. -/
def State.Led (state : State) (started : Bool) : Prop :=
  (state = .running → started = true) ∧
    (started = true →
      state = .running ∨ state = .returning ∨ state = .ended)

/-- The acknowledgements a host awaits. -/
def State.awaited : State → Nat
  | .returning => 1
  | _ => 0

theorem State.awaited_eq_zero
    {state : State}
    (settled : state ≠ .returning) :
    state.awaited = 0 := by
  cases state with
  | returning =>
      exact absurd rfl settled
  | _ =>
      rfl

/-- What is owed fits the state, and a configured party has a runtime. -/
structure Party.Steady {R : Type} (party : Party R) : Prop where
  pausing :
    ∀ paused,
      party.owed = some (.pause paused) →
      party.game.state = .running ∨ party.game.state = .ended
  starting :
    party.owed = some .start →
    party.game.state = .lobby ∨ party.game.state = .configuring ∨
      party.game.state = .ended
  loaded :
    party.game.state ≠ .ended →
    party.game.localConfigured = true →
    party.game.runtime.isSome

namespace Act

variable
  {R : Type}
  {env : Env R}
  {label : Label}
  {party after : Party R}
  {output : Option Message}

variable (act : Act env label party output after)

include act

/-- A message is sent where its act leads. -/
theorem posts_eq :
    (accountOf after.log).posts =
      (accountOf party.log).posts ++
        output.toList.map (fun message => ⟨after.stamp, message⟩) := by
  cases act with
  | _ =>
      simp [Account.add, Party.stamp, nextRound]

/-- A message is received where its act starts. -/
theorem mail_eq :
    (accountOf after.log).mail =
      (accountOf party.log).mail ++
        label.input.map
          (fun message => ⟨party.game.state, party.stamp, message⟩) := by
  cases act with
  | _ =>
      simp [Account.add, Party.stamp, nextRound, Label.input]

theorem steady
    (stopped : party.Stopped)
    (before : party.Steady) :
    after.Steady := by
  obtain ⟨pausing, starting, loaded⟩ := before
  by_cases ended : party.game.state = .ended
  · obtain ⟨_, _, _, still, _⟩ := act.of_ended ended stopped
    exact ⟨fun _ _ => Or.inr still, fun _ => Or.inr (Or.inr still),
      fun alive => absurd still alive⟩
  · cases act with
    | frame ready ran due =>
        exact ⟨pausing, starting, fun _ _ => rfl⟩
    | digest ready ran due copied agreement =>
        exact ⟨pausing, starting, fun _ _ => rfl⟩
    | _ =>
        constructor <;> simp_all [Game.CanLeave, Game.Accepts]

/-- An unopened party does nothing but open or end. -/
theorem of_idle
    (calm : party.Steady)
    (idle : party.game.state = .idle)
    (deaf : label.input = []) :
    output = none ∧ after.stamp = party.stamp ∧
      ((∃ role, label = .opened role ∧
          (after.game.state = .inviting ∨ after.game.state = .joining)) ∨
        after.game.state = .idle ∨ after.game.state = .ended) := by
  have settled : party.owed = none := by
    rcases owed : party.owed with _ | _ | paused
    · rfl
    · rcases calm.starting owed with state | state | state <;>
        simp [idle] at state
    · rcases calm.pausing paused owed with state | state <;>
        simp [idle] at state
  cases act with
  | frame ready ran due =>
      exact absurd ready.running (by simp [idle])
  | digest ready ran due copied agreement =>
      exact absurd ready.running (by simp [idle])
  | clash reason ready ran due copied clash cause =>
      exact absurd ready.running (by simp [idle])
  | frameFailed ready failed =>
      exact absurd ready.running (by simp [idle])
  | digestFailed ready ran due failed =>
      exact absurd ready.running (by simp [idle])
  | opened role target invite _ _ side =>
      rcases side with ⟨_, rfl⟩ | ⟨_, rfl⟩ <;>
        simp [Party.stamp, Account.add]
  | _ =>
      simp_all [Label.input, Game.CanLeave, Party.stamp, Account.add]

/-- A guest is led by what it hears. -/
theorem guest_stamp
    (guest : party.game.role = .guest) :
    after.stamp = label.input.foldl Stamp.follow party.stamp := by
  cases act with
  | lobbyHeard message owed alive kind accepts =>
      have opens : OpensLobby message := by
        simp_all [OpensLobby, Game.Accepts]
      simp [Label.input, Stamp.follow, opens, Party.stamp, Account.add,
        nextRound, kind]
  | ignored message owed alive ignores =>
      have stays := ignores.not_opensLobby guest
      simp [Label.input, Stamp.follow, stays, Party.stamp, Account.add]
  | refused message reason owed alive home refusal blames =>
      have stays : ¬ OpensLobby message := by
        intro opens
        rcases refusal with join | refused
        · simp [opens.1] at join
        · exact refused (Game.accepts_of_opensLobby guest opens)
      simp [Label.input, Stamp.follow, stays, Party.stamp, Account.add]
  | _ =>
      simp_all [Label.input, Stamp.follow, Party.stamp, Account.add,
        nextRound, Game.Startable, OpensLobby, Game.Accepts]

/-- A host is led by what it sends. -/
theorem host_stamp
    (host : party.game.role = .host)
    (unstarted : ∀ message ∈ label.input, message.kind ≠ .start) :
    after.stamp = output.toList.foldl Stamp.follow party.stamp := by
  cases act with
  | requested owed leaves guest =>
      rw [host] at guest
      cases guest
  | lobbyHeard message owed alive kind accepts =>
      simp [Game.Accepts, kind, host] at accepts
  | startHeard message owed kind accepts loaded =>
      exact absurd kind (unstarted message (by simp [Label.input]))
  | called owed leaves side =>
      simp [Stamp.follow, OpensLobby, Party.stamp, Account.add, nextRound]
  | requestHeard message owed kind accepts leaves =>
      simp [Stamp.follow, OpensLobby, Party.stamp, Account.add, nextRound,
        kind]
  | _ =>
      simp_all [Label.input, Stamp.follow, Party.stamp, Account.add,
        nextRound, OpensLobby]

/-- A guest starts no round, opens no lobby and lets nobody in. -/
theorem guest_mute
    (guest : party.game.role = .guest) :
    ∀ message ∈ output,
      message.kind ≠ .start ∧ message.kind ≠ .lobby ∧
        message.kind ≠ .accept := by
  cases act with
  | _ =>
      simp_all [Game.Startable, Game.Accepts]

/-- A guest acknowledges every lobby it is taken to, and nothing else. -/
theorem guest_acks
    (guest : party.game.role = .guest) :
    acks output.toList = lobbies label.input := by
  cases act with
  | lobbyHeard message owed alive kind accepts =>
      have opens : OpensLobby message := by
        simp_all [OpensLobby, Game.Accepts]
      simp [acks, lobbies, Label.input, opens]
  | ignored message owed alive ignores =>
      simp [acks, lobbies, Label.input, ignores.not_opensLobby guest]
  | refused message reason owed alive home refusal blames =>
      have stays : ¬ OpensLobby message := by
        intro opens
        rcases refusal with join | refused
        · simp [opens.1] at join
        · exact refused (Game.accepts_of_opensLobby guest opens)
      simp [acks, lobbies, Label.input, stays]
  | _ =>
      simp_all [acks, lobbies, Label.input, OpensLobby, Game.Accepts]

/-- The messages of a round are sent in a running round. -/
theorem running_of_plays
    (calm : party.Steady) :
    ∀ message ∈ output, Plays message → party.game.state = .running := by
  cases act with
  | digest ready ran due copied agreement =>
      exact fun _ _ _ => ready.running
  | clash reason ready ran due copied clash cause =>
      exact fun _ _ _ => ready.running
  | announced paused owed alive =>
      exact fun _ _ _ => (calm.pausing paused owed).resolve_right alive
  | _ =>
      simp_all [Plays]

/-- A guest that sends a message of its round does so on its own. -/
theorem silent_of_plays
    (guest : party.game.role = .guest) :
    ∀ message ∈ output, Plays message → label.input = [] := by
  cases act with
  | _ =>
      simp_all [Plays, Label.input]

/-- A guest leaves `returning` for a new lobby only. -/
theorem guest_returns
    (guest : party.game.role = .guest)
    (returning : party.game.state = .returning) :
    after.game.state = .returning ∨ after.game.state = .ended ∨
      party.stamp.epoch < after.stamp.epoch := by
  cases act with
  | lobbyHeard message owed alive kind accepts =>
      simp [Party.stamp, Account.add]
  | frame ready ran due =>
      exact Or.inl returning
  | digest ready ran due copied agreement =>
      exact Or.inl returning
  | _ =>
      simp_all [Game.CanLeave, Game.Accepts]

/-- A guest plays in a round that has been started in its lobby. -/
theorem guest_led
    (guest : party.game.role = .guest)
    (calm : party.Steady)
    (alive : party.game.state ≠ .ended)
    (led : party.game.state.Led (underway (heard party.log))) :
    after.game.state.Led (underway (heard party.log ++ label.input)) := by
  have home :
      party.game.state = .lobby ∨ party.game.state = .configuring →
        underway (heard party.log) = false := by
    rintro (state | state) <;> simpa [State.Led, state] using led
  cases act with
  | opened role target invite owed idle side =>
      rcases side with ⟨_, rfl⟩ | ⟨_, rfl⟩ <;>
        simp_all [Label.input, State.Led]
  | ignored message owed _ ignores =>
      have stays := ignores.not_opensLobby guest
      have absent : message.kind = .start → party.game.state = .returning :=
        fun start => ignores.returning_of_start start (calm.loaded alive)
      simp_all [Label.input, State.Led]
      grind
  | _ =>
      simp_all [Label.input, State.Led, OpensLobby, Game.Accepts,
        Game.CanLeave, Game.Startable]

/-- A host plays exactly in the rounds it has started. -/
theorem host_led
    (host : party.game.role = .host)
    (calm : party.Steady)
    (alive : party.game.state ≠ .ended)
    (led :
      underway (posted party.log) = true ↔ party.game.state = .running)
    (survives : after.game.state ≠ .ended) :
    underway (posted party.log ++ output.toList) = true ↔
      after.game.state = .running := by
  have home :
      party.game.state = .lobby ∨ party.game.state = .configuring →
        underway (posted party.log) = false := by
    rintro (state | state) <;> simpa [state] using led
  cases act with
  | startIdle owed state startable unloaded =>
      have configured : party.game.localConfigured = true := by
        simp_all [Game.Startable, Game.configsMatch]
      have loaded := calm.loaded alive configured
      simp [unloaded] at loaded
  | opened role target invite owed idle side =>
      rcases side with ⟨_, rfl⟩ | ⟨_, rfl⟩ <;> simp_all
  | startHeard message owed kind accepts loaded =>
      simp [Game.Accepts, kind, host] at accepts
  | _ =>
      simp_all [OpensLobby, Game.Accepts]

/-- A host starts a round only from its lobby. -/
theorem home_of_start :
    ∀ message ∈ output,
      message.kind = .start →
      party.game.state = .lobby ∨ party.game.state = .configuring := by
  cases act with
  | _ =>
      simp_all

/-- A host that awaits an acknowledgement has opened a lobby, and no more. -/
theorem host_acked
    (host : party.game.role = .host)
    (alive : party.game.state ≠ .ended)
    (survives : after.game.state ≠ .ended)
    (answered :
      ∀ message ∈ label.input,
        message.kind = .lobbyAck → party.game.Accepts message) :
    (lobbies output.toList).length + party.game.state.awaited =
      (acks label.input).length + after.game.state.awaited := by
  have home :
      party.game.state = .lobby ∨ party.game.state = .configuring →
        party.game.state.awaited = 0 := by
    rintro (state | state) <;> simp [state, State.awaited]
  cases act with
  | opened role target invite owed idle side =>
      rcases side with ⟨_, rfl⟩ | ⟨_, rfl⟩ <;>
        simp_all [lobbies, acks, Label.input, State.awaited]
  | ignored message owed _ ignores =>
      have other : message.kind ≠ .lobbyAck := by
        intro kind
        exact ignores.not_passes (by simp [kind])
          ⟨Or.inr (Or.inr kind), answered message (by simp [Label.input]) kind⟩
      simp [lobbies, acks, Label.input, other]
  | called owed leaves side =>
      rcases leaves with state | state | state <;>
        simp [lobbies, acks, Label.input, OpensLobby, state, State.awaited]
  | requestHeard message owed kind accepts leaves =>
      rcases leaves with state | state | state <;>
        simp [lobbies, acks, Label.input, OpensLobby, state, kind,
          State.awaited]
  | _ =>
      simp_all [lobbies, acks, Label.input, OpensLobby, Game.Accepts,
        State.awaited]

/-- The lobby a host opens carries its generation. -/
theorem host_lobbies
    (host : party.game.role = .host) :
    after.game.lobbyGeneration =
        (if lobbies output.toList = [] then
          party.game.lobbyGeneration
        else
          wrap64 (party.game.lobbyGeneration + 1)) ∧
      ∀ payload ∈ lobbies output.toList,
        payload = appendU64 after.game.lobbyGeneration := by
  cases act with
  | lobbyHeard message owed alive kind accepts =>
      simp [Game.Accepts, kind, host] at accepts
  | _ =>
      simp_all [lobbies, OpensLobby]

end Act

end FlyNes.LanMvp
