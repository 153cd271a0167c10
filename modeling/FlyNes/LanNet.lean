import FlyNes.LanStreams

namespace FlyNes.LanMvp

open ByteString
open Wire (Kind Message Decoder)

/-!
# Two sessions on one connection

A host and a guest run the same code.  Anything may happen in any order: calls
on either side, and completions of the operations either side waits for.  The
provider takes every operation, and what it delivers to one side are the bytes
the other side has written, in order and without a gap.
-/

/-- The two ends of a connection. -/
inductive Side where
  | host
  | guest
deriving DecidableEq

/-- The opposite end. -/
def Side.other : Side → Side
  | .host => .guest
  | .guest => .host

@[simp] theorem Side.other_other
    (side : Side) :
    side.other.other = side := by
  cases side <;> rfl

/-- The role of an end's session. -/
def Side.role : Side → Role
  | .host => .host
  | .guest => .guest

/-- What the two ends meet outside their sessions. -/
structure World (R : Type) where
  runtime : Side → Runtime R
  sha256 : Bytes → Hash
  clock : Side → Nat → Nat

/-- The surroundings of one end; its provider takes every operation. -/
def World.env {R : Type} (world : World R) (side : Side) : Env R where
  runtime := world.runtime side
  sha256 := world.sha256
  clock := world.clock side
  answer := fun _ => quicAccepted

/-- Two ends of one connection. -/
structure Net (R : Type) where
  host : Endpoint R := {}
  guest : Endpoint R := {}

/-- Something that happens at one end. -/
inductive Happening where
  | call (side : Side) (call : Call)
  | deliver (side : Side) (event : Event)

/-- A host hosts, a guest joins; completions come from the provider only. -/
def Call.belongs (side : Side) : Call → Bool
  | .host _ _ => side = .host
  | .join _ _ => side = .guest
  | .completion _ => false
  | _ => true

namespace Net

variable {R : Type}

/-- One end. -/
def endpoint (net : Net R) : Side → Endpoint R
  | .host => net.host
  | .guest => net.guest

/-- Replace one end. -/
def set (net : Net R) (endpoint : Endpoint R) : Side → Net R
  | .host => { net with host := endpoint }
  | .guest => { net with guest := endpoint }

/-- The operation a completion is for. -/
def pending (net : Net R) (side : Side) (event : Event) : Option Operation :=
  (net.endpoint side).session.operations.lookup event.operation

/--
The provider completes a pending operation once; a successful read carries on
where the last one has stopped.
-/
def Delivers (net : Net R) (side : Side) (event : Event) : Prop :=
  (net.pending side event).isSome = true ∧
    (∀ waiting ∈ (net.endpoint side).events,
      waiting.operation ≠ event.operation) ∧
    (net.pending side event = some .read ∧ event.result = quicOk →
      (net.endpoint side).station.delivered ++ event.bytes <+:
        sent (net.endpoint side.other).session.traffic)

instance (net : Net R) (side : Side) (event : Event) :
    Decidable (net.Delivers side event) :=
  inferInstanceAs
    (Decidable
      ((net.pending side event).isSome = true ∧
        (∀ waiting ∈ (net.endpoint side).events,
          waiting.operation ≠ event.operation) ∧
        (net.pending side event = some .read ∧ event.result = quicOk →
          (net.endpoint side).station.delivered ++ event.bytes <+:
            sent (net.endpoint side.other).session.traffic)))

/-- What can happen does; nothing else changes the net. -/
def step (world : World R) (net : Net R) : Happening → Net R
  | .call side call =>
      if call.belongs side then
        net.set ((net.endpoint side).call (world.env side) call) side
      else
        net
  | .deliver side event =>
      if net.Delivers side event then
        net.set ((net.endpoint side).completion event) side
      else
        net

/-- The net after a list of happenings, from the creation of both sessions. -/
def run (world : World R) (happenings : List Happening) : Net R :=
  happenings.foldl (fun (net : Net R) happening => net.step world happening) {}

end Net

/-!
## Two parties

Without bytes and operations, a net is two parties.  At each step one of them
acts, and it hears the messages of the other in the order they were queued.
-/

/-- The protocol's view of both ends. -/
structure Duo (R : Type) where
  host : Party R := {}
  guest : Party R := {}

/-- A label that decides about a game. -/
def Label.Decides : Label → Prop
  | .selected _ _ => True
  | .confirmed => True
  | _ => False

namespace Duo

variable {R : Type}

/-- One end. -/
def party (duo : Duo R) : Side → Party R
  | .host => duo.host
  | .guest => duo.guest

/-- Replace one end. -/
def set (duo : Duo R) (party : Party R) : Side → Duo R
  | .host => { duo with host := party }
  | .guest => { duo with guest := party }

/-- One party acts on what it may have heard from the other. -/
inductive Step (world : World R) (side : Side) (label : Label) :
    Duo R → Duo R → Prop where
  | act {duo : Duo R} {party : Party R} {output : Option Message} :
      Act (world.env side) label (duo.party side) output party →
      label ≠ .garbled →
      (∀ role, label = .opened role → role = side.role) →
      ((duo.party side).game.state = .idle → label.input = []) →
      heard party.log <+: posted (duo.party side.other).log →
      Step world side label duo (duo.set party side)

/-- Any number of steps in which every decision about a game is careful. -/
def Reaches
    (world : World R)
    (careful : Duo R → Side → Label → Prop) : Duo R → Duo R → Prop :=
  Relation.ReflTransGen fun before after =>
    ∃ side label,
      Step world side label before after ∧
      (label.Decides → careful before side label)

@[simp] theorem party_set
    (duo : Duo R)
    (party : Party R)
    (side : Side) :
    (duo.set party side).party side = party := by
  cases side <;> rfl

@[simp] theorem party_set_other
    (duo : Duo R)
    (party : Party R)
    (side : Side) :
    (duo.set party side).party side.other = duo.party side.other := by
  cases side <;> rfl

@[simp] theorem set_set
    (duo : Duo R)
    (first second : Party R)
    (side : Side) :
    (duo.set first side).set second side = duo.set second side := by
  cases side <;> rfl

@[simp] theorem set_party
    (duo : Duo R)
    (side : Side) :
    duo.set (duo.party side) side = duo := by
  cases side <;> rfl

end Duo

/-!
## Every net is two parties

While one end makes its moves, the bytes delivered to it stay the beginning of
what its peer has written.
-/

/-- One end, and what has been delivered to it from the other. -/
structure Docked {R : Type} (station peer : Station R) : Prop where
  orderly : station.Orderly
  streamed : station.Streamed
  numbered : station.Numbered
  arrives : station.delivered <+: sent peer.channel.traffic
  sound :
    station.party.game.state ≠ .ended →
    station.channel.decoder.failed = false

/-- Exchanges with the provider are never forgotten. -/
theorem Move.traffic_within
    {R : Type}
    {env : Env R}
    {label : Label}
    {station after : Station R}
    (move : Move env label station after) :
    station.channel.traffic <+: after.channel.traffic := by
  cases move with
  | stop decoder handed closing acted sound begun ended takes sendable suffix
      operations traffic hands closes =>
      rw [traffic, List.append_assoc]
      exact List.prefix_append _ _
  | garbled closing acted begun invalid suffix operations traffic closes =>
      rw [traffic]
      exact List.prefix_append _ _
  | dead acted ended operations traffic =>
      exact ⟨[], by rw [traffic, List.append_nil]⟩
  | _ =>
      first
      | exact List.prefix_rfl
      | exact List.prefix_append _ _

theorem sent_within
    {first second : List (State × Traffic)}
    (within : first <+: second) :
    sent first <+: sent second := by
  obtain ⟨rest, rfl⟩ := within
  simp

namespace Docked

variable
  {R : Type}
  {env : Env R}
  {label : Label}
  {station after peer : Station R}

/-- A party hears its peer's messages in the order they were queued. -/
theorem hears
    (docked : Docked station peer)
    (peerStreamed : peer.Streamed) :
    heard station.party.log <+: posted peer.party.log := by
  have within :
      Framing.stream Message.frame (heard station.party.log) <+:
        Framing.stream Message.frame (posted peer.party.log) :=
    docked.streamed.read.trans
      ((List.prefix_append _ _).trans
        (docked.arrives.trans peerStreamed.written))
  exact Wire.frame_prefixFree.prefix_of_stream_within docked.streamed.fitsIn
    peerStreamed.fitsOut within

/-- What waits in the decoder comes from the peer. -/
theorem honest
    (docked : Docked station peer)
    (peerStreamed : peer.Streamed)
    (alive : station.party.game.state ≠ .ended) :
    Honest station.channel.decoder.bytes := by
  obtain ⟨unheard, shape⟩ := docked.hears peerStreamed
  have within :
      Framing.stream Message.frame (heard station.party.log) ++
          station.channel.decoder.bytes <+:
        Framing.stream Message.frame (heard station.party.log) ++
          Framing.stream Message.frame unheard := by
    rw [docked.streamed.undecoded alive (docked.sound alive),
      ← Framing.stream_append, shape]
    exact (List.prefix_append _ _).trans
      (docked.arrives.trans peerStreamed.written)
  refine ⟨unheard, ?_, (List.prefix_append_right_inj _).mp within⟩
  intro message member
  exact peerStreamed.fitsOut message (shape ▸ List.mem_append_right _ member)

/-- An honest peer never makes the decoder fail. -/
theorem sound_of_move
    (docked : Docked station peer)
    (peerStreamed : peer.Streamed)
    (move : Move env label station after)
    (alive : after.party.game.state ≠ .ended) :
    after.channel.decoder.failed = false := by
  cases move with
  | act decoder acted begun _ takes sendable =>
      cases label with
      | heard message =>
          exact takes.2.2.1
      | _ =>
          have same : decoder = station.channel.decoder := takes
          rw [same]
          exact docked.sound begun
  | stop decoder handed closing acted sound begun ended takes sendable suffix
      operations traffic hands closes =>
      exact absurd ended alive
  | garbled closing acted begun invalid suffix operations traffic closes =>
      cases acted
      exact absurd rfl alive
  | starved begun popped =>
      have same :=
        (docked.honest peerStreamed begun).pop_none (docked.sound begun)
          popped
      rw [same]
      exact docked.sound begun
  | dead acted ended operations traffic =>
      exact absurd
        (acted.of_ended ended docked.orderly.stopped).2.2.2.1 alive
  | setup call role target invite idle unopened side empty =>
      exact docked.sound (by simp [unopened])
  | dropped waiting gone =>
      exact docked.sound alive
  | _ =>
      exact docked.sound (by assumption)

/-- No honest message is garbled. -/
theorem ungarbled
    (docked : Docked station peer)
    (peerStreamed : peer.Streamed)
    (move : Move env label station after) :
    label ≠ .garbled := by
  rintro rfl
  cases move with
  | act decoder acted begun alive takes sendable =>
      cases acted
      exact alive rfl
  | stop decoder handed closing acted sound begun ended takes sendable suffix
      operations traffic hands closes =>
      exact sound rfl
  | garbled closing acted begun invalid suffix operations traffic closes =>
      have valid :=
        (docked.honest peerStreamed begun).validateFront
          (docked.sound begun)
      rw [valid] at invalid
      cases invalid

/-- Nothing arrives before a session is opened. -/
theorem deaf
    (docked : Docked station peer)
    (move : Move env label station after)
    (idle : station.party.game.state = .idle) :
    label.input = [] := by
  obtain ⟨_, fresh⟩ := docked.orderly.unopened idle
  cases move with
  | act decoder acted begun alive takes sendable =>
      exact fresh.deaf takes
  | stop decoder handed closing acted sound begun ended takes sendable suffix
      operations traffic hands closes =>
      exact fresh.deaf takes
  | _ =>
      rfl

theorem move
    (docked : Docked station peer)
    (peerStreamed : peer.Streamed)
    (moved : Move env label station after) :
    Docked after peer where
  orderly := moved.orderly docked.orderly
  streamed := moved.streamed docked.orderly docked.streamed
  numbered := moved.numbered docked.orderly docked.numbered
  arrives :=
    (moved.delivered docked.orderly docked.numbered).trans docked.arrives
  sound := docked.sound_of_move peerStreamed moved

/-- Whatever one end does, the bytes written to the other stay. -/
theorem peer_move
    (docked : Docked peer station)
    (moved : Move env label station after) :
    Docked peer after where
  orderly := docked.orderly
  streamed := docked.streamed
  numbered := docked.numbered
  arrives := docked.arrives.trans (sent_within moved.traffic_within)
  sound := docked.sound

end Docked

/-- Both ends, and what has been delivered between them. -/
def Net.Sound {R : Type} (net : Net R) : Prop :=
  ∀ side,
    Docked (net.endpoint side).station (net.endpoint side.other).station

/-- The parties of a net. -/
def Net.duo {R : Type} (net : Net R) : Duo R :=
  ⟨net.host.station.party, net.guest.station.party⟩

/-- How far one end has come in its call while the other stays. -/
structure Proceeds
    {R : Type}
    (world : World R)
    (careful : Duo R → Side → Label → Prop)
    (side : Side)
    (duo : Duo R)
    (peer station : Station R) : Prop where
  docked : Docked station peer
  peerDocked : Docked peer station
  reaches : Duo.Reaches world careful duo (duo.set station.party side)

namespace Proceeds

variable
  {R : Type}
  {world : World R}
  {careful : Duo R → Side → Label → Prop}
  {side : Side}
  {duo : Duo R}
  {peer station after : Station R}
  {label : Label}

/-- One move is at most one step of the two parties. -/
theorem move
    (proceeds : Proceeds world careful side duo peer station)
    (theirs : duo.party side.other = peer.party)
    (moved : Move (world.env side) label station after)
    (opens : ∀ role, label = .opened role → role = side.role)
    (cautious :
      label.Decides → careful (duo.set station.party side) side label) :
    Proceeds world careful side duo peer after := by
  have docked := proceeds.docked.move proceeds.peerDocked.streamed moved
  refine ⟨docked, proceeds.peerDocked.peer_move moved, ?_⟩
  rcases moved.acts proceeds.docked.orderly with ⟨_, same⟩ | ⟨output, act⟩
  · rw [same]
    exact proceeds.reaches
  · have acted :
        Act (world.env side) label ((duo.set station.party side).party side)
          output after.party := by
      rw [Duo.party_set]
      exact act
    have step :
        Duo.Step world side label (duo.set station.party side)
          ((duo.set station.party side).set after.party side) := by
      refine Duo.Step.act acted
        (proceeds.docked.ungarbled proceeds.peerDocked.streamed moved) opens
        ?_ ?_
      · rw [Duo.party_set]
        exact proceeds.docked.deaf moved
      · rw [Duo.party_set_other, theirs]
        exact docked.hears proceeds.peerDocked.streamed
    rw [Duo.set_set] at step
    exact proceeds.reaches.tail ⟨side, label, step, cautious⟩

/-- A walk without decisions about a game is any number of steps. -/
theorem walk
    {allowed : Label → Prop}
    (proceeds : Proceeds world careful side duo peer station)
    (theirs : duo.party side.other = peer.party)
    (walked : Walk (world.env side) allowed station after)
    (opens :
      ∀ label, allowed label →
        ∀ role, label = .opened role → role = side.role)
    (undecided : ∀ label, allowed label → ¬ label.Decides) :
    Proceeds world careful side duo peer after := by
  induction walked with
  | refl =>
      exact proceeds
  | tail _ step inductionHypothesis =>
      obtain ⟨label, admissible, moved⟩ := step
      exact inductionHypothesis.move theirs moved (opens label admissible)
        (fun decides => absurd decides (undecided label admissible))

theorem moves
    (proceeds : Proceeds world careful side duo peer station)
    (theirs : duo.party side.other = peer.party)
    (moved : Moves (world.env side) station after) :
    Proceeds world careful side duo peer after := by
  refine proceeds.walk theirs
    (Walk.of_moves (fun _ quiet => quiet) moved) ?_ ?_
  · rintro label quiet role rfl
    cases quiet
  · intro label quiet decides
    cases label <;> simp_all [Label.Quiet, Label.Decides]

/-- A careful decision in the middle of a call. -/
theorem decides
    {decision : Label → Prop}
    (proceeds : Proceeds world careful side duo peer station)
    (theirs : duo.party side.other = peer.party)
    (decided : Session.Decides (world.env side) decision station after)
    (opens :
      ∀ label, decision label →
        ∀ role, label = .opened role → role = side.role)
    (cautious :
      ∀ label, decision label →
        label.Decides → careful (duo.set station.party side) side label) :
    Proceeds world careful side duo peer after := by
  rcases decided with moved | ⟨label, middle, decision, first, rest⟩
  · exact proceeds.moves theirs moved
  · exact (proceeds.move theirs first (opens label decision)
      (cautious label decision)).moves theirs rest

end Proceeds

namespace Net

variable {R : Type} {world : World R} {careful : Duo R → Side → Label → Prop}

theorem duo_party
    (net : Net R)
    (side : Side) :
    net.duo.party side = (net.endpoint side).station.party := by
  cases side <;> rfl

theorem duo_set
    (net : Net R)
    (endpoint : Endpoint R)
    (side : Side) :
    (net.set endpoint side).duo =
      net.duo.set endpoint.station.party side := by
  cases side <;> rfl

/-- One end after a pump. -/
def pumped (world : World R) (net : Net R) (side : Side) : Net R :=
  net.set
    { session := (net.endpoint side).pump (world.env side) } side

/--
Every decision about a game that a happening can take is a careful one.  A call
decides after its pump.
-/
def Careful
    (world : World R)
    (careful : Duo R → Side → Label → Prop)
    (net : Net R) : Happening → Prop
  | .call side (.selectGame rom _) =>
      ∀ label,
        Selects (world.env side) rom label →
        careful (net.pumped world side).duo side label
  | .call side .confirm =>
      careful (net.pumped world side).duo side .confirmed
  | _ => True

variable {net : Net R} {side : Side} {endpoint : Endpoint R}

/-- Both ends stay docked when one of them has made its moves. -/
theorem sound_of_proceeds
    (proceeds :
      Proceeds world careful side net.duo
        (net.endpoint side.other).station endpoint.station) :
    (net.set endpoint side).Sound := by
  intro end'
  cases side <;> cases end'
  · exact proceeds.docked
  · exact proceeds.peerDocked
  · exact proceeds.peerDocked
  · exact proceeds.docked

/-- A call is any number of steps of the two parties. -/
theorem call_proceeds
    (sound : net.Sound)
    {call : Call}
    (belongs : call.belongs side = true)
    (cautious : net.Careful world careful (.call side call)) :
    Proceeds world careful side net.duo (net.endpoint side.other).station
      ((net.endpoint side).call (world.env side) call).station := by
  have start :
      Proceeds world careful side net.duo (net.endpoint side.other).station
        (net.endpoint side).station := by
    refine ⟨sound side, ?_, ?_⟩
    · have back := sound side.other
      cases side <;> exact back
    · rw [← duo_party, Duo.set_party]
      exact Relation.ReflTransGen.refl
  have theirs := net.duo_party side.other
  have pumped := start.moves theirs
    (Endpoint.pumped_moves (world.env side) (net.endpoint side))
  by_cases deciding :
      (∃ rom gameKey, call = .selectGame rom gameKey) ∨ call = .confirm
  · rcases deciding with ⟨rom, gameKey, rfl⟩ | rfl
    · rcases Endpoint.selectGame_walk (world.env side) (net.endpoint side)
        rom gameKey with same | decides
      · rw [same]
        exact start
      · refine pumped.decides theirs decides ?_ ?_
        · rintro label ⟨_, _, _, _, rfl⟩ role opened
          cases opened
        · intro label decision _
          have careful' := cautious label decision
          rw [Net.pumped, duo_set] at careful'
          exact careful'
    · refine pumped.decides theirs
        (Endpoint.confirm_walk (world.env side) (net.endpoint side)) ?_ ?_
      · rintro label rfl role opened
        cases opened
      · rintro label rfl _
        have careful' :
            careful (net.pumped world side).duo side .confirmed := cautious
        rw [Net.pumped, duo_set] at careful'
        exact careful'
  · have ours : ∀ event, call ≠ .completion event := by
      rintro event rfl
      cases belongs
    refine start.walk theirs
      (Endpoint.call_walk (world.env side) (sound side).orderly call ours) ?_ ?_
    · rintro label (quiet | decision) role rfl
      · cases quiet
      · cases call <;> simp_all [Call.Decision, Call.belongs, Side.role]
    · rintro label (quiet | decision) decides
      · cases label <;> simp_all [Label.Quiet, Label.Decides]
      · cases call <;> simp_all [Call.Decision, Label.Decides]

/-- A delivery leaves both parties alone. -/
theorem deliver_docked
    (sound : net.Sound)
    {event : Event}
    (delivers : net.Delivers side event) :
    Docked ((net.endpoint side).completion event).station
      (net.endpoint side.other).station := by
  obtain ⟨known, fresh, faithful⟩ := delivers
  have docked := sound side
  obtain ⟨kind, pending⟩ := Option.isSome_iff_exists.mp known
  constructor
  · exact docked.orderly.of_same rfl rfl rfl rfl rfl rfl rfl
  · exact docked.streamed.of_same rfl rfl id rfl rfl (fun _ => rfl)
      (fun _ _ => rfl)
  · refine ⟨docked.numbered.pending, ?_⟩
    intro alive waiting member
    rcases List.mem_append.mp member with old | new
    · exact docked.numbered.waiting alive waiting old
    · rw [List.mem_singleton.mp new]
      exact docked.numbered.pending alive _ _ (mem_of_lookup pending)
  · have more :
        ((net.endpoint side).completion event).station.delivered =
          (net.endpoint side).station.delivered ++
            (if net.pending side event = some .read ∧
                event.result = quicOk then
              event.bytes
            else
              []) := by
      unfold Station.delivered
      rw [List.append_assoc]
      congr 1
      simp only [arriving, Endpoint.station, Endpoint.completion,
        Session.station, List.flatMap_append, List.flatMap_singleton,
        Net.pending]
      rfl
    rw [more]
    split
    · next read =>
        exact faithful read
    · simpa using docked.arrives
  · exact docked.sound

theorem peer_docked
    (sound : net.Sound)
    (traffic :
      endpoint.session.traffic = (net.endpoint side).session.traffic) :
    Docked (net.endpoint side.other).station endpoint.station := by
  have docked := sound side.other
  have back : side.other.other = side := by
    cases side <;> rfl
  rw [back] at docked
  refine ⟨docked.orderly, docked.streamed, docked.numbered, ?_,
    docked.sound⟩
  have arrives := docked.arrives
  change _ <+: sent endpoint.session.traffic
  rw [traffic]
  exact arrives

/-- One happening keeps both ends docked and is any number of steps. -/
theorem step_reaches
    (sound : net.Sound)
    {happening : Happening}
    (cautious : net.Careful world careful happening) :
    (net.step world happening).Sound ∧
      Duo.Reaches world careful net.duo (net.step world happening).duo := by
  cases happening with
  | call side call =>
      by_cases belongs : call.belongs side = true
      · simp only [step, belongs, if_true]
        have proceeds := call_proceeds sound belongs cautious
        refine ⟨sound_of_proceeds proceeds, ?_⟩
        rw [duo_set]
        exact proceeds.reaches
      · simp only [step, belongs]
        exact ⟨sound, Relation.ReflTransGen.refl⟩
  | deliver side event =>
      by_cases delivers : net.Delivers side event
      · simp only [step, delivers, if_true]
        have docked := deliver_docked sound delivers
        have back :
            Docked (net.endpoint side.other).station
              ((net.endpoint side).completion event).station :=
          peer_docked sound rfl
        have same :
            (net.set ((net.endpoint side).completion event) side).duo =
              net.duo := by
          rw [duo_set]
          change net.duo.set (net.endpoint side).station.party side = net.duo
          rw [← duo_party, Duo.set_party]
        rw [same]
        refine ⟨?_, Relation.ReflTransGen.refl⟩
        intro end'
        cases side <;> cases end'
        · exact docked
        · exact back
        · exact back
        · exact docked
      · simp only [step, delivers, if_false]
        exact ⟨sound, Relation.ReflTransGen.refl⟩

/-- Every happening of a run is careful when its turn comes. -/
def AllCareful
    (world : World R)
    (careful : Duo R → Side → Label → Prop) : Net R → List Happening → Prop
  | _, [] => True
  | net, happening :: rest =>
      net.Careful world careful happening ∧
        AllCareful world careful (net.step world happening) rest

theorem initial_sound :
    ({} : Net R).Sound := by
  intro side
  have docked :
      Docked (({} : Endpoint R).station) (({} : Endpoint R).station) := by
    refine ⟨Endpoint.initial_orderly, ?_, ?_, List.prefix_rfl,
      fun _ => rfl⟩
    · refine ⟨by simp [Endpoint.station, Session.station, Session.party, posted],
        by simp [Endpoint.station, Session.station, Session.party, heard],
        fun _ => rfl, List.prefix_rfl, fun _ _ => rfl, List.prefix_rfl⟩
    · constructor
      · intro _ operation kind member
        cases member
      · intro _ event member
        cases member
  cases side <;> exact docked

/-- Every run of careful happenings is a run of the two parties. -/
theorem run_reaches
    {happenings : List Happening}
    (cautious : AllCareful world careful {} happenings) :
    (run world happenings).Sound ∧
      Duo.Reaches world careful {} (run world happenings).duo := by
  have general :
      ∀ (happenings : List Happening) (net : Net R),
        net.Sound →
        Duo.Reaches world careful {} net.duo →
        AllCareful world careful net happenings →
        (happenings.foldl
          (fun (net : Net R) happening => net.step world happening)
          net).Sound ∧
          Duo.Reaches world careful {}
            (happenings.foldl
              (fun (net : Net R) happening => net.step world happening)
              net).duo := by
    intro happenings
    induction happenings with
    | nil =>
        intro net sound reaches _
        exact ⟨sound, reaches⟩
    | cons happening rest inductionHypothesis =>
        intro net sound reaches cautious
        obtain ⟨nextSound, nextReaches⟩ := step_reaches sound cautious.1
        exact inductionHypothesis _ nextSound (reaches.trans nextReaches)
          cautious.2
  exact general happenings {} initial_sound Relation.ReflTransGen.refl cautious

/-- Without any demand on the decisions, every run is one of the parties. -/
theorem run_reaches_any
    (world : World R)
    (happenings : List Happening) :
    Duo.Reaches world (fun _ _ _ => True) {} (run world happenings).duo := by
  have free :
      ∀ (happenings : List Happening) (net : Net R),
        AllCareful world (fun _ _ _ => True) net happenings := by
    intro happenings
    induction happenings with
    | nil =>
        intro net
        trivial
    | cons happening rest inductionHypothesis =>
        intro net
        refine ⟨?_, inductionHypothesis _⟩
        unfold Careful
        split <;> simp
  exact (run_reaches (free happenings {})).2

end Net

end FlyNes.LanMvp
