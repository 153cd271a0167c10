import FlyNes.LanAdmission
import FlyNes.LanLedger

namespace FlyNes.LanMvp

open ByteString
open Chronology
open Lockstep (wrap64 Frame Buffer)
open Wire (Kind Message)

/-!
# Lockstep agreement

What a side has taken in a round was sent in the same round by its peer, in the
same order.  So both sides run every frame of a round with the same masks, no
input ever falls outside the peer's window, and the two sides stay within the
input delay of each other.
-/

/-- A guest that holds inputs has heard of the round they belong to. -/
def Party.Informed {R : Type} (party : Party R) : Prop :=
  party.game.inputs.isSome → underway (heard party.log) = true

namespace Act

variable
  {R : Type}
  {env : Env R}
  {label : Label}
  {party after : Party R}
  {output : Option Message}

theorem informed
    (act : Act env label party output after)
    (stopped : party.Stopped)
    (seated : party.Seated .guest)
    (before : party.Informed) :
    after.Informed := by
  unfold Party.Informed at before ⊢
  rw [act.heard_eq]
  by_cases ended : party.game.state = .ended
  · obtain ⟨_, _, _, _, _, _, _, none⟩ := act.of_ended ended stopped
    simp [none]
  · have role : party.game.role = .host → party.game.state = .idle := by
      intro host
      rcases seated with ⟨guest, _⟩ | ⟨idle | gone, _⟩
      · rw [host] at guest
        cases guest
      · exact idle
      · exact absurd gone ended
    cases act with
    | frame ready ran due =>
        obtain ⟨buffer, present, _⟩ := ready.popped
        simp_all [Label.input]
    | digest ready ran due copied agreement =>
        obtain ⟨buffer, present, _⟩ := ready.popped
        simp_all [Label.input]
    | ignored message owed alive ignores =>
        have stays : ¬ OpensLobby message := by
          intro opens
          rcases seated with ⟨guest, _⟩ | ⟨idle | gone, _⟩
          · exact ignores.not_opensLobby guest opens
          · cases ignores <;> simp_all [OpensLobby]
          · exact ended gone
        simp_all [Label.input]
    | _ =>
        simp_all [Label.input, OpensLobby, Game.Startable, Game.Accepts]

/-- A mask is stored when an input reaches a running side. -/
theorem stored_cases
    (act : Act env label party output after)
    {frame : Nat}
    {result : Lockstep.Put}
    (stored : .stored frame result ∈ after.log) :
    .stored frame result ∈ party.log ∨
      ∃ message buffer,
        label.input = [message] ∧
        message.kind = .input ∧
        party.game.state = .running ∧
        party.game.inputs = some buffer ∧
        (buffer.putRemote (bigEndianU64 message.payload)
          (bigEndianU32 (message.payload.drop 8))).1 = result := by
  cases act with
  | @inputHeard _ before rest answer message owed kind accepts present put
      unconflicted inside =>
      have running : party.game.state = .running := by
        simp_all [Game.Accepts]
      simp only [Party.become, Party.receipt, List.mem_append, List.mem_cons,
        reduceCtorEq, Effect.stored.injEq, List.not_mem_nil, or_false,
        false_or] at stored
      rcases stored with old | ⟨_, rfl⟩
      · exact Or.inl old
      · exact Or.inr ⟨message, before, rfl, kind, running, present,
          by rw [put]⟩
  | @inputRefused _ before rest answer message owed kind accepts present put
      bad =>
      have running : party.game.state = .running := by
        simp_all [Game.Accepts]
      simp only [Party.finish, Party.receipt, List.mem_append, List.mem_cons,
        reduceCtorEq, Effect.stored.injEq, List.not_mem_nil, or_false,
        false_or] at stored
      rcases stored with old | ⟨_, rfl⟩
      · exact Or.inl old
      · exact Or.inr ⟨message, before, rfl, kind, running, present,
          by rw [put]⟩
  | _ =>
      simp_all

end Act

variable {side : Side} {steps : List FrameInput} {sent taken : List (Nat × UInt32)}

/-- A frame a side has run is known with its peer's mask. -/
theorem Book.known_of_lt
    (book : Book side steps sent taken)
    {frame : Nat}
    (ran : frame < steps.length) :
    ∃ mask, Known taken frame mask := by
  have listed : frame ∈ steps.map FrameInput.frameIndex := by
    rw [book.frames]
    exact List.mem_range.mpr ran
  obtain ⟨input, member, rfl⟩ := List.mem_map.mp listed
  exact ⟨_, book.theirs input member⟩

/-- The next input the peer has sent falls into an empty place of the window. -/
theorem Live.accepts
    {R : Type}
    {game : Game R}
    {buffer : Buffer}
    {peerSteps : List FrameInput}
    {peerSent peerTaken rest : List (Nat × UInt32)}
    {index : Nat}
    {mask : UInt32}
    (live : Live game buffer steps sent taken)
    (book : Book side steps sent taken)
    (peer : Book side.other peerSteps peerSent peerTaken)
    (next : peerSent = taken ++ (index, mask) :: rest)
    (delivered : ∀ item ∈ peerTaken, item ∈ sent) :
    (buffer.putRemote index mask).1 = .accepted := by
  have inRange : index ∈ peerSent.map Prod.fst := by
    simp [next]
  rw [peer.inputs, List.mem_range'_1] at inRange
  have increasing : (peerSent.map Prod.fst).Pairwise (· < ·) := by
    rw [peer.inputs]
    exact List.pairwise_lt_range'
  have unknown : ∀ other, ¬ Known taken index other := by
    rintro other (⟨early, _⟩ | listed)
    · omega
    · rw [next, List.map_append, List.pairwise_append] at increasing
      exact Nat.lt_irrefl index
        (increasing.2.2 index (List.mem_map.mpr ⟨_, listed, rfl⟩) index
          (by simp))
  have notLate : steps.length ≤ index := by
    by_contra late
    obtain ⟨other, known⟩ := book.known_of_lt (Nat.lt_of_not_le late)
    exact unknown other known
  have inside : index < steps.length + kInputWindow := by
    have lead := peer.lead
    obtain ⟨other, known⟩ :=
      peer.known_of_lt (show index - kInputDelay < peerSteps.length by omega)
    unfold kInputWindow
    rcases known with ⟨early, _⟩ | listed
    · unfold kInputDelay at early
      omega
    · have ours := book.bounds_of_sent (delivered _ listed)
      have bound := book.lead
      unfold kInputDelay at ours
      omega
  have empty : buffer.mask false index = none := by
    cases present : buffer.mask false index with
    | none =>
        rfl
    | some other =>
        exact absurd (live.theirs index other present) (unknown other)
  unfold Buffer.putRemote
  rw [Buffer.put_of_empty mask (by rw [live.nextFrame]; exact notLate)
    (by rw [live.nextFrame, live.window]; exact inside) empty]

/-- Both sides keep their ledgers. -/
structure Duo.Kept {R : Type} (duo : Duo R) : Prop where
  ledger : ∀ side, (duo.party side).Ledger side
  informed : duo.guest.Informed

namespace Duo

variable
  {R : Type}
  {world : World R}
  {careful : Duo R → Side → Label → Prop}
  {side : Side}
  {label : Label}
  {duo after : Duo R}

theorem Kept.initial :
    ({} : Duo R).Kept := by
  have ledger : ∀ side, (({} : Party R)).Ledger side := by
    intro side
    refine ⟨?_, ?_, ?_, fun _ => Book.empty, ?_⟩
    · intro step member
      cases member
    · intro letter member
      cases member
    · intro receipt member
      cases member
    · intro buffer present
      cases present
  refine ⟨?_, ?_⟩
  · intro side
    cases side <;> exact ledger _
  · intro present
    cases present

/-- No `Start` reaches a side that still holds the inputs of a round. -/
theorem Coherent.fresh
    (coherent : duo.Coherent)
    (informed : duo.guest.Informed)
    (hears :
      heard (duo.party side).log ++ label.input <+:
        posted (duo.party side.other).log) :
    ∀ message ∈ label.input,
      message.kind = .start → (duo.party side).game.inputs = none := by
  intro message taken start
  cases side with
  | host =>
      have quiet := coherent.trails.mute message
        (hears.subset (List.mem_append_right _ taken))
      exact absurd start quiet.1
  | guest =>
      rcases label.input_cases with empty | ⟨other, single⟩
      · rw [empty] at taken
        cases taken
      · rw [single] at taken hears
        obtain rfl := List.mem_singleton.mp taken
        have sober := coherent.leads.sober.of_within hears
        have unstarted := sober (heard duo.guest.log) message [] rfl start
        cases present : (duo.party .guest).game.inputs with
        | none =>
            rfl
        | some buffer =>
            have started := informed (by
              change (duo.party .guest).game.inputs.isSome
              simp [present])
            rw [unstarted] at started
            cases started

/-- An act of a step is a turn of its round. -/
theorem Kept.step
    (kept : duo.Kept)
    (coherent : duo.Coherent)
    (step : Step world side label duo after) :
    after.Kept := by
  cases step with
  | @act party output acted sound opens deaf hears =>
      have within := acted.heard_within hears
      have turn := acted.turn (coherent.stopped side) (coherent.steady side)
        (fun _ => coherent.fresh kept.informed within)
      have ledger :=
        acted.ledger turn (coherent.seated side) (kept.ledger side)
      cases side with
      | host =>
          refine ⟨?_, kept.informed⟩
          rintro (_ | _)
          · exact ledger
          · exact kept.ledger .guest
      | guest =>
          refine ⟨?_, ?_⟩
          · rintro (_ | _)
            · exact kept.ledger .host
            · exact ledger
          · exact acted.informed (coherent.stopped .guest)
              (coherent.seated .guest) kept.informed

theorem Kept.reaches
    (reaches : Reaches world careful {} duo) :
    duo.Kept := by
  induction reaches with
  | refl =>
      exact Kept.initial
  | tail reaches step inductionHypothesis =>
      obtain ⟨_, _, step, _⟩ := step
      exact inductionHypothesis.step (Coherent.reaches reaches) step

/--
A message of a round is received in its round, or by a side that has left it:
such a side plays a later round if it plays at all.
-/
theorem plays_received
    (reaches : Reaches world careful {} duo)
    {letter : Letter}
    {receipt : Receipt}
    (paired : (letter, receipt) ∈ duo.exchanged side)
    (plays : Plays letter.message) :
    (receipt.state = .running ∧ letter.stamp.round = receipt.stamp.round) ∨
      (receipt.state = .returning ∧
        ((duo.party side).game.state = .running →
          letter.stamp.round < (duo.party side).stamp.round)) := by
  have coherent := Coherent.reaches reaches
  cases side with
  | host =>
      have receives := host_receives reaches letter receipt paired
      obtain ⟨before, later, front, back, posts, mail, same, message⟩ :=
        (coherent.follows .host).of_mem_zip paired
      obtain ⟨_, known, knownWithin, sent, started⟩ :=
        coherent.trails.letters before letter later posts
      obtain ⟨_, _, told, toldWithin, stamp, _⟩ :=
        coherent.leads.receipts front receipt back mail
      have other : receipt.message.kind ≠ .lobbyAck := by
        rw [← message]
        rcases plays with kind | kind | kind <;> simp [kind]
      rw [receives.message] at plays
      rcases receives.plays plays with playing | returning
      · exact Or.inl playing
      · refine Or.inr ⟨returning, ?_⟩
        intro running
        have alive : duo.host.game.state ≠ .ended := by
          change duo.host.game.state = .running at running
          simp [running]
        have epoch := receives.epoch other
        rw [returning] at epoch
        have later : letter.stamp.epoch < duo.host.stamp.epoch := by
          have bound : receipt.stamp.epoch ≤ duo.host.stamp.epoch := by
            obtain ⟨rest, told⟩ := toldWithin
            rw [stamp, coherent.leads.stamp, ← told]
            exact (travel_le _ _).1
          have one : State.awaited .returning = 1 := rfl
          omega
        rw [sent, coherent.leads.stamp] at later
        change _ < duo.host.stamp.round
        rw [sent, coherent.leads.stamp]
        exact round_lt_of_epoch_lt
          (knownWithin.trans (coherent.hears .guest)) later
          ((coherent.leads.led alive).mpr running)
  | guest =>
      obtain ⟨message, stamp, states⟩ := coherent.guest_receives paired
      obtain ⟨before, later, front, back, posts, mail, same, _⟩ :=
        (coherent.follows .guest).of_mem_zip paired
      obtain ⟨place, _, _⟩ := coherent.trails.receipts front receipt back mail
      rw [message] at plays
      have stays : letter.stamp = receipt.stamp := by
        rw [stamp]
        rcases plays with kind | kind | kind <;>
          simp [Stamp.follow, OpensLobby, kind, nextRound]
      rcases states plays with running | returning
      · exact Or.inl ⟨running, by rw [stays]⟩
      · refine Or.inr ⟨returning, ?_⟩
        intro running
        have running : duo.guest.game.state = .running := running
        have member : receipt ∈ (accountOf duo.guest.log).mail := by
          have mail : (accountOf duo.guest.log).mail =
              front ++ receipt :: back := mail
          simp [mail]
        have past : receipt.stamp.epoch < duo.guest.stamp.epoch := by
          rcases coherent.trails.absent receipt member returning with
            still | ended | past
          · simp [running] at still
          · simp [running] at ended
          · exact past
        have within : front.map Receipt.message <+: heard duo.guest.log := by
          have mail : (accountOf duo.guest.log).mail =
              front ++ receipt :: back := mail
          rw [← map_mail, mail, List.map_append]
          exact List.prefix_append _ _
        rw [place, coherent.trails.stamp] at past
        change _ < duo.guest.stamp.round
        rw [stays, place, coherent.trails.stamp]
        exact round_lt_of_epoch_lt within past (coherent.trails.led.1 running)

section Readings

variable {Item : Type} {read : Message → Option Item} {round : Nat}

/-- What a side has taken in a round was sent in that round. -/
theorem sent_of_taken
    (reaches : Reaches world careful {} duo)
    (ofRound : ∀ message, ¬ Plays message → read message = none)
    {item : Item}
    (taken :
      item ∈ takenIn read round (accountOf (duo.party side).log).mail) :
    item ∈ sentIn read round (accountOf (duo.party side.other).log).posts := by
  obtain ⟨receipt, member, reading⟩ := List.mem_filterMap.mp taken
  obtain ⟨letter, same, paired⟩ :=
    ((Coherent.reaches reaches).follows side).exists_partner member
  split at reading
  · next present =>
      have plays : Plays letter.message := by
        by_contra quiet
        rw [same] at quiet
        rw [ofRound _ quiet] at reading
        cases reading
      refine List.mem_filterMap.mpr
        ⟨letter, (List.of_mem_zip paired).1, ?_⟩
      rcases plays_received reaches paired plays with
        ⟨_, rounds⟩ | ⟨returning, _⟩
      · rw [if_pos (rounds.trans present.2), same]
        exact reading
      · rw [present.1] at returning
        cases returning
  · cases reading

/-- A running side has taken what was sent in its round, in order. -/
theorem taken_eq_sent
    (reaches : Reaches world careful {} duo)
    (ofRound : ∀ message, ¬ Plays message → read message = none)
    (running : (duo.party side).game.state = .running)
    (current : (duo.party side).stamp.round = round) :
    takenIn read round (accountOf (duo.party side).log).mail =
      sentIn read round
        ((accountOf (duo.party side.other).log).posts.take
          (accountOf (duo.party side).log).mail.length) := by
  have follows := (Coherent.reaches reaches).follows side
  refine Follows.filterMap_of_zip follows.length_le ?_
  intro letter receipt paired
  have same : letter.message = receipt.message := by
    obtain ⟨_, _, _, _, _, _, _, message⟩ := follows.of_mem_zip paired
    exact message
  by_cases plays : Plays letter.message
  · rcases plays_received reaches paired plays with
      ⟨playing, rounds⟩ | ⟨returning, past⟩
    · simp only [rounds, playing, same, true_and]
    · have gone : letter.stamp.round ≠ round := by
        have bound := past running
        omega
      simp [gone, returning]
  · have silent := ofRound letter.message plays
    rw [← same, silent]
    simp

end Readings

/-- An input message belongs to a round. -/
theorem inputOf_ofRound
    (message : Message)
    (quiet : ¬ Plays message) :
    inputOf message = none :=
  inputOf_of_kind (fun kind => quiet (Or.inl kind))

/-- Masks that are sent and taken for one frame of a round are the same. -/
theorem Known.unique
    {steps : List FrameInput}
    {sent taken heard : List (Nat × UInt32)}
    (book : Book side steps sent heard)
    (delivered : ∀ item ∈ taken, item ∈ sent)
    {frame : Nat}
    {ours theirs : UInt32}
    (known : Known sent frame ours)
    (told : Known taken frame theirs) :
    ours = theirs := by
  have distinct : (sent.map Prod.fst).Nodup := by
    rw [book.inputs]
    exact List.nodup_range'
  rcases known with ⟨early, rfl⟩ | sentOurs
  · rcases told with ⟨_, rfl⟩ | takenTheirs
    · rfl
    · have bound := book.bounds_of_sent (delivered _ takenTheirs)
      omega
  · rcases told with ⟨early, rfl⟩ | takenTheirs
    · have bound := book.bounds_of_sent sentOurs
      omega
    · have same := List.inj_on_of_nodup_map distinct sentOurs
        (delivered _ takenTheirs) rfl
      exact (Prod.mk.inj same).2

/-- Both sides run every frame of a round with the same masks. -/
theorem same_buttons
    (reaches : Reaches world careful {} duo)
    {round : Nat}
    {hostInput guestInput : FrameInput}
    (hostRan :
      hostInput ∈ stepsIn round (accountOf duo.host.log).steps)
    (guestRan :
      guestInput ∈ stepsIn round (accountOf duo.guest.log).steps)
    (same : hostInput.frameIndex = guestInput.frameIndex) :
    hostInput.buttons = guestInput.buttons := by
  have kept := Kept.reaches reaches
  have hostBook := (kept.ledger .host).book round
  have guestBook := (kept.ledger .guest).book round
  have hostMask : hostInput.maskOf .host = guestInput.maskOf .host := by
    have known := hostBook.ours hostInput hostRan
    have told := guestBook.theirs guestInput guestRan
    rw [← same] at told
    exact Known.unique hostBook
      (fun item taken => sent_of_taken reaches inputOf_ofRound taken)
      known told
  have guestMask : guestInput.maskOf .guest = hostInput.maskOf .guest := by
    have known := guestBook.ours guestInput guestRan
    have told := hostBook.theirs hostInput hostRan
    rw [same] at told
    exact Known.unique guestBook
      (fun item taken => sent_of_taken reaches inputOf_ofRound taken)
      known told
  exact Prod.ext hostMask guestMask.symm

theorem Coherent.length_exchanged
    (coherent : duo.Coherent)
    (side : Side) :
    (duo.exchanged side).length =
      (accountOf (duo.party side).log).mail.length := by
  have bound := (coherent.follows side).length_le
  unfold exchanged
  rw [List.length_zip]
  omega

/-- The letter a message that is taken now has come in. -/
theorem Coherent.next_letter
    (coherent : duo.Coherent)
    (step : Step world side label duo after)
    {message : Message}
    (taken : label.input = [message]) :
    ∃ before letter later,
      letter.message = message ∧
      (accountOf (duo.party side.other).log).posts =
        before ++ letter :: later ∧
      before.length = (accountOf (duo.party side).log).mail.length ∧
      (letter, (⟨(duo.party side).game.state, (duo.party side).stamp,
        message⟩ : Receipt)) ∈ after.exchanged side := by
  have later := coherent.step step
  rcases coherent.exchanged_step step side with
    same | ⟨before, letter, rest, _, single, posts, told, more⟩
  · have lengths := later.length_exchanged side
    rw [same, coherent.length_exchanged side] at lengths
    cases step with
    | act acted sound opens deaf hears =>
        rw [party_set, acted.mail_eq, taken] at lengths
        simp at lengths
  · rw [taken, List.cons.injEq] at single
    obtain ⟨rfl, _⟩ := single
    refine ⟨before, letter, rest, rfl, posts, ?_, ?_⟩
    · have lengths := congrArg List.length told
      rw [← map_mail] at lengths
      simpa using lengths
    · rw [more]
      simp

/-- Every input that reaches a running side is accepted. -/
theorem input_accepted
    (reaches : Reaches world careful {} duo)
    (step : Step world side label duo after)
    (allowed : label.Decides → careful duo side label)
    {message : Message}
    (taken : label.input = [message])
    (kind : message.kind = .input)
    (running : (duo.party side).game.state = .running)
    {buffer : Buffer}
    (present : (duo.party side).game.inputs = some buffer) :
    (buffer.putRemote (bigEndianU64 message.payload)
      (bigEndianU32 (message.payload.drop 8))).1 = .accepted := by
  have coherent := Coherent.reaches reaches
  have kept := Kept.reaches reaches
  have afterReaches : Reaches world careful {} after :=
    reaches.tail ⟨side, label, step, allowed⟩
  obtain ⟨before, letter, later, rfl, posts, length, paired⟩ :=
    coherent.next_letter step taken
  have plays : Plays letter.message := Or.inl kind
  have round : letter.stamp.round = (duo.party side).stamp.round := by
    rcases plays_received afterReaches paired plays with
      ⟨_, rounds⟩ | ⟨returning, _⟩
    · exact rounds
    · rw [running] at returning
      cases returning
  generalize current : (duo.party side).stamp.round = now at round
  have live := (kept.ledger side).live buffer present
  have book := (kept.ledger side).book now
  have peer := (kept.ledger side.other).book now
  rw [current] at live
  -- The letter is the next of its round that the side has not taken yet.
  have reading :
      inputOf letter.message =
        some (bigEndianU64 letter.message.payload,
          bigEndianU32 (letter.message.payload.drop 8)) := by
    simp [inputOf, kind]
  have takenSent :=
    taken_eq_sent reaches inputOf_ofRound running current
  rw [posts, ← length, List.take_left] at takenSent
  have sent :
      sentIn inputOf now (accountOf (duo.party side.other).log).posts =
        takenIn inputOf now (accountOf (duo.party side).log).mail ++
          (bigEndianU64 letter.message.payload,
            bigEndianU32 (letter.message.payload.drop 8)) ::
            sentIn inputOf now later := by
    rw [posts, takenSent, sentIn_append]
    congr 1
    simp [sentIn, round, reading]
  exact live.accepts book peer sent
    (fun item heard => by
      have delivered := sent_of_taken reaches inputOf_ofRound heard
      rwa [side.other_other] at delivered)

/-- The sides of a round stay within the input delay of each other. -/
theorem steps_close
    (reaches : Reaches world careful {} duo)
    (side : Side)
    (round : Nat) :
    (stepsIn round (accountOf (duo.party side).log).steps).length ≤
      (stepsIn round (accountOf (duo.party side.other).log).steps).length +
        kInputDelay := by
  have kept := Kept.reaches reaches
  have book := (kept.ledger side).book round
  have peer := (kept.ledger side.other).book round
  by_cases early :
      (stepsIn round (accountOf (duo.party side).log).steps).length ≤
        kInputDelay
  · omega
  · obtain ⟨mask, known⟩ :=
      book.known_of_lt
        (show (stepsIn round (accountOf (duo.party side).log).steps).length - 1 <
            (stepsIn round (accountOf (duo.party side).log).steps).length by
          omega)
    rcases known with ⟨first, _⟩ | taken
    · omega
    · have bounds := peer.bounds_of_sent
        (sent_of_taken reaches inputOf_ofRound taken)
      have lead := peer.lead
      omega

/-- Every mask of the peer that a side has stored was accepted. -/
theorem stored_accepted
    (reaches : Reaches world careful {} duo)
    (side : Side)
    (frame : Nat)
    (result : Lockstep.Put)
    (stored : .stored frame result ∈ (duo.party side).log) :
    result = .accepted := by
  induction reaches with
  | refl =>
      cases side <;> cases stored
  | @tail duo after reaches step inductionHypothesis =>
      obtain ⟨other, label, step, allowed⟩ := step
      have taking := @input_accepted _ _ _ _ _ _ _ reaches step allowed
      cases step with
      | @act party output acted sound opens deaf hears =>
          by_cases mine : side = other
          · subst mine
            rw [party_set] at stored
            rcases acted.stored_cases stored with old | ⟨message, buffer, taken,
              kind, running, present, answer⟩
            · exact inductionHypothesis old
            · rw [← answer]
              exact taking taken kind running present
          · have theirs : side = other.other := by
              cases side <;> cases other <;> simp_all [Side.other]
            subst theirs
            rw [party_set_other] at stored
            exact inductionHypothesis stored

end Duo

namespace Net

variable {R : Type}

theorem account_duo
    (net : Net R)
    (side : Side) :
    net.account side = accountOf (net.duo.party side).log := by
  cases side <;> rfl

/-- The frames one end has run in a round. -/
def stepsOf (net : Net R) (side : Side) (round : Nat) : List FrameInput :=
  stepsIn round (net.account side).steps

/--
Whatever happens, each end runs the frames of every round in order from zero,
the present round's as many as it has completed, and a frame of a round that
both ends have run was run with the same buttons.
-/
theorem lockstep_agreement
    (world : World R)
    (happenings : List Happening) :
    let net := run world happenings
    (∀ side round,
      (net.stepsOf side round).map FrameInput.frameIndex =
        List.range (net.stepsOf side round).length) ∧
      (∀ side,
        (net.endpoint side).session.inputs.isSome →
        (net.stepsOf side (net.account side).round).map
            FrameInput.frameIndex =
          List.range (net.endpoint side).session.completedFrames) ∧
      (∀ round,
        ∀ hostInput ∈ net.stepsOf .host round,
        ∀ guestInput ∈ net.stepsOf .guest round,
        hostInput.frameIndex = guestInput.frameIndex →
        hostInput.buttons = guestInput.buttons) := by
  intro net
  have reaches := run_reaches_any world happenings
  have kept := Duo.Kept.reaches reaches
  have frames :
      ∀ side round,
        (net.stepsOf side round).map FrameInput.frameIndex =
          List.range (net.stepsOf side round).length := by
    intro side round
    have book := (kept.ledger side).book round
    rw [← account_duo] at book
    exact book.frames
  refine ⟨frames, ?_, ?_⟩
  · intro side present
    obtain ⟨buffer, inputs⟩ := Option.isSome_iff_exists.mp present
    have live := (kept.ledger side).live buffer (by
      rw [duo_party]
      exact inputs)
    rw [frames]
    have completed := live.completed
    rw [duo_party] at completed
    exact congrArg List.range completed.symm
  · intro round hostInput hostRan guestInput guestRan same
    exact Duo.same_buttons reaches hostRan guestRan same

/--
Whatever happens, every input that is stored in a round is accepted by the
buffer, the sides of a round stay within the input delay of each other, and as
long as an end holds a round it has submitted at most that many frames ahead.
-/
theorem input_window
    (world : World R)
    (happenings : List Happening) :
    let net := run world happenings
    (∀ side frame result,
      .stored frame result ∈ (net.endpoint side).session.log →
      result = .accepted) ∧
      (∀ side,
        (net.endpoint side).session.inputs.isSome →
        (net.endpoint side).session.nextSubmitFrame ≤
            (net.endpoint side).session.completedFrames + 2 ∧
          (net.endpoint side).session.completedFrames =
            (net.stepsOf side (net.account side).round).length) ∧
      (∀ side round,
        (net.stepsOf side round).length ≤
          (net.stepsOf side.other round).length + 2) := by
  intro net
  have reaches := run_reaches_any world happenings
  have kept := Duo.Kept.reaches reaches
  refine ⟨?_, ?_, ?_⟩
  · intro side frame result stored
    refine Duo.stored_accepted reaches side frame result ?_
    rw [duo_party]
    exact stored
  · intro side present
    obtain ⟨buffer, inputs⟩ := Option.isSome_iff_exists.mp present
    have ledger := kept.ledger side
    have live := ledger.live buffer (by
      rw [duo_party]
      exact inputs)
    have lead := (ledger.book (net.duo.party side).stamp.round).lead
    have completed := live.completed
    have nextSubmit := live.nextSubmit
    change (net.duo.party side).game.completedFrames = _ at completed
    change (net.duo.party side).game.nextSubmitFrame = _ at nextSubmit
    rw [duo_party] at completed nextSubmit lead
    refine ⟨?_, completed⟩
    change (net.endpoint side).station.party.game.nextSubmitFrame ≤
      (net.endpoint side).station.party.game.completedFrames + 2
    rw [nextSubmit, completed]
    unfold kInputDelay
    omega
  · intro side round
    have close := Duo.steps_close reaches side round
    rw [← account_duo, ← account_duo] at close
    exact close

end Net

/-- Two phones with the same deterministic runtime and standing clocks. -/
def sampleWorld : World Unit where
  runtime := fun _ => sampleEnv.runtime
  sha256 := sampleEnv.sha256
  clock := fun _ _ => 0

/-- A completion is delivered and consumed. -/
def served
    (side : Side)
    (operation resource : Nat)
    (bytes : Bytes) : List Happening :=
  [.deliver side ⟨operation, quicOk, resource, bytes⟩,
    .call side .snapshotRead]

/-- A host invites, a guest joins, and both come to the lobby. -/
def sampleMeeting : List Happening :=
  [.call .host (.host (ascii "10.0.0.1") default),
    .call .guest
      (.join (ascii "10.0.0.2") ((formatInvite sampleInvite).getD []))] ++
    served .host 1 5 [1] ++ served .host 2 6 (ascii ":5000") ++
    served .host 3 7 [] ++ served .host 4 8 (appendU64 9) ++
    served .guest 1 7 [] ++ served .guest 2 8 (appendU64 9) ++
    served .host 5 0 (Message.frame ⟨.join, (default : Block 16).bytes⟩) ++
    served .host 6 0 [] ++ served .guest 3 0 [] ++
    served .guest 4 0 (Message.frame ⟨.accept, (default : Block 16).bytes⟩)

/-- What both phones announce as their configuration. -/
def sampleConfig : Message :=
  ⟨.config, (default : Hash).bytes ++ (default : Hash).bytes⟩

/-- The confirmation of that configuration. -/
def sampleReady : Message :=
  ⟨.ready, (default : Hash).bytes⟩

/-- Host and guest select and confirm the same game, and the host plays it. -/
def samplePlay : List Happening :=
  sampleMeeting ++ [.call .guest (.selectGame [1] [])] ++
    served .host 7 0 sampleConfig.frame ++
    [.call .host (.selectGame [1] []), .call .guest .confirm] ++
    served .guest 6 0 [] ++ served .host 8 0 sampleReady.frame ++
    [.call .host .confirm]

/-- After a game, the count of the next one starts below what was submitted. -/
theorem submitted_beyond_cleared_frames :
    let net := Net.run sampleWorld
      (samplePlay ++
        [.call .host (.submitInput 1), .call .host .returnLobby])
    net.host.session.state = .returning ∧
      ¬ net.host.session.nextSubmitFrame ≤
        net.host.session.completedFrames + 2 := by
  decide +kernel

end FlyNes.LanMvp
