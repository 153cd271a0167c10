import FlyNes.LanCourse
import FlyNes.LanNet

namespace FlyNes.LanMvp

open Chronology
open Lockstep (wrap64)
open Wire (Kind Message)

/-!
# The lobby barrier

Every message a guest sends is stamped with the number of lobbies it has
acknowledged, and a host that awaits no acknowledgement is in the lobby its
guest has acknowledged last.  So whatever passes the barrier on either side
belongs to the game it is applied to.
-/

/-- The lobbies of a host are numbered from one. -/
def Numbered (messages : List Message) : Prop :=
  lobbies messages =
    (List.range (travel messages).epoch).map
      fun count => appendU64 (wrap64 (count + 1))

theorem Numbered.of_within
    {first second : List Message}
    (numbered : Numbered second)
    (within : first <+: second) :
    Numbered first := by
  have shorter := List.prefix_iff_eq_take.mp (lobbies_within within)
  have bound := (lobbies_within within).length_le
  unfold Numbered at numbered ⊢
  rw [travel_epoch] at numbered ⊢
  rw [numbered, ← List.map_take, List.take_range,
    Nat.min_eq_left bound] at shorter
  exact shorter

/-- Lobbies numbered from one carry the number of lobbies. -/
theorem Numbered.generation
    {messages : List Message}
    (numbered : Numbered messages) :
    (travel messages).generation = wrap64 (travel messages).epoch := by
  induction messages using List.reverseRecOn with
  | nil =>
      rfl
  | append_singleton messages message inductionHypothesis =>
      have before := numbered.of_within (List.prefix_append messages [message])
      rw [travel_concat]
      by_cases opens : OpensLobby message
      · have shape : lobbies [message] = [message.payload] := by
          simp [lobbies, opens]
        unfold Numbered at numbered before
        rw [lobbies_append, shape, before, travel_concat] at numbered
        simp only [Stamp.follow, opens, if_true, List.range_succ,
          List.map_append, List.map_cons, List.map_nil] at numbered ⊢
        have payload := (List.cons.inj (List.append_cancel_left numbered)).1
        rw [payload]
        simp
      · simp only [Stamp.follow, opens, if_false]
        exact inductionHypothesis before

/-- A party that plays its side, or has not been opened. -/
def Party.Seated {R : Type} (side : Side) (party : Party R) : Prop :=
  (party.game.role = side.role ∧ party.game.state ≠ .idle) ∨
    ((party.game.state = .idle ∨ party.game.state = .ended) ∧
      posted party.log = [] ∧ heard party.log = [])

/-- A party that has been opened and has not ended plays its side. -/
theorem Party.Seated.role_eq
    {R : Type}
    {side : Side}
    {party : Party R}
    (seated : party.Seated side)
    (opened : party.game.state ≠ .idle)
    (alive : party.game.state ≠ .ended) :
    party.game.role = side.role := by
  rcases seated with ⟨role, _⟩ | ⟨idle | ended, _⟩
  · exact role
  · exact absurd idle opened
  · exact absurd ended alive

/-- A guest's letter is stamped with the lobbies acknowledged so far. -/
def Letter.Trailing
    (known : List Message)
    (earlier : List Letter)
    (letter : Letter) : Prop :=
  (acks ((earlier ++ [letter]).map Letter.message)).length =
      letter.stamp.epoch ∧
    ∃ messages,
      messages <+: known ∧
      letter.stamp = travel messages ∧
      (Plays letter.message → underway messages = true)

/-- A guest's receipt is stamped with what the guest has heard so far. -/
def Receipt.Trailing (earlier : List Receipt) (receipt : Receipt) : Prop :=
  receipt.stamp = travel (earlier.map Receipt.message) ∧
    receipt.state ≠ .ended ∧
    receipt.state.Led (underway (earlier.map Receipt.message))

/-- A host's letter is stamped with what the host has sent so far. -/
def Letter.Leading (earlier : List Letter) (letter : Letter) : Prop :=
  letter.stamp = travel ((earlier ++ [letter]).map Letter.message) ∧
    (Plays letter.message → underway (earlier.map Letter.message) = true)

/-- A host's receipt is stamped with the acknowledgements heard so far. -/
def Receipt.Leading
    (told : List Message)
    (earlier : List Receipt)
    (receipt : Receipt) : Prop :=
  receipt.stamp.epoch =
      (acks (earlier.map Receipt.message)).length + receipt.state.awaited ∧
    receipt.state ≠ .ended ∧
    ∃ messages,
      messages <+: told ∧
      receipt.stamp = travel messages ∧
      (underway messages = true ↔ receipt.state = .running)

/-- A guest is where the messages it has heard lead. -/
structure Party.Trails {R : Type} (party : Party R) : Prop where
  stamp : party.stamp = travel (heard party.log)
  mute :
    ∀ message ∈ posted party.log,
      message.kind ≠ .start ∧ message.kind ≠ .lobby ∧
        message.kind ≠ .accept
  acked : acks (posted party.log) = lobbies (heard party.log)
  led : party.game.state.Led (underway (heard party.log))
  letters :
    Every (Letter.Trailing (heard party.log)) (accountOf party.log).posts
  receipts : Every Receipt.Trailing (accountOf party.log).mail
  absent :
    ∀ receipt ∈ (accountOf party.log).mail,
      receipt.state = .returning →
      party.game.state = .returning ∨ party.game.state = .ended ∨
        receipt.stamp.epoch < party.stamp.epoch

/-- A host is where the messages it has sent lead. -/
structure Party.Leads {R : Type} (party : Party R) : Prop where
  stamp : party.stamp = travel (posted party.log)
  numbered : Numbered (posted party.log)
  sober : Sober (posted party.log)
  acked :
    party.game.state ≠ .ended →
    party.stamp.epoch =
      (acks (heard party.log)).length + party.game.state.awaited
  led :
    party.game.state ≠ .ended →
    (underway (posted party.log) = true ↔ party.game.state = .running)
  letters : Every Letter.Leading (accountOf party.log).posts
  receipts :
    Every (Receipt.Leading (posted party.log)) (accountOf party.log).mail

namespace Act

variable
  {R : Type}
  {env : Env R}
  {label : Label}
  {side : Side}
  {party after : Party R}
  {output : Option Message}

variable (act : Act env label party output after)

include act

/-- A party keeps its seat. -/
theorem seated
    (stopped : party.Stopped)
    (steady : party.Steady)
    (opens : ∀ role, label = .opened role → role = side.role)
    (deaf : party.game.state = .idle → label.input = [])
    (before : party.Seated side) :
    after.Seated side := by
  rcases before with ⟨role, opened⟩ | ⟨idle | ended, mute, unheard⟩
  · left
    have unopened : ∀ role, label ≠ .opened role := by
      rintro role rfl
      exact opened act.idle_of_opened.1
    exact ⟨(act.role_eq unopened).trans role,
      fun idle => opened (act.idle_of_idle idle).1⟩
  · obtain ⟨rfl, _, state⟩ := act.of_idle steady idle (deaf idle)
    rcases state with ⟨role, rfl, state⟩ | state
    · left
      refine ⟨act.idle_of_opened.2.trans (opens role rfl), ?_⟩
      rcases state with state | state <;> simp [state]
    · right
      rw [act.posted_eq, act.heard_eq, mute, unheard, deaf idle]
      exact ⟨state, rfl, rfl⟩
  · right
    obtain ⟨_, _, log, still, _⟩ := act.of_ended ended stopped
    rw [log]
    exact ⟨Or.inr still, mute, unheard⟩

/-- What a party that is not playing its side may still do. -/
theorem of_unplayed
    (stopped : party.Stopped)
    (steady : party.Steady)
    (seated : party.Seated side)
    (deaf : party.game.state = .idle → label.input = [])
    (unplayed :
      ¬ (party.game.role = side.role ∧ party.game.state ≠ .ended)) :
    output = none ∧ label.input = [] ∧ after.stamp = party.stamp ∧
      (after.game.state = .ended ∨
        posted party.log = [] ∧ heard party.log = [] ∧
          (after.game.state = .idle ∨ after.game.state = .inviting ∨
            after.game.state = .joining)) := by
  by_cases ended : party.game.state = .ended
  · obtain ⟨rfl, rfl, log, still, _⟩ := act.of_ended ended stopped
    have stamp : after.stamp = party.stamp := by
      cases act with
      | drift next ours theirs owed _ =>
          rfl
      | _ =>
          simp_all
    exact ⟨rfl, rfl, stamp, Or.inl still⟩
  · rcases seated with ⟨role, _⟩ | ⟨state, mute, unheard⟩
    · exact absurd ⟨role, ended⟩ unplayed
    · have idle : party.game.state = .idle := state.resolve_right ended
      obtain ⟨rfl, stamp, next⟩ := act.of_idle steady idle (deaf idle)
      refine ⟨rfl, deaf idle, stamp, ?_⟩
      rcases next with ⟨_, _, next | next⟩ | next | next <;>
        simp [next, mute, unheard]

/-- Only a party that plays its side hears anything. -/
theorem plays_of_input
    (stopped : party.Stopped)
    (steady : party.Steady)
    (seated : party.Seated side)
    (deaf : party.game.state = .idle → label.input = [])
    (hears : label.input ≠ []) :
    party.game.role = side.role ∧ party.game.state ≠ .ended := by
  by_contra unplayed
  obtain ⟨_, empty, _⟩ :=
    act.of_unplayed stopped steady seated deaf unplayed
  exact hears empty

/-- What an act adds to the letters of a guest. -/
theorem trailing_letters
    (before : party.Trails)
    (stamp : after.stamp = travel (heard after.log))
    (acked : acks (posted after.log) = lobbies (heard after.log))
    (plays :
      ∀ message ∈ output,
        Plays message →
        party.game.state = .running ∧ label.input = []) :
    Every (Letter.Trailing (heard after.log)) (accountOf after.log).posts := by
  have known : heard party.log <+: heard after.log := by
    rw [act.heard_eq]
    exact List.prefix_append _ _
  have old :
      Every (Letter.Trailing (heard after.log))
        (accountOf party.log).posts :=
    before.letters.mono (fun earlier letter ⟨count, messages, within, rest⟩ =>
      ⟨count, messages, within.trans known, rest⟩)
  rw [act.posts_eq, ← Option.toList_map]
  refine old.append_option ?_
  intro letter new
  obtain ⟨message, sent, rfl⟩ := Option.map_eq_some_iff.mp new
  refine ⟨?_, heard after.log, List.prefix_rfl, stamp, ?_⟩
  · have posts :
        ((accountOf party.log).posts ++
            [(⟨after.stamp, message⟩ : Letter)]).map Letter.message =
          posted after.log := by
      rw [act.posted_eq, sent, List.map_append, map_posts]
      rfl
    rw [posts, acked, stamp, travel_epoch]
  · intro playing
    obtain ⟨running, silent⟩ := plays message sent playing
    rw [act.heard_eq, silent, List.append_nil]
    exact before.led.1 running

/-- What an act adds to the receipts of a guest. -/
theorem trailing_receipts
    (stopped : party.Stopped)
    (before : party.Trails) :
    Every Receipt.Trailing (accountOf after.log).mail := by
  rw [act.mail_eq]
  rcases label.input_cases with empty | ⟨message, taken⟩
  · simpa [empty] using before.receipts
  · rw [taken]
    refine before.receipts.concat ?_
    unfold Receipt.Trailing
    rw [map_mail]
    refine ⟨before.stamp, ?_, before.led⟩
    intro ended
    obtain ⟨rfl, _⟩ := act.of_ended ended stopped
    cases taken

/-- A guest keeps trailing its host. -/
theorem trails
    (stopped : party.Stopped)
    (steady : party.Steady)
    (seated : party.Seated .guest)
    (deaf : party.game.state = .idle → label.input = [])
    (before : party.Trails) :
    after.Trails := by
  by_cases guest : party.game.role = .guest ∧ party.game.state ≠ .ended
  · obtain ⟨guest, alive⟩ := guest
    have stamp : after.stamp = travel (heard after.log) := by
      rw [act.guest_stamp guest, act.heard_eq, before.stamp]
      simp [travel]
    have acked : acks (posted after.log) = lobbies (heard after.log) := by
      rw [act.posted_eq, act.heard_eq, acks_append, lobbies_append,
        before.acked, act.guest_acks guest]
    constructor
    · exact stamp
    · rw [act.posted_eq]
      intro message member
      rcases List.mem_append.mp member with old | new
      · exact before.mute message old
      · exact act.guest_mute guest message (by simpa using new)
    · exact acked
    · rw [act.heard_eq]
      exact act.guest_led guest steady alive before.led
    · exact act.trailing_letters before stamp acked
        (fun message sent plays =>
          ⟨act.running_of_plays steady message sent plays,
            act.silent_of_plays guest message sent plays⟩)
    · exact act.trailing_receipts stopped before
    · intro receipt member returning
      rw [act.mail_eq] at member
      have further : party.stamp.epoch ≤ after.stamp.epoch := by
        rw [stamp, before.stamp, act.heard_eq]
        exact (travel_le _ _).1
      have back : party.game.state = .returning →
          receipt.stamp.epoch ≤ party.stamp.epoch →
          after.game.state = .returning ∨ after.game.state = .ended ∨
            receipt.stamp.epoch < after.stamp.epoch := by
        intro state bound
        rcases act.guest_returns guest state with still | ended | later
        · exact Or.inl still
        · exact Or.inr (Or.inl ended)
        · exact Or.inr (Or.inr (by omega))
      rcases List.mem_append.mp member with old | new
      · obtain ⟨earlier, later, shape, now, _⟩ :=
          before.receipts.of_mem old
        rcases before.absent receipt old returning with state | ended | past
        · refine back state ?_
          rw [now, before.stamp, ← map_mail, shape, List.map_append]
          exact (travel_le _ _).1
        · exact absurd ended alive
        · exact Or.inr (Or.inr (by omega))
      · obtain ⟨message, _, rfl⟩ := List.mem_map.mp new
        exact back returning (Nat.le_refl _)
  · obtain ⟨rfl, empty, stamp, rest⟩ :=
      act.of_unplayed stopped steady seated deaf guest
    have posts := act.posts_eq
    have mail := act.mail_eq
    have told := act.posted_eq
    have known := act.heard_eq
    simp only [empty, Option.toList_none, List.map_nil, List.append_nil]
      at posts mail told known
    have led : after.game.state.Led (underway (heard party.log)) := by
      rcases rest with state | ⟨_, unheard, state | state | state⟩ <;>
        simp [State.Led, state]
      all_goals
        rw [unheard]
        rfl
    refine ⟨?_, ?_, ?_, ?_, ?_, ?_, ?_⟩
    · rw [stamp, known]
      exact before.stamp
    · rw [told]
      exact before.mute
    · rw [told, known]
      exact before.acked
    · rw [known]
      exact led
    · rw [posts, known]
      exact before.letters
    · rw [mail]
      exact before.receipts
    · intro receipt member _
      rcases rest with ended | ⟨_, unheard, _⟩
      · exact Or.inr (Or.inl ended)
      · rw [mail] at member
        have none := map_mail party.log
        rw [unheard, List.map_eq_nil_iff] at none
        rw [none] at member
        cases member

/-- The next lobby of a host carries the next number. -/
theorem leading_numbered
    (host : party.game.role = .host)
    (before : party.Leads) :
    Numbered (posted after.log) := by
  have numbered := before.numbered
  obtain ⟨generation, carried⟩ := act.host_lobbies host
  have counted : party.game.lobbyGeneration = wrap64 party.stamp.epoch := by
    rw [before.stamp, ← numbered.generation, ← before.stamp]
    rfl
  unfold Numbered at numbered ⊢
  rw [travel_epoch] at numbered ⊢
  rw [act.posted_eq, lobbies_append, List.length_append]
  cases opened : lobbies output.toList with
  | nil =>
      simpa using numbered
  | cons payload others =>
      have one : others = [] := by
        cases output with
        | none =>
            cases opened
        | some message =>
            by_cases opens : OpensLobby message
            · simp [lobbies, opens] at opened
              exact opened.2
            · simp [lobbies, opens] at opened
      have next : payload = appendU64 (wrap64 (party.stamp.epoch + 1)) := by
        rw [carried payload (by simp [opened]), generation, opened,
          if_neg (by simp), counted]
        congr 1
        unfold wrap64
        omega
      rw [one, next, before.stamp, travel_epoch]
      simp only [List.length_cons, List.length_nil, Nat.zero_add,
        List.range_succ, List.map_append, List.map_cons, List.map_nil]
      rw [← numbered]

/-- What an act adds to the letters of a host. -/
theorem leading_letters
    (before : party.Leads)
    (stamp : after.stamp = travel (posted after.log))
    (plays :
      ∀ message ∈ output,
        Plays message → underway (posted party.log) = true) :
    Every Letter.Leading (accountOf after.log).posts := by
  rw [act.posts_eq, ← Option.toList_map]
  refine before.letters.append_option ?_
  intro letter new
  obtain ⟨message, sent, rfl⟩ := Option.map_eq_some_iff.mp new
  unfold Letter.Leading
  rw [List.map_append, map_posts]
  refine ⟨?_, plays message sent⟩
  have posts := act.posted_eq
  rw [sent] at posts
  rw [stamp, posts]
  rfl

/-- What an act adds to the receipts of a host. -/
theorem leading_receipts
    (stopped : party.Stopped)
    (before : party.Leads) :
    Every (Receipt.Leading (posted after.log)) (accountOf after.log).mail := by
  have told : posted party.log <+: posted after.log := by
    rw [act.posted_eq]
    exact List.prefix_append _ _
  have old :
      Every (Receipt.Leading (posted after.log))
        (accountOf party.log).mail :=
    before.receipts.mono
      (fun earlier receipt ⟨count, alive, messages, within, rest⟩ =>
        ⟨count, alive, messages, within.trans told, rest⟩)
  rw [act.mail_eq]
  rcases label.input_cases with empty | ⟨message, taken⟩
  · simpa [empty] using old
  · rw [taken]
    refine old.concat ?_
    have alive : party.game.state ≠ .ended := by
      intro ended
      obtain ⟨rfl, _⟩ := act.of_ended ended stopped
      cases taken
    unfold Receipt.Leading
    rw [map_mail]
    exact ⟨before.acked alive, alive, posted party.log, told, before.stamp,
      before.led alive⟩

/--
A host keeps leading its guest as long as it hears no `Start` and every
acknowledgement is for the lobby it has opened.
-/
theorem leads
    (stopped : party.Stopped)
    (steady : party.Steady)
    (seated : party.Seated .host)
    (deaf : party.game.state = .idle → label.input = [])
    (unstarted : ∀ message ∈ label.input, message.kind ≠ .start)
    (answered :
      ∀ message ∈ label.input,
        message.kind = .lobbyAck → party.game.Accepts message)
    (before : party.Leads) :
    after.Leads := by
  by_cases host : party.game.role = .host ∧ party.game.state ≠ .ended
  · obtain ⟨host, alive⟩ := host
    have stamp : after.stamp = travel (posted after.log) := by
      rw [act.host_stamp host unstarted, act.posted_eq, before.stamp]
      simp [travel]
    constructor
    · exact stamp
    · exact act.leading_numbered host before
    · rw [act.posted_eq]
      refine Every.append_option before.sober ?_
      intro message sent start
      have home := act.home_of_start message sent start
      have led := before.led alive
      rcases home with state | state <;> simpa [state] using led
    · intro survives
      have count := act.host_acked host alive survives answered
      have epoch := before.acked alive
      rw [before.stamp, travel_epoch] at epoch
      rw [stamp, travel_epoch, act.posted_eq, act.heard_eq, lobbies_append,
        acks_append, List.length_append, List.length_append]
      omega
    · intro survives
      rw [act.posted_eq]
      exact act.host_led host steady alive (before.led alive) survives
    · refine act.leading_letters before stamp ?_
      intro message sent plays
      exact (before.led alive).mpr
        (act.running_of_plays steady message sent plays)
    · exact act.leading_receipts stopped before
  · obtain ⟨rfl, empty, stamp, rest⟩ :=
      act.of_unplayed stopped steady seated deaf host
    have posts := act.posts_eq
    have mail := act.mail_eq
    have told := act.posted_eq
    have known := act.heard_eq
    simp only [empty, Option.toList_none, List.map_nil, List.append_nil]
      at posts mail told known
    refine ⟨?_, ?_, ?_, ?_, ?_, ?_, ?_⟩
    · rw [stamp, told]
      exact before.stamp
    · rw [told]
      exact before.numbered
    · rw [told]
      exact before.sober
    · intro alive
      obtain ⟨mute, unheard, state⟩ := rest.resolve_left alive
      rw [stamp, before.stamp, mute, known, unheard]
      rcases state with state | state | state <;> simp [state] <;> rfl
    · intro alive
      obtain ⟨mute, unheard, state⟩ := rest.resolve_left alive
      rw [told, mute]
      rcases state with state | state | state <;> simp [state] <;> rfl
    · rw [posts]
      exact before.letters
    · rw [mail, told]
      exact before.receipts

end Act

/-- Both parties, and the order in which they hear each other. -/
structure Duo.Coherent {R : Type} (duo : Duo R) : Prop where
  stopped : ∀ side, (duo.party side).Stopped
  steady : ∀ side, (duo.party side).Steady
  seated : ∀ side, (duo.party side).Seated side
  hears :
    ∀ side,
      heard (duo.party side).log <+: posted (duo.party side.other).log
  leads : duo.host.Leads
  trails : duo.guest.Trails

namespace Duo

variable
  {R : Type}
  {world : World R}
  {careful : Duo R → Side → Label → Prop}
  {side : Side}
  {label : Label}
  {duo after : Duo R}

theorem Coherent.initial :
    ({} : Duo R).Coherent where
  stopped := by
    intro side
    cases side <;> exact fun ended => by cases ended
  steady := by
    intro side
    have steady : (({} : Party R)).Steady := by
      constructor <;> simp
    cases side <;> exact steady
  seated := by
    intro side
    cases side <;> exact Or.inr ⟨Or.inl rfl, rfl, rfl⟩
  hears := by
    intro side
    cases side <;> exact List.prefix_rfl
  leads := by
    refine ⟨rfl, rfl, Every.nil, fun _ => rfl, ?_, Every.nil, Every.nil⟩
    intro _
    constructor <;> intro impossible <;> cases impossible
  trails := by
    refine ⟨rfl, ?_, rfl, ?_, Every.nil, Every.nil, ?_⟩
    · intro message member
      cases member
    · constructor <;> intro impossible <;> cases impossible
    · intro receipt member
      cases member

/-- A guest answers each lobby of its host once and in order. -/
theorem Coherent.acks_within
    (coherent : duo.Coherent)
    {messages : List Message}
    (within : messages <+: posted duo.guest.log) :
    acks messages <+: lobbies (posted duo.host.log) := by
  have acked : acks messages <+: lobbies (heard duo.guest.log) := by
    rw [← coherent.trails.acked]
    exact LanMvp.acks_within within
  exact acked.trans (lobbies_within (coherent.hears .guest))

/-- A host hears the acknowledgement of the one lobby it has opened. -/
theorem Coherent.accepts_ack
    (coherent : duo.Coherent)
    (host : duo.host.game.role = .host)
    (alive : duo.host.game.state ≠ .ended)
    {message : Message}
    (within : heard duo.host.log ++ [message] <+: posted duo.guest.log)
    (kind : message.kind = .lobbyAck) :
    duo.host.game.Accepts message := by
  have leads := coherent.leads
  have answers := coherent.acks_within within
  have shape : acks [message] = [message.payload] := by
    simp [acks, kind]
  rw [acks_append, shape, leads.numbered] at answers
  have bound := answers.length_le
  have count := leads.acked alive
  rw [← leads.stamp] at answers bound
  simp only [List.length_append, List.length_singleton, List.length_map,
    List.length_range] at bound
  have awaited : duo.host.game.state.awaited = 1 := by
    unfold State.awaited at count ⊢
    split <;> simp_all
  have returning : duo.host.game.state = .returning := by
    unfold State.awaited at awaited
    split at awaited
    · assumption
    · cases awaited
  have generation :
      duo.host.game.lobbyGeneration = wrap64 duo.host.stamp.epoch := by
    rw [leads.stamp, ← leads.numbered.generation, ← leads.stamp]
    rfl
  have payload : message.payload = appendU64 (wrap64 duo.host.stamp.epoch) := by
    obtain ⟨rest, shape⟩ := answers
    have none : rest = [] := by
      have lengths := congrArg List.length shape
      simp only [List.length_append, List.length_singleton, List.length_map,
        List.length_range] at lengths
      exact List.length_eq_zero_iff.mp (by omega)
    rw [none, List.append_nil, count, awaited, List.range_succ,
      List.map_append] at shape
    have last := (List.append_inj' shape rfl).2
    rw [count, awaited]
    simpa using last
  simp [Game.Accepts, kind, host, returning, payload, generation]

/-- One step of either party keeps both in step. -/
theorem Coherent.step
    (coherent : duo.Coherent)
    (step : Step world side label duo after) :
    after.Coherent := by
  cases step with
  | @act party output acted sound opens deaf hears =>
      have steady := acted.steady (coherent.stopped side) (coherent.steady side)
      have stopped := acted.stopped (coherent.stopped side)
      have seated :=
        acted.seated (coherent.stopped side) (coherent.steady side) opens deaf
          (coherent.seated side)
      have told : posted (duo.party side).log <+: posted party.log := by
        rw [acted.posted_eq]
        exact List.prefix_append _ _
      have theirs := coherent.hears side.other
      cases side with
      | host =>
          have within := acted.heard_within hears
          refine ⟨?_, ?_, ?_, ?_, ?_, coherent.trails⟩
          · rintro (_ | _)
            · exact stopped
            · exact coherent.stopped .guest
          · rintro (_ | _)
            · exact steady
            · exact coherent.steady .guest
          · rintro (_ | _)
            · exact seated
            · exact coherent.seated .guest
          · rintro (_ | _)
            · exact hears
            · exact theirs.trans told
          · refine acted.leads (coherent.stopped .host)
              (coherent.steady .host) (coherent.seated .host) deaf ?_ ?_
              coherent.leads
            · intro message taken
              exact (coherent.trails.mute message
                (within.subset (List.mem_append_right _ taken))).1
            · intro message taken kind
              rcases label.input_cases with empty | ⟨_, single⟩
              · rw [empty] at taken
                cases taken
              · rw [single] at taken within
                obtain rfl := List.mem_singleton.mp taken
                obtain ⟨role, alive⟩ :=
                  acted.plays_of_input (coherent.stopped .host)
                    (coherent.steady .host) (coherent.seated .host) deaf
                    (by simp [single])
                exact coherent.accepts_ack role alive within kind
      | guest =>
          refine ⟨?_, ?_, ?_, ?_, ?_, ?_⟩
          · rintro (_ | _)
            · exact coherent.stopped .host
            · exact stopped
          · rintro (_ | _)
            · exact coherent.steady .host
            · exact steady
          · rintro (_ | _)
            · exact coherent.seated .host
            · exact seated
          · rintro (_ | _)
            · exact theirs.trans told
            · exact hears
          · exact coherent.leads
          · exact acted.trails (coherent.stopped .guest)
              (coherent.steady .guest) (coherent.seated .guest) deaf
              coherent.trails

theorem Coherent.reaches
    (reaches : Reaches world careful {} duo) :
    duo.Coherent := by
  induction reaches with
  | refl =>
      exact Coherent.initial
  | tail _ step inductionHypothesis =>
      obtain ⟨_, _, step, _⟩ := step
      exact inductionHypothesis.step step

/-- What one end has received, each message with the letter it came in. -/
def exchanged (duo : Duo R) (side : Side) : List (Letter × Receipt) :=
  (accountOf (duo.party side.other).log).posts.zip
    (accountOf (duo.party side).log).mail

theorem Coherent.follows
    (coherent : duo.Coherent)
    (side : Side) :
    Follows Letter.message Receipt.message
      (accountOf (duo.party side.other).log).posts
      (accountOf (duo.party side).log).mail := by
  unfold Follows
  rw [map_posts, map_mail]
  exact coherent.hears side

variable {letter : Letter}

/-- A guest receives a letter where its host has sent it. -/
theorem Coherent.guest_receives
    (coherent : duo.Coherent)
    {receipt : Receipt}
    (paired : (letter, receipt) ∈ duo.exchanged .guest) :
    letter.message = receipt.message ∧
      letter.stamp = receipt.stamp.follow receipt.message ∧
      (Plays receipt.message →
        receipt.state = .running ∨ receipt.state = .returning) := by
  obtain ⟨before, later, front, back, posts, mail, same, message⟩ :=
    (coherent.follows .guest).of_mem_zip paired
  obtain ⟨sent, plays⟩ := coherent.leads.letters before letter later posts
  obtain ⟨stamp, alive, led⟩ :=
    coherent.trails.receipts front receipt back mail
  refine ⟨message, ?_, ?_⟩
  · rw [sent, stamp, List.map_append, same, List.map_singleton, travel_concat,
      message]
  · intro playing
    rw [← message] at playing
    have started := plays playing
    rw [same] at started
    rcases led.2 started with state | state | state
    · exact Or.inl state
    · exact Or.inr state
    · exact absurd state alive

/-- What a host receives from its guest, and where. -/
structure HostReceives (letter : Letter) (receipt : Receipt) : Prop where
  message : letter.message = receipt.message
  generation :
    letter.stamp.epoch = receipt.stamp.epoch →
    letter.stamp.generation = receipt.stamp.generation
  epoch :
    receipt.message.kind ≠ .lobbyAck →
    receipt.stamp.epoch = letter.stamp.epoch + receipt.state.awaited
  ack :
    receipt.message.kind = .lobbyAck →
    receipt.state = .returning ∧
      bigEndianU64 receipt.message.payload = receipt.stamp.generation ∧
      letter.stamp.epoch = receipt.stamp.epoch
  plays :
    Plays receipt.message →
    (receipt.state = .running ∧ letter.stamp.round = receipt.stamp.round) ∨
      receipt.state = .returning

/-- At the moment a host takes in a message it is where its guest was. -/
theorem Coherent.host_takes
    (coherent : duo.Coherent)
    (host : duo.host.game.role = .host)
    (alive : duo.host.game.state ≠ .ended)
    {before later : List Letter}
    (posts :
      (accountOf duo.guest.log).posts = before ++ letter :: later)
    (same : before.map Letter.message = heard duo.host.log) :
    HostReceives letter
      ⟨duo.host.game.state, duo.host.stamp, letter.message⟩ := by
  have leads := coherent.leads
  obtain ⟨count, known, knownWithin, sent, plays⟩ :=
    coherent.trails.letters before letter later posts
  have within : known <+: posted duo.host.log :=
    knownWithin.trans (coherent.hears .guest)
  have epochs :
      letter.message.kind ≠ .lobbyAck →
        duo.host.stamp.epoch =
          letter.stamp.epoch + duo.host.game.state.awaited := by
    intro other
    rw [List.map_append, List.map_singleton, acks_append, same] at count
    simp only [acks, other, decide_false, List.filter_singleton, cond_false,
      List.map_nil, List.append_nil] at count
    rw [leads.acked alive, ← count]
    rfl
  refine ⟨rfl, ?_, epochs, ?_, ?_⟩
  · intro epoch
    rw [sent, leads.stamp] at epoch ⊢
    rw [(leads.numbered.of_within within).generation,
      leads.numbered.generation, epoch]
  · intro kind
    have kind : letter.message.kind = .lobbyAck := kind
    have within : heard duo.host.log ++ [letter.message] <+:
        posted duo.guest.log := by
      rw [← map_posts, posts, ← same, List.map_append, List.map_cons]
      exact ⟨later.map Letter.message, by simp⟩
    have accepts := coherent.accepts_ack host alive within kind
    simp only [Game.Accepts, kind] at accepts
    obtain ⟨_, returning, _, generation⟩ := accepts
    refine ⟨returning, generation, ?_⟩
    rw [List.map_append, List.map_singleton, acks_append, same] at count
    simp only [acks, kind, decide_true, List.filter_singleton, cond_true,
      List.map_singleton, List.length_append, List.length_singleton] at count
    rw [← count]
    change _ = duo.host.stamp.epoch
    rw [leads.acked alive, returning]
    rfl
  · intro playing
    have playing : Plays letter.message := playing
    by_cases returning : duo.host.game.state = .returning
    · exact Or.inr returning
    · left
      have other : letter.message.kind ≠ .lobbyAck := by
        rcases playing with kind | kind | kind <;> simp [kind]
      have epoch := epochs other
      rw [State.awaited_eq_zero returning, Nat.add_zero, sent, leads.stamp] at epoch
      obtain ⟨still, rounds⟩ :=
        round_eq_of_epoch_eq within epoch.symm (plays playing)
      refine ⟨(leads.led alive).mp still, ?_⟩
      rw [sent, leads.stamp]
      exact rounds leads.sober

/-- The pairs a step adds to what one end has received. -/
theorem Coherent.exchanged_step
    (coherent : duo.Coherent)
    (step : Step world side label duo after)
    (other : Side) :
    after.exchanged other = duo.exchanged other ∨
      ∃ before letter later,
        other = side ∧
        label.input = [letter.message] ∧
        (accountOf (duo.party side.other).log).posts =
          before ++ letter :: later ∧
        before.map Letter.message = heard (duo.party side).log ∧
        after.exchanged other =
          duo.exchanged other ++
            [(letter, ⟨(duo.party side).game.state,
              (duo.party side).stamp, letter.message⟩)] := by
  cases step with
  | @act party output acted sound opens deaf hears =>
      by_cases mine : other = side
      · subst mine
        have mail := acted.mail_eq
        unfold exchanged
        rw [party_set, party_set_other, mail]
        rcases label.input_cases with empty | ⟨message, single⟩
        · left
          simp [empty]
        · right
          have follows :
              Follows Letter.message Receipt.message
                (accountOf (duo.party other.other).log).posts
                ((accountOf (duo.party other).log).mail ++
                  [⟨(duo.party other).game.state, (duo.party other).stamp,
                    message⟩]) := by
            rw [single] at mail
            unfold Follows
            rw [map_posts]
            rw [List.map_singleton] at mail
            rw [← mail, map_mail]
            exact hears
          obtain ⟨before, letter, later, posts, same, found⟩ := follows.split
          have found : letter.message = message := found
          subst found
          refine ⟨before, letter, later, rfl, single, posts, ?_, ?_⟩
          · rw [same, map_mail]
          · rw [single]
            exact Follows.zip_concat posts same
      · left
        have theirs : other = side.other := by
          cases side <;> cases other <;> simp_all [Side.other]
        subst theirs
        have back : side.other.other = side := by
          cases side <;> rfl
        have follows := coherent.follows side.other
        unfold exchanged
        rw [back] at follows ⊢
        rw [party_set, party_set_other, acted.posts_eq]
        exact follows.zip_grow _

/-- In every reachable state, what the host has received came as it should. -/
theorem host_receives
    (reaches : Reaches world careful {} duo) :
    ∀ letter receipt,
      (letter, receipt) ∈ duo.exchanged .host →
      HostReceives letter receipt := by
  induction reaches with
  | refl =>
      intro letter receipt paired
      cases paired
  | @tail duo after reaches step inductionHypothesis =>
      obtain ⟨side, label, step, _⟩ := step
      have coherent := Coherent.reaches reaches
      intro letter receipt paired
      rcases coherent.exchanged_step step .host with
        same | ⟨before, new, later, rfl, taken, posts, told, more⟩
      · rw [same] at paired
        exact inductionHypothesis letter receipt paired
      · rw [more] at paired
        rcases List.mem_append.mp paired with old | last
        · exact inductionHypothesis letter receipt old
        · obtain ⟨rfl, rfl⟩ := Prod.mk.inj (List.mem_singleton.mp last)
          cases step with
          | act acted sound opens deaf hears =>
              obtain ⟨host, alive⟩ :=
                acted.plays_of_input (coherent.stopped .host)
                  (coherent.steady .host) (coherent.seated .host) deaf
                  (by simp [taken])
              exact coherent.host_takes host alive posts told

end Duo

/-- Messages that are about a game and that a returning side drops. -/
def OfGame (message : Message) : Prop :=
  message.kind = .config ∨ message.kind = .ready ∨ message.kind = .start ∨
    Plays message

namespace Net

variable {R : Type}

/-- The account of one end's history. -/
def account (net : Net R) (side : Side) : Account :=
  accountOf (net.endpoint side).session.log

/-- What one end has received, each message with the letter it came in. -/
def exchanged (net : Net R) (side : Side) : List (Letter × Receipt) :=
  (net.account side.other).posts.zip (net.account side).mail

theorem exchanged_duo
    (net : Net R)
    (side : Side) :
    net.exchanged side = net.duo.exchanged side := by
  cases side <;> rfl

/--
Whatever happens, a message about a game that is not dropped at the barrier was
sent in the generation and in the game in which it is received, and every
acknowledgement is for the one lobby the host has opened and waits for.
-/
theorem lobby_barrier
    (world : World R)
    (happenings : List Happening) :
    let net := run world happenings
    (∀ side,
      (net.account side).mail.length ≤
        (net.account side.other).posts.length) ∧
      (∀ side letter receipt,
        (letter, receipt) ∈ net.exchanged side →
        letter.message = receipt.message ∧
          (OfGame receipt.message →
            receipt.state ≠ .returning →
            letter.stamp.generation = receipt.stamp.generation ∧
              letter.stamp.epoch = receipt.stamp.epoch)) ∧
      (∀ letter receipt,
        (letter, receipt) ∈ net.exchanged .host →
        receipt.message.kind = .lobbyAck →
        receipt.state = .returning ∧
          bigEndianU64 receipt.message.payload = receipt.stamp.generation ∧
          letter.stamp.generation = receipt.stamp.generation ∧
          letter.stamp.epoch = receipt.stamp.epoch) ∧
      (net.host.session.state ≠ .ended →
        (lobbies (posted net.host.session.log)).length =
          (acks (heard net.host.session.log)).length +
            net.host.session.state.awaited) := by
  intro net
  have reaches := run_reaches_any world happenings
  have coherent := Duo.Coherent.reaches reaches
  have received := Duo.host_receives reaches
  refine ⟨?_, ?_, ?_, ?_⟩
  · intro side
    have bound := (coherent.follows side).length_le
    cases side <;> exact bound
  · intro side letter receipt paired
    rw [exchanged_duo] at paired
    cases side with
    | host =>
        have receives := received letter receipt paired
        refine ⟨receives.message, ?_⟩
        intro ofGame settled
        have other : receipt.message.kind ≠ .lobbyAck := by
          rcases ofGame with kind | kind | kind | kind | kind | kind <;>
            simp [kind]
        have epoch := receives.epoch other
        rw [State.awaited_eq_zero settled, Nat.add_zero] at epoch
        exact ⟨receives.generation epoch.symm, epoch.symm⟩
    | guest =>
        obtain ⟨message, stamp, _⟩ := coherent.guest_receives paired
        refine ⟨message, ?_⟩
        intro ofGame _
        have stays : ¬ OpensLobby receipt.message := by
          rintro ⟨lobby, _⟩
          rcases ofGame with kind | kind | kind | kind | kind | kind <;>
            simp [kind] at lobby
        rw [stamp]
        simp [Stamp.follow, stays]
  · intro letter receipt paired kind
    rw [exchanged_duo] at paired
    have receives := received letter receipt paired
    obtain ⟨returning, matching, epoch⟩ := receives.ack kind
    exact ⟨returning, matching, receives.generation epoch, epoch⟩
  · intro alive
    have count := coherent.leads.acked alive
    rw [coherent.leads.stamp, travel_epoch] at count
    exact count

end Net

end FlyNes.LanMvp
