import FlyNes.LanAgreement

namespace FlyNes.LanMvp

open Wire (Kind Message)

/-!
# Pause agreement

The host decides whether a round is paused: its last `Pause` since the last
lobby counts, on both sides.  A guest that is still on its way back to the lobby
has a request or a lobby under way, so once nothing is under way both sides hold
the host's value.
-/

/-- What the host's messages say about the pause. -/
def pausedBy (messages : List Message) : Bool :=
  messages.foldl
    (fun paused message =>
      if OpensLobby message then
        false
      else if message.kind = .pause then
        decide (message.payload.getD 0 0 ≠ 0)
      else
        paused) false

@[simp] theorem pausedBy_concat
    (messages : List Message)
    (message : Message) :
    pausedBy (messages ++ [message]) =
      if OpensLobby message then
        false
      else if message.kind = .pause then
        decide (message.payload.getD 0 0 ≠ 0)
      else
        pausedBy messages := by
  simp [pausedBy]

/-- A host is paused as it has said last, or is about to say. -/
def Party.Pauses {R : Type} (party : Party R) : Prop :=
  party.game.state ≠ .ended →
  party.game.paused =
    match party.owed with
    | some (.pause paused) => paused
    | _ => pausedBy (posted party.log)

/-- A guest is paused as its host has told it, unless it is leaving the game. -/
def Party.FollowsPause {R : Type} (party : Party R) : Prop :=
  party.game.state ≠ .ended →
  party.game.state ≠ .returning →
  party.game.paused = pausedBy (heard party.log)

/-- A state in which a session has not met its peer. -/
def State.Early (state : State) : Prop :=
  state = .idle ∨ state = .inviting ∨ state = .joining

/-- A host that has not met its guest has told it nothing. -/
def Party.Reserved {R : Type} (party : Party R) : Prop :=
  party.game.state.Early → posted party.log = []

/-- A guest that has met its host has heard from it. -/
def Party.Greeted {R : Type} (party : Party R) : Prop :=
  heard party.log = [] → party.game.state.Early ∨ party.game.state = .ended

namespace Act

variable
  {R : Type}
  {env : Env R}
  {label : Label}
  {party after : Party R}
  {output : Option Message}

variable (act : Act env label party output after)

include act

/-- A host says every change of the pause. -/
theorem pauses
    (stopped : party.Stopped)
    (seated : party.Seated .host)
    (deaf : party.game.state = .idle → label.input = [])
    (before : party.Pauses) :
    after.Pauses := by
  unfold Party.Pauses at before ⊢
  intro survives
  by_cases ended : party.game.state = .ended
  · exact absurd (act.of_ended ended stopped).2.2.2.1 survives
  · have paused := before ended
    have host : party.game.state ≠ .idle → party.game.role = .host :=
      fun opened => seated.role_eq opened ended
    rw [act.posted_eq]
    cases act with
    | lobbyHeard message owed alive kind accepts =>
        have opened : party.game.state ≠ .idle := by
          intro idle
          simpa [Label.input] using deaf idle
        simp [Game.Accepts, kind, host opened] at accepts
    | _ =>
        simp_all [OpensLobby]

/-- A guest takes over the pause its host has told it. -/
theorem followsPause
    (stopped : party.Stopped)
    (seated : party.Seated .guest)
    (deaf : party.game.state = .idle → label.input = [])
    (playing :
      ∀ message ∈ label.input,
        message.kind = .pause →
        party.game.state = .running ∨ party.game.state = .returning)
    (before : party.FollowsPause) :
    after.FollowsPause := by
  unfold Party.FollowsPause at before ⊢
  intro survives settled
  by_cases ended : party.game.state = .ended
  · exact absurd (act.of_ended ended stopped).2.2.2.1 survives
  · have guest : party.game.state ≠ .idle → party.game.role = .guest :=
      fun opened => seated.role_eq opened ended
    have paused := before ended
    have home :
        party.game.state = .lobby ∨ party.game.state = .configuring →
          party.game.paused = pausedBy (heard party.log) := by
      rintro (state | state) <;> exact paused (by simp [state])
    rw [act.heard_eq]
    cases act with
    | ignored message owed alive ignores =>
        have opened : party.game.state ≠ .idle := by
          intro idle
          simpa [Label.input] using deaf idle
        have stays := ignores.not_opensLobby (guest opened)
        have silent : message.kind ≠ .pause := by
          intro kind
          rcases playing message (by simp [Label.input]) kind with
            running | returning
          · cases ignores <;> simp_all
          · exact settled returning
        simpa [Label.input, stays, silent] using paused settled
    | lobbyHeard message owed alive kind accepts =>
        have opens : OpensLobby message := by
          have opened : party.game.state ≠ .idle := by
            intro idle
            simpa [Label.input] using deaf idle
          simp_all [OpensLobby, Game.Accepts]
        simp [Label.input, opens]
    | opened role target invite owed idle side =>
        simp_all [Label.input]
    | frame ready ran due =>
        simpa [Label.input] using paused settled
    | digest ready ran due copied agreement =>
        simpa [Label.input] using paused settled
    | _ =>
        simp_all [Label.input, OpensLobby, Game.Accepts, Game.CanLeave]

/-- A host that has not met its guest tells it nothing. -/
theorem reserved
    (stopped : party.Stopped)
    (steady : party.Steady)
    (seated : party.Seated .host)
    (before : party.Reserved) :
    after.Reserved := by
  unfold Party.Reserved at before ⊢
  intro early
  by_cases ended : party.game.state = .ended
  · have still := (act.of_ended ended stopped).2.2.2.1
    simp [State.Early, still] at early
  · have host : party.game.state ≠ .idle → party.game.role = .host :=
      fun opened => seated.role_eq opened ended
    have settled : party.game.state.Early → ∀ paused,
        party.owed ≠ some (.pause paused) := by
      intro first paused owed
      rcases steady.pausing paused owed with state | state <;>
        simp [State.Early, state] at first
    rw [act.posted_eq]
    cases act with
    | digest ready ran due copied agreement =>
        have early : party.game.state.Early := early
        simp [State.Early, ready.running] at early
    | startIdle owed home startable unloaded =>
        have early : party.game.state.Early := early
        rcases home with state | state <;> simp [State.Early, state] at early
    | _ =>
        simp_all [State.Early, Game.CanLeave, Game.Accepts]

/-- A guest meets its host by hearing from it. -/
theorem greeted
    (stopped : party.Stopped)
    (before : party.Greeted) :
    after.Greeted := by
  unfold Party.Greeted at before ⊢
  rw [act.heard_eq]
  intro unheard
  obtain ⟨nothing, deaf⟩ := List.append_eq_nil_iff.mp unheard
  rcases before nothing with early | ended
  · have waiting : party.game.state ≠ .running := by
      rcases early with state | state | state <;> simp [state]
    have away :
        ¬ (party.game.state = .lobby ∨ party.game.state = .configuring) := by
      rcases early with state | state | state <;> simp [state]
    cases act with
    | frame ready ran due =>
        exact absurd ready.running waiting
    | digest ready ran due copied agreement =>
        exact absurd ready.running waiting
    | opened role target invite owed idle side =>
        rcases side with ⟨_, rfl⟩ | ⟨_, rfl⟩ <;> simp [State.Early]
    | _ =>
        simp_all [Label.input, Game.CanLeave]
  · exact Or.inr (act.of_ended ended stopped).2.2.2.1

/-- A guest leaves by asking for the lobby. -/
theorem asks_or_returning
    (stopped : party.Stopped)
    (seated : party.Seated .guest)
    (deaf : party.game.state = .idle → label.input = [])
    (returning : after.game.state = .returning) :
    output = some ⟨.lobbyRequest, []⟩ ∨
      (party.game.state = .returning ∧
        after.stamp.epoch = party.stamp.epoch) := by
  by_cases ended : party.game.state = .ended
  · have still := (act.of_ended ended stopped).2.2.2.1
    simp [still] at returning
  · have guest : party.game.state ≠ .idle → party.game.role = .guest :=
      fun opened => seated.role_eq opened ended
    cases act with
    | called owed leaves side =>
        have opened : party.game.state ≠ .idle := by
          rcases leaves with state | state | state <;> simp [state]
        exact absurd (guest opened) side
    | opened role target invite owed idle side =>
        rcases side with ⟨_, rfl⟩ | ⟨_, rfl⟩ <;> simp at returning
    | requestHeard message owed kind accepts leaves =>
        have opened : party.game.state ≠ .idle := by
          rcases leaves with state | state | state <;> simp [state]
        simp [Game.Accepts, kind, guest opened] at accepts
    | _ =>
        simp_all [Party.stamp, Account.add]

/-- A host answers a request with a lobby, unless it has opened one already. -/
theorem answers_request
    (host : party.game.role = .host)
    {message : Message}
    (taken : label.input = [message])
    (kind : message.kind = .lobbyRequest) :
    after.game.state = .ended ∨ party.stamp.epoch < after.stamp.epoch ∨
      party.game.state = .returning ∨ party.game.state.Early := by
  cases act with
  | ignored other owed alive ignores =>
      obtain rfl : other = message := by
        simpa [Label.input] using taken
      cases ignores with
      | request _ accepts stays =>
          unfold State.Early
          cases state : party.game.state <;>
            simp_all [Game.CanLeave]
      | barrier returning _ =>
          exact Or.inr (Or.inr (Or.inl returning))
      | pause other _ _ =>
          simp [kind] at other
      | start other _ _ =>
          simp [kind] at other
  | requestHeard other owed _ accepts leaves =>
      refine Or.inr (Or.inl ?_)
      simp [Party.stamp, Account.add]
  | _ =>
      simp_all [Label.input]

/-- No frame is handed to the runtime in a paused round. -/
theorem stepped_unpaused
    {paused : Bool}
    {input : FrameInput}
    (stepped : .stepped paused input ∈ after.log) :
    .stepped paused input ∈ party.log ∨ paused = false := by
  cases act with
  | _ =>
      simp_all
      try grind

end Act

/-- A guest on its way to the lobby has a request or a lobby under way. -/
def Duo.Recalls {R : Type} (duo : Duo R) : Prop :=
  duo.guest.game.state = .returning →
  duo.host.game.state = .ended ∨
    duo.guest.stamp.epoch < duo.host.stamp.epoch ∨
    ∃ before letter later,
      (accountOf duo.guest.log).posts = before ++ letter :: later ∧
      (accountOf duo.host.log).mail.length ≤ before.length ∧
      letter.message.kind = .lobbyRequest ∧
      letter.stamp.epoch = duo.guest.stamp.epoch

/-- Both sides' pause, and what a guest that leaves waits for. -/
structure Duo.Pausing {R : Type} (duo : Duo R) : Prop where
  pauses : duo.host.Pauses
  follows : duo.guest.FollowsPause
  reserved : duo.host.Reserved
  greeted : duo.guest.Greeted
  recalls : duo.Recalls

namespace Duo

variable
  {R : Type}
  {world : World R}
  {careful : Duo R → Side → Label → Prop}
  {side : Side}
  {label : Label}
  {duo after : Duo R}

theorem Pausing.initial :
    ({} : Duo R).Pausing := by
  refine ⟨fun _ => rfl, fun _ _ => rfl, fun _ => rfl,
    fun _ => Or.inl (Or.inl rfl), ?_⟩
  intro returning
  cases returning

theorem Coherent.epoch_le
    (coherent : duo.Coherent) :
    duo.guest.stamp.epoch ≤ duo.host.stamp.epoch := by
  obtain ⟨rest, told⟩ := coherent.hears .guest
  have told : heard duo.guest.log ++ rest = posted duo.host.log := told
  rw [coherent.leads.stamp, coherent.trails.stamp, ← told]
  exact (travel_le _ _).1

variable {party : Party R}

/-- The guest's way back while the guest acts. -/
theorem Recalls.guest_step
    (coherent : duo.Coherent)
    (recalls : duo.Recalls)
    {output : Option Message}
    (act : Act (world.env .guest) label duo.guest output party)
    (deaf : duo.guest.game.state = .idle → label.input = []) :
    (duo.set party .guest).Recalls := by
  intro returning
  have returning : party.game.state = .returning := returning
  have posts := act.posts_eq
  rcases act.asks_or_returning (coherent.stopped .guest)
    (coherent.seated .guest) deaf returning with asked | ⟨was, epoch⟩
  · refine Or.inr (Or.inr
      ⟨(accountOf duo.guest.log).posts, ⟨party.stamp, ⟨.lobbyRequest, []⟩⟩, [],
        ?_, (coherent.follows .host).length_le, rfl, rfl⟩)
    rw [asked] at posts
    exact posts
  · rcases recalls was with ended | behind | ⟨before, letter, later, shape,
      unheard, kind, now⟩
    · exact Or.inl ended
    · refine Or.inr (Or.inl ?_)
      change party.stamp.epoch < duo.host.stamp.epoch
      omega
    · refine Or.inr (Or.inr ⟨before, letter, later ++ output.toList.map
        (fun message => ⟨party.stamp, message⟩), ?_, unheard, kind, ?_⟩)
      · change (accountOf party.log).posts = _
        rw [posts, shape]
        simp
      · rw [now]
        exact epoch.symm

/-- The guest's way back while the host acts. -/
theorem Recalls.host_step
    (reaches : Reaches world careful {} duo)
    (pausing : duo.Pausing)
    (step : Step world .host label duo (duo.set party .host))
    (allowed : label.Decides → careful duo .host label) :
    (duo.set party .host).Recalls := by
  have coherent := Coherent.reaches reaches
  have afterReaches : Reaches world careful {} (duo.set party .host) :=
    reaches.tail ⟨.host, label, step, allowed⟩
  have after := Coherent.reaches afterReaches
  intro returning
  have returning : duo.guest.game.state = .returning := returning
  have told :
      ∃ output, Act (world.env .host) label duo.host output party ∧
        (duo.host.game.state = .idle → label.input = []) := by
    generalize target : duo.set party .host = next at step
    cases step with
    | @act other output acted sound opens deaf hears =>
        have same : other = party := (congrArg Duo.host target).symm
        subst same
        exact ⟨output, acted, deaf⟩
  obtain ⟨output, act, deaf⟩ := told
  have later : duo.host.stamp.epoch ≤ party.stamp.epoch := by
    have stamp := after.leads.stamp
    change party.stamp = travel (posted party.log) at stamp
    rw [stamp, coherent.leads.stamp, act.posted_eq]
    exact (travel_le _ _).1
  rcases pausing.recalls returning with ended | behind | ⟨before, letter, rest,
    shape, unheard, kind, now⟩
  · exact Or.inl (act.of_ended ended (coherent.stopped .host)).2.2.2.1
  · exact Or.inr (Or.inl (Nat.lt_of_lt_of_le behind later))
  · have mail : (accountOf party.log).mail.length =
        (accountOf duo.host.log).mail.length + label.input.length := by
      rw [act.mail_eq]
      simp
    by_cases next :
        (accountOf party.log).mail.length ≤ before.length
    · exact Or.inr (Or.inr ⟨before, letter, rest, shape, next, kind, now⟩)
    · rcases label.input_cases with empty | ⟨message, taken⟩
      · rw [empty] at mail
        simp at mail
        omega
      · obtain ⟨front, found, back, said, posts, length, paired⟩ :=
          coherent.next_letter step taken
        have posts : (accountOf duo.guest.log).posts = front ++ found :: back :=
          posts
        have length : front.length = (accountOf duo.host.log).mail.length :=
          length
        -- The request is the very message that is taken now.
        have same : found = letter := by
          have lengths : before.length = front.length := by
            rw [taken] at mail
            simp at mail
            omega
          rw [shape] at posts
          have parts := List.append_inj posts lengths
          exact (List.cons.inj parts.2).1.symm
        subst same
        subst said
        obtain ⟨host, alive⟩ :=
          act.plays_of_input (coherent.stopped .host) (coherent.steady .host)
            (coherent.seated .host) deaf (by simp [taken])
        rcases act.answers_request host taken kind with
          gone | opened | was | early
        · exact Or.inl gone
        · refine Or.inr (Or.inl ?_)
          have bound := coherent.epoch_le
          exact Nat.lt_of_le_of_lt bound opened
        · refine Or.inr (Or.inl ?_)
          have receives := host_receives afterReaches _ _ paired
          have epoch := receives.epoch (by simp [kind])
          change duo.host.stamp.epoch =
            found.stamp.epoch + duo.host.game.state.awaited at epoch
          rw [was] at epoch
          have one : State.awaited .returning = 1 := rfl
          change duo.guest.stamp.epoch < party.stamp.epoch
          omega
        · have nothing := pausing.reserved early
          have heardNothing : heard duo.guest.log = [] := by
            have within := coherent.hears .guest
            change heard duo.guest.log <+: posted duo.host.log at within
            rw [nothing] at within
            exact List.prefix_nil.mp within
          rcases pausing.greeted heardNothing with state | state
          · simp [State.Early, returning] at state
          · simp [returning] at state

theorem Pausing.reaches
    (reaches : Reaches world careful {} duo) :
    duo.Pausing := by
  induction reaches with
  | refl =>
      exact Pausing.initial
  | @tail duo after reaches step inductionHypothesis =>
      obtain ⟨side, label, step, allowed⟩ := step
      have coherent := Coherent.reaches reaches
      have afterReaches : Reaches world careful {} after :=
        reaches.tail ⟨side, label, step, allowed⟩
      have original := step
      cases step with
      | @act party output acted sound opens deaf hears =>
          cases side with
          | host =>
              exact ⟨acted.pauses (coherent.stopped .host)
                  (coherent.seated .host) deaf inductionHypothesis.pauses,
                inductionHypothesis.follows,
                acted.reserved (coherent.stopped .host) (coherent.steady .host)
                  (coherent.seated .host) inductionHypothesis.reserved,
                inductionHypothesis.greeted,
                Recalls.host_step reaches inductionHypothesis original allowed⟩
          | guest =>
              refine ⟨inductionHypothesis.pauses, ?_,
                inductionHypothesis.reserved,
                acted.greeted (coherent.stopped .guest)
                  inductionHypothesis.greeted,
                Recalls.guest_step coherent inductionHypothesis.recalls acted
                  deaf⟩
              refine acted.followsPause (coherent.stopped .guest)
                (coherent.seated .guest) deaf ?_ inductionHypothesis.follows
              intro message member kind
              rcases label.input_cases with empty | ⟨single, taken⟩
              · rw [empty] at member
                cases member
              · rw [taken, List.mem_singleton] at member
                subst member
                obtain ⟨_, _, _, _, _, _, paired⟩ :=
                  coherent.next_letter original taken
                exact ((Coherent.reaches afterReaches).guest_receives
                  paired).2.2 (Or.inr (Or.inr kind))

/-- No frame is run in a paused round. -/
theorem stepped_unpaused
    (reaches : Reaches world careful {} duo)
    (side : Side)
    (paused : Bool)
    (input : FrameInput)
    (stepped : .stepped paused input ∈ (duo.party side).log) :
    paused = false := by
  induction reaches with
  | refl =>
      cases side <;> cases stepped
  | tail reaches step inductionHypothesis =>
      obtain ⟨other, label, step, _⟩ := step
      cases step with
      | act acted sound opens deaf hears =>
          by_cases mine : side = other
          · subst mine
            rw [party_set] at stepped
            rcases acted.stepped_unpaused stepped with old | free
            · exact inductionHypothesis old
            · exact free
          · have theirs : side = other.other := by
              cases side <;> cases other <;> simp_all [Side.other]
            subst theirs
            rw [party_set_other] at stepped
            exact inductionHypothesis stepped

end Duo

namespace Net

variable {R : Type}

/-- Every message either end has queued has been received by the other. -/
def Quiet (net : Net R) : Prop :=
  ∀ side,
    heard (net.endpoint side).session.log =
      posted (net.endpoint side.other).session.log

/--
Whatever happens, once nothing is under way between two sessions that go on they
agree on the pause, and no frame is ever run in a paused session.
-/
theorem pause_agreement
    (world : World R)
    (happenings : List Happening) :
    let net := run world happenings
    (net.Quiet →
      net.host.session.state ≠ .ended →
      net.guest.session.state ≠ .ended →
      net.host.session.paused = net.guest.session.paused) ∧
      (∀ side paused input,
        .stepped paused input ∈ (net.endpoint side).session.log →
        paused = false) := by
  intro net
  have reaches := run_reaches_any world happenings
  have coherent := Duo.Coherent.reaches reaches
  have pausing := Duo.Pausing.reaches reaches
  refine ⟨?_, ?_⟩
  · intro quiet hostAlive guestAlive
    have told : heard net.guest.session.log = posted net.host.session.log :=
      quiet .guest
    have answered : heard net.host.session.log = posted net.guest.session.log :=
      quiet .host
    have settled : net.guest.session.state ≠ .returning := by
      intro returning
      rcases pausing.recalls returning with ended | behind | ⟨before, letter,
        later, shape, unheard, _, _⟩
      · exact hostAlive ended
      · rw [coherent.trails.stamp, coherent.leads.stamp] at behind
        change (travel (heard net.guest.session.log)).epoch <
          (travel (posted net.host.session.log)).epoch at behind
        rw [told] at behind
        omega
      · have lengths :
            (accountOf net.host.session.log).mail.length =
              (accountOf net.guest.session.log).posts.length := by
          have same := congrArg List.length answered
          rw [← map_mail, ← map_posts] at same
          simpa using same
        have shape : (accountOf net.guest.session.log).posts =
            before ++ letter :: later := shape
        have unheard : (accountOf net.host.session.log).mail.length ≤
            before.length := unheard
        rw [lengths, shape] at unheard
        simp at unheard
    have hostPause := pausing.pauses hostAlive
    have guestPause := pausing.follows guestAlive settled
    change net.host.session.paused = pausedBy (posted net.host.session.log)
      at hostPause
    change net.guest.session.paused = pausedBy (heard net.guest.session.log)
      at guestPause
    rw [hostPause, guestPause, told]
  · intro side paused input stepped
    refine Duo.stepped_unpaused reaches side paused input ?_
    rw [duo_party]
    exact stepped

end Net

end FlyNes.LanMvp
