import FlyNes.Chronology
import FlyNes.LanRuns

namespace FlyNes.LanMvp

open ByteString
open Chronology (cut_concat)
open Wire (Kind Message)

/-!
# Admission

A host waits for its token, a guest for the host's answer.  The results are
about every run of one session, whatever its peer sends.
-/

/-- A deed that admits a guest. -/
def Effect.isAdmission : Effect → Bool
  | .admitted _ _ => true
  | _ => false

/-- A deed other than leaving the invitation for something but the end. -/
def Effect.KeepsInviting (effect : Effect) : Prop :=
  ∀ target, effect = .moved .inviting target → target = .ended

/--
A history in which a host leaves its invitation by ending or by taking in its
token in time.
-/
inductive Admits (token : Block 16) : List Effect → Prop where
  | nil :
      Admits token []
  | other {log : List Effect} (effect : Effect) :
      Admits token log →
      effect.KeepsInviting →
      Admits token (log ++ [effect])
  | lobby {log : List Effect} (generation now deadline : Nat)
      (accept : Message) :
      Admits token log →
      now < deadline →
      Admits token
        (log ++
          [.received .inviting generation ⟨.join, token.bytes⟩,
            .admitted now deadline, .queued generation accept,
            .moved .inviting .lobby])

namespace Admits

variable {token : Block 16} {log : List Effect}

theorem append
    (admits : Admits token log)
    {effects : List Effect}
    (keep : ∀ effect ∈ effects, effect.KeepsInviting) :
    Admits token (log ++ effects) := by
  induction effects using List.reverseRecOn with
  | nil =>
      simpa using admits
  | append_singleton effects effect inductionHypothesis =>
      rw [← List.append_assoc]
      refine Admits.other effect (inductionHypothesis ?_) (keep effect (by simp))
      intro earlier member
      exact keep earlier (by simp [member])

/-- The invitation is left for the end or right after the token. -/
theorem moved_inviting
    (admits : Admits token log)
    {earlier later : List Effect}
    {target : State}
    (shape : log = earlier ++ .moved .inviting target :: later) :
    target = .ended ∨
      (target = .lobby ∧
        ∃ before generation now deadline accept,
          now < deadline ∧
          earlier = before ++
            [.received .inviting generation ⟨.join, token.bytes⟩,
              .admitted now deadline, .queued generation accept]) := by
  induction admits generalizing later with
  | nil =>
      simp at shape
  | other effect admits keeps inductionHypothesis =>
      rcases cut_concat shape with ⟨_, _, same⟩ | ⟨front, _, shorter⟩
      · exact Or.inl (keeps target same.symm)
      · exact inductionHypothesis shorter
  | @lobby log generation now deadline accept admits inTime
      inductionHypothesis =>
      have last :
          (((log ++
            [.received .inviting generation ⟨.join, token.bytes⟩]) ++
            [.admitted now deadline]) ++ [.queued generation accept]) ++
            [.moved .inviting .lobby] =
            earlier ++ .moved .inviting target :: later := by
        simpa using shape
      rcases cut_concat last with ⟨_, before, same⟩ | ⟨front, _, third⟩
      · refine Or.inr ⟨(Effect.moved.inj same).2, log, generation, now,
          deadline, accept, inTime, ?_⟩
        simp [before]
      · rcases cut_concat third with ⟨_, _, same⟩ | ⟨front, _, second⟩
        · cases same
        · rcases cut_concat second with ⟨_, _, same⟩ | ⟨front, _, first⟩
          · cases same
          · rcases cut_concat first with ⟨_, _, same⟩ | ⟨front, _, shorter⟩
            · cases same
            · exact inductionHypothesis shorter

end Admits

/-- What the history of a host says about its invitation. -/
structure Party.Invited {R : Type} (party : Party R) : Prop where
  side : party.game.state = .inviting → party.game.role = .host
  sideless : party.game.state = .idle → party.game.role = .none
  early :
    party.game.state = .idle ∨ party.game.state = .inviting →
    party.log.filter Effect.isAdmission = []
  unopened :
    party.game.state = .idle →
    ∀ effect ∈ party.log, effect.KeepsInviting
  admits : Admits party.game.invite.token party.log
  once : (party.log.filter Effect.isAdmission).length ≤ 1

/-- The states in which the two sides have met. -/
def State.Met (state : State) : Prop :=
  state = .lobby ∨ state = .configuring ∨ state = .running ∨
    state = .returning

/-- A lobby message that reaches a guest before it is let in. -/
def Effect.JumpsAhead (effect : Effect) : Prop :=
  match effect with
  | .received state _ message => state = .joining ∧ OpensLobby message
  | _ => False

instance (effect : Effect) : Decidable effect.JumpsAhead :=
  match effect with
  | .received state _ message =>
      inferInstanceAs (Decidable (state = .joining ∧ OpensLobby message))
  | .nullDereference _ | .admitted _ _ | .queued _ _ | .moved _ _ | .cleared
  | .stored _ _ | .stepped _ _ | .published _ _ =>
      .isFalse id

/-- No lobby message has reached a guest before it was let in. -/
def Patient (log : List Effect) : Prop :=
  ∀ effect ∈ log, ¬ effect.JumpsAhead

instance (log : List Effect) : Decidable (Patient log) :=
  inferInstanceAs (Decidable (∀ effect ∈ log, ¬ effect.JumpsAhead))

/-- A guest that has met its host holds the id it was let in with. -/
def Party.Welcomed {R : Type} (party : Party R) : Prop :=
  party.game.role = .guest →
  party.game.state.Met →
  Patient party.log →
  ∃ generation,
    .received .joining generation ⟨.accept, party.game.sessionId.bytes⟩ ∈
      party.log

namespace Act

variable
  {R : Type}
  {env : Env R}
  {label : Label}
  {party after : Party R}
  {output : Option Message}

/-- Every act but opening and admitting keeps the invitation or ends it. -/
theorem keeps_inviting
    (act : Act env label party output after)
    (side : party.game.state = .inviting → party.game.role = .host)
    (unopened : ∀ role, label ≠ .opened role)
    (unadmitted :
      ∀ message,
        label = .heard message →
        message.kind = .join →
        ¬ party.game.Accepts message)
    {effects : List Effect}
    (log : party.log ++ effects = after.log) :
    (∀ effect ∈ effects,
      effect.KeepsInviting ∧ effect.isAdmission = false) ∧
      after.game.invite.token = party.game.invite.token ∧
      (after.game.state = .inviting → party.game.state = .inviting) := by
  cases act with
  | _ =>
      simp_all [Effect.KeepsInviting, Effect.isAdmission, Game.CanLeave,
        Game.Accepts] <;>
      (intro inviting; simp_all)

/-- What a join with the right token can lead to. -/
theorem of_join
    {message : Message}
    (act : Act env (.heard message) party output after)
    (join : message.kind = .join)
    (accepts : party.game.Accepts message)
    (admits : Admits party.game.invite.token party.log)
    (fresh : party.log.filter Effect.isAdmission = []) :
    after.game.invite = party.game.invite ∧
      after.game.state ≠ .inviting ∧
      after.game.state ≠ .idle ∧
      (after.log.filter Effect.isAdmission).length ≤ 1 ∧
      Admits after.game.invite.token after.log := by
  have token : message.payload = party.game.invite.token.bytes := by
    simp only [Game.Accepts, join] at accepts
    exact accepts.2.2
  have inviting : party.game.state = .inviting := by
    simp only [Game.Accepts, join] at accepts
    exact accepts.2.1
  have shape : message = ⟨.join, party.game.invite.token.bytes⟩ := by
    rw [← join, ← token]
  cases act with
  | ignored _ idle alive ignores =>
      cases ignores <;> simp_all
  | refused _ reason idle alive away cause =>
      refine ⟨rfl, by simp, by simp, ?_, ?_⟩
      · simp [fresh, Effect.isAdmission]
      · simp only [Party.finish, List.append_assoc]
        exact admits.append (by simp [Effect.KeepsInviting])
  | admitted _ now idle kind accepted early =>
      refine ⟨rfl, by simp, by simp, ?_, ?_⟩
      · simp [fresh, Effect.isAdmission, List.filter_cons]
      · have whole :=
          Admits.lobby party.game.lobbyGeneration now party.game.deadline
            ⟨.accept, (party.game.identify env.sha256).sessionId.bytes⟩
            admits early
        simpa [shape, inviting] using whole
  | admitLost _ now idle kind accepted early refuses =>
      refine ⟨rfl, by simp, by simp, ?_, ?_⟩
      · simp [fresh, Effect.isAdmission, List.filter_cons]
      · simp only [Party.finish, Party.become, List.append_assoc]
        exact admits.append (by simp [Effect.KeepsInviting])
  | _ =>
      simp_all

theorem opened_invited
    {role : Role}
    (act : Act env (.opened role) party output after)
    (before : party.Invited) :
    after.Invited := by
  cases act with
  | opened _ target invite idle unopened side =>
      have early := before.early (Or.inl unopened)
      have alone : target = .inviting → role = .host := by
        rcases side with ⟨host, _⟩ | ⟨_, rfl⟩
        · exact fun _ => host
        · simp
      have open' : target ≠ .idle := by
        rcases side with ⟨_, rfl⟩ | ⟨_, rfl⟩ <;> simp
      constructor
      · exact alone
      · exact fun stillIdle => absurd stillIdle open'
      · intro _
        simp [early, Effect.isAdmission]
      · exact fun stillIdle => absurd stillIdle open'
      · have kept : Admits invite.token ([] ++ party.log) :=
          Admits.nil.append (before.unopened unopened)
        rw [List.nil_append] at kept
        exact Admits.other _ kept (by simp [Effect.KeepsInviting])
      · simp [early, Effect.isAdmission]

/-- Every act keeps what the history says about the invitation. -/
theorem invited
    (act : Act env label party output after)
    (before : party.Invited) :
    after.Invited := by
  obtain ⟨effects, log, _, _⟩ := act.deeds
  by_cases opens : ∃ role, label = .opened role
  · obtain ⟨role, rfl⟩ := opens
    exact act.opened_invited before
  have unopened : ∀ role, label ≠ .opened role := by
    simpa using opens
  have role := act.role_eq unopened
  by_cases admits :
      ∃ message, label = .heard message ∧ message.kind = .join ∧
        party.game.Accepts message
  · obtain ⟨message, rfl, join, accepts⟩ := admits
    have inviting : party.game.state = .inviting := by
      simp only [Game.Accepts, join] at accepts
      exact accepts.2.1
    obtain ⟨_, left, open', once, admitted⟩ :=
      act.of_join join accepts before.admits
        (before.early (Or.inr inviting))
    constructor
    · exact fun now => absurd now left
    · exact fun now => absurd now open'
    · rintro (now | now)
      · exact absurd now open'
      · exact absurd now left
    · exact fun now => absurd now open'
    · exact admitted
    · exact once
  · have unadmitted :
        ∀ message,
          label = .heard message →
          message.kind = .join →
          ¬ party.game.Accepts message := by
      intro message heard join accepts
      exact admits ⟨message, heard, join, accepts⟩
    obtain ⟨keep, token, inviting⟩ :=
      act.keeps_inviting before.side unopened unadmitted log.symm
    have same :
        after.log.filter Effect.isAdmission =
          party.log.filter Effect.isAdmission := by
      have none : effects.filter Effect.isAdmission = [] := by
        rw [List.filter_eq_nil_iff]
        intro effect member
        simp [(keep effect member).2]
      rw [log, List.filter_append, none, List.append_nil]
    constructor
    · intro now
      rw [role]
      exact before.side (inviting now)
    · intro now
      rw [role]
      exact before.sideless (act.idle_of_idle now).1
    · rw [same]
      rintro (idle | now)
      · exact before.early (Or.inl (act.idle_of_idle idle).1)
      · exact before.early (Or.inr (inviting now))
    · intro idle effect member
      rw [log] at member
      rcases List.mem_append.mp member with old | new
      · exact before.unopened (act.idle_of_idle idle).1 effect old
      · exact (keep effect new).1
    · rw [token, log]
      exact before.admits.append fun effect member => (keep effect member).1
    · rw [same]
      exact before.once

/-- How a guest can come to have met its host. -/
theorem met_of_met
    (act : Act env label party output after)
    (unopened : ∀ role, label ≠ .opened role)
    (guest : party.game.role = .guest)
    (invited : party.Invited)
    (met : after.game.state.Met) :
    (party.game.state.Met ∧
        after.game.sessionId = party.game.sessionId) ∨
      ∃ message,
        .received .joining party.game.lobbyGeneration message ∈ after.log ∧
        ((message.kind = .accept ∧
            message.payload = after.game.sessionId.bytes) ∨
          OpensLobby message) := by
  have notInviting : party.game.state ≠ .inviting := by
    intro inviting
    have host := invited.side inviting
    simp [guest] at host
  have notIdle : party.game.state ≠ .idle := by
    intro idle
    have none := invited.sideless idle
    simp [guest] at none
  cases act with
  | accepted message idle kind accepts =>
      simp only [Game.Accepts, kind] at accepts
      obtain ⟨_, joining, sized⟩ := accepts
      refine Or.inr ⟨message, by simp [joining], Or.inl ⟨kind, ?_⟩⟩
      have whole :
          (Block.copy 16 message.payload).bytes = message.payload.take 16 :=
        Block.bytes_copy_of_le (by omega)
      rw [List.take_of_length_le (by omega)] at whole
      exact whole.symm
  | lobbyHeard message idle alive kind accepts =>
      by_cases joining : party.game.state = .joining
      · refine Or.inr ⟨message, by simp [joining], Or.inr ⟨kind, ?_⟩⟩
        simp_all [Game.Accepts]
      · refine Or.inl ⟨?_, rfl⟩
        unfold State.Met
        generalize party.game.state = state at *
        cases state <;> simp_all
  | _ =>
      simp_all [State.Met, Game.CanLeave, Game.Accepts] <;> tauto

/-- Every act keeps what the history says about the guest's admission. -/
theorem welcomed
    (act : Act env label party output after)
    (invited : party.Invited)
    (before : party.Welcomed) :
    after.Welcomed := by
  intro guest met patient
  by_cases opens : ∃ role, label = .opened role
  · obtain ⟨role, rfl⟩ := opens
    cases act with
    | opened _ target invite idle unopened side =>
        rcases side with ⟨_, rfl⟩ | ⟨_, rfl⟩ <;> simp [State.Met] at met
  have unopened : ∀ role, label ≠ .opened role := by
    simpa using opens
  rw [act.role_eq unopened] at guest
  obtain ⟨effects, log, _, _⟩ := act.deeds
  rcases act.met_of_met unopened guest invited met with
    ⟨wasMet, sameId⟩ | ⟨message, received, accept | jump⟩
  · have wasPatient : Patient party.log := by
      intro effect member
      exact patient effect (by simp [log, member])
    obtain ⟨generation, accepted⟩ := before guest wasMet wasPatient
    refine ⟨generation, ?_⟩
    rw [sameId, log]
    exact List.mem_append_left _ accepted
  · obtain ⟨kind, payload⟩ := accept
    have shape : message = ⟨.accept, after.game.sessionId.bytes⟩ := by
      rw [← kind, ← payload]
    rw [shape] at received
    exact ⟨_, received⟩
  · exact absurd ⟨rfl, jump⟩ (patient _ received)

end Act

namespace Session

variable {R : Type} {env : Env R} {session : Session R} {message : Message}

/-- A message that is no join leaves an invitation alone or ends it. -/
theorem handleMessage_of_inviting
    (notJoin : message.kind ≠ .join)
    (host : session.role = .host)
    (inviting : session.state = .inviting) :
    session.handleMessage env message =
        session.note
          (.received session.state session.lobbyGeneration message) ∨
      (session.handleMessage env message).state = .ended := by
  unfold handleMessage
  generalize noted :
    session.note (.received session.state session.lobbyGeneration message) =
      arrived
  have arrivedHost : arrived.role = .host := by
    rw [← noted]
    exact host
  have arrivedInviting : arrived.state = .inviting := by
    rw [← noted]
    exact inviting
  unfold dispatch
  split_ifs with request lobby ack returning pause
  · left
    simp [returnLobby, arrivedInviting]
  · simp [arrivedHost] at lobby
  · simp [arrivedInviting] at ack
  · simp [arrivedInviting] at returning
  · left
    simp [handlePause, arrivedInviting]
  · right
    split
    · contradiction
    · simp [handleAccept, arrivedHost, endSession_state]
    · simp [handleConfig, arrivedInviting, endSession_state]
    · simp [handleReady, arrivedInviting, endSession_state]
    · simp [handleStart, arrivedHost, endSession_state]
    · unfold handleInput
      split
      · exact endSession_state _
      · simp [arrivedInviting, endSession_state]
    · simp [handleDigest, arrivedInviting, endSession_state]
    · exact endSession_state _
    · exact endSession_state _

/-- Before a guest is let in, other messages leave it waiting or end it. -/
theorem handleMessage_of_joining
    (unaccepted : ¬ (message.kind = .accept ∧ message.payload.length = 16))
    (stays : ¬ OpensLobby message)
    (guest : session.role = .guest)
    (joining : session.state = .joining) :
    (session.handleMessage env message).state = .joining ∨
      (session.handleMessage env message).state = .ended := by
  unfold handleMessage
  generalize noted :
    session.note (.received session.state session.lobbyGeneration message) =
      arrived
  have arrivedGuest : arrived.role = .guest := by
    rw [← noted]
    exact guest
  have arrivedJoining : arrived.state = .joining := by
    rw [← noted]
    exact joining
  unfold dispatch
  split_ifs with request lobby ack returning pause
  · simp [arrivedGuest] at request
  · exact absurd ⟨lobby.1, lobby.2.2⟩ stays
  · simp [arrivedGuest] at ack
  · simp [arrivedJoining] at returning
  · left
    simp [handlePause, arrivedJoining]
  · right
    split
    · simp [handleJoin, arrivedGuest, refuseJoin, endSession_state]
    · next accept =>
        have short : message.payload.length ≠ 16 := by
          intro sized
          exact unaccepted ⟨accept, sized⟩
        simp [handleAccept, short, endSession_state]
    · simp [handleConfig, arrivedJoining, endSession_state]
    · simp [handleReady, arrivedJoining, endSession_state]
    · simp [handleStart, arrivedJoining, endSession_state]
    · unfold handleInput
      split
      · exact endSession_state _
      · simp [arrivedJoining, endSession_state]
    · simp [handleDigest, arrivedJoining, endSession_state]
    · exact endSession_state _
    · exact endSession_state _

end Session

namespace Endpoint

variable {R : Type}

theorem initial_invited :
    Party.Invited (({} : Endpoint R).station).party where
  side := by
    intro inviting
    cases inviting
  sideless := fun _ => rfl
  early := fun _ => rfl
  unopened := by
    intro _ effect member
    cases member
  admits := Admits.nil
  once := Nat.zero_le 1

/-- Every run keeps what its history says about the invitation. -/
theorem run_invited
    (env : Env R)
    (calls : List Call) :
    (run env calls).station.Orderly ∧
      (run env calls).station.party.Invited := by
  refine run_invariant env (fun station => station.party.Invited) ?_
    (fun _ _ invited => invited) initial_invited calls
  intro label first second orderly invited move
  rcases move.acts orderly with ⟨_, same⟩ | ⟨output, act⟩
  · rw [same]
    exact invited
  · exact act.invited invited

/--
For every run of a session: its history records every change of its state; it
leaves the invitation for the end, or for the lobby right after it has taken in
a join with its token before the deadline; it admits at most once; and while it
hosts an invitation any other message leaves it alone or ends it.
-/
theorem host_admission
    (env : Env R)
    (calls : List Call) :
    let session := (run env calls).session
    session.log.foldlM Effect.next .idle = some session.state ∧
      (∀ earlier target later,
        session.log = earlier ++ .moved .inviting target :: later →
        target = .ended ∨
          (target = .lobby ∧
            ∃ before generation now deadline accept,
              now < deadline ∧
              earlier = before ++
                [.received .inviting generation
                    ⟨.join, session.invite.token.bytes⟩,
                  .admitted now deadline, .queued generation accept])) ∧
      (session.log.filter Effect.isAdmission).length ≤ 1 ∧
      (session.role = .host →
        session.state = .inviting →
        ∀ message : Message,
          message.kind ≠ .join →
          session.handleMessage env message =
              session.note
                (.received session.state session.lobbyGeneration message) ∨
            (session.handleMessage env message).state = .ended) := by
  intro session
  obtain ⟨orderly, invited⟩ := run_invited env calls
  refine ⟨orderly.chronicled, ?_, invited.once, ?_⟩
  · intro earlier target later shape
    exact invited.admits.moved_inviting shape
  · intro host inviting message notJoin
    exact Session.handleMessage_of_inviting notJoin host inviting

/-- Every run keeps what its history says about the guest's admission. -/
theorem run_welcomed
    (env : Env R)
    (calls : List Call) :
    (run env calls).station.party.Welcomed := by
  have both :=
    run_invariant env
      (fun station => station.party.Invited ∧ station.party.Welcomed) ?_
      (fun _ _ holds => holds) ⟨initial_invited, ?_⟩ calls
  · exact both.2.2
  · rintro label first second orderly ⟨invited, welcomed⟩ move
    rcases move.acts orderly with ⟨_, same⟩ | ⟨output, act⟩
    · rw [same]
      exact ⟨invited, welcomed⟩
    · exact ⟨act.invited invited, act.welcomed invited welcomed⟩
  · intro guest
    cases guest

/--
In every run in which no eight-byte lobby message reaches the session while it
is joining: a guest that has met its host has received, while joining, an
accept with the session id it holds, and while it is joining any other message
leaves it there or ends it.
-/
theorem guest_admission
    (env : Env R)
    (calls : List Call)
    (patient : Patient (run env calls).session.log) :
    let session := (run env calls).session
    (session.role = .guest →
      session.state.Met →
      ∃ generation,
        .received .joining generation ⟨.accept, session.sessionId.bytes⟩ ∈
          session.log) ∧
      (session.role = .guest →
        session.state = .joining →
        ∀ message : Message,
          ¬ (message.kind = .accept ∧ message.payload.length = 16) →
          ¬ OpensLobby message →
          (session.handleMessage env message).state = .joining ∨
            (session.handleMessage env message).state = .ended) := by
  intro session
  refine ⟨?_, ?_⟩
  · intro guest met
    exact run_welcomed env calls guest met patient
  · intro guest joining message unaccepted stays
    exact Session.handleMessage_of_joining unaccepted stays guest joining

end Endpoint

/-- An invitation of a host that listens on port 5000 of 10.0.0.1. -/
def sampleInvite : Invite :=
  { ipv4 := ⟨[10, 0, 0, 1], rfl⟩, port := 5000 }

/-- A provider that takes every operation, on a clock that stands still. -/
def sampleEnv : Env Unit where
  runtime :=
    { create := some ()
      loadRomFresh := fun _ _ _ => some ()
      getSourceTiming := fun _ => some ⟨0, 60, 1, 48000⟩
      stepFrame := fun _ _ => some ((), ⟨0, false⟩)
      copyFrameDigest := fun _ _ _ => some default
      copyLatestFrame := fun _ _ => true
      pullPcm := fun _ _ => none }
  sha256 := fun _ => default
  clock := fun _ => 0
  answer := fun _ => quicAccepted

/-- A guest joins and receives one message from its peer. -/
def joinsAndHears (message : Message) : List Call :=
  [.join (ascii "10.0.0.2") ((formatInvite sampleInvite).getD []),
    .completion ⟨1, quicOk, 7, []⟩, .snapshotRead,
    .completion ⟨2, quicOk, 8, appendU64 9⟩, .snapshotRead,
    .completion ⟨4, quicOk, 0, message.frame⟩, .snapshotRead]

/-- Let in by its host, a guest holds the id it was given. -/
theorem guest_admission_accepted :
    let calls := joinsAndHears ⟨.accept, sampleInvite.token.bytes⟩
    (Endpoint.run sampleEnv calls).session.role = .guest ∧
      (Endpoint.run sampleEnv calls).session.state.Met ∧
      ∃ generation,
        .received .joining generation
            ⟨.accept,
              (Endpoint.run sampleEnv calls).session.sessionId.bytes⟩ ∈
          (Endpoint.run sampleEnv calls).session.log := by
  have guest :
      (Endpoint.run sampleEnv
        (joinsAndHears ⟨.accept, sampleInvite.token.bytes⟩)).session.role =
        .guest := by
    decide +kernel
  have met :
      (Endpoint.run sampleEnv
        (joinsAndHears
          ⟨.accept, sampleInvite.token.bytes⟩)).session.state.Met :=
    Or.inl (by decide +kernel)
  exact ⟨guest, met,
    (Endpoint.guest_admission sampleEnv _ (by decide)).1 guest met⟩

/-- A lobby message alone takes a guest past its admission. -/
theorem guest_enters_lobby_unaccepted :
    let session :=
      (Endpoint.run sampleEnv
        (joinsAndHears ⟨.lobby, appendU64 1⟩)).session
    session.role = .guest ∧ session.state = .lobby ∧
      ∀ generation payload,
        .received .joining generation ⟨.accept, payload⟩ ∉ session.log := by
  have log :
      (Endpoint.run sampleEnv
        (joinsAndHears ⟨.lobby, appendU64 1⟩)).session.log =
        [.moved .idle .joining,
          .queued 0 ⟨.join, sampleInvite.token.bytes⟩,
          .received .joining 0 ⟨.lobby, appendU64 1⟩, .cleared,
          .moved .joining .lobby, .queued 1 ⟨.lobbyAck, appendU64 1⟩] := by
    decide
  refine ⟨by decide, by decide, ?_⟩
  intro generation payload
  rw [log]
  simp

end FlyNes.LanMvp
