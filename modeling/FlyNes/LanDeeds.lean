import FlyNes.LanAccount
import FlyNes.LanFrameMoves

namespace FlyNes.LanMvp

open Wire (Kind Message)

/-!
# What every act has in common

Acts extend the history by the message they take in and the message they send.
The recorded state changes follow each other without a gap, nothing follows the
end of a session, and a session that has ended holds no game.
-/

/-- A party that has ended holds no game. -/
def Party.Stopped {R : Type} (party : Party R) : Prop :=
  party.game.state = .ended →
    party.game.runtime = none ∧ party.game.inputs = none

/--
The state after one deed.  No deed follows a null pointer, leaves a state other
than the present one or happens after the end.
-/
def Effect.next (state : State) : Effect → Option State
  | .nullDereference _ => none
  | .moved source target =>
      if source = state ∧ state ≠ .ended then some target else none
  | _ => if state = .ended then none else some state

/-- The history accounts for the state of a party. -/
def Party.Chronicled {R : Type} (party : Party R) : Prop :=
  party.log.foldlM Effect.next .idle = some party.game.state

attribute [simp] Party.become Party.logged Party.finish Party.receipt
  Party.posting

attribute [simp] Game.stopRuntime Game.finish Game.clearGame Game.beginRound
  Game.completeFrame Game.keepDigest Game.recordConfig Game.withdraw
  Game.commitSelection Game.settleDigest Game.ranFrame Game.identify
  Game.followLobby Game.openLobby

namespace Act

variable
  {R : Type}
  {env : Env R}
  {label : Label}
  {party after : Party R}
  {output : Option Message}

variable (act : Act env label party output after)

include act

/-- The history grows by what an act takes in and sends. -/
theorem deeds :
    ∃ effects,
      after.log = party.log ++ effects ∧
      posted effects = output.toList ∧
      heard effects = label.input := by
  cases act with
  | drift next ours theirs owed ended =>
      exact ⟨[], by simp, rfl, rfl⟩
  | _ =>
      first
      | exact ⟨_, rfl, rfl, rfl⟩
      | exact ⟨_, List.append_assoc _ _ _, rfl, rfl⟩
      | exact ⟨_, (List.append_assoc _ _ _).trans
          (List.append_assoc _ _ _), rfl, rfl⟩
      | exact ⟨[], by simp, rfl, rfl⟩

theorem posted_eq :
    posted after.log = posted party.log ++ output.toList := by
  obtain ⟨effects, log, sent, _⟩ := act.deeds
  rw [log, posted_append, sent]

theorem heard_eq :
    heard after.log = heard party.log ++ label.input := by
  obtain ⟨effects, log, _, received⟩ := act.deeds
  rw [log, heard_append, received]

theorem heard_within
    {posts : List Message}
    (hears : heard after.log <+: posts) :
    heard party.log ++ label.input <+: posts := by
  rw [← act.heard_eq]
  exact hears

/-- Nothing but bookkeeping happens after the end. -/
theorem of_ended
    (ended : party.game.state = .ended)
    (stopped : party.Stopped) :
    label = .silent ∧ output = none ∧ after.log = party.log ∧
      after.game.state = .ended ∧
      after.game.reason = party.game.reason ∧
      after.game.role = party.game.role ∧
      after.game.runtime = none ∧ after.game.inputs = none := by
  obtain ⟨unloaded, empty⟩ := stopped ended
  have notRunning : party.game.state ≠ .running := by
    simp [ended]
  cases act with
  | drift next ours theirs owed _ =>
      exact ⟨rfl, rfl, rfl, ended, rfl, rfl, unloaded, empty⟩
  | frame ready ran due =>
      exact absurd ready.running notRunning
  | digest ready ran due copied agreement =>
      exact absurd ready.running notRunning
  | clash reason ready ran due copied clash cause =>
      exact absurd ready.running notRunning
  | frameFailed ready failed =>
      exact absurd ready.running notRunning
  | digestFailed ready ran due failed =>
      exact absurd ready.running notRunning
  | _ =>
      simp_all [Game.CanLeave, Game.Accepts]

/-- Whatever ends a party drops its game. -/
theorem stopped
    (before : party.Stopped) :
    after.Stopped := by
  intro ended
  by_cases wasEnded : party.game.state = .ended
  · obtain ⟨_, _, _, _, _, _, unloaded, empty⟩ :=
      act.of_ended wasEnded before
    exact ⟨unloaded, empty⟩
  · cases act with
    | frame ready ran due =>
        exact absurd ended wasEnded
    | digest ready ran due copied agreement =>
        exact absurd ended wasEnded
    | _ =>
        first
        | exact ⟨rfl, rfl⟩
        | simp_all [Game.CanLeave, Game.Accepts]

/-- The history keeps accounting for the state. -/
theorem chronicled
    (stopped : party.Stopped)
    (before : party.Chronicled) :
    after.Chronicled := by
  unfold Party.Chronicled at before ⊢
  by_cases ended : party.game.state = .ended
  · obtain ⟨_, _, log, state, _⟩ := act.of_ended ended stopped
    rw [log, state, before, ended]
  · cases act with
    | frame ready ran due =>
        simp [before, Effect.next, ready.running]
    | digest ready ran due copied agreement =>
        simp [before, Effect.next, ready.running]
    | clash reason ready ran due copied clash cause =>
        simp [before, Effect.next, ready.running]
    | frameFailed ready failed =>
        simp [before, Effect.next, ready.running]
    | digestFailed ready ran due failed =>
        simp [before, Effect.next, ready.running]
    | _ =>
        simp_all [Effect.next, Game.CanLeave, Game.Accepts]

/-- Only opening a session gives it a side. -/
theorem role_eq
    (unopened : ∀ role, label ≠ .opened role) :
    after.game.role = party.game.role := by
  cases act with
  | opened role target invite idle state side =>
      exact absurd rfl (unopened role)
  | _ =>
      rfl

/-- Before the streams stand a party can only be opened and addressed. -/
theorem of_early
    (early :
      party.game.state = .idle ∨ party.game.state = .inviting ∨
        party.game.state = .joining)
    (idle : party.owed = none)
    (deaf : label.input = [])
    (unopened : ∀ role, label ≠ .opened role)
    (alive : after.game.state ≠ .ended)
    (mute : ∀ message ∈ output, message.kind ≠ .join) :
    after.game.state = party.game.state ∧
      after.game.role = party.game.role ∧
      after.owed = none ∧
      after.log = party.log ∧
      output = none := by
  have notRunning : party.game.state ≠ .running := by
    rcases early with fresh | inviting | joining <;> simp_all
  cases act with
  | frame ready ran due =>
      exact absurd ready.running notRunning
  | digest ready ran due copied agreement =>
      exact absurd ready.running notRunning
  | clash reason ready ran due copied clash cause =>
      exact absurd ready.running notRunning
  | _ =>
      rcases early with fresh | inviting | joining <;>
        simp_all [Label.input, Game.CanLeave]

/-- A session is opened once. -/
theorem idle_of_idle
    (idle : after.game.state = .idle) :
    party.game.state = .idle ∧ ∀ role, label ≠ .opened role := by
  cases act with
  | opened role target invite _ _ side =>
      rcases side with ⟨_, rfl⟩ | ⟨_, rfl⟩ <;> simp at idle
  | _ =>
      simp_all

omit act in
theorem idle_of_opened
    {role : Role}
    (act : Act env (.opened role) party output after) :
    party.game.state = .idle ∧ after.game.role = role := by
  cases act with
  | opened _ target invite owed idle side =>
      exact ⟨idle, rfl⟩

end Act

end FlyNes.LanMvp
