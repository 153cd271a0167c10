import FlyNes.PlanLock

namespace FlyNes.Pair

open ByteString
open FlyNes.Wire

/-!
# The course of a plan lock

A lock that never fails goes through a fixed list of beats: it waits for a
message or it has a command pending.  The list depends on the role of the device
and on what the plan gives it to do.  A lock that fails stays where it is.
-/

namespace InitialPlanCommandKind

/-- The commands that raise the bearer. -/
def raisesBearer : InitialPlanCommandKind → Bool
  | .createBearer => true
  | .joinBearer => true
  | _ => false

/-- The commands that lock the plan durably. -/
def locks : InitialPlanCommandKind → Bool
  | .persistPlanAndLock => true
  | .persistAckAndLock => true
  | _ => false

/-- The commands that persist the plan of the initiator. -/
def persistsPlan : InitialPlanCommandKind → Bool
  | .persistPlan => true
  | .persistPlanAndLock => true
  | _ => false

/-- What has to be persisted before a message is sent. -/
def persistedBefore : InitialPlanCommandKind → Option InitialPlanCommandKind
  | .sendPlan => some .persistPlan
  | .sendAck => some .persistAck
  | .sendFinal => some .persistFinal
  | .publishCredentials => some .persistCredentials
  | _ => none

end InitialPlanCommandKind

/-- Where a lock stands: it waits for a message, or a command is pending. -/
inductive Beat where
  | await (phase : Phase)
  | command (kind : InitialPlanCommandKind)
deriving DecidableEq

namespace Beat

def kind? : Beat → Option InitialPlanCommandKind
  | .await _ => none
  | .command kind => some kind

end Beat

/-- What a device does under a plan. -/
structure Casting where
  role : PairRole
  creator : Bool
  designated : Bool
deriving DecidableEq

namespace Casting

/-- The casting of a role under a plan. -/
def under (role : PairRole) (plan : BearerPlanBytes) : Casting where
  role := role
  creator := plan.bytes.getD 1 0 == role.code
  designated := plan.bytes.getD 5 0 == role.code

/-- The beats until both devices have locked the plan. -/
def opening : PairRole → List Beat
  | .initiator =>
      [.command .persistPlan, .command .sendPlan, .await .ack,
        .command .persistAckAndLock, .await .final, .command .persistFinal,
        .command .sendFinal, .command .persistMutualLock]
  | .responder =>
      [.command .persistPlanAndLock, .await .ack, .command .persistAck,
        .command .sendAck, .await .final, .command .persistFinal,
        .command .persistMutualLock]

/-- The beat before the bearer is raised, if the device may prompt. -/
def prompting (casting : Casting) : List Beat :=
  if casting.designated then [.command .persistPromptConsumed] else []

/-- The beats after both devices have locked the plan. -/
def closing (casting : Casting) : List Beat :=
  if casting.creator then
    casting.prompting ++
      [.command .createBearer, .await .credentials, .command .persistCredentials,
        .command .publishCredentials]
  else
    [.await .credentials, .command .persistCredentials] ++ casting.prompting ++
      [.command .joinBearer]

/-- Every beat of a lock, in order. -/
def script (casting : Casting) : List Beat :=
  [.await .idle, .await .plan] ++ opening casting.role ++ casting.closing

/-- The command that raises the bearer. -/
def bearer (casting : Casting) : Beat :=
  if casting.creator then .command .createBearer else .command .joinBearer

/-- The beat of a device that is about to raise the bearer. -/
def authorized (casting : Casting) : Beat :=
  if casting.designated then .command .persistPromptConsumed else casting.bearer

/-- The beat after a beat. -/
def follows (casting : Casting) : Beat → Option Beat
  | .await .idle => some (.await .plan)
  | .await .plan =>
      some (.command
        (if casting.role = .initiator then .persistPlan else .persistPlanAndLock))
  | .await .ack =>
      some (.command
        (if casting.role = .initiator then .persistAckAndLock else .persistAck))
  | .await .final => some (.command .persistFinal)
  | .await .credentials => some (.command .persistCredentials)
  | .await .pending => none
  | .await .done => none
  | .command .persistPlan => some (.command .sendPlan)
  | .command .persistPlanAndLock => some (.await .ack)
  | .command .sendPlan => some (.await .ack)
  | .command .persistAck => some (.command .sendAck)
  | .command .persistAckAndLock => some (.await .final)
  | .command .sendAck => some (.await .final)
  | .command .persistFinal =>
      some (.command
        (if casting.role = .initiator then .sendFinal else .persistMutualLock))
  | .command .sendFinal => some (.command .persistMutualLock)
  | .command .persistMutualLock =>
      some (if casting.creator then casting.authorized else .await .credentials)
  | .command .persistCredentials =>
      some (if casting.creator then .command .publishCredentials
        else casting.authorized)
  | .command .persistPromptConsumed => some casting.bearer
  | .command .createBearer => some (.await .credentials)
  | .command .publishCredentials => none
  | .command .joinBearer => none

/-- The commands among some beats. -/
def commands (beats : List Beat) : List InitialPlanCommandKind :=
  beats.filterMap Beat.kind?

variable {casting : Casting} {position : Nat} {beat : Beat}

/-- Scripts are short. -/
theorem position_lt
    (here : casting.script[position]? = some beat) :
    position < 16 := by
  have short : casting.script.length ≤ 16 := by
    obtain ⟨role, creator, designated⟩ := casting
    cases role <;> cases creator <;> cases designated <;> decide
  have inside : position < casting.script.length :=
    (List.getElem?_eq_some_iff.mp here).1
  omega

/-- The script goes from each beat to the one that follows it. -/
theorem script_follows
    (here : casting.script[position]? = some beat) :
    casting.script[position + 1]? = casting.follows beat := by
  have everywhere :
      ∀ position < 16, (casting.script[position]?).all fun beat =>
        casting.script[position + 1]? == casting.follows beat := by
    obtain ⟨role, creator, designated⟩ := casting
    cases role <;> cases creator <;> cases designated <;> decide
  have next := everywhere position (position_lt here)
  rw [here] at next
  exact eq_of_beq next

/-- No command comes before the plan. -/
theorem commands_before_plan
    {phase : Phase}
    (here : casting.script[position]? = some (.await phase))
    (early : phase = .idle ∨ phase = .plan) :
    commands (casting.script.take position) = [] := by
  have everywhere :
      ∀ position < 16,
        casting.script[position]? = some (.await .idle) ∨
            casting.script[position]? = some (.await .plan) →
          commands (casting.script.take position) = [] := by
    obtain ⟨role, creator, designated⟩ := casting
    cases role <;> cases creator <;> cases designated <;> decide
  apply everywhere position (position_lt here)
  rcases early with rfl | rfl
  · exact .inl here
  · exact .inr here

/-- What has to be persisted before a message is sent is persisted right before. -/
theorem persisted_of_follows
    {kind earlier : InitialPlanCommandKind}
    (next : casting.follows beat = some (.command kind))
    (needs : kind.persistedBefore = some earlier) :
    beat = .command earlier := by
  obtain ⟨role, creator, designated⟩ := casting
  cases beat with
  | await phase =>
      cases phase <;> cases role <;> cases next <;> cases needs
  | command before =>
      cases before <;> cases role <;> cases creator <;> cases designated <;>
        cases next <;> cases needs <;> rfl

/-- The commands up to the next beat. -/
theorem commands_take_succ
    (here : casting.script[position]? = some beat) :
    commands (casting.script.take (position + 1)) =
      commands (casting.script.take position) ++ beat.kind?.toList := by
  rw [List.take_add_one, here]
  unfold commands
  rw [List.filterMap_append]
  cases beat <;> rfl

end Casting

namespace InitialPlanLock

/-- The casting of a lock under its plan. -/
def casting (state : InitialPlanLock) : Casting :=
  Casting.under state.pair.localRole state.selected

/-- A lock that is live stands at a beat, or at the end of its script. -/
def StandsAt (state : InitialPlanLock) : Option Beat → Prop
  | some (.await phase) =>
      state.failed = false ∧ state.phase = phase ∧ state.pending = none
  | some (.command kind) =>
      state.failed = false ∧ state.phase = .pending ∧
        ∃ command, state.pending = some command ∧ command.kind = kind ∧
          command.evidence = state.evidence ∧
          command.mayPrompt = (kind.raisesBearer && state.designated)
  | none => state.failed = false ∧ state.phase = .done ∧ state.pending = none

variable {state : InitialPlanLock} {beat : Beat}

/-- The pending command is the one of the beat. -/
theorem StandsAt.pending_kind
    (stands : state.StandsAt (some beat)) :
    state.pending.map (·.kind) = beat.kind? := by
  cases beat with
  | await phase =>
      obtain ⟨-, -, free⟩ := stands
      rw [free]
      rfl
  | command kind =>
      obtain ⟨-, -, command, pending, same, -⟩ := stands
      rw [pending]
      exact congrArg some same

/-- A lock that stands somewhere is live. -/
theorem StandsAt.live
    {beat : Option Beat}
    (stands : state.StandsAt beat) :
    state.failed = false := by
  cases beat with
  | none => exact stands.1
  | some beat =>
      cases beat with
      | await phase => exact stands.1
      | command kind => exact stands.1

/-- A lock has given up. -/
def Gone (state : InitialPlanLock) : Prop :=
  state.failed = true ∧ state.pending = none

theorem invalidate_gone (state : InitialPlanLock) :
    state.invalidate.Gone :=
  ⟨rfl, rfl⟩

/-- Two locks agree on the pair, on the plan and on what is durable. -/
structure SameRecord (before after : InitialPlanLock) : Prop where
  pair : after.pair = before.pair
  selected : after.selected = before.selected
  evidence : after.evidence = before.evidence
  locked : after.locked = before.locked
  mutuallyLocked : after.mutuallyLocked = before.mutuallyLocked

/-- A command is issued, or the lock gives up. -/
structure Issues
    (before after : InitialPlanLock)
    (beat : Beat) : Prop where
  record : SameRecord before after
  outcome : after.Gone ∨ after.StandsAt (some beat)

theorem reject_issues
    (state : InitialPlanLock)
    (beat : Beat) :
    Issues state state.reject.2 beat :=
  ⟨⟨rfl, rfl, rfl, rfl, rfl⟩, .inl state.invalidate_gone⟩

variable {kind : InitialPlanCommandKind}

theorem issue_issues
    {mayPrompt : Bool}
    (prompt : mayPrompt = (kind.raisesBearer && state.designated)) :
    Issues state (state.issue kind mayPrompt).2 (.command kind) := by
  unfold issue
  split
  · exact state.reject_issues _
  · rename_i free
    have live : state.failed = false := by
      simp only [Bool.or_eq_true, not_or, Bool.not_eq_true] at free
      exact free.1.1
    exact ⟨⟨rfl, rfl, rfl, rfl, rfl⟩, .inr ⟨live, rfl, _, rfl, rfl, rfl, prompt⟩⟩

theorem issueBearer_issues (state : InitialPlanLock) :
    Issues state state.issueBearer.2 state.casting.bearer := by
  unfold issueBearer
  split
  · exact state.reject_issues _
  split
  · exact state.reject_issues _
  have bearer :
      state.casting.bearer =
        .command (if state.creator then .createBearer else .joinBearer) := by
    change (if state.creator then Beat.command .createBearer
      else Beat.command .joinBearer) = _
    split <;> rfl
  rw [bearer]
  apply issue_issues
  split <;> simp [InitialPlanCommandKind.raisesBearer]

theorem authorizeBearer_issues (state : InitialPlanLock) :
    Issues state state.authorizeBearer.2 state.casting.authorized := by
  unfold authorizeBearer
  split
  · exact state.reject_issues _
  split
  · rename_i designated
    have authorized :
        state.casting.authorized = .command .persistPromptConsumed :=
      if_pos designated
    rw [authorized]
    split
    · exact state.reject_issues _
    · exact issue_issues rfl
  · rename_i undesignated
    have authorized : state.casting.authorized = state.casting.bearer :=
      if_neg undesignated
    rw [authorized]
    exact state.issueBearer_issues

/-- A lock that is begun selects the plan or gives up. -/
theorem begin_cases
    (state : InitialPlanLock)
    (evidence : VerifiedPairEvidence) :
    (state.begin evidence).2 = state.invalidate ∨
      state.failed = false ∧ state.phase = .idle ∧
        ((∃ notSupported,
            (state.begin evidence).2 =
              invalidate
                { state with
                  selected := Block.zero 48
                  notSupported := notSupported }) ∨
          ∃ plan,
            selectPairPlan evidence.initiatorSummary.bytes
                evidence.responderSummary.bytes = .ok plan ∧
              (state.begin evidence).2 =
                { state with selected := plan, pair := evidence, phase := .plan }) := by
  unfold InitialPlanLock.begin
  split
  · exact .inl rfl
  · rename_i passed
    simp only [Bool.or_eq_true, not_or, Bool.not_eq_true, bne_eq_false_iff_eq]
      at passed
    refine .inr ⟨by tauto, by tauto, ?_⟩
    split
    · exact .inl ⟨_, rfl⟩
    · rename_i plan selected
      exact .inr ⟨plan, selected, rfl⟩

/-- What a lock has on record once a command succeeded. -/
def recorded
    (state : InitialPlanLock)
    (kind : InitialPlanCommandKind) : InitialPlanLock :=
  { state with
    locked := state.locked || kind.locks
    mutuallyLocked := state.mutuallyLocked || kind == .persistMutualLock }

/-- The record after a command, and the beat that follows it. -/
structure Finishes
    (before after : InitialPlanLock)
    (kind : InitialPlanCommandKind) : Prop where
  record : SameRecord (before.recorded kind) after
  outcome :
    after.Gone ∨ after.StandsAt (before.casting.follows (.command kind))

theorem Issues.finishes
    {before middle after : InitialPlanLock}
    (issues : Issues middle after beat)
    (recorded : SameRecord (before.recorded kind) middle)
    (next : before.casting.follows (.command kind) = some beat) :
    Finishes before after kind where
  record :=
    { pair := issues.record.pair.trans recorded.pair
      selected := issues.record.selected.trans recorded.selected
      evidence := issues.record.evidence.trans recorded.evidence
      locked := issues.record.locked.trans recorded.locked
      mutuallyLocked := issues.record.mutuallyLocked.trans recorded.mutuallyLocked }
  outcome := by
    rw [next]
    exact issues.outcome

/-- Most commands leave nothing on record. -/
theorem recorded_same
    (state : InitialPlanLock)
    (kind : InitialPlanCommandKind)
    (phase : Phase)
    (plain : kind.locks = false)
    (single : kind ≠ .persistMutualLock) :
    SameRecord (state.recorded kind) { state with phase := phase } where
  pair := rfl
  selected := rfl
  evidence := rfl
  locked := by simp [recorded, plain]
  mutuallyLocked := by simp [recorded, single]

/-- After a command the lock goes on to the next beat of its script. -/
theorem finish_finishes
    (state : InitialPlanLock)
    (live : state.failed = false)
    (free : state.pending = none)
    (kind : InitialPlanCommandKind) :
    Finishes state (state.finish kind).2 kind := by
  cases kind with
  | persistPlan =>
      exact (issue_issues rfl).finishes
        (recorded_same state _ state.phase rfl (by decide)) rfl
  | persistPlanAndLock =>
      exact ⟨⟨rfl, rfl, rfl, by simp [recorded, finish, InitialPlanCommandKind.locks],
        by simp [recorded, finish]⟩, .inr ⟨live, rfl, free⟩⟩
  | sendPlan =>
      have plain := recorded_same state .sendPlan .ack rfl (by decide)
      exact ⟨plain, .inr ⟨live, rfl, free⟩⟩
  | persistAck =>
      exact (issue_issues rfl).finishes
        (recorded_same state _ state.phase rfl (by decide)) rfl
  | persistAckAndLock =>
      exact ⟨⟨rfl, rfl, rfl, by simp [recorded, finish, InitialPlanCommandKind.locks],
        by simp [recorded, finish]⟩, .inr ⟨live, rfl, free⟩⟩
  | sendAck =>
      have plain := recorded_same state .sendAck .final rfl (by decide)
      exact ⟨plain, .inr ⟨live, rfl, free⟩⟩
  | persistFinal =>
      refine (issue_issues ?_).finishes
        (recorded_same state _ state.phase rfl (by decide)) rfl
      split <;> rfl
  | sendFinal =>
      exact (issue_issues rfl).finishes
        (recorded_same state _ state.phase rfl (by decide)) rfl
  | persistMutualLock =>
      have recorded :
          SameRecord (state.recorded .persistMutualLock)
            { state with mutuallyLocked := true } :=
        ⟨rfl, rfl, rfl, by simp [recorded, InitialPlanCommandKind.locks],
          by simp [recorded]⟩
      simp only [finish]
      split
      · rename_i creator
        refine (authorizeBearer_issues _).finishes recorded ?_
        exact congrArg some (if_pos creator)
      · rename_i joiner
        have next :
            state.casting.follows (.command .persistMutualLock) =
              some (.await .credentials) :=
          congrArg some (if_neg joiner)
        refine ⟨⟨rfl, rfl, rfl, recorded.locked, recorded.mutuallyLocked⟩, .inr ?_⟩
        rw [next]
        exact ⟨live, rfl, free⟩
  | persistCredentials =>
      have plain : SameRecord (state.recorded .persistCredentials) state :=
        recorded_same state _ state.phase rfl (by decide)
      simp only [finish]
      split
      · rename_i creator
        refine (issue_issues rfl).finishes plain ?_
        exact congrArg some (if_pos creator)
      · rename_i joiner
        refine (authorizeBearer_issues _).finishes plain ?_
        exact congrArg some (if_neg joiner)
  | persistPromptConsumed =>
      have plain :
          SameRecord (state.recorded .persistPromptConsumed)
            { state with promptConsumed := true } :=
        ⟨rfl, rfl, rfl, by simp [recorded, InitialPlanCommandKind.locks],
          by simp [recorded]⟩
      exact (issueBearer_issues _).finishes plain rfl
  | createBearer =>
      have plain := recorded_same state .createBearer .credentials rfl (by decide)
      exact ⟨plain, .inr ⟨live, rfl, free⟩⟩
  | publishCredentials =>
      have plain := recorded_same state .publishCredentials .done rfl (by decide)
      exact ⟨plain, .inr ⟨live, rfl, free⟩⟩
  | joinBearer =>
      have plain := recorded_same state .joinBearer .done rfl (by decide)
      exact ⟨plain, .inr ⟨live, rfl, free⟩⟩

end InitialPlanLock

/-- A message of the exchange, as the lock of a device takes it. -/
inductive PlanMessage where
  | plan (evidence : VerifiedPlanEvidence)
  | ack (evidence : VerifiedPlanEvidence)
  | final (evidence : VerifiedPlanEvidence)
  | credentials (evidence : VerifiedCredentialEvidence)
deriving DecidableEq

namespace PlanMessage

def binding : PlanMessage → VerifiedPlanEvidence
  | .plan evidence => evidence
  | .ack evidence => evidence
  | .final evidence => evidence
  | .credentials evidence => evidence.binding

/-- The phase in which a lock takes the message. -/
def phase : PlanMessage → Phase
  | .plan _ => .plan
  | .ack _ => .ack
  | .final _ => .final
  | .credentials _ => .credentials

/-- A lock that takes a message was begun and has no command pending. -/
theorem phase_ne (message : PlanMessage) :
    message.phase ≠ .idle ∧ message.phase ≠ .pending ∧ message.phase ≠ .done := by
  cases message <;> simp [phase]

/-- The device that has to have sent the message. -/
def sender? (plan : BearerPlanBytes) : PlanMessage → Option PairRole
  | .plan _ => some .initiator
  | .ack _ => some .responder
  | .final _ => some .initiator
  | .credentials _ => PairRole.ofCode (plan.bytes.getD 1 0)

end PlanMessage

namespace InitialPlanLock

/-- Hand a message to the lock. -/
def receive (state : InitialPlanLock) : PlanMessage → Bool × InitialPlanLock
  | .plan evidence => state.acceptPlan evidence
  | .ack evidence => state.acceptAck evidence
  | .final evidence => state.acceptFinal evidence
  | .credentials evidence => state.acceptCredentials evidence

theorem validBinding_spec
    {state : InitialPlanLock}
    {evidence : VerifiedPlanEvidence}
    {sender : PairRole}
    (valid : state.validBinding evidence sender = true) :
    state.failed = false ∧ evidence.sender = sender ∧
      evidence.selectedPlan = state.selected := by
  simp only [validBinding, Bool.and_eq_true, beq_iff_eq,
    Bool.not_eq_eq_eq_not, Bool.not_true] at valid
  tauto

/-- The lock takes a message: it issues the next command or gives up. -/
structure Takes
    (state : InitialPlanLock)
    (message : PlanMessage)
    (after : InitialPlanLock) : Prop where
  live : state.failed = false
  phase : state.phase = message.phase
  sender : message.sender? state.selected = some message.binding.sender
  bound : message.binding.selectedPlan = state.selected
  samePlan :
    message.phase ≠ .plan →
      message.binding.planLogicalHash = state.evidence.planLogicalHash
  record : SameRecord { state with evidence := message.binding } after
  outcome :
    after.Gone ∨
      after.StandsAt (state.casting.follows (.await message.phase))

theorem acceptPlan_cases
    (state : InitialPlanLock)
    (evidence : VerifiedPlanEvidence) :
    (state.acceptPlan evidence).2 = state.invalidate ∨
      Takes state (.plan evidence) (state.acceptPlan evidence).2 := by
  unfold acceptPlan
  split
  · exact .inl rfl
  · rename_i passed
    simp only [Bool.or_eq_true, not_or, Bool.not_eq_true, bne_eq_false_iff_eq,
      Bool.not_eq_false'] at passed
    obtain ⟨live, sender, bound⟩ := validBinding_spec passed.1.1.2
    have issues :
        Issues { state with evidence := evidence }
          (issue { state with evidence := evidence }
            (if state.pair.localRole = .initiator then .persistPlan
              else .persistPlanAndLock)).2
          (.command (if state.pair.localRole = .initiator then .persistPlan
            else .persistPlanAndLock)) :=
      issue_issues (by split <;> rfl)
    exact .inr
      { live := live
        phase := passed.1.1.1
        sender := congrArg some sender.symm
        bound := bound
        samePlan := fun other => (other rfl).elim
        record := issues.record
        outcome := issues.outcome }

theorem acceptAck_cases
    (state : InitialPlanLock)
    (evidence : VerifiedPlanEvidence) :
    (state.acceptAck evidence).2 = state.invalidate ∨
      Takes state (.ack evidence) (state.acceptAck evidence).2 := by
  unfold acceptAck
  split
  · exact .inl rfl
  · rename_i passed
    simp only [Bool.or_eq_true, not_or, Bool.not_eq_true, bne_eq_false_iff_eq,
      Bool.not_eq_false'] at passed
    obtain ⟨live, sender, bound⟩ := validBinding_spec passed.1.1.1.2
    have issues :
        Issues { state with evidence := evidence }
          (issue { state with evidence := evidence }
            (if state.pair.localRole = .initiator then .persistAckAndLock
              else .persistAck)).2
          (.command (if state.pair.localRole = .initiator then .persistAckAndLock
            else .persistAck)) :=
      issue_issues (by split <;> rfl)
    exact .inr
      { live := live
        phase := passed.1.1.1.1
        sender := congrArg some sender.symm
        bound := bound
        samePlan := fun _ => passed.1.1.2
        record := issues.record
        outcome := issues.outcome }

theorem acceptFinal_cases
    (state : InitialPlanLock)
    (evidence : VerifiedPlanEvidence) :
    (state.acceptFinal evidence).2 = state.invalidate ∨
      Takes state (.final evidence) (state.acceptFinal evidence).2 := by
  unfold acceptFinal
  split
  · exact .inl rfl
  · rename_i passed
    simp only [Bool.or_eq_true, not_or, Bool.not_eq_true, bne_eq_false_iff_eq,
      Bool.not_eq_false'] at passed
    obtain ⟨live, sender, bound⟩ := validBinding_spec passed.1.1.1.1.2
    have issues :
        Issues { state with evidence := evidence }
          (issue { state with evidence := evidence } .persistFinal).2
          (.command .persistFinal) :=
      issue_issues rfl
    exact .inr
      { live := live
        phase := passed.1.1.1.1.1
        sender := congrArg some sender.symm
        bound := bound
        samePlan := fun _ => passed.1.1.1.2
        record := issues.record
        outcome := issues.outcome }

theorem acceptCredentials_cases
    (state : InitialPlanLock)
    (evidence : VerifiedCredentialEvidence) :
    (state.acceptCredentials evidence).2 = state.invalidate ∨
      Takes state (.credentials evidence) (state.acceptCredentials evidence).2 := by
  unfold acceptCredentials
  simp only
  split
  · exact .inl rfl
  · rename_i passed
    simp only [Bool.or_eq_true, not_or, Bool.not_eq_true, bne_eq_false_iff_eq,
      Bool.not_eq_false'] at passed
    obtain ⟨creator, isCreator, valid⟩ := (Option.any_eq_true _ _).mp passed.1.1.1.1.2
    obtain ⟨live, sender, bound⟩ := validBinding_spec valid
    let noted : InitialPlanLock :=
      { state with
        credentialHash := evidence.credentialLogicalHash
        evidence := evidence.binding }
    have issues :
        Issues noted (noted.issue .persistCredentials).2
          (.command .persistCredentials) :=
      issue_issues rfl
    exact .inr
      { live := live
        phase := passed.1.1.1.1.1.1
        sender := isCreator.trans (congrArg some sender.symm)
        bound := bound
        samePlan := fun _ => passed.1.1.1.2
        record :=
          { pair := issues.record.pair
            selected := issues.record.selected
            evidence := issues.record.evidence
            locked := issues.record.locked
            mutuallyLocked := issues.record.mutuallyLocked }
        outcome := issues.outcome }

/-- What a message can do to a lock. -/
theorem receive_cases
    (state : InitialPlanLock)
    (message : PlanMessage) :
    (state.receive message).2 = state.invalidate ∨
      Takes state message (state.receive message).2 := by
  cases message with
  | plan evidence => exact state.acceptPlan_cases evidence
  | ack evidence => exact state.acceptAck_cases evidence
  | final evidence => exact state.acceptFinal_cases evidence
  | credentials evidence => exact state.acceptCredentials_cases evidence

end InitialPlanLock

end FlyNes.Pair
