import FlyNes.InitialPlan
import FlyNes.PairSeals

namespace FlyNes.Pair

open ByteString
open FlyNes.Wire
open FlyNes.Dual (SessionResult)
open FlyNes.Ports
open Staircase

/-!
# The plan scheduler seals each of its messages once

The initiator seals the plan and later the final message, the responder the
acknowledgement.  The current message only goes forward, because the commands of
the lock come in the order of the messages.
-/

namespace InitialPlanLock

/-- The commands that may be pending once another one has succeeded. -/
def followedBy : InitialPlanCommandKind → InitialPlanCommandKind → Bool
  | .persistPlan, next => next = .sendPlan
  | .persistAck, next => next = .sendAck
  | .persistFinal, next => next = .sendFinal || next = .persistMutualLock
  | .sendFinal, next => next = .persistMutualLock
  | .persistMutualLock, next =>
      next = .persistPromptConsumed || next = .createBearer || next = .joinBearer
  | .persistCredentials, next =>
      next = .publishCredentials || next = .persistPromptConsumed ||
        next = .createBearer || next = .joinBearer
  | .persistPromptConsumed, next => next = .createBearer || next = .joinBearer
  | _, _ => false

/-- The commands that come after the final message has been kept. -/
def lateKind : InitialPlanCommandKind → Bool
  | .sendFinal => true
  | .persistMutualLock => true
  | .persistPromptConsumed => true
  | .createBearer => true
  | .publishCredentials => true
  | .persistCredentials => true
  | .joinBearer => true
  | _ => false

theorem lateKind_of_followedBy
    {kind next : InitialPlanCommandKind}
    (late : lateKind kind = true)
    (follows : followedBy kind next = true) :
    lateKind next = true := by
  revert late follows
  cases kind <;> cases next <;> decide

/-- A command that is pending is of a kind. -/
def PendingIn (kinds : InitialPlanCommandKind → Bool) (lock : InitialPlanLock) : Prop :=
  ∀ command, lock.pending = some command → kinds command.kind = true

theorem pendingIn_of_none
    {kinds : InitialPlanCommandKind → Bool}
    {lock : InitialPlanLock}
    (nothing : lock.pending = none) :
    lock.PendingIn kinds := by
  intro command pending
  rw [nothing] at pending
  cases pending

variable
  {kinds : InitialPlanCommandKind → Bool}
  {lock : InitialPlanLock}
  {kind : InitialPlanCommandKind}
  {mayPrompt : Bool}

theorem issue_pendingIn
    (allowed : kinds kind = true) :
    (lock.issue kind mayPrompt).2.PendingIn kinds := by
  unfold issue
  split
  · exact pendingIn_of_none rfl
  · intro command pending
    cases pending
    exact allowed

theorem issueBearer_pendingIn
    (create : kinds .createBearer = true)
    (join : kinds .joinBearer = true) :
    lock.issueBearer.2.PendingIn kinds := by
  unfold issueBearer
  split
  · exact pendingIn_of_none rfl
  · split
    · exact pendingIn_of_none rfl
    · apply issue_pendingIn
      split
      · exact create
      · exact join

theorem authorizeBearer_pendingIn
    (prompt : kinds .persistPromptConsumed = true)
    (create : kinds .createBearer = true)
    (join : kinds .joinBearer = true) :
    lock.authorizeBearer.2.PendingIn kinds := by
  unfold authorizeBearer
  split
  · exact pendingIn_of_none rfl
  · split
    · split
      · exact pendingIn_of_none rfl
      · exact issue_pendingIn prompt
    · exact issueBearer_pendingIn create join

/-- What may be pending after a command has succeeded. -/
theorem finish_pendingIn
    (nothing : lock.pending = none) :
    (lock.finish kind).2.PendingIn (followedBy kind) := by
  cases kind with
  | persistPlan | persistAck | sendFinal =>
      exact issue_pendingIn rfl
  | persistFinal =>
      simp only [finish]
      apply issue_pendingIn
      split <;> rfl
  | persistMutualLock =>
      simp only [finish]
      split
      · exact authorizeBearer_pendingIn rfl rfl rfl
      · exact pendingIn_of_none nothing
  | persistCredentials =>
      simp only [finish]
      split
      · exact issue_pendingIn rfl
      · exact authorizeBearer_pendingIn rfl rfl rfl
  | persistPromptConsumed =>
      exact issueBearer_pendingIn rfl rfl
  | _ =>
      exact pendingIn_of_none nothing

variable {id generation : Nat} {command : InitialPlanCommand}

theorem completed?_pending
    {success : Bool}
    (completed : lock.completed? id generation success = some command) :
    lock.pending = some command := by
  unfold completed? at completed
  exact (Option.filter_eq_some_iff.mp completed).1

/-- What may be pending after the pending command has been completed. -/
theorem complete_followedBy
    {after : InitialPlanLock}
    (pending : lock.pending = some command)
    (completed : lock.complete id generation true = (true, after)) :
    after.PendingIn (followedBy command.kind) := by
  unfold complete at completed
  split at completed
  · cases completed
  · rename_i found isFound
    have same := (completed?_pending isFound).symm.trans pending
    cases same
    have follows :
        (finish { lock with pending := none } command.kind).2.PendingIn
          (followedBy command.kind) :=
      finish_pendingIn rfl
    rw [completed] at follows
    exact follows

theorem complete_late
    (late : lock.PendingIn lateKind)
    (id generation : Nat)
    (success : Bool) :
    (lock.complete id generation success).2.PendingIn lateKind := by
  unfold complete
  split
  · exact pendingIn_of_none rfl
  · rename_i command completed
    have isLate := late command (completed?_pending completed)
    intro next pending
    have follows := finish_pendingIn rfl next pending
    exact lateKind_of_followedBy isLate follows

theorem acceptCredentials_late
    (evidence : VerifiedCredentialEvidence) :
    (lock.acceptCredentials evidence).2.PendingIn lateKind := by
  unfold acceptCredentials
  dsimp only
  split
  · exact pendingIn_of_none rfl
  · exact issue_pendingIn rfl

theorem acceptPlan_pendingIn
    (evidence : VerifiedPlanEvidence) :
    (lock.acceptPlan evidence).2.PendingIn fun kind =>
      kind = .persistPlan || kind = .persistPlanAndLock := by
  unfold acceptPlan
  split
  · exact pendingIn_of_none rfl
  · apply issue_pendingIn
    split <;> rfl

theorem acceptAck_pendingIn
    (evidence : VerifiedPlanEvidence) :
    (lock.acceptAck evidence).2.PendingIn fun kind =>
      kind = .persistAck || kind = .persistAckAndLock := by
  unfold acceptAck
  split
  · exact pendingIn_of_none rfl
  · apply issue_pendingIn
    split <;> rfl

theorem acceptFinal_pendingIn
    (evidence : VerifiedPlanEvidence) :
    (lock.acceptFinal evidence).2.PendingIn fun kind => kind = .persistFinal := by
  unfold acceptFinal
  split
  · exact pendingIn_of_none rfl
  · exact issue_pendingIn rfl

end InitialPlanLock

namespace InitialPlanScheduler

/-- How many messages have been handed out to be sealed. -/
def rank : PairRole → InitialPlanMessage → PlanStage → Nat
  | _, _, .failed => 2
  | .initiator, .none, _ => 0
  | .initiator, .plan, .randomPlan => 0
  | .initiator, .plan, .hmacLocal => 0
  | .initiator, .plan, _ => 1
  | .initiator, .ack, _ => 1
  | .initiator, .final, .hmacLocal => 1
  | .initiator, .final, _ => 2
  | .responder, .ack, .hmacLocal => 0
  | .responder, .ack, _ => 1
  | .responder, .final, _ => 1
  | .responder, _, _ => 0

theorem rank_le_two
    (role : PairRole)
    (current : InitialPlanMessage)
    (stage : PlanStage) :
    rank role current stage ≤ 2 := by
  cases stage <;> cases role <;> cases current <;> decide

def standing (state : InitialPlanScheduler) : Standing where
  begun := state.begun
  localRole := state.start.localRole
  pending := state.pending
  idle := state.stage = .empty || state.stage = .failed
  message :=
    if state.stage = .sealLocal then
      some (state.currentMessage.logicalType, state.currentMessage.counter)
    else
      none
  rank := rank state.start.localRole state.currentMessage state.stage

/-- The messages that the device of a role sends. -/
def sends : PairRole → InitialPlanMessage → Bool
  | .initiator, .plan => true
  | .initiator, .final => true
  | .responder, .ack => true
  | _, _ => false

/-- A command that is carried out in the course of a message. -/
def Keeps (kind : InitialPlanCommandKind) (current : InitialPlanMessage) : Bool :=
  (current != .none && keptMessage kind = current) ||
    (kind = .persistMutualLock && current = .final)

/-- How the stage, the current message and the lock belong together. -/
structure Paced
    (role : PairRole)
    (current : InitialPlanMessage)
    (lock : InitialPlanLock)
    (pending : Option PairEffect)
    (stage : PlanStage) : Prop where
  random : stage = .randomPlan → role = .initiator ∧ current = .plan
  tagged : stage = .hmacLocal → sends role current = true
  sealed : stage = .sealLocal → sends role current = true
  kept : stage = .persist → ∀ effect, pending = some effect →
    Keeps effect.persistKind current = true
  sent : stage = .waitLocalSend →
    current = .plan ∨ current = .ack ∨
      (current = .final ∧ lock.PendingIn InitialPlanLock.lateKind)

def IsPaced (state : InitialPlanScheduler) : Prop :=
  Paced state.start.localRole state.currentMessage state.lock state.pending
    state.stage

/-- A turn of a plan scheduler of the device of a role, and what it leads to. -/
structure Moves (role : PairRole) (before after : InitialPlanScheduler) : Prop where
  turn : (Standing.view role).Turn before.standing after.standing
  paced : after.IsPaced

/-- The stages in which there is nothing to keep. -/
def unpaced : PlanStage → Bool
  | .randomPlan => false
  | .hmacLocal => false
  | .sealLocal => false
  | .persist => false
  | .waitLocalSend => false
  | _ => true

variable {role : PairRole} {lock : InitialPlanLock}

theorem paced_of_stage
    {current : InitialPlanMessage}
    {pending : Option PairEffect}
    {stage : PlanStage}
    (free : unpaced stage = true) :
    Paced role current lock pending stage := by
  constructor <;> rintro rfl <;> cases free

theorem Moves.after
    {before middle after : InitialPlanScheduler}
    (first : (Standing.view role).Turn before.standing middle.standing)
    (second : Moves role middle after) :
    Moves role before after :=
  ⟨first.trans second.turn, second.paced⟩

theorem Moves.of_eq
    {before same after : InitialPlanScheduler}
    (isSame : same.standing = before.standing)
    (moves : Moves role same after) :
    Moves role before after :=
  ⟨Standing.turn_of_eq isSame moves.turn, moves.paced⟩

section Moves

variable
  {role : PairRole}
  {before state : InitialPlanScheduler}
  {current : InitialPlanMessage}
  {stage : PlanStage}
  {effect : PairEffect}
  {command : InitialPlanCommand}
  {payloadKind : PayloadKind}
  {result : SessionResult}
  {bytes : Bytes}

/-- The rank of a scheduler in a stage that is known. -/
theorem rank_of_stage
    (isAt : state.stage = stage) :
    state.standing.rank = rank state.start.localRole state.currentMessage stage := by
  rw [← isAt]
  rfl

theorem moves_reject
    (keeps : before.standing.Keeps state.standing) :
    Moves role before (state.reject result).2 :=
  ⟨Standing.turn_fail ⟨keeps.begun, keeps.localRole⟩ (rank_le_two _ _ _) rfl rfl,
    paced_of_stage rfl⟩

/-- The pending effect has been answered. -/
theorem turn_answered
    (begun : state.begun = true)
    (operations : SchedulerJournal) :
    (Standing.view role).Turn state.standing
      (standing { state with operations := operations, pending := none }) :=
  Standing.turn_wait ⟨rfl, rfl⟩ begun le_rfl rfl

/-- An effect that seals nothing is issued. -/
theorem moves_issue
    (keeps : before.standing.Keeps state.standing)
    (begun : before.begun = true)
    (rises : before.standing.rank ≤
      rank state.start.localRole state.currentMessage stage)
    (other : effect.kind ≠ .aeadSeal)
    (paced : Paced state.start.localRole state.currentMessage state.lock (some effect)
      stage) :
    Moves role before (state.issue effect payloadKind stage).2 := by
  unfold issue
  split
  · exact ⟨Standing.turn_other ⟨keeps.begun, keeps.localRole⟩ begun rises rfl other,
      paced⟩
  · exact moves_reject keeps

theorem moves_prepareLocalHmac
    (keeps : before.standing.Keeps state.standing)
    (begun : before.begun = true)
    (own : sends state.start.localRole current = true)
    (rises : before.standing.rank ≤ rank state.start.localRole current .hmacLocal) :
    Moves role before (state.prepareLocalHmac current).2 := by
  unfold prepareLocalHmac
  split
  · exact moves_reject ⟨keeps.begun, keeps.localRole⟩
  · exact moves_issue ⟨keeps.begun, keeps.localRole⟩ begun rises
      PairEffectKind.noConfusion
      ⟨PlanStage.noConfusion, fun _ => own, PlanStage.noConfusion,
        PlanStage.noConfusion, PlanStage.noConfusion⟩

variable {token : OpToken}

theorem sealEffect_ok
    (success : state.sealEffect token current = .ok effect) :
    SealedAs effect current.logicalType current.sender current.counter := by
  obtain ⟨built, isBuilt, success⟩ := bind_ok success
  obtain ⟨inner, -, success⟩ := bind_ok success
  cases success
  exact (aeadEffect_ok isBuilt).2

theorem openEffect_ok
    (success : state.openEffect token current = .ok effect) :
    effect.kind = .aeadOpen := by
  obtain ⟨built, isBuilt, success⟩ := bind_ok success
  split at success
  · cases success
  · cases success
    exact (aeadEffect_ok isBuilt).1

theorem sender_of_sends
    (own : sends role current = true) :
    current.sender = role := by
  revert own
  cases role <;> cases current <;> decide

theorem moves_prepareSeal
    (keeps : before.standing.Keeps state.standing)
    (begun : before.begun = true)
    (own : sends before.start.localRole current = true)
    (rises : before.standing.rank ≤ rank before.start.localRole current .hmacLocal) :
    Moves role before (state.prepareSeal current).2 := by
  unfold prepareSeal
  dsimp only
  split
  · exact moves_reject ⟨keeps.begun, keeps.localRole⟩
  · rename_i effect success
    have sealed := sealEffect_ok success
    rw [sender_of_sends own] at sealed
    unfold issue
    split
    · have place : state.start.localRole = before.start.localRole := keeps.localRole
      refine ⟨?_, ⟨PlanStage.noConfusion, PlanStage.noConfusion, fun _ => ?_,
        PlanStage.noConfusion, PlanStage.noConfusion⟩⟩
      swap
      · exact place ▸ own
      refine Standing.turn_seal ⟨keeps.begun, keeps.localRole⟩ begun
        (rises.trans_lt ?_) rfl rfl sealed
      simp only [standing, place]
      revert own
      cases before.start.localRole <;> cases current <;> decide
    · exact moves_reject ⟨keeps.begun, keeps.localRole⟩

theorem moves_prepareOpen
    (keeps : before.standing.Keeps state.standing)
    (begun : before.begun = true)
    (rises : before.standing.rank ≤ rank state.start.localRole current .openPeer) :
    Moves role before (state.prepareOpen current).2 := by
  unfold prepareOpen
  dsimp only
  split
  · exact moves_reject ⟨keeps.begun, keeps.localRole⟩
  · rename_i effect success
    refine moves_issue ⟨keeps.begun, keeps.localRole⟩ begun rises ?_
      (paced_of_stage rfl)
    rw [openEffect_ok success]
    decide

theorem moves_preparePeerHmac
    (keeps : before.standing.Keeps state.standing)
    (begun : before.begun = true)
    (rises : before.standing.rank ≤
      rank state.start.localRole state.currentMessage .hmacPeer) :
    Moves role before state.preparePeerHmac.2 :=
  moves_issue ⟨keeps.begun, keeps.localRole⟩ begun rises PairEffectKind.noConfusion
    (paced_of_stage rfl)

theorem moves_preparePersist
    (keeps : before.standing.Keeps state.standing)
    (begun : before.begun = true)
    (kept : Keeps command.kind state.currentMessage = true)
    (rises : before.standing.rank ≤
      rank state.start.localRole state.currentMessage .persist) :
    Moves role before (state.preparePersist command).2 := by
  have paced (input : Bytes) :
      Paced state.start.localRole state.currentMessage state.lock
        (some
          { kind := .persist
            token := state.token state.nextOperationId
            persistKind := command.kind
            input := input }) .persist := by
    refine ⟨PlanStage.noConfusion, PlanStage.noConfusion, PlanStage.noConfusion, ?_,
      PlanStage.noConfusion⟩
    intro _ effect pending
    cases pending
    exact kept
  unfold preparePersist
  dsimp only
  split
  · exact moves_issue ⟨keeps.begun, keeps.localRole⟩ begun rises
      PairEffectKind.noConfusion (paced _)
  · split
    · exact moves_reject ⟨keeps.begun, keeps.localRole⟩
    · exact moves_issue ⟨keeps.begun, keeps.localRole⟩ begun rises
        PairEffectKind.noConfusion (paced _)

/-- The commands of the lock fit the current message. -/
structure Fits (lock : InitialPlanLock) (current : InitialPlanMessage) : Prop where
  locking : ∀ command, lock.pending = some command →
    command.kind = .persistMutualLock → current = .final
  sent : ∀ command next, lock.pending = some command →
    sentMessage command.kind = some next →
      next = current ∧ (current = .final → lock.PendingIn InitialPlanLock.lateKind)

variable {lock : InitialPlanLock} {kind : InitialPlanCommandKind}

/-- The command after one that was carried out in the course of a message. -/
theorem fits_of_followedBy
    (kept : Keeps kind current = true)
    (follows : lock.PendingIn (InitialPlanLock.followedBy kind)) :
    Fits lock current := by
  constructor
  · intro command pending isMutual
    have next := follows command pending
    rw [isMutual] at next
    revert kept next
    cases kind <;> cases current <;> decide
  · intro command next pending sends
    have after := follows command pending
    have order :
        next = current ∧
          (current = .final → InitialPlanLock.lateKind command.kind = true) := by
      revert kept after sends
      cases kind <;> cases current <;> cases command.kind <;> cases next <;> decide
    refine ⟨order.1, fun isFinal other otherPending => ?_⟩
    rw [pending] at otherPending
    cases otherPending
    exact order.2 isFinal

/-- Late commands fit the final message. -/
theorem fits_of_late
    (late : lock.PendingIn InitialPlanLock.lateKind) :
    Fits lock .final := by
  refine ⟨fun _ _ _ => rfl, ?_⟩
  intro command next pending sends
  have isLate := late command pending
  refine ⟨?_, fun _ => late⟩
  revert isLate sends
  cases command.kind <;> cases next <;> decide

/-- A message that is sent is one of the three. -/
theorem sent_cases
    (sends : sentMessage kind = some current)
    (late : current = .final → lock.PendingIn InitialPlanLock.lateKind) :
    current = .plan ∨ current = .ack ∨
      (current = .final ∧ lock.PendingIn InitialPlanLock.lateKind) := by
  cases current with
  | none =>
      cases kind <;> cases sends
  | plan =>
      exact Or.inl rfl
  | ack =>
      exact Or.inr (Or.inl rfl)
  | final =>
      exact Or.inr (Or.inr ⟨rfl, late rfl⟩)

/-- The ranks of a message in the stages after its seal. -/
theorem rank_settled
    {first second : PlanStage}
    (firstSettled : first = .sealLocal ∨ first = .waitPeer ∨ first = .openPeer ∨
      first = .hmacPeer ∨ first = .persist ∨ first = .waitLocalSend ∨ first = .ready)
    (secondSettled : second = .waitPeer ∨ second = .openPeer ∨
      second = .hmacPeer ∨ second = .persist ∨ second = .waitLocalSend ∨
      second = .ready) :
    rank role current first = rank role current second := by
  rcases firstSettled with rfl | rfl | rfl | rfl | rfl | rfl | rfl <;>
    rcases secondSettled with rfl | rfl | rfl | rfl | rfl | rfl <;>
      cases role <;> cases current <;> rfl

theorem moves_afterLockTransition
    (keeps : before.standing.Keeps state.standing)
    (begun : before.begun = true)
    (quiet : ∀ effect, ¬Seals state.pending effect)
    (fits : Fits state.lock state.currentMessage)
    (level : before.standing.rank =
      rank state.start.localRole state.currentMessage .persist) :
    Moves role before state.afterLockTransition.2 := by
  have ready : Moves role before { state with stage := .ready } :=
    ⟨Standing.turn_quiet ⟨keeps.begun, keeps.localRole⟩
      (level.trans (rank_settled (by simp) (by simp))).le (Or.inl begun) quiet,
      paced_of_stage rfl⟩
  unfold afterLockTransition
  split
  · rename_i command pending
    split
    · rename_i isMutual
      refine moves_preparePersist keeps begun ?_ level.le
      rw [isMutual, fits.locking command pending isMutual]
      rfl
    · split
      · rename_i message sends
        dsimp only
        obtain ⟨rfl, late⟩ := fits.sent command message pending sends
        split
        · exact moves_reject keeps
        · refine ⟨Standing.turn_quiet ⟨keeps.begun, keeps.localRole⟩ ?_ (Or.inl begun)
            quiet, ?_⟩
          · exact (level.trans (rank_settled (by simp) (by simp))).le
          · exact ⟨PlanStage.noConfusion, PlanStage.noConfusion, PlanStage.noConfusion,
              PlanStage.noConfusion, fun _ => sent_cases sends late⟩
      · split
        · exact ready
        · exact moves_reject keeps
  · split
    · exact ready
    · split
      · rename_i turn
        rw [turn.1, turn.2] at level
        refine moves_prepareLocalHmac keeps begun ?_ ?_
        · rw [turn.1]
          rfl
        · rw [turn.1]
          exact level.le
      · split
        · rename_i turn
          rw [turn.1, turn.2] at level
          refine moves_prepareLocalHmac keeps begun ?_ ?_
          · rw [turn.1]
            rfl
          · rw [turn.1]
            exact level.le
        · exact moves_reject keeps

/-- The lock asks to keep the message that it has accepted. -/
theorem lockAnswer_kept
    (some? : state.currentMessage ≠ .none)
    {logicalHash : PlanHash}
    (pending : (state.lockAnswer logicalHash).2.2.pending = some command) :
    Keeps command.kind state.currentMessage = true := by
  unfold lockAnswer at pending
  cases message : state.currentMessage with
  | none =>
      exact absurd message some?
  | plan =>
      simp only [message] at pending
      have kind := InitialPlanLock.acceptPlan_pendingIn _ command pending
      revert kind
      cases command.kind <;> decide
  | ack =>
      simp only [message] at pending
      have kind := InitialPlanLock.acceptAck_pendingIn _ command pending
      revert kind
      cases command.kind <;> decide
  | final =>
      simp only [message] at pending
      have kind := InitialPlanLock.acceptFinal_pendingIn _ command pending
      revert kind
      cases command.kind <;> decide

theorem moves_submitToLock
    (keeps : before.standing.Keeps state.standing)
    (begun : before.begun = true)
    (rises : before.standing.rank ≤
      rank state.start.localRole state.currentMessage .persist) :
    Moves role before (state.submitToLock bytes).2 := by
  unfold submitToLock
  split
  · exact moves_reject keeps
  · rename_i isSome
    dsimp only
    split
    · rename_i command _ pending
      have kept : Keeps command.kind state.currentMessage = true :=
        lockAnswer_kept isSome pending
      exact moves_preparePersist ⟨keeps.begun, keeps.localRole⟩ begun kept rises
    · exact moves_reject ⟨keeps.begun, keeps.localRole⟩

theorem moves_finalizeLocalEnvelope
    (keeps : before.standing.Keeps state.standing)
    (begun : before.begun = true)
    (rises : before.standing.rank ≤
      rank state.start.localRole state.currentMessage .persist) :
    Moves role before (state.finalizeLocalEnvelope bytes).2 := by
  unfold finalizeLocalEnvelope
  dsimp only
  split
  · exact moves_reject keeps
  · split
    · exact moves_reject keeps
    · exact moves_submitToLock keeps begun rises

/-- The answer to an effect leads on to the next stage. -/
theorem moves_finish
    (same : state.standing = before.standing)
    (begun : state.begun = true)
    (paced : state.IsPaced) :
    Moves role before (state.finish bytes).2 := by
  refine Moves.of_eq same ?_
  unfold finish
  split
  · rename_i isAt
    have level := rank_of_stage isAt
    obtain ⟨initiator, isPlan⟩ := paced.random isAt
    rw [initiator, isPlan] at level
    split
    · exact moves_reject ⟨rfl, rfl⟩
    · refine moves_prepareLocalHmac ⟨rfl, rfl⟩ begun ?_ (level.trans_le (Nat.zero_le _))
      exact initiator.symm ▸ rfl
  · rename_i isAt
    split
    · exact moves_reject ⟨rfl, rfl⟩
    · exact moves_prepareSeal ⟨rfl, rfl⟩ begun (paced.tagged isAt)
        (rank_of_stage isAt).le
  · rename_i isAt
    split
    · exact moves_finalizeLocalEnvelope ⟨rfl, rfl⟩ begun
        ((rank_of_stage isAt).trans (rank_settled (by simp) (by simp))).le
    · exact moves_reject ⟨rfl, rfl⟩
  · rename_i isAt
    split
    · exact moves_reject ⟨rfl, rfl⟩
    · exact moves_preparePeerHmac ⟨rfl, rfl⟩ begun
        ((rank_of_stage isAt).trans (rank_settled (by simp) (by simp))).le
  · rename_i isAt
    split
    · unfold acceptVerifiedPeer
      split
      · exact moves_reject ⟨rfl, rfl⟩
      · exact moves_submitToLock ⟨rfl, rfl⟩ begun
          ((rank_of_stage isAt).trans (rank_settled (by simp) (by simp))).le
    · exact moves_reject ⟨rfl, rfl⟩
  · exact moves_reject ⟨rfl, rfl⟩

/-- A command of the lock has been carried out. -/
theorem moves_finishPersist
    (same : state.standing = before.standing)
    (begun : state.begun = true)
    (nothing : state.pending = none)
    (isAt : state.stage = .persist)
    (kept : Keeps kind state.currentMessage = true) :
    Moves role before (state.finishPersist kind).2 := by
  refine Moves.of_eq same ?_
  unfold finishPersist
  split
  · exact moves_reject ⟨rfl, rfl⟩
  · rename_i command polled
    obtain ⟨pending, isKind⟩ := Option.filter_eq_some_iff.mp polled
    simp only [Bool.and_eq_true, beq_iff_eq] at isKind
    split
    · exact moves_reject ⟨rfl, rfl⟩
    · rename_i lock completed
      refine moves_afterLockTransition ⟨rfl, rfl⟩ begun ?_ ?_ (rank_of_stage isAt)
      · intro effect
        rw [show ({ state with
            lock := lock
            pendingLockCommandId := 0 } : InitialPlanScheduler).pending = none
          from nothing]
        exact seals_none effect
      · refine fits_of_followedBy kept ?_
        have follows := state.lock.complete_followedBy pending completed
        rw [isKind.2] at follows
        exact follows

end Moves

variable {role : PairRole} (state : InitialPlanScheduler)

/-- What a call makes of a plan scheduler that is sound and paced. -/
abbrev Turn (role : PairRole) (before after : InitialPlanScheduler) : Prop :=
  before.IsPaced → (Standing.view role).inv before.standing → Moves role before after

theorem turn_same
    {before after : InitialPlanScheduler}
    (same : after.standing = before.standing)
    (paced : before.IsPaced → after.IsPaced) :
    Turn role before after := by
  intro isPaced _
  refine ⟨?_, paced isPaced⟩
  rw [same]
  exact View.Turn.refl _

/-- A scheduler that has not been started is in a stage without obligations. -/
theorem unpaced_of_unbegun
    (sound : (Standing.view role).inv state.standing)
    (unbegun : state.begun = false) :
    unpaced state.stage = true := by
  have idle := sound.idle unbegun
  simp only [standing, Bool.or_eq_true, decide_eq_true_eq] at idle
  rcases idle with isAt | isAt <;> rw [isAt] <;> rfl

theorem turn_begin
    (start : InitialPlanStart)
    (placed : start.localRole = role) :
    Turn role state (state.begin start).2 := by
  intro paced sound
  unfold begin
  split
  · exact ⟨View.Turn.refl _, paced⟩
  · rename_i admitted
    have unbegun : state.begun = false :=
      eq_false_of_ne_true fun begun => admitted (by simp [begun])
    dsimp only
    split
    · exact ⟨Standing.turn_unbegun unbegun unbegun rfl rfl,
        paced_of_stage (unpaced_of_unbegun state sound unbegun)⟩
    · split
      · rename_i initiator
        unfold prepareRandom issue
        split
        · exact ⟨Standing.turn_beginOther unbegun rfl placed rfl
              PairEffectKind.noConfusion,
            ⟨fun _ => ⟨initiator, rfl⟩, PlanStage.noConfusion, PlanStage.noConfusion,
              PlanStage.noConfusion, PlanStage.noConfusion⟩⟩
        · exact ⟨Standing.turn_begin unbegun rfl placed seals_none, paced_of_stage rfl⟩
      · exact ⟨Standing.turn_beginWaiting unbegun rfl placed rfl, paced_of_stage rfl⟩

theorem turn_complete
    (event : PortEvent) :
    Turn role state (state.complete event).2 := by
  intro paced sound
  unfold complete
  split
  · exact ⟨View.Turn.refl _, paced⟩
  · rename_i effect pending
    have begun : state.begun = true := sound.begun_of_pending pending
    split
    · exact ⟨View.Turn.refl _, paced⟩
    · split
      · exact ⟨View.Turn.refl _, paced⟩
      · dsimp only
        split
        · exact moves_reject ⟨rfl, rfl⟩
        · refine Moves.after (turn_answered begun state.operations) ?_
          split
          · rename_i isAt
            exact moves_finishPersist rfl begun rfl isAt
              (paced.kept isAt effect pending)
          · rename_i isOther
            split
            · exact moves_reject ⟨rfl, rfl⟩
            · refine moves_finish rfl begun
                ⟨paced.random, paced.tagged, paced.sealed, ?_, paced.sent⟩
              intro isAt
              exact absurd isAt isOther

theorem turn_acceptPeerLogical
    (bytes : Bytes) :
    Turn role state (state.acceptPeerLogical bytes).2 := by
  intro paced sound
  unfold acceptPeerLogical
  split
  · exact ⟨View.Turn.refl _, paced⟩
  · rename_i admitted
    simp only [Bool.or_eq_true, not_or, decide_eq_true_eq, not_not,
      Bool.not_eq_true', Bool.not_eq_false] at admitted
    obtain ⟨⟨begun, -⟩, isAt⟩ := admitted
    dsimp only
    split
    · exact moves_reject ⟨rfl, rfl⟩
    · split
      · exact moves_reject ⟨rfl, rfl⟩
      · split
        · exact moves_reject ⟨rfl, rfl⟩
        · exact moves_prepareOpen ⟨rfl, rfl⟩ begun
            ((rank_of_stage isAt).trans (rank_settled (by simp) (by simp))).le

theorem turn_markLocalSent :
    Turn role state state.markLocalSent.2 := by
  intro paced sound
  unfold markLocalSent
  split
  · exact ⟨View.Turn.refl _, paced⟩
  · rename_i admitted
    simp only [Bool.or_eq_true, not_or, decide_eq_true_eq, not_not] at admitted
    have isAt := admitted.1.2
    have busy : state.standing.idle = false := by
      simp [standing, isAt]
    have quiet : state.standing.message = none := by
      simp [standing, isAt]
    have level := rank_of_stage isAt
    split
    · exact moves_reject ⟨rfl, rfl⟩
    · split
      · exact moves_reject ⟨rfl, rfl⟩
      · rename_i command polled _ lock completed
        dsimp only
        split
        · rename_i isPlan
          refine ⟨Standing.turn_onward ⟨rfl, rfl⟩ busy ?_ rfl quiet, paced_of_stage rfl⟩
          rw [level, isPlan]
          simp only [standing]
          cases state.start.localRole <;> decide
        · rename_i isAck
          refine ⟨Standing.turn_onward ⟨rfl, rfl⟩ busy ?_ rfl quiet, paced_of_stage rfl⟩
          rw [level, isAck]
          simp only [standing]
          cases state.start.localRole <;> decide
        · rename_i notPlan notAck
          obtain ⟨isFinal, isLate⟩ :=
            ((paced.sent isAt).resolve_left notPlan).resolve_left notAck
          have late := InitialPlanLock.complete_late isLate command.id
            command.generation true
          rw [completed] at late
          refine moves_afterLockTransition ⟨rfl, rfl⟩ (sound.begun_of_busy busy) ?_ ?_
            (level.trans (rank_settled (by simp) (by simp)))
          · intro effect shown
            obtain ⟨logicalType, counter, message, -⟩ := sound.sealed effect shown
            rw [quiet] at message
            cases message
          · rw [isFinal]
            exact fits_of_late late

theorem turn_cancelPending :
    Turn role state state.cancelPending.2 := by
  intro paced _
  unfold cancelPending
  split
  · exact ⟨View.Turn.refl _, paced⟩
  · split
    · dsimp only
      exact moves_reject ⟨rfl, rfl⟩
    · exact ⟨View.Turn.refl _, paced⟩

/-- A late lock may be used from outside while the final message waits. -/
theorem turn_lock
    (late : state.lock.PendingIn InitialPlanLock.lateKind →
      lock.PendingIn InitialPlanLock.lateKind) :
    Turn role state { state with lock := lock } := by
  refine turn_same rfl ?_
  rintro ⟨random, tagged, sealed, kept, sent⟩
  refine ⟨random, tagged, sealed, kept, ?_⟩
  intro isAt
  rcases sent isAt with isPlan | isAck | ⟨isFinal, isLate⟩
  · exact Or.inl isPlan
  · exact Or.inr (Or.inl isAck)
  · exact Or.inr (Or.inr ⟨isFinal, late isLate⟩)

theorem turn_acceptCredentials
    (evidence : VerifiedCredentialEvidence) :
    Turn role state (state.acceptCredentials evidence).2 :=
  turn_lock state fun _ => InitialPlanLock.acceptCredentials_late evidence

theorem turn_completeCommand
    (id : Nat)
    (success : Bool) :
    Turn role state (state.completeCommand id success).2 :=
  turn_lock state fun late => InitialPlanLock.complete_late late id _ success

end InitialPlanScheduler

end FlyNes.Pair
