import FlyNes.PairKeyConfirm
import FlyNes.PairSignatureTurns

namespace FlyNes.Pair.PairKeyConfirmScheduler

open ByteString
open FlyNes.Dual (SessionResult)
open FlyNes.Ports
open Staircase

/-!
# The key confirmation scheduler seals one message

The initiator seals its tag before it hears from the responder, the responder
after it has checked the tag of the initiator.
-/

/-- The message that a stage seals. -/
def message : KeyConfirmStage → Option (UInt8 × Nat)
  | .sealLocal => some (7, 4)
  | _ => none

/-- Whether the message of this device has been handed out to be sealed. -/
def rank (role : PairRole) : KeyConfirmStage → Nat
  | .empty => 0
  | .hmacLocal => 0
  | .verifyLocal => 0
  | .waitPeer => if role = .initiator then 1 else 0
  | .openPeer => if role = .initiator then 1 else 0
  | .verifyPeer => if role = .initiator then 1 else 0
  | .sealLocal => 1
  | .waitLocalSent => 1
  | .ready => 1
  | .failed => 1

theorem rank_le_one
    (role : PairRole)
    (stage : KeyConfirmStage) :
    rank role stage ≤ 1 := by
  cases stage <;> cases role <;> decide

def standing (state : PairKeyConfirmScheduler) : Standing where
  begun := state.begun
  localRole := state.start.localRole
  pending := state.pending
  idle := state.stage = .empty || state.stage = .failed
  message := message state.stage
  rank := rank state.start.localRole state.stage

/-- A turn of a key confirmation scheduler of the device of a role. -/
abbrev Turn (role : PairRole) (before after : PairKeyConfirmScheduler) : Prop :=
  (Standing.view role).Turn before.standing after.standing

section Turns

variable
  {role checked : PairRole}
  {before state : PairKeyConfirmScheduler}
  {verification : PairSignatureScheduler}
  {stage : KeyConfirmStage}
  {effect : PairEffect}
  {payloadKind : PayloadKind}
  {result : SessionResult}
  {input : Bytes}
  {tag : PlanHash}
  {event : PortEvent}
  {completion : ProviderOperationCompletion}

/-- The rank of a scheduler in a stage that is known. -/
theorem rank_of_stage
    (isAt : state.stage = stage) :
    state.standing.rank = rank state.start.localRole stage := by
  rw [← isAt]
  rfl

/-- The pending effect has been answered. -/
theorem turn_answered
    (begun : state.begun = true)
    (operations : SchedulerJournal) :
    Turn role state { state with operations := operations, pending := none } :=
  Standing.turn_wait ⟨rfl, rfl⟩ begun le_rfl rfl

/-- The first effect is issued. -/
theorem turn_issueFirst
    (unbegun : before.begun = false)
    (begun : state.begun = true)
    (placed : state.start.localRole = role)
    (other : effect.kind ≠ .aeadSeal) :
    Turn role before (state.issue effect payloadKind stage).2 := by
  unfold issue
  split
  · exact Standing.turn_beginOther unbegun begun placed rfl other
  · exact Standing.turn_begin unbegun begun placed seals_none

variable {token : OpToken}

theorem sealEffect_ok
    (success : state.sealEffect token = .ok effect) :
    SealedAs effect 7 state.start.localRole 4 := by
  obtain ⟨built, isBuilt, success⟩ := bind_ok success
  obtain ⟨inner, -, success⟩ := bind_ok success
  cases success
  exact (aeadEffect_ok isBuilt).2

theorem openEffect_ok
    (success : state.openEffect token = .ok effect) :
    effect.kind = .aeadOpen := by
  obtain ⟨built, isBuilt, success⟩ := bind_ok success
  split at success
  · cases success
  · cases success
    exact (aeadEffect_ok isBuilt).1

section Issuing

variable (same : state.standing = before.standing)

include same

theorem turn_failed :
    Turn role before { state with pending := none, failed := true, stage := .failed } := by
  have keeps := Standing.Keeps.of_eq same
  exact Standing.turn_fail ⟨keeps.begun, keeps.localRole⟩ (rank_le_one _ _) rfl rfl

theorem turn_reject :
    Turn role before (state.reject result).2 :=
  turn_failed same

variable (begun : before.begun = true)

include begun

/-- An effect that seals nothing is issued. -/
theorem turn_issue
    (rises : before.standing.rank ≤ rank state.start.localRole stage)
    (other : effect.kind ≠ .aeadSeal) :
    Turn role before (state.issue effect payloadKind stage).2 := by
  have keeps := Standing.Keeps.of_eq same
  unfold issue
  split
  · exact Standing.turn_other ⟨keeps.begun, keeps.localRole⟩ begun rises rfl other
  · exact turn_reject same

theorem turn_prepareSeal
    (first : before.standing.rank = 0) :
    Turn role before state.prepareSeal.2 := by
  have keeps := Standing.Keeps.of_eq same
  unfold prepareSeal
  dsimp only
  split
  · exact turn_reject same
  · rename_i effect success
    unfold issue
    split
    · exact Standing.turn_seal ⟨keeps.begun, keeps.localRole⟩ begun
        (first.trans_lt Nat.one_pos) rfl rfl (keeps.localRole ▸ sealEffect_ok success)
    · exact turn_reject same

theorem turn_prepareOpen
    (rises : before.standing.rank ≤ rank state.start.localRole .openPeer) :
    Turn role before state.prepareOpen.2 := by
  unfold prepareOpen
  dsimp only
  split
  · exact turn_reject same
  · rename_i effect success
    refine turn_issue same begun rises ?_
    rw [openEffect_ok success]
    decide

theorem turn_prepareLocalHmac
    (first : before.standing.rank = 0) :
    Turn role before state.prepareLocalHmac.2 := by
  unfold prepareLocalHmac
  split
  · exact turn_reject same
  · split
    · exact turn_reject same
    · exact turn_issue same begun first.le PairEffectKind.noConfusion

theorem turn_prepareVerify
    (rises : before.standing.rank ≤ rank state.start.localRole stage) :
    Turn role before
      (state.prepareVerify verification checked input tag stage).2.1 := by
  have keeps := Standing.Keeps.of_eq same
  unfold prepareVerify
  split
  · split
    · exact turn_failed same
    · exact Standing.turn_other ⟨keeps.begun, keeps.localRole⟩ begun rises rfl
        PairEffectKind.noConfusion
  · exact turn_failed same

end Issuing

theorem prepareVerify_standing :
    (state.prepareVerify verification checked input tag stage).2.2.standing =
      verification.standing := by
  have same := verification.queueKeyConfirmation_standing checked
    (state.gattKey checked) input tag
  unfold prepareVerify
  split
  · rename_i queued
    rw [queued] at same
    split
    · exact same
    · exact same
  · rename_i queued
    rw [queued] at same
    exact same

theorem turn_completeVerification
    (begun : state.begun = true)
    (verifies : state.stage = .verifyLocal ∨ state.stage = .verifyPeer) :
    Turn role state (state.completeVerification verification event).2.1 := by
  refine (turn_answered begun state.operations).trans ?_
  unfold completeVerification
  dsimp only
  split
  · split
    · rename_i isAt
      exact turn_prepareSeal rfl begun (rank_of_stage isAt)
    · rename_i isOther
      have isAt := verifies.resolve_left isOther
      have level := rank_of_stage isAt
      split
      · rename_i responder
        have place : state.start.localRole = .responder :=
          PairRole.eq_responder (by simpa [localIsInitiator] using responder)
        rw [place] at level
        exact turn_prepareLocalHmac rfl begun level
      · refine Standing.turn_wait ⟨rfl, rfl⟩ begun ?_ rfl
        simp only [standing]
        split
        · exact rank_le_one _ _
        · exact rank_le_one _ _
  · exact turn_failed rfl

theorem completeVerification_standing :
    (state.completeVerification verification event).2.2.standing =
      verification.standing := by
  have same := verification.completeKeyConfirmation_standing event
  unfold completeVerification
  dsimp only
  split
  · rename_i completed
    rw [completed] at same
    split
    · exact same
    · split <;> exact same
  · rename_i completed
    rw [completed] at same
    exact same

/-- The answer to an effect leads on to the next stage. -/
theorem turn_finish
    (same : state.standing = before.standing)
    (begun : state.begun = true)
    (nothing : state.pending = none) :
    Turn role before (state.finish verification completion).2.1 := by
  refine Standing.turn_of_eq same ?_
  unfold finish
  dsimp only
  split
  · rename_i isAt
    have level := rank_of_stage isAt
    split
    · exact turn_failed rfl
    · exact turn_prepareVerify rfl begun level.le
  · split
    · exact turn_failed rfl
    · split
      · exact turn_failed rfl
      · exact Standing.turn_wait ⟨rfl, rfl⟩ begun (rank_le_one _ _) nothing
  · rename_i isAt
    have level := rank_of_stage isAt
    split
    · exact turn_failed rfl
    · split
      · exact turn_prepareVerify rfl begun level.le
      · exact turn_failed rfl
  · exact turn_failed rfl

theorem finish_standing :
    (state.finish verification completion).2.2.standing = verification.standing := by
  unfold finish
  dsimp only
  split
  · split
    · rfl
    · exact prepareVerify_standing
  · split
    · rfl
    · split <;> rfl
  · split
    · rfl
    · split
      · exact prepareVerify_standing
      · rfl
  · rfl

end Turns

variable
  {role : PairRole}
  (state : PairKeyConfirmScheduler)
  (verification : PairSignatureScheduler)

theorem turn_begin
    (start : PairKeyConfirmStart)
    (placed : start.localRole = role) :
    Turn role state (state.begin verification start).2 := by
  unfold begin
  split
  · exact View.Turn.refl _
  · rename_i admitted
    have unbegun : state.begun = false :=
      eq_false_of_ne_true fun begun => admitted (by simp [begun])
    dsimp only
    split
    · unfold prepareLocalHmac
      split
      · exact Standing.turn_begin unbegun rfl placed seals_none
      · split
        · exact Standing.turn_begin unbegun rfl placed seals_none
        · exact turn_issueFirst unbegun rfl placed PairEffectKind.noConfusion
    · exact Standing.turn_beginWaiting unbegun rfl placed rfl

theorem turn_complete
    (event : PortEvent) :
    Turn role state (state.complete verification event).2.1 := by
  intro sound
  revert sound
  unfold complete
  split
  · exact View.Turn.refl _
  · rename_i admitted
    intro sound
    have begun : state.begun = true :=
      sound.begun_of_ne_none fun nothing : state.pending = none =>
        admitted (by simp [nothing])
    revert sound
    split
    · rename_i verifies
      exact turn_completeVerification begun verifies
    · split
      · exact View.Turn.refl _
      · dsimp only
        split
        · exact turn_failed rfl
        · refine (turn_answered begun state.operations).trans ?_
          exact turn_finish rfl begun rfl

theorem complete_standing
    (event : PortEvent) :
    (state.complete verification event).2.2.standing = verification.standing := by
  unfold complete
  split
  · rfl
  · split
    · exact completeVerification_standing
    · split
      · rfl
      · dsimp only
        split
        · rfl
        · exact finish_standing

theorem turn_acceptPeerEnvelope
    (body : Bytes)
    (logicalHash : PlanHash) :
    Turn role state (state.acceptPeerEnvelope body logicalHash).2 := by
  unfold acceptPeerEnvelope
  split
  · exact View.Turn.refl _
  · rename_i admitted
    simp only [Bool.or_eq_true, not_or, decide_eq_true_eq, not_not,
      Bool.not_eq_true', Bool.not_eq_false] at admitted
    obtain ⟨⟨⟨⟨begun, -⟩, -⟩, -⟩, isAt⟩ := admitted
    have level := rank_of_stage isAt
    split
    · exact turn_reject rfl
    · split
      · exact turn_reject rfl
      · exact turn_prepareOpen rfl begun level.le

theorem turn_markLocalSent :
    Turn role state (state.markLocalSent verification).2 := by
  unfold markLocalSent
  split
  · exact View.Turn.refl _
  · rename_i admitted
    simp only [Bool.or_eq_true, not_or, decide_eq_true_eq, not_not] at admitted
    have isAt := admitted.2
    have busy : state.standing.idle = false := by
      simp [standing, isAt]
    have quiet : state.standing.message = none := by
      simp [standing, isAt, message]
    dsimp only
    split
    · rename_i initiator
      have place : state.start.localRole = .initiator := by
        simpa [localIsInitiator] using initiator
      refine Standing.turn_onward ⟨rfl, rfl⟩ busy ?_ rfl quiet
      simp only [standing, isAt, place]
      decide
    · split
      · exact Standing.turn_onward ⟨rfl, rfl⟩ busy (rank_le_one _ _) rfl quiet
      · exact turn_reject rfl

theorem turn_cancelPending :
    Turn role state state.cancelPending.2 := by
  unfold cancelPending
  split
  · exact View.Turn.refl _
  · split
    · exact turn_reject rfl
    · split
      · dsimp only
        exact turn_reject rfl
      · exact View.Turn.refl _

end FlyNes.Pair.PairKeyConfirmScheduler
