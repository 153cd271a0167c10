import FlyNes.PairKnown
import FlyNes.PairSeals

namespace FlyNes.Pair.PairKnownScheduler

open ByteString
open FlyNes.Wire
open FlyNes.Dual (SessionResult)
open FlyNes.Ports
open Staircase

/-!
# The known-peer scheduler seals its status and then its branch

The initiator seals its status first of all and its branch once it has opened
the status of the responder; the responder seals its status once it has opened
that of the initiator and its branch at the end.
-/

/-- The message that a stage seals. -/
def message : KnownStage → Option (UInt8 × Nat)
  | .sealLocalStatus => some (21, 2)
  | .sealLocalBranch => some (17, 3)
  | _ => none

/-- How many messages have been handed out to be sealed. -/
def rank (role : PairRole) : KnownStage → Nat
  | .empty => 0
  | .hmacLocalStatus => 0
  | .waitPeerStatus => if role = .initiator then 1 else 0
  | .openPeerStatus => if role = .initiator then 1 else 0
  | .hmacPeerStatus => if role = .initiator then 1 else 0
  | .sealLocalStatus => 1
  | .waitLocalStatusSent => 1
  | .signLocalBranch => 1
  | .waitPeerBranch => if role = .initiator then 2 else 1
  | .openPeerBranch => if role = .initiator then 2 else 1
  | .verifyPeerBranch => if role = .initiator then 2 else 1
  | .sealLocalBranch => 2
  | .waitLocalBranchSent => 2
  | .ready => 2
  | .failed => 2

theorem rank_le_two
    (role : PairRole)
    (stage : KnownStage) :
    rank role stage ≤ 2 := by
  cases stage <;> cases role <;> decide

def standing (state : PairKnownScheduler) : Standing where
  begun := state.begun
  localRole := state.start.localRole
  pending := state.pending
  idle := state.stage = .empty || state.stage = .failed
  message := message state.stage
  rank := rank state.start.localRole state.stage

/-- A turn of a known-peer scheduler of the device of a role. -/
abbrev Turn (role : PairRole) (before after : PairKnownScheduler) : Prop :=
  (Standing.view role).Turn before.standing after.standing

section Turns

variable
  {role : PairRole}
  {before state : PairKnownScheduler}
  {stage : KnownStage}
  {sealing : KnownMessage}
  {effect : PairEffect}
  {payloadKind : PayloadKind}
  {result : SessionResult}
  {output : Bytes}

/-- The rank of a scheduler in a stage that is known. -/
theorem rank_of_stage
    (isAt : state.stage = stage) :
    state.standing.rank = rank state.start.localRole stage := by
  rw [← isAt]
  rfl

/-- The pending effect has been answered. -/
theorem turn_answered
    (begun : state.begun = true)
    (operations : SchedulerJournal) :
    Turn role state { state with operations := operations, pending := none } :=
  Standing.turn_wait ⟨rfl, rfl⟩ begun le_rfl rfl

/-- The first effect is issued. -/
theorem turn_issueFirst
    (unbegun : before.begun = false)
    (begun : state.begun = true)
    (placed : state.start.localRole = role)
    (other : effect.kind ≠ .aeadSeal) :
    Turn role before (state.issue effect payloadKind stage).2 := by
  unfold issue
  split
  · exact Standing.turn_beginOther unbegun begun placed rfl other
  · exact Standing.turn_begin unbegun begun placed seals_none

variable {token : OpToken}

theorem sealEffect_ok
    (success : state.sealEffect token sealing = .ok effect) :
    SealedAs effect sealing.logicalType state.start.localRole sealing.counter := by
  obtain ⟨built, isBuilt, success⟩ := bind_ok success
  obtain ⟨inner, -, success⟩ := bind_ok success
  cases success
  exact (aeadEffect_ok isBuilt).2

theorem openEffect_ok
    (success : state.openEffect token sealing = .ok effect) :
    effect.kind = .aeadOpen := by
  obtain ⟨built, isBuilt, success⟩ := bind_ok success
  split at success
  · cases success
  · cases success
    exact (aeadEffect_ok isBuilt).1

/-- The rank that a scheduler has while it seals a message. -/
def sealRank : KnownMessage → Nat
  | .status => 1
  | .branch => 2

section Issuing

variable (same : state.standing = before.standing)

include same

theorem turn_reject :
    Turn role before (state.reject result).2 := by
  have keeps := Standing.Keeps.of_eq same
  exact Standing.turn_fail ⟨keeps.begun, keeps.localRole⟩ (rank_le_two _ _) rfl rfl

variable (begun : before.begun = true)

include begun

/-- An effect that seals nothing is issued. -/
theorem turn_issue
    (rises : before.standing.rank ≤ rank state.start.localRole stage)
    (other : effect.kind ≠ .aeadSeal) :
    Turn role before (state.issue effect payloadKind stage).2 := by
  have keeps := Standing.Keeps.of_eq same
  unfold issue
  split
  · exact Standing.turn_other ⟨keeps.begun, keeps.localRole⟩ begun rises rfl other
  · exact turn_reject same

theorem turn_prepareSeal
    (next : before.standing.rank < sealRank sealing) :
    Turn role before (state.prepareSeal sealing).2 := by
  have keeps := Standing.Keeps.of_eq same
  unfold prepareSeal
  dsimp only
  split
  · exact turn_reject same
  · rename_i effect success
    have sealed := sealEffect_ok success
    rw [show state.start.localRole = before.start.localRole from keeps.localRole]
      at sealed
    unfold issue
    split
    · cases sealing with
      | status =>
          exact Standing.turn_seal ⟨keeps.begun, keeps.localRole⟩ begun next rfl rfl
            sealed
      | branch =>
          exact Standing.turn_seal ⟨keeps.begun, keeps.localRole⟩ begun next rfl rfl
            sealed
    · exact turn_reject same

theorem turn_prepareOpen
    (rises : before.standing.rank ≤ rank state.start.localRole sealing.openStage) :
    Turn role before (state.prepareOpen sealing).2 := by
  unfold prepareOpen
  dsimp only
  split
  · exact turn_reject same
  · rename_i effect success
    refine turn_issue same begun rises ?_
    rw [openEffect_ok success]
    decide

theorem turn_prepareLocalStatus
    (first : before.standing.rank = 0) :
    Turn role before state.prepareLocalStatus.2 := by
  unfold prepareLocalStatus
  split
  · exact turn_reject same
  · dsimp only
    split
    · exact turn_reject same
    · exact turn_issue same begun first.le PairEffectKind.noConfusion

theorem turn_preparePeerStatusHmac
    (rises : before.standing.rank ≤ rank state.start.localRole .hmacPeerStatus) :
    Turn role before state.preparePeerStatusHmac.2 :=
  turn_issue same begun rises PairEffectKind.noConfusion

theorem turn_prepareLocalBranch
    (next : before.standing.rank ≤ 1) :
    Turn role before state.prepareLocalBranch.2 := by
  unfold prepareLocalBranch
  dsimp only
  split
  · exact turn_prepareSeal same begun (Nat.lt_succ_of_le next)
  · split
    · exact turn_reject same
    · exact turn_issue same begun next PairEffectKind.noConfusion

theorem turn_branchVerified
    (nothing : state.pending = none)
    (next : before.standing.rank ≤ rank state.start.localRole .verifyPeerBranch) :
    Turn role before state.branchVerified.2 := by
  have keeps := Standing.Keeps.of_eq same
  unfold branchVerified
  dsimp only
  split
  · refine Standing.turn_wait ⟨keeps.begun, keeps.localRole⟩ begun ?_ nothing
    simp only [standing]
    split
    · exact rank_le_two _ _
    · exact rank_le_two _ _
  · rename_i responder
    have place : state.start.localRole = .responder :=
      PairRole.eq_responder (by simpa [localIsInitiator] using responder)
    rw [place] at next
    exact turn_prepareLocalBranch same begun next

theorem turn_preparePeerBranchVerify
    (nothing : state.pending = none)
    (next : before.standing.rank ≤ rank state.start.localRole .verifyPeerBranch) :
    Turn role before state.preparePeerBranchVerify.2 := by
  unfold preparePeerBranchVerify
  split
  · exact turn_reject same
  · split
    · exact turn_branchVerified same begun nothing next
    · dsimp only
      split
      · exact turn_reject same
      · exact turn_issue same begun next PairEffectKind.noConfusion

end Issuing

theorem turn_sealedReady
    (begun : state.begun = true)
    (nothing : state.pending = none)
    (rank : state.standing.rank = sealRank sealing) :
    Turn role state (state.sealedReady sealing output).2 := by
  unfold sealedReady
  split
  · exact turn_reject rfl
  · split
    · exact turn_reject rfl
    · cases sealing with
      | status =>
          exact Standing.turn_wait ⟨rfl, rfl⟩ begun rank.le nothing
      | branch =>
          exact Standing.turn_wait ⟨rfl, rfl⟩ begun rank.le nothing

/-- The answer to an effect leads on to the next stage. -/
theorem turn_finish
    (same : state.standing = before.standing)
    (begun : state.begun = true)
    (nothing : state.pending = none) :
    Turn role before (state.finish output).2 := by
  refine Standing.turn_of_eq same ?_
  unfold finish
  split
  · rename_i isAt
    have level := rank_of_stage isAt
    split
    · exact turn_reject rfl
    · exact turn_prepareSeal rfl begun (level.trans_lt Nat.one_pos)
  · rename_i isAt
    exact turn_sealedReady begun nothing (rank_of_stage isAt)
  · rename_i isAt
    exact turn_sealedReady begun nothing (rank_of_stage isAt)
  · rename_i isAt
    have level := rank_of_stage isAt
    split
    · exact turn_reject rfl
    · split
      · exact turn_preparePeerStatusHmac rfl begun level.le
      · exact turn_reject rfl
  · rename_i isAt
    have level := rank_of_stage isAt
    split
    · exact turn_reject rfl
    · dsimp only
      split
      · refine turn_prepareLocalBranch rfl begun (level.trans_le ?_)
        cases state.start.localRole <;> decide
      · rename_i responder
        have place : state.start.localRole = .responder :=
          PairRole.eq_responder (by simpa [localIsInitiator] using responder)
        rw [place] at level
        exact turn_prepareLocalStatus rfl begun level
  · rename_i isAt
    have level := rank_of_stage isAt
    split
    · exact turn_reject rfl
    · exact turn_prepareSeal rfl begun (level.trans_lt Nat.one_lt_two)
  · rename_i isAt
    have level := rank_of_stage isAt
    split
    · exact turn_reject rfl
    · split
      · exact turn_reject rfl
      · exact turn_preparePeerBranchVerify rfl begun nothing level.le
  · rename_i isAt
    exact turn_branchVerified rfl begun nothing (rank_of_stage isAt).le
  · exact turn_reject rfl

/-- A message is opened in the rank in which it is waited for. -/
theorem rank_of_expected
    {logicalType : UInt8}
    (expected : expectedMessage logicalType = some (sealing, stage)) :
    rank role stage ≤ rank role sealing.openStage := by
  unfold expectedMessage at expected
  split_ifs at expected
  · cases expected
    exact le_rfl
  · cases expected
    exact le_rfl

end Turns

variable {role : PairRole} (state : PairKnownScheduler)

theorem turn_begin
    (start : PairKnownStart)
    (placed : start.localRole = role) :
    Turn role state (state.begin start).2 := by
  unfold begin
  split
  · exact View.Turn.refl _
  · rename_i admitted
    have unbegun : state.begun = false :=
      eq_false_of_ne_true fun begun => admitted (by simp [begun])
    dsimp only
    split
    · unfold prepareLocalStatus
      split
      · exact Standing.turn_begin unbegun rfl placed seals_none
      · dsimp only
        split
        · exact Standing.turn_begin unbegun rfl placed seals_none
        · exact turn_issueFirst unbegun rfl placed PairEffectKind.noConfusion
    · exact Standing.turn_beginWaiting unbegun rfl placed rfl

theorem turn_complete
    (event : PortEvent) :
    Turn role state (state.complete event).2 := by
  intro sound
  revert sound
  unfold complete
  split
  · exact View.Turn.refl _
  · rename_i admitted
    intro sound
    have begun : state.begun = true :=
      sound.begun_of_ne_none fun nothing : state.pending = none =>
        admitted (by simp [nothing])
    revert sound
    split
    · exact View.Turn.refl _
    · dsimp only
      split
      · exact turn_reject rfl
      · refine (turn_answered begun state.operations).trans ?_
        split
        · exact turn_finish rfl begun rfl
        · split
          · exact turn_reject rfl
          · exact turn_finish rfl begun rfl

theorem turn_acceptPeerEnvelope
    (logicalType : UInt8)
    (body : Bytes)
    (logicalHash : PlanHash) :
    Turn role state (state.acceptPeerEnvelope logicalType body logicalHash).2 := by
  unfold acceptPeerEnvelope
  split
  · exact View.Turn.refl _
  · rename_i sealing stage expected
    split
    · exact View.Turn.refl _
    · rename_i admitted
      simp only [Bool.or_eq_true, not_or, decide_eq_true_eq, not_not,
        Bool.not_eq_true', Bool.not_eq_false] at admitted
      obtain ⟨⟨⟨⟨begun, -⟩, -⟩, isAt⟩, -⟩ := admitted
      have level := rank_of_stage isAt
      split
      · exact turn_reject rfl
      · split
        · exact turn_reject rfl
        · exact turn_prepareOpen rfl begun (level.trans_le (rank_of_expected expected))

theorem turn_markLocalSent
    (logicalHash : PlanHash) :
    Turn role state (state.markLocalSent logicalHash).2 := by
  unfold markLocalSent
  split
  · exact turn_reject rfl
  · dsimp only
    split
    · rename_i sent
      have isAt := sent.2
      refine Standing.turn_onward ⟨rfl, rfl⟩ ?_ ?_ rfl ?_
      · simp [standing, isAt]
      · cases place : state.start.localRole <;>
          simp [standing, isAt, localIsInitiator, place, rank]
      · simp [standing, isAt, message]
    · split
      · rename_i sent
        have isAt := sent.2
        split
        · rename_i initiator
          refine Standing.turn_onward ⟨rfl, rfl⟩ ?_ ?_ rfl ?_
          · simp [standing, isAt]
          · have place : state.start.localRole = .initiator := by
              simpa [localIsInitiator] using initiator
            simp only [standing, isAt, place]
            decide
          · simp [standing, isAt, message]
        · split
          · refine Standing.turn_onward ⟨rfl, rfl⟩ ?_ (rank_le_two _ _) rfl ?_
            · simp [standing, isAt]
            · simp [standing, isAt, message]
          · exact turn_reject rfl
      · exact turn_reject rfl

theorem turn_cancelPending :
    Turn role state state.cancelPending.2 := by
  unfold cancelPending
  split
  · exact View.Turn.refl _
  · split
    · dsimp only
      exact turn_reject rfl
    · exact View.Turn.refl _

end FlyNes.Pair.PairKnownScheduler
