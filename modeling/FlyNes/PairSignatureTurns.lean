import FlyNes.PairSeals

namespace FlyNes.Pair.PairSignatureScheduler

open ByteString
open FlyNes.Dual (SessionResult)
open FlyNes.Ports
open Staircase

/-!
# The signature scheduler seals one message

Every call takes the stages forward: those before the seal of its own signature,
and those after it.  The two roles pass the stages in a different order.
-/

/-- The message that a stage seals. -/
def message : SignatureStage → Option (UInt8 × Nat)
  | .sealLocal => some (6, 1)
  | _ => none

/-- Whether the message of this device has been handed out to be sealed. -/
def rank (role verifyingRole : PairRole) : SignatureStage → Nat
  | .empty => 0
  | .deriveI2r => 0
  | .deriveR2i => 0
  | .signLocal => 0
  | .waitPeer => if role = .initiator then 1 else 0
  | .openPeer => if role = .initiator then 1 else 0
  | .verifySignature =>
      if role = .initiator ∧ verifyingRole = .responder then 1 else 0
  | .sealLocal => 1
  | .waitLocalSent => 1
  | .persistTranscript => 1
  | .ready => 1
  | .failed => 1

theorem rank_le_one
    (role verifyingRole : PairRole)
    (stage : SignatureStage) :
    rank role verifyingRole stage ≤ 1 := by
  cases stage <;> cases role <;> cases verifyingRole <;> decide

def standing (state : PairSignatureScheduler) : Standing where
  begun := state.begun
  localRole := state.start.localRole
  pending := state.pending
  idle := state.stage = .empty || state.stage = .failed
  message := message state.stage
  rank := rank state.start.localRole state.verifyingRole state.stage

/-- A turn of a signature scheduler of the device of a role. -/
abbrev Turn (role : PairRole) (before after : PairSignatureScheduler) : Prop :=
  (Standing.view role).Turn before.standing after.standing

section Turns

variable
  {role verified : PairRole}
  {before state : PairSignatureScheduler}
  {stage : SignatureStage}
  {effect : PairEffect}
  {payloadKind : PayloadKind}
  {result : SessionResult}
  {signature : Signature}
  {event : PortEvent}
  {expectedHash : PlanHash}
  {completion : ProviderOperationCompletion}

/-- The pending effect has been answered. -/
theorem turn_answered
    (begun : state.begun = true)
    (operations : SchedulerJournal) :
    Turn role state { state with operations := operations, pending := none } :=
  Standing.turn_wait ⟨rfl, rfl⟩ begun le_rfl rfl

/-- The first effect is issued. -/
theorem turn_issueFirst
    (unbegun : before.begun = false)
    (begun : state.begun = true)
    (placed : state.start.localRole = role)
    (other : effect.kind ≠ .aeadSeal) :
    Turn role before (state.issue effect payloadKind stage).2 := by
  unfold issue
  split
  · exact Standing.turn_beginOther unbegun begun placed rfl other
  · exact Standing.turn_begin unbegun begun placed seals_none

/-- Only the stage of the seal has an effect that seals. -/
theorem effectFor_ok
    {token : OpToken}
    (success : state.effectFor token stage = .ok (effect, payloadKind)) :
    (stage = .sealLocal ∧ SealedAs effect 6 state.start.localRole 1) ∨
      (stage ≠ .sealLocal ∧ effect.kind ≠ .aeadSeal) := by
  cases stage with
  | sealLocal =>
      obtain ⟨built, isBuilt, success⟩ := bind_ok success
      obtain ⟨inner, -, success⟩ := bind_ok success
      cases success
      exact Or.inl ⟨rfl, (aeadEffect_ok isBuilt).2⟩
  | openPeer =>
      obtain ⟨built, isBuilt, success⟩ := bind_ok success
      refine Or.inr ⟨by decide, ?_⟩
      split at success
      · cases success
      · cases success
        rw [(aeadEffect_ok isBuilt).1]
        decide
  | deriveI2r | deriveR2i | signLocal =>
      cases success
      exact Or.inr ⟨by decide, PairEffectKind.noConfusion⟩
  | _ =>
      cases success

section Issuing

variable (same : state.standing = before.standing)

include same

theorem turn_reject :
    Turn role before (state.reject result).2 := by
  have keeps := Standing.Keeps.of_eq same
  exact Standing.turn_fail ⟨keeps.begun, keeps.localRole⟩ (rank_le_one _ _ _) rfl rfl

variable (begun : before.begun = true)

include begun

/-- An effect that seals nothing is issued. -/
theorem turn_issue
    (rises : before.standing.rank ≤
      rank state.start.localRole state.verifyingRole stage)
    (other : effect.kind ≠ .aeadSeal) :
    Turn role before (state.issue effect payloadKind stage).2 := by
  have keeps := Standing.Keeps.of_eq same
  unfold issue
  split
  · exact Standing.turn_other ⟨keeps.begun, keeps.localRole⟩ begun rises rfl other
  · exact turn_reject same

/-- The effect that seals the message is issued. -/
theorem turn_issueSeal
    (first : before.standing.rank = 0)
    (sealed : SealedAs effect 6 state.start.localRole 1) :
    Turn role before (state.issue effect payloadKind .sealLocal).2 := by
  have keeps := Standing.Keeps.of_eq same
  unfold issue
  split
  · refine Standing.turn_seal ⟨keeps.begun, keeps.localRole⟩ begun ?_ rfl rfl
      (keeps.localRole ▸ sealed)
    rw [first]
    exact Nat.one_pos
  · exact turn_reject same

theorem turn_prepare
    (rises : before.standing.rank ≤
      rank state.start.localRole state.verifyingRole stage)
    (first : stage = .sealLocal → before.standing.rank = 0) :
    Turn role before (state.prepare stage).2 := by
  unfold prepare
  dsimp only
  split
  · exact turn_reject same
  · rename_i effect payloadKind success
    rcases effectFor_ok success with ⟨rfl, sealed⟩ | ⟨-, other⟩
    · exact turn_issueSeal same begun (first rfl) sealed
    · exact turn_issue same begun rises other

theorem turn_prepareTranscriptPersist :
    Turn role before state.prepareTranscriptPersist.2 := by
  unfold prepareTranscriptPersist
  split
  · exact turn_reject same
  · exact turn_issue same begun (rank_le_one _ _ _) PairEffectKind.noConfusion

theorem turn_prepareVerify
    (rises : before.standing.rank ≤
      rank state.start.localRole verified .verifySignature) :
    Turn role before (state.prepareVerify verified signature).2 := by
  unfold prepareVerify
  split
  · dsimp only
    split
    · exact turn_reject same
    · have keeps := Standing.Keeps.of_eq same
      exact Standing.turn_other ⟨keeps.begun, keeps.localRole⟩ begun rises rfl
        PairEffectKind.noConfusion
  · exact turn_reject same

end Issuing

/-- The rank of a scheduler in a stage that is known. -/
theorem rank_of_stage
    (isAt : state.stage = stage) :
    state.standing.rank = rank state.start.localRole state.verifyingRole stage := by
  rw [← isAt]
  rfl

/-- A verified signature leads on to the next stage. -/
theorem turn_afterVerification
    (same : state.standing = before.standing)
    (begun : state.begun = true)
    (nothing : state.pending = none)
    (verifies : state.stage = .verifySignature) :
    Turn role before state.afterVerification.2 := by
  refine Standing.turn_of_eq same ?_
  have level := rank_of_stage verifies
  unfold afterVerification
  split
  · rename_i verifying place
    rw [verifying, place] at level
    exact turn_prepare rfl begun (rank_le_one _ _ _) (fun _ => level)
  · rename_i verifying place
    rw [verifying, place] at level
    exact turn_prepare rfl begun level.le SignatureStage.noConfusion
  · rename_i verifying place
    rw [verifying, place] at level
    exact turn_prepare rfl begun (rank_le_one _ _ _) (fun _ => level)
  · split
    · exact turn_prepareTranscriptPersist rfl begun
    · exact Standing.turn_wait ⟨rfl, rfl⟩ begun (rank_le_one _ _ _) nothing

@[simp] theorem keepSignature_standing
    (state : PairSignatureScheduler) :
    state.keepSignature.standing = state.standing := by
  unfold keepSignature
  split <;> rfl

theorem turn_completeVerification
    (begun : state.begun = true)
    (verifies : state.stage = .verifySignature) :
    Turn role state (state.completeVerification event).2 := by
  refine (turn_answered begun state.operations).trans ?_
  unfold completeVerification
  dsimp only
  split
  · refine turn_afterVerification (keepSignature_standing _) ?_ ?_ ?_
    · exact (congrArg Standing.begun (keepSignature_standing _)).trans begun
    · exact congrArg Standing.pending (keepSignature_standing _)
    · unfold keepSignature
      split <;> exact verifies
  · exact turn_reject rfl

/-- The answer to an effect leads on to the next stage. -/
theorem turn_finish
    (same : state.standing = before.standing)
    (begun : state.begun = true)
    (nothing : state.pending = none) :
    Turn role before (state.finish expectedHash completion).2 := by
  refine Standing.turn_of_eq same ?_
  unfold finish
  split
  · rename_i isAt
    have level := rank_of_stage isAt
    split
    · exact turn_reject rfl
    · exact turn_prepare rfl begun level.le SignatureStage.noConfusion
  · rename_i isAt
    have level := rank_of_stage isAt
    split
    · exact turn_reject rfl
    · dsimp only
      split
      · exact turn_prepare rfl begun level.le SignatureStage.noConfusion
      · split
        · exact turn_prepare rfl begun (level.trans_le (Nat.zero_le _))
            SignatureStage.noConfusion
        · exact Standing.turn_wait ⟨rfl, rfl⟩ begun (level.trans_le (Nat.zero_le _))
            nothing
  · rename_i isAt
    have level := rank_of_stage isAt
    split
    · exact turn_reject rfl
    · exact turn_prepareVerify rfl begun (level.trans_le (Nat.zero_le _))
  · split
    · exact turn_reject rfl
    · split
      · exact turn_reject rfl
      · exact Standing.turn_wait ⟨rfl, rfl⟩ begun (rank_le_one _ _ _) nothing
  · rename_i isAt
    have level := rank_of_stage isAt
    split
    · exact turn_reject rfl
    · dsimp only
      split
      · exact turn_reject rfl
      · refine turn_prepareVerify rfl begun (level.le.trans ?_)
        -- The initiator opens the message of the responder, after its own seal.
        cases place : state.start.localRole <;> simp [rank, PairRole.other]
  · split
    · exact turn_reject rfl
    · exact Standing.turn_wait ⟨rfl, rfl⟩ begun (rank_le_one _ _ _) nothing
  · exact turn_reject rfl

/-- The envelope of the peer is taken before or after the seal, as the role has it. -/
theorem rank_of_awaitsPeer
    (awaits : state.awaitsPeer = true) :
    state.standing.rank ≤
      rank state.start.localRole state.verifyingRole .openPeer := by
  simp only [awaitsPeer, Bool.or_eq_true, Bool.and_eq_true, decide_eq_true_eq] at awaits
  rcases awaits with isAt | ⟨-, isAt | isAt⟩
  · exact (rank_of_stage isAt).le
  · exact (rank_of_stage isAt).trans_le (Nat.zero_le _)
  · exact (rank_of_stage isAt).trans_le (Nat.zero_le _)

end Turns

variable {role : PairRole} (state : PairSignatureScheduler)

theorem turn_complete
    (event : PortEvent) :
    Turn role state (state.complete event).2 := by
  intro sound
  revert sound
  unfold complete
  split
  · exact View.Turn.refl _
  · rename_i effect pending
    intro sound
    have begun : state.begun = true := sound.begun_of_pending pending
    revert sound
    split
    · exact View.Turn.refl _
    · split
      · rename_i verifies
        exact turn_completeVerification begun verifies
      · split
        · exact View.Turn.refl _
        · dsimp only
          split
          · exact turn_reject rfl
          · refine (turn_answered begun state.operations).trans ?_
            exact turn_finish rfl begun rfl

theorem turn_begin
    (start : PairSignatureStart)
    (placed : start.localRole = role) :
    Turn role state (state.begin start).2 := by
  unfold begin
  split
  · exact View.Turn.refl _
  · rename_i admitted
    have unbegun : state.begun = false := by
      simp only [Bool.or_eq_true, not_or, Bool.not_eq_true] at admitted
      exact admitted.1.1.1.1.1.1.1.1
    dsimp only
    split
    · exact Standing.turn_unbegun unbegun unbegun rfl rfl
    · exact turn_issueFirst unbegun rfl placed PairEffectKind.noConfusion

theorem turn_acceptPeerEnvelope
    (body : Bytes)
    (logicalHash : PlanHash) :
    Turn role state (state.acceptPeerEnvelope body logicalHash).2 := by
  unfold acceptPeerEnvelope
  split
  · exact View.Turn.refl _
  · rename_i admitted
    simp only [Bool.or_eq_true, not_or, Bool.not_eq_true, Bool.not_eq_false'] at admitted
    obtain ⟨⟨⟨⟨begun, -⟩, -⟩, -⟩, awaits⟩ := admitted
    split
    · exact turn_reject rfl
    · split
      · exact turn_reject rfl
      · dsimp only
        split
        · exact View.Turn.refl _
        · exact turn_prepare rfl begun (rank_of_awaitsPeer awaits)
            SignatureStage.noConfusion

theorem turn_markLocalSignatureSent :
    Turn role state state.markLocalSignatureSent.2 := by
  unfold markLocalSignatureSent
  split
  · exact View.Turn.refl _
  · rename_i admitted
    simp only [Bool.or_eq_true, not_or, decide_eq_true_eq, not_not] at admitted
    have isAt := admitted.2
    intro sound
    have begun : state.begun = true :=
      sound.begun_of_busy (by simp [standing, isAt])
    revert sound
    dsimp only
    split
    · rename_i initiator
      have place : state.start.localRole = .initiator := by
        simpa [localIsInitiator] using initiator
      refine Standing.turn_onward ⟨rfl, rfl⟩ ?_ ?_ rfl ?_
      · simp [standing, isAt]
      · simp only [standing, place, isAt]
        split <;> exact le_rfl
      · simp [standing, isAt, message]
    · split
      · have rejected : Turn role state
            (reject { state with localSent := true } .invalidState).2 :=
          turn_reject rfl
        exact rejected
      · exact turn_prepareTranscriptPersist rfl begun

theorem turn_cancelPending :
    Turn role state state.cancelPending.2 := by
  unfold cancelPending
  split
  · exact View.Turn.refl _
  · split
    · have rejected : Turn role state (state.reject .cancelled).2 := turn_reject rfl
      exact rejected
    · split
      · dsimp only
        exact turn_reject rfl
      · exact View.Turn.refl _

theorem turn_approveLocal
    (approvalKind : Nat) :
    Turn role state (state.approveLocal approvalKind).2 := by
  unfold approveLocal
  split
  · exact View.Turn.refl _
  · split <;> exact View.Turn.refl _

/-! The verification is no part of the standing, so the calls that only pass on to it
change nothing that counts. -/

@[simp] theorem queueKeyConfirmation_standing
    (role : PairRole)
    (key : ResourceHandle)
    (exactInput : Bytes)
    (expectedMac : PlanHash) :
    (state.queueKeyConfirmation role key exactInput expectedMac).2.standing =
      state.standing := by
  unfold queueKeyConfirmation
  split <;> rfl

@[simp] theorem completeKeyConfirmation_standing
    (event : PortEvent) :
    (state.completeKeyConfirmation event).2.standing = state.standing := by
  unfold completeKeyConfirmation
  split <;> rfl

@[simp] theorem acceptCapability_standing
    (sender : PairRole)
    (summary : CapabilitySummary)
    (logicalHash : PlanHash) :
    (state.acceptCapability sender summary logicalHash).2.standing =
      state.standing :=
  rfl

theorem turn_takeVerifiedEvidence :
    Turn role state state.takeVerifiedEvidence.2 :=
  View.Turn.refl _

end FlyNes.Pair.PairSignatureScheduler
