import FlyNes.PairSecure
import FlyNes.ProviderJournal

namespace FlyNes.Pair

open ByteString
open FlyNes.Wire
open FlyNes.Dual (SessionResult)
open FlyNes.Ports

/-!
# Authentication of a pair

The reducer turns receipts of providers into the evidence of a pair: both
signatures over the transcript, the approval of the user, both key
confirmations and both capability summaries, in this order.  The verification
scheduler in front of it asks a provider for each of the four checks and hands a
receipt on only when the provider answered the operation it was asked for.
-/

/-- One value for each role. -/
structure RolePair (Value : Type) where
  initiator : Value
  responder : Value
deriving DecidableEq, Inhabited

namespace RolePair

variable {Value : Type}

def get (values : RolePair Value) : PairRole → Value
  | .initiator => values.initiator
  | .responder => values.responder

def set (values : RolePair Value) (role : PairRole) (value : Value) : RolePair Value :=
  match role with
  | .initiator => { values with initiator := value }
  | .responder => { values with responder := value }

end RolePair

/-- The roles that have a bit set in a mask. -/
abbrev RoleMask := RolePair Bool

namespace RoleMask

def none : RoleMask :=
  ⟨false, false⟩

def both : RoleMask :=
  ⟨true, true⟩

end RoleMask

/-- The kinds of approval that a user gives. -/
def approvalBleSasMatch : Nat := 1

def approvalQrScannerJoin : Nat := 2

def approvalQrInviterAccept : Nat := 3

def approvalKnownFriendInvite : Nat := 4

def approvalKnownFriendAccept : Nat := 5

structure PairAuthStart where
  generation : Nat
  engineInstanceId : Block 16
  linkId : Block 16
  signatureOperationIds : RolePair Nat
  keyConfirmOperationIds : RolePair Nat
  localRole : PairRole
  entryMode : UInt8
  knownPath : Bool := false
  entryContextHash : PlanHash := Block.zero 32
  pairContextHash : PlanHash
  initiatorCommit : PairCommit
  responderCommit : PairCommit
  initiatorContribution : PairContribution
  responderContribution : PairContribution
  initiatorRevealLogicalHash : PlanHash
  responderRevealLogicalHash : PlanHash
deriving DecidableEq, Inhabited

def distinctNonzeroOperations (start : PairAuthStart) : Bool :=
  let operations :=
    [start.signatureOperationIds.initiator, start.signatureOperationIds.responder,
      start.keyConfirmOperationIds.initiator,
      start.keyConfirmOperationIds.responder]
  operations.all (· != 0) && decide operations.Nodup

structure PairAuthenticationReducer where
  begun : Bool := false
  failed : Bool := false
  consumed : Bool := false
  generation : Nat := 0
  engineInstanceId : Block 16 := Block.zero 16
  linkId : Block 16 := Block.zero 16
  signatureOperationIds : RolePair Nat := ⟨0, 0⟩
  keyConfirmOperationIds : RolePair Nat := ⟨0, 0⟩
  localRole : PairRole := .initiator
  entryMode : UInt8 := 0
  knownPath : Bool := false
  approvalKind : Nat := 0
  transcriptHash : PlanHash := Block.zero 32
  initiatorReveal : PlanHash := Block.zero 32
  responderReveal : PlanHash := Block.zero 32
  capabilities : RolePair PlanHash := ⟨Block.zero 32, Block.zero 32⟩
  expectedSummaryHashes : RolePair PlanHash := ⟨Block.zero 32, Block.zero 32⟩
  summaries : RolePair CapabilitySummary := ⟨Block.zero 512, Block.zero 512⟩
  operationIds : List Nat := []
  signatureMask : RoleMask := .none
  keyConfirmMask : RoleMask := .none
  capabilityMask : RoleMask := .none
deriving DecidableEq, Inhabited

namespace PairAuthenticationReducer

def reject
    (state : PairAuthenticationReducer) : Bool × PairAuthenticationReducer :=
  (false, { state with failed := true })

/-- The values of a start are complete and belong to one exchange. -/
def validStart (start : PairAuthStart) : Bool :=
  start.generation != 0 && nonzero start.engineInstanceId &&
    nonzero start.linkId && distinctNonzeroOperations start &&
    (start.entryMode == 1 || start.entryMode == 2) &&
    nonzero start.pairContextHash &&
    start.initiatorCommit.sender == .initiator &&
    start.initiatorCommit.receiver == .responder &&
    start.responderCommit.sender == .responder &&
    start.responderCommit.receiver == .initiator &&
    start.initiatorContribution.role == .initiator &&
    start.responderContribution.role == .responder &&
    start.initiatorCommit.pairContextHash == start.pairContextHash &&
    start.responderCommit.pairContextHash == start.pairContextHash &&
    bindRevealToCommitV1 start.initiatorCommit start.initiatorContribution &&
    bindRevealToCommitV1 start.responderCommit start.responderContribution &&
    nonzero start.initiatorRevealLogicalHash &&
    nonzero start.responderRevealLogicalHash &&
    start.initiatorRevealLogicalHash != start.responderRevealLogicalHash

def begin
    (state : PairAuthenticationReducer)
    (start : PairAuthStart) : Bool × PairAuthenticationReducer :=
  if state.begun || state.failed || !validStart start then
    state.reject
  else
    match buildPairTranscriptPreimageV1 start.entryMode start.entryContextHash
        start.initiatorCommit.commitment start.responderCommit.commitment
        start.initiatorContribution start.responderContribution with
    | .error _ => state.reject
    | .ok (_, transcript) =>
        (true,
          { state with
            begun := true
            generation := start.generation
            engineInstanceId := start.engineInstanceId
            linkId := start.linkId
            signatureOperationIds := start.signatureOperationIds
            keyConfirmOperationIds := start.keyConfirmOperationIds
            localRole := start.localRole
            entryMode := start.entryMode
            knownPath := start.knownPath
            transcriptHash := transcript
            initiatorReveal := start.initiatorRevealLogicalHash
            responderReveal := start.responderRevealLogicalHash
            expectedSummaryHashes :=
              ⟨start.initiatorContribution.capabilitySummaryHash,
                start.responderContribution.capabilitySummaryHash⟩ })

def seenOperation (state : PairAuthenticationReducer) (operationId : Nat) : Bool :=
  state.operationIds.contains operationId

def acceptProviderVerification
    (state : PairAuthenticationReducer)
    (operationId : Nat)
    (payloadKind : PayloadKind)
    (role : PairRole) : Bool × PairAuthenticationReducer :=
  if !state.begun || state.failed || state.consumed ||
      4 ≤ state.operationIds.length || state.seenOperation operationId then
    state.reject
  else
    match payloadKind with
    | .pairSignatureVerified =>
        -- The initiator signs first.
        let expected : PairRole :=
          if state.signatureMask = .none then .initiator else .responder
        if state.signatureMask = .both || role ≠ expected ||
            operationId != state.signatureOperationIds.get role then
          state.reject
        else
          (true,
            { state with
              signatureMask := state.signatureMask.set role true
              operationIds := state.operationIds ++ [operationId] })
    | .pairKeyConfirmVerified =>
        if state.signatureMask ≠ .both || state.approvalKind == 0 ||
            state.keyConfirmMask = .both || state.keyConfirmMask.get role ||
            operationId != state.keyConfirmOperationIds.get role then
          state.reject
        else
          (true,
            { state with
              keyConfirmMask := state.keyConfirmMask.set role true
              operationIds := state.operationIds ++ [operationId] })
    | _ => state.reject

/-- The approval that the entry mode, the path and the role call for. -/
def expectedApproval (state : PairAuthenticationReducer) : Nat :=
  if state.entryMode == 2 then
    if state.localRole = .initiator then approvalQrInviterAccept
    else approvalQrScannerJoin
  else if state.knownPath then
    if state.localRole = .initiator then approvalKnownFriendInvite
    else approvalKnownFriendAccept
  else
    approvalBleSasMatch

def approveLocal
    (state : PairAuthenticationReducer)
    (approvalKind : Nat) : Bool × PairAuthenticationReducer :=
  if !state.begun || state.failed || state.consumed ||
      state.signatureMask ≠ .both || state.approvalKind != 0 then
    state.reject
  else if approvalKind != state.expectedApproval then
    state.reject
  else
    (true, { state with approvalKind := approvalKind })

def acceptCapabilityReveal
    (state : PairAuthenticationReducer)
    (sender : PairRole)
    (summary : CapabilitySummary)
    (logicalHash : PlanHash) : Bool × PairAuthenticationReducer :=
  if !state.begun || state.failed || state.consumed ||
      state.keyConfirmMask ≠ .both || !nonzero logicalHash ||
      state.capabilityMask.get sender ||
      (state.capabilityMask = .none && sender ≠ .initiator) ||
      !validCapability summary then
    state.reject
  else if domainHash (ascii "flynes-pair-capability-summary-v1") summary.bytes !=
      state.expectedSummaryHashes.get sender then
    state.reject
  else
    (true,
      { state with
        summaries := state.summaries.set sender summary
        capabilities := state.capabilities.set sender logicalHash
        capabilityMask := state.capabilityMask.set sender true })

def takeVerifiedEvidence
    (state : PairAuthenticationReducer) :
    Option VerifiedPairEvidence × PairAuthenticationReducer :=
  if !state.begun || state.failed || state.consumed ||
      state.signatureMask ≠ .both || state.keyConfirmMask ≠ .both ||
      state.capabilityMask ≠ .both || state.approvalKind == 0 then
    (none, state)
  else
    let evidence : VerifiedPairEvidence :=
      { localRole := state.localRole
        generation := state.generation
        transcript := state.transcriptHash
        initiatorReveal := state.initiatorReveal
        responderReveal := state.responderReveal
        initiatorCapability := state.capabilities.initiator
        responderCapability := state.capabilities.responder
        initiatorSummary := state.summaries.initiator
        responderSummary := state.summaries.responder
        authenticationSeal := Block.zero 32 }
    (some evidence.sealForAuthenticatedPipeline, { state with consumed := true })

end PairAuthenticationReducer

/-- The token of an operation of a link. -/
def linkToken
    (engineInstanceId linkId : Block 16)
    (generation operationId : Nat) : OpToken :=
  { engineInstanceId := engineInstanceId
    linkId := linkId
    connectionGeneration := generation
    operationId := operationId }

structure PairSignatureVerificationEffect where
  token : OpToken
  role : PairRole
  publicKey : PublicKey
  digest : PlanHash
  signature : Signature
deriving DecidableEq

structure PairMacVerificationEffect where
  token : OpToken
  role : PairRole
  key : ResourceHandle
  exactInput : Bytes
  expectedMac : PlanHash
deriving DecidableEq

structure PairVerificationScheduler where
  operations : SchedulerJournal := .create 1
  reducer : PairAuthenticationReducer := {}
  start : PairAuthStart := default
  pending : Option PairSignatureVerificationEffect := none
  pendingKeyConfirm : Option PairMacVerificationEffect := none
  queuedMask : RoleMask := .none
  verifiedMask : RoleMask := .none
  keyConfirmQueuedMask : RoleMask := .none
  keyConfirmVerifiedMask : RoleMask := .none
  begun : Bool := false
  failed : Bool := false
  approved : Bool := false
deriving DecidableEq

namespace PairVerificationScheduler

def isFailed (state : PairVerificationScheduler) : Bool :=
  state.failed || state.reducer.failed

def transcriptHash (state : PairVerificationScheduler) : PlanHash :=
  state.reducer.transcriptHash

def signaturesVerified (state : PairVerificationScheduler) : Bool :=
  state.verifiedMask == .both

def keyConfirmationsVerified (state : PairVerificationScheduler) : Bool :=
  state.keyConfirmVerifiedMask == .both

def token (state : PairVerificationScheduler) (operationId : Nat) : OpToken :=
  linkToken state.start.engineInstanceId state.start.linkId state.start.generation
    operationId

def begin
    (state : PairVerificationScheduler)
    (start : PairAuthStart) : Bool × PairVerificationScheduler :=
  if state.begun || state.failed then
    (false, { state with failed := true })
  else
    match state.reducer.begin start with
    | (false, reducer) => (false, { state with reducer := reducer, failed := true })
    | (true, reducer) =>
        (true, { state with reducer := reducer, start := start, begun := true })

/-- The signatures are checked in the order of the roles. -/
def turnOf (verified : RoleMask) : PairRole → Bool
  | .initiator => verified == .none
  | .responder => verified == ⟨true, false⟩

def queueSignature
    (state : PairVerificationScheduler)
    (role : PairRole)
    (signature : Signature) : SessionResult × PairVerificationScheduler :=
  if !state.begun || state.isFailed || state.pending.isSome ||
      state.queuedMask.get role || !canonicalLowS signature ||
      !turnOf state.verifiedMask role then
    (.invalidState, state)
  else
    let effect : PairSignatureVerificationEffect :=
      { token := state.token (state.start.signatureOperationIds.get role)
        role := role
        publicKey :=
          match role with
          | .initiator => state.start.initiatorContribution.identityPublicKey
          | .responder => state.start.responderContribution.identityPublicKey
        digest := state.reducer.transcriptHash
        signature := signature }
    match state.operations.expect effect.token .cryptoVerification with
    | (.ok, operations) =>
        (.accepted,
          { state with
            operations := operations
            queuedMask := state.queuedMask.set role true
            pending := some effect })
    | (result, operations) => (result, { state with operations := operations })

def completeSignature
    (state : PairVerificationScheduler)
    (event : PortEvent) : SessionResult × PairVerificationScheduler :=
  match state.pending with
  | none => (.invalidState, state)
  | some effect =>
      match state.operations.accept event (completionOf event) with
      | .error result => (result, state)
      | .ok (completion, operations) =>
          let state := { state with operations := operations }
          if completion.result ≠ .ok then
            (completion.result, { state with failed := true, pending := none })
          else
            match state.reducer.acceptProviderVerification effect.token.operationId
                .pairSignatureVerified effect.role with
            | (false, reducer) =>
                (.authFailed,
                  { state with reducer := reducer, failed := true, pending := none })
            | (true, reducer) =>
                (.ok,
                  { state with
                    reducer := reducer
                    verifiedMask := state.verifiedMask.set effect.role true
                    pending := none })

def approveLocal
    (state : PairVerificationScheduler)
    (approvalKind : Nat) : Bool × PairVerificationScheduler :=
  if !state.begun || state.isFailed || !state.signaturesVerified ||
      state.approved then
    (false, { state with failed := true })
  else
    match state.reducer.approveLocal approvalKind with
    | (false, reducer) => (false, { state with reducer := reducer, failed := true })
    | (true, reducer) => (true, { state with reducer := reducer, approved := true })

def queueKeyConfirmation
    (state : PairVerificationScheduler)
    (role : PairRole)
    (key : ResourceHandle)
    (exactInput : Bytes)
    (expectedMac : PlanHash) : SessionResult × PairVerificationScheduler :=
  if !state.begun || state.isFailed || !state.approved || state.pending.isSome ||
      state.pendingKeyConfirm.isSome || key == 0 || exactInput.isEmpty ||
      exactInput.length > 4096 || state.keyConfirmQueuedMask.get role ||
      !turnOf state.keyConfirmVerifiedMask role then
    (.invalidState, state)
  else
    let effect : PairMacVerificationEffect :=
      { token := state.token (state.start.keyConfirmOperationIds.get role)
        role := role
        key := key
        exactInput := exactInput
        expectedMac := expectedMac }
    match state.operations.expect effect.token .cryptoMac with
    | (.ok, operations) =>
        (.accepted,
          { state with
            operations := operations
            keyConfirmQueuedMask := state.keyConfirmQueuedMask.set role true
            pendingKeyConfirm := some effect })
    | (result, operations) => (result, { state with operations := operations })

/-- The provider computed the tag that the message carries. -/
def macMatches
    (completion : ProviderOperationCompletion)
    (expectedMac : PlanHash) : Bool :=
  completion.result == .ok && completion.payload.value0 == 32 &&
    completion.payload.buffer.any fun buffer =>
      buffer.content.take 32 == expectedMac.bytes

def completeKeyConfirmation
    (state : PairVerificationScheduler)
    (event : PortEvent) : SessionResult × PairVerificationScheduler :=
  match state.pendingKeyConfirm with
  | none => (.invalidState, state)
  | some effect =>
      match state.operations.accept event (completionOf event) with
      | .error result => (result, state)
      | .ok (completion, operations) =>
          let state := { state with operations := operations }
          if !macMatches completion effect.expectedMac then
            (.authFailed, { state with failed := true, pendingKeyConfirm := none })
          else
            match state.reducer.acceptProviderVerification effect.token.operationId
                .pairKeyConfirmVerified effect.role with
            | (false, reducer) =>
                (.authFailed,
                  { state with
                    reducer := reducer
                    failed := true
                    pendingKeyConfirm := none })
            | (true, reducer) =>
                (.ok,
                  { state with
                    reducer := reducer
                    keyConfirmVerifiedMask :=
                      state.keyConfirmVerifiedMask.set effect.role true
                    pendingKeyConfirm := none })

def acceptCapability
    (state : PairVerificationScheduler)
    (sender : PairRole)
    (summary : CapabilitySummary)
    (logicalHash : PlanHash) : Bool × PairVerificationScheduler :=
  if !state.keyConfirmationsVerified || state.isFailed then
    (false, { state with failed := true })
  else
    match state.reducer.acceptCapabilityReveal sender summary logicalHash with
    | (false, reducer) => (false, { state with reducer := reducer, failed := true })
    | (true, reducer) => (true, { state with reducer := reducer })

def takeVerifiedEvidence
    (state : PairVerificationScheduler) :
    Option VerifiedPairEvidence × PairVerificationScheduler :=
  if state.isFailed then
    (none, state)
  else
    let (evidence, reducer) := state.reducer.takeVerifiedEvidence
    (evidence, { state with reducer := reducer })

end PairVerificationScheduler

end FlyNes.Pair
