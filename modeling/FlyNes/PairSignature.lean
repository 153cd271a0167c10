import FlyNes.PairReducer
import FlyNes.Staircase

namespace FlyNes.Pair

open ByteString
open FlyNes.Wire
open FlyNes.Dual (SessionResult WireStatus)
open FlyNes.Ports

/-!
# The exchange of signatures

The signature scheduler derives the two control keys, signs the transcript,
checks both signatures and sends its own one sealed under counter 1.  The
initiator seals before it hears from the responder, the responder after it has
checked the signature of the initiator.
-/

/-- What the pairing schedulers ask of the providers. -/
inductive PairEffectKind where
  | deriveKey
  | sign
  | verify
  | aeadSeal
  | aeadOpen
  | persistTranscript
  | hmac
  | random
  | persist
deriving DecidableEq

/-- An effect of one of the pairing schedulers.  Each of them sets the fields its
own effects have. -/
structure PairEffect where
  kind : PairEffectKind
  token : OpToken
  resource : ResourceHandle := 0
  keyPurpose : Nat := 0
  byteCount : Nat := 0
  salt : Bytes := []
  info : Bytes := []
  domain : Bytes := []
  publicKey : Bytes := []
  signature : Bytes := []
  digest : PlanHash := Block.zero 32
  expectedHash : PlanHash := Block.zero 32
  objectKind : Nat := 0
  persistKind : InitialPlanCommandKind := .persistPlan
  nonce : Bytes := []
  aad : Bytes := []
  input : Bytes := []
deriving DecidableEq

/-- A failure of a codec is a failure of the given kind. -/
def orElseFail
    {Value : Type}
    (result : SessionResult) :
    Except WireStatus Value → Except SessionResult Value
  | .ok value => .ok value
  | .error _ => .error result

/-- The key of the messages of a sender. -/
def directionKey (i2rKey r2iKey : ResourceHandle) : PairRole → ResourceHandle
  | .initiator => i2rKey
  | .responder => r2iKey

/-- The effect that seals or opens the message of a sender, without its input. -/
def aeadEffect
    (kind : PairEffectKind)
    (token : OpToken)
    (resource : ResourceHandle)
    (logicalType : UInt8)
    (sender : PairRole)
    (transcript : PlanHash)
    (counter : Nat) : Except SessionResult PairEffect := do
  let nonce ← orElseFail .contractViolation (buildPairSecureNonceV1 sender counter)
  let aad ← orElseFail .contractViolation
    (buildPairSecureAadV1 logicalType sender transcript counter)
  return { kind := kind, token := token, resource := resource, nonce := nonce, aad := aad }

/-- The bytes of a completion, if they have the expected size. -/
def readSized
    (completion : ProviderOperationCompletion)
    (size : Nat)
    (otherSize : SessionResult) : Except SessionResult Bytes := do
  let bytes ← readBuffer completion
  expectThat (bytes.length == size) otherSize
  return bytes

structure PairSignatureStart where
  engineInstanceId : Block 16
  linkId : Block 16
  generation : Nat
  firstOperationId : Nat
  localRole : PairRole
  localIdentityKey : ResourceHandle
  ecdhSecret : ResourceHandle
  contextHash : PlanHash
  initiatorCommit : PairCommit
  responderCommit : PairCommit
  initiatorContribution : PairContribution
  responderContribution : PairContribution
  initiatorRevealLogicalHash : PlanHash
  responderRevealLogicalHash : PlanHash
deriving DecidableEq, Inhabited

/-- The largest number of 64 bits. -/
def kMaxUint64 : Nat := 2 ^ 64 - 1

inductive SignatureStage where
  | empty
  | deriveI2r
  | deriveR2i
  | waitPeer
  | openPeer
  | signLocal
  | verifySignature
  | sealLocal
  | waitLocalSent
  | persistTranscript
  | ready
  | failed
deriving DecidableEq

structure PairSignatureScheduler where
  operations : SchedulerJournal := .create 1
  verification : PairVerificationScheduler := {}
  start : PairSignatureStart := default
  controlI2rKey : ResourceHandle := 0
  controlR2iKey : ResourceHandle := 0
  pending : Option PairEffect := none
  peerEnvelope : Option PairSecureEnvelope := none
  localEnvelope : Option Bytes := none
  peerLogicalHash : PlanHash := Block.zero 32
  transcriptHash : PlanHash := Block.zero 32
  localSignature : Signature := Block.zero 64
  verifyingSignature : Signature := Block.zero 64
  initiatorSignature : Signature := Block.zero 64
  responderSignature : Signature := Block.zero 64
  transcriptObjectHash : PlanHash := Block.zero 32
  transcriptObjectRef : ResourceHandle := 0
  nextOperationId : Nat := 0
  stage : SignatureStage := .empty
  verifyingRole : PairRole := .initiator
  begun : Bool := false
  localSent : Bool := false
  ready : Bool := false
  approved : Bool := false
  failed : Bool := false
deriving DecidableEq

namespace PairSignatureScheduler

def localIsInitiator (state : PairSignatureScheduler) : Bool :=
  state.start.localRole == .initiator

def isReady (state : PairSignatureScheduler) : Bool :=
  state.ready && !state.failed

def token (state : PairSignatureScheduler) (operationId : Nat) : OpToken :=
  linkToken state.start.engineInstanceId state.start.linkId state.start.generation
    operationId

/-- The identity key of the device of a role. -/
def identityKey (state : PairSignatureScheduler) : PairRole → PublicKey
  | .initiator => state.start.initiatorContribution.identityPublicKey
  | .responder => state.start.responderContribution.identityPublicKey

def reject
    (state : PairSignatureScheduler)
    (result : SessionResult) : SessionResult × PairSignatureScheduler :=
  (if result = .ok then .contractViolation else result,
    { state with pending := none, failed := true, stage := .failed })

/-- Wait for the answer to an effect in a stage. -/
def issue
    (state : PairSignatureScheduler)
    (effect : PairEffect)
    (payloadKind : PayloadKind)
    (stage : SignatureStage) : SessionResult × PairSignatureScheduler :=
  match state.operations.expect effect.token payloadKind with
  | (.ok, operations) =>
      (.ok,
        { state with
          operations := operations
          pending := some effect
          stage := stage })
  | (result, _) => state.reject result

def deriveKey
    (state : PairSignatureScheduler)
    (token : OpToken)
    (label : String) : PairEffect :=
  { kind := .deriveKey
    token := token
    resource := state.start.ecdhSecret
    salt := (sha256 (ascii "flynes-pair-v1" ++ state.transcriptHash.bytes)).bytes
    info := ascii label
    byteCount := 32 }

/-- The effect of a stage and the kind of its answer. -/
def effectFor
    (state : PairSignatureScheduler)
    (token : OpToken) :
    SignatureStage → Except SessionResult (PairEffect × PayloadKind)
  | .deriveI2r =>
      .ok (state.deriveKey token "flynes-pair-control-i2r-v1", .cryptoSecret)
  | .deriveR2i =>
      .ok (state.deriveKey token "flynes-pair-control-r2i-v1", .cryptoSecret)
  | .signLocal =>
      .ok
        ({ kind := .sign
           token := token
           resource := state.start.localIdentityKey
           keyPurpose := 1
           domain := ascii "flynes-pair-signature-v1"
           digest := state.transcriptHash }, .keySignature)
  | .sealLocal => do
      let sender := state.start.localRole
      let effect ← aeadEffect .aeadSeal token
        (directionKey state.controlI2rKey state.controlR2iKey sender) 6 sender
        state.transcriptHash 1
      let inner ← orElseFail .contractViolation
        (encodePairSignatureInnerV1 state.transcriptHash sender
          (state.identityKey sender) (state.identityKey sender.other)
          state.localSignature)
      return ({ effect with input := inner }, .cryptoAead)
  | .openPeer => do
      let sender := state.start.localRole.other
      let effect ← aeadEffect .aeadOpen token
        (directionKey state.controlI2rKey state.controlR2iKey sender) 6 sender
        state.transcriptHash 1
      match state.peerEnvelope with
      | none => .error .invalidState
      | some envelope =>
          return ({ effect with input := envelope.ciphertextAndTag }, .cryptoAead)
  | _ => .error .invalidState

def prepare
    (state : PairSignatureScheduler)
    (stage : SignatureStage) : SessionResult × PairSignatureScheduler :=
  let token := state.token state.nextOperationId
  let state := { state with nextOperationId := state.nextOperationId + 1 }
  match state.effectFor token stage with
  | .error result => state.reject result
  | .ok (effect, payloadKind) => state.issue effect payloadKind stage

def begin
    (state : PairSignatureScheduler)
    (start : PairSignatureStart) : Bool × PairSignatureScheduler :=
  if state.begun || state.failed || start.generation == 0 ||
      start.firstOperationId == 0 || start.firstOperationId > kMaxUint64 - 9 ||
      !nonzero start.engineInstanceId || !nonzero start.linkId ||
      start.localIdentityKey == 0 || start.ecdhSecret == 0 then
    (false, state)
  else
    let first := start.firstOperationId
    let auth : PairAuthStart :=
      { generation := start.generation
        engineInstanceId := start.engineInstanceId
        linkId := start.linkId
        signatureOperationIds :=
          if start.localRole = .initiator then ⟨first + 3, first + 6⟩
          else ⟨first + 3, first + 5⟩
        keyConfirmOperationIds := ⟨first + 8, first + 9⟩
        localRole := start.localRole
        entryMode := 1
        pairContextHash := start.contextHash
        initiatorCommit := start.initiatorCommit
        responderCommit := start.responderCommit
        initiatorContribution := start.initiatorContribution
        responderContribution := start.responderContribution
        initiatorRevealLogicalHash := start.initiatorRevealLogicalHash
        responderRevealLogicalHash := start.responderRevealLogicalHash }
    match state.verification.begin auth with
    | (false, verification) =>
        (false, { state with start := start, verification := verification })
    | (true, verification) =>
        let (result, state) := prepare
          { state with
            start := start
            verification := verification
            transcriptHash := verification.transcriptHash
            begun := true
            nextOperationId := first } .deriveI2r
        (result == .ok, state)

def prepareVerify
    (state : PairSignatureScheduler)
    (role : PairRole)
    (signature : Signature) : SessionResult × PairSignatureScheduler :=
  match state.verification.queueSignature role signature with
  | (.accepted, verification) =>
      let state := { state with verification := verification }
      match verification.pending.filter
          (·.token.operationId == state.nextOperationId) with
      | none => state.reject .contractViolation
      | some effect =>
          (.ok,
            { state with
              nextOperationId := state.nextOperationId + 1
              verifyingRole := role
              verifyingSignature := signature
              pending := some
                { kind := .verify
                  token := effect.token
                  publicKey := effect.publicKey.bytes
                  signature := effect.signature.bytes
                  digest := effect.digest
                  domain := ascii "flynes-pair-signature-v1" }
              stage := .verifySignature })
  | (result, verification) =>
      reject { state with verification := verification } result

/-- The transcript with both signatures, as it is kept. -/
def transcriptObject
    (state : PairSignatureScheduler) : Except WireStatus (Bytes × PlanHash) := do
  let (preimage, hash) ← buildPairTranscriptPreimageV1 1 (Block.zero 32)
    state.start.initiatorCommit.commitment state.start.responderCommit.commitment
    state.start.initiatorContribution state.start.responderContribution
  demand (hash == state.transcriptHash) .invalidField
  buildPairTranscriptObjectV1 preimage state.transcriptHash
    state.initiatorSignature state.responderSignature

def prepareTranscriptPersist
    (state : PairSignatureScheduler) : SessionResult × PairSignatureScheduler :=
  match state.transcriptObject with
  | .error _ => state.reject .contractViolation
  | .ok (transcript, objectHash) =>
      issue { state with nextOperationId := state.nextOperationId + 1 }
        { kind := .persistTranscript
          token := state.token state.nextOperationId
          objectKind := 0x0213
          expectedHash := objectHash
          input := transcript }
        .objectImmutable .persistTranscript

/-- Keep the signature that has been verified. -/
def keepSignature (state : PairSignatureScheduler) : PairSignatureScheduler :=
  match state.verifyingRole with
  | .initiator => { state with initiatorSignature := state.verifyingSignature }
  | .responder => { state with responderSignature := state.verifyingSignature }

/-- What follows a verified signature. -/
def afterVerification
    (state : PairSignatureScheduler) : SessionResult × PairSignatureScheduler :=
  match state.verifyingRole, state.start.localRole with
  | .initiator, .initiator => state.prepare .sealLocal
  | .initiator, .responder => state.prepare .signLocal
  | .responder, .responder => state.prepare .sealLocal
  | .responder, .initiator =>
      if state.localSent then
        state.prepareTranscriptPersist
      else
        (.ok, { state with stage := .waitLocalSent })

def completeVerification
    (state : PairSignatureScheduler)
    (event : PortEvent) : SessionResult × PairSignatureScheduler :=
  let state := { state with pending := none }
  match state.verification.completeSignature event with
  | (.ok, verification) =>
      afterVerification (keepSignature { state with verification := verification })
  | (result, verification) =>
      reject { state with verification := verification } result

/-- What follows the answer to an effect of a stage. -/
def finish
    (state : PairSignatureScheduler)
    (expectedHash : PlanHash)
    (completion : ProviderOperationCompletion) :
    SessionResult × PairSignatureScheduler :=
  match state.stage with
  | .deriveI2r =>
      if completion.payload.resource == 0 then
        state.reject .contractViolation
      else
        prepare { state with controlI2rKey := completion.payload.resource } .deriveR2i
  | .deriveR2i =>
      if completion.payload.resource == 0 then
        state.reject .contractViolation
      else
        let state := { state with controlR2iKey := completion.payload.resource }
        if state.localIsInitiator then
          state.prepare .signLocal
        else if state.peerEnvelope.isSome then
          state.prepare .openPeer
        else
          (.ok, { state with stage := .waitPeer })
  | .signLocal =>
      match readSized completion 64 .contractViolation with
      | .error result => state.reject result
      | .ok bytes =>
          let signature := Block.copy 64 bytes
          prepareVerify { state with localSignature := signature }
            state.start.localRole signature
  | .sealLocal =>
      match readSized completion 192 .contractViolation with
      | .error result => state.reject result
      | .ok bytes =>
          match encodePairSecureEnvelopeV1 6 1 bytes with
          | .error _ => state.reject .contractViolation
          | .ok envelope =>
              (.ok,
                { state with
                  localEnvelope := some envelope
                  stage := .waitLocalSent })
  | .openPeer =>
      match readSized completion 176 .authFailed with
      | .error result => state.reject result
      | .ok bytes =>
          let peer := state.start.localRole.other
          match decodePairSignatureInnerV1 bytes state.transcriptHash peer
              (state.identityKey peer) (state.identityKey peer.other) with
          | .error _ => state.reject .authFailed
          | .ok signature => state.prepareVerify peer signature
  | .persistTranscript =>
      if completion.payload.resource == 0 ||
          completion.payload.hash != expectedHash then
        state.reject .contractViolation
      else
        (.ok,
          { state with
            transcriptObjectRef := completion.payload.resource
            transcriptObjectHash := completion.payload.hash
            ready := true
            stage := .ready })
  | _ => state.reject .invalidState

def complete
    (state : PairSignatureScheduler)
    (event : PortEvent) : SessionResult × PairSignatureScheduler :=
  match state.pending with
  | none => (.invalidState, state)
  | some effect =>
      if state.failed then
        (.invalidState, state)
      else if state.stage = .verifySignature then
        state.completeVerification event
      else
        match state.operations.accept event (completionOf event) with
        | .error result => (result, state)
        | .ok (completion, operations) =>
            let state := { state with operations := operations }
            if completion.result ≠ .ok then
              state.reject completion.result
            else
              finish { state with pending := none } effect.expectedHash completion

/-- The stages in which the envelope of the peer is taken. -/
def awaitsPeer (state : PairSignatureScheduler) : Bool :=
  state.stage = .waitPeer ||
    (!state.localIsInitiator &&
      (state.stage = .deriveI2r || state.stage = .deriveR2i))

def acceptPeerEnvelope
    (state : PairSignatureScheduler)
    (body : Bytes)
    (logicalHash : PlanHash) : SessionResult × PairSignatureScheduler :=
  if !state.begun || state.failed || state.peerEnvelope.isSome ||
      !nonzero logicalHash || !state.awaitsPeer then
    (.invalidState, state)
  else
    match decodePairSecureEnvelopeV1 6 body with
    | .error _ => state.reject .authFailed
    | .ok envelope =>
        if envelope.messageCounter != 1 then
          state.reject .authFailed
        else
          let state :=
            { state with
              peerEnvelope := some envelope
              peerLogicalHash := logicalHash }
          if state.pending.isSome then
            (.accepted, state)
          else
            let (result, state) := state.prepare .openPeer
            (if result = .ok then .accepted else .contractViolation, state)

def markLocalSignatureSent
    (state : PairSignatureScheduler) : SessionResult × PairSignatureScheduler :=
  if !state.localEnvelope.isSome || state.localSent ||
      state.stage ≠ .waitLocalSent then
    (.invalidState, state)
  else
    let state := { state with localSent := true }
    if state.localIsInitiator then
      (.ok,
        { state with
          stage := if state.peerEnvelope.isSome then .openPeer else .waitPeer })
    else if !state.verification.signaturesVerified then
      reject { state with stage := .failed } .invalidState
    else
      state.prepareTranscriptPersist

def cancelPending
    (state : PairSignatureScheduler) : SessionResult × PairSignatureScheduler :=
  match state.pending with
  | none => (.invalidState, state)
  | some effect =>
      if state.stage = .verifySignature then
        (.ok, { state with failed := true, pending := none, stage := .failed })
      else
        match state.operations.cancel effect.token with
        | (.ok, operations) =>
            (.ok, (reject { state with operations := operations } .cancelled).2)
        | (result, operations) => (result, { state with operations := operations })

def approveLocal
    (state : PairSignatureScheduler)
    (approvalKind : Nat) : Bool × PairSignatureScheduler :=
  if !state.isReady || state.approved then
    (false, state)
  else
    match state.verification.approveLocal approvalKind with
    | (false, verification) => (false, { state with verification := verification })
    | (true, verification) =>
        (true, { state with verification := verification, approved := true })

def queueKeyConfirmation
    (state : PairSignatureScheduler)
    (role : PairRole)
    (key : ResourceHandle)
    (exactInput : Bytes)
    (expectedMac : PlanHash) : SessionResult × PairSignatureScheduler :=
  if !state.approved || !state.isReady then
    (.invalidState, state)
  else
    let (result, verification) :=
      state.verification.queueKeyConfirmation role key exactInput expectedMac
    (result, { state with verification := verification })

def pollKeyConfirmationEffect
    (state : PairSignatureScheduler) : Option PairMacVerificationEffect :=
  state.verification.pendingKeyConfirm

def completeKeyConfirmation
    (state : PairSignatureScheduler)
    (event : PortEvent) : SessionResult × PairSignatureScheduler :=
  if !state.approved || !state.isReady then
    (.invalidState, state)
  else
    let (result, verification) := state.verification.completeKeyConfirmation event
    (result, { state with verification := verification })

def acceptCapability
    (state : PairSignatureScheduler)
    (sender : PairRole)
    (summary : CapabilitySummary)
    (logicalHash : PlanHash) : Bool × PairSignatureScheduler :=
  let (accepted, verification) :=
    state.verification.acceptCapability sender summary logicalHash
  (accepted, { state with verification := verification })

def takeVerifiedEvidence
    (state : PairSignatureScheduler) :
    Option VerifiedPairEvidence × PairSignatureScheduler :=
  let (evidence, verification) := state.verification.takeVerifiedEvidence
  (evidence, { state with verification := verification })

end PairSignatureScheduler

end FlyNes.Pair
