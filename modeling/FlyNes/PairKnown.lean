import FlyNes.PairSignature

namespace FlyNes.Pair

open ByteString
open FlyNes.Wire
open FlyNes.Dual (SessionResult)
open FlyNes.Ports

/-!
# Known peers

The devices tell each other whether they know the peer and then send the branch
they take: with a signature if both know each other, empty otherwise.  The status
is sealed under counter 2 and the branch under counter 3, by the initiator first.
-/

structure PairKnownStart where
  engineInstanceId : Block 16
  linkId : Block 16
  generation : Nat
  firstOperationId : Nat
  localRole : PairRole
  transcriptHash : PlanHash
  initiatorPublicKey : PublicKey
  responderPublicKey : PublicKey
  localIdentityKey : ResourceHandle
  gattI2rKey : ResourceHandle
  gattR2iKey : ResourceHandle
  controlI2rKey : ResourceHandle
  controlR2iKey : ResourceHandle
  localKnown : Bool
deriving DecidableEq, Inhabited

inductive KnownStage where
  | empty
  | waitPeerStatus
  | hmacLocalStatus
  | sealLocalStatus
  | openPeerStatus
  | hmacPeerStatus
  | waitLocalStatusSent
  | signLocalBranch
  | sealLocalBranch
  | waitPeerBranch
  | openPeerBranch
  | verifyPeerBranch
  | waitLocalBranchSent
  | ready
  | failed
deriving DecidableEq

structure PairKnownScheduler where
  operations : SchedulerJournal := .create 1
  start : PairKnownStart := default
  pending : Option PairEffect := none
  peerEnvelope : Option PairSecureEnvelope := none
  localEnvelope : Option Bytes := none
  localStatusTag : PlanHash := Block.zero 32
  peerStatusTag : PlanHash := Block.zero 32
  localBranchProof : Signature := Block.zero 64
  peerBranchProof : Signature := Block.zero 64
  peerStatusHmacInput : Bytes := []
  peerLogicalHash : PlanHash := Block.zero 32
  localLogicalHash : PlanHash := Block.zero 32
  nextOperationId : Nat := 0
  localMessageType : UInt8 := 0
  stage : KnownStage := .empty
  begun : Bool := false
  localStatusSent : Bool := false
  peerStatusVerified : Bool := false
  peerKnown : Bool := false
  knownPath : Bool := false
  localBranchSent : Bool := false
  peerBranchVerified : Bool := false
  ready : Bool := false
  failed : Bool := false
deriving DecidableEq

/-- The two messages of a device: its status and its branch. -/
inductive KnownMessage where
  | status
  | branch
deriving DecidableEq

namespace KnownMessage

def logicalType : KnownMessage → UInt8
  | .status => 21
  | .branch => 17

def counter : KnownMessage → Nat
  | .status => 2
  | .branch => 3

def innerSize : KnownMessage → Nat
  | .status => 144
  | .branch => 176

/-- The stages in which a message is sealed, waits to be sent and is opened. -/
def sealStage : KnownMessage → KnownStage
  | .status => .sealLocalStatus
  | .branch => .sealLocalBranch

def sentStage : KnownMessage → KnownStage
  | .status => .waitLocalStatusSent
  | .branch => .waitLocalBranchSent

def openStage : KnownMessage → KnownStage
  | .status => .openPeerStatus
  | .branch => .openPeerBranch

end KnownMessage

namespace PairKnownScheduler

def localIsInitiator (state : PairKnownScheduler) : Bool :=
  state.start.localRole == .initiator

def peerRole (state : PairKnownScheduler) : PairRole :=
  state.start.localRole.other

/-- The identity key of the device of a role. -/
def publicKey (state : PairKnownScheduler) : PairRole → PublicKey
  | .initiator => state.start.initiatorPublicKey
  | .responder => state.start.responderPublicKey

def localPublic (state : PairKnownScheduler) : PublicKey :=
  state.publicKey state.start.localRole

def peerPublic (state : PairKnownScheduler) : PublicKey :=
  state.publicKey state.peerRole

def token (state : PairKnownScheduler) (operationId : Nat) : OpToken :=
  linkToken state.start.engineInstanceId state.start.linkId state.start.generation
    operationId

def gattKey (state : PairKnownScheduler) (sender : PairRole) : ResourceHandle :=
  directionKey state.start.gattI2rKey state.start.gattR2iKey sender

def reject
    (state : PairKnownScheduler)
    (result : SessionResult) : SessionResult × PairKnownScheduler :=
  (if result = .ok then .contractViolation else result,
    { state with
      pending := none
      localEnvelope := none
      failed := true
      stage := .failed })

def issue
    (state : PairKnownScheduler)
    (effect : PairEffect)
    (payloadKind : PayloadKind)
    (stage : KnownStage) : SessionResult × PairKnownScheduler :=
  match state.operations.expect effect.token payloadKind with
  | (.ok, operations) =>
      (.ok,
        { state with
          operations := operations
          pending := some effect
          stage := stage })
  | (result, _) => state.reject result

/-- The status message of this device with a tag. -/
def statusInner
    (state : PairKnownScheduler)
    (tag : PlanHash) : Except Dual.WireStatus Bytes :=
  encodeKnownStatusInnerV1 state.start.transcriptHash state.start.localRole
    state.start.localKnown state.localPublic state.peerPublic tag

/-- The branch that both devices take. -/
def branchKind (state : PairKnownScheduler) : KnownBranchKind :=
  if state.knownPath then .verified else .sasFallback

def prepareLocalStatus
    (state : PairKnownScheduler) : SessionResult × PairKnownScheduler :=
  match state.statusInner (Block.zero 32) with
  | .error _ => state.reject .contractViolation
  | .ok inner =>
      let token := state.token state.nextOperationId
      let state := { state with nextOperationId := state.nextOperationId + 1 }
      match buildKnownStatusHmacInputV1 (inner.take 112) with
      | .error _ => state.reject .contractViolation
      | .ok input =>
          state.issue
            { kind := .hmac
              token := token
              resource := state.gattKey state.start.localRole
              input := input }
            .cryptoMac .hmacLocalStatus

/-- The text that is sealed for a message of this device. -/
def sealedInner
    (state : PairKnownScheduler) : KnownMessage → Except Dual.WireStatus Bytes
  | .status => state.statusInner state.localStatusTag
  | .branch =>
      encodeKnownBranchInnerV1 state.start.transcriptHash state.start.localRole
        state.branchKind state.localPublic state.peerPublic state.localBranchProof

/-- The effect that seals a message of this device. -/
def sealEffect
    (state : PairKnownScheduler)
    (token : OpToken)
    (message : KnownMessage) : Except SessionResult PairEffect := do
  let sender := state.start.localRole
  let effect ← aeadEffect .aeadSeal token
    (directionKey state.start.controlI2rKey state.start.controlR2iKey sender)
    message.logicalType sender state.start.transcriptHash message.counter
  let inner ← orElseFail .contractViolation (state.sealedInner message)
  return { effect with input := inner }

/-- The effect that opens a message of the peer. -/
def openEffect
    (state : PairKnownScheduler)
    (token : OpToken)
    (message : KnownMessage) : Except SessionResult PairEffect := do
  let sender := state.peerRole
  let effect ← aeadEffect .aeadOpen token
    (directionKey state.start.controlI2rKey state.start.controlR2iKey sender)
    message.logicalType sender state.start.transcriptHash message.counter
  match state.peerEnvelope with
  | none => .error .invalidState
  | some envelope => return { effect with input := envelope.ciphertextAndTag }

def prepareSeal
    (state : PairKnownScheduler)
    (message : KnownMessage) : SessionResult × PairKnownScheduler :=
  let token := state.token state.nextOperationId
  let state := { state with nextOperationId := state.nextOperationId + 1 }
  match state.sealEffect token message with
  | .error result => state.reject result
  | .ok effect =>
      state.issue effect .cryptoAead message.sealStage

def prepareOpen
    (state : PairKnownScheduler)
    (message : KnownMessage) : SessionResult × PairKnownScheduler :=
  let token := state.token state.nextOperationId
  let state := { state with nextOperationId := state.nextOperationId + 1 }
  match state.openEffect token message with
  | .error result => state.reject result
  | .ok effect =>
      state.issue effect .cryptoAead message.openStage

def begin
    (state : PairKnownScheduler)
    (start : PairKnownStart) : Bool × PairKnownScheduler :=
  if state.begun || state.failed || start.generation == 0 ||
      start.firstOperationId == 0 || start.firstOperationId > kMaxUint64 - 12 ||
      !nonzero start.engineInstanceId || !nonzero start.linkId ||
      !nonzero start.transcriptHash ||
      !validateP256UncompressedPoint start.initiatorPublicKey.bytes ||
      !validateP256UncompressedPoint start.responderPublicKey.bytes ||
      start.localIdentityKey == 0 || start.gattI2rKey == 0 ||
      start.gattR2iKey == 0 || start.controlI2rKey == 0 ||
      start.controlR2iKey == 0 then
    (false, state)
  else
    let state :=
      { state with
        start := start
        nextOperationId := start.firstOperationId
        begun := true }
    if state.localIsInitiator then
      let (result, state) := state.prepareLocalStatus
      (result == .ok, state)
    else
      (true, { state with stage := .waitPeerStatus })

def preparePeerStatusHmac
    (state : PairKnownScheduler) : SessionResult × PairKnownScheduler :=
  issue { state with nextOperationId := state.nextOperationId + 1 }
    { kind := .hmac
      token := state.token state.nextOperationId
      resource := state.gattKey state.peerRole
      input := state.peerStatusHmacInput }
    .cryptoMac .hmacPeerStatus

/-- A signature that has the right form, to compute the digest of a branch. -/
def placeholderProof : Signature :=
  Block.copy 64 (List.replicate 31 0 ++ [1] ++ List.replicate 31 0 ++ [1])

/-- The digest that this device signs for a verified branch. -/
def branchDigest (state : PairKnownScheduler) : Except Dual.WireStatus PlanHash := do
  let inner ← encodeKnownBranchInnerV1 state.start.transcriptHash
    state.start.localRole .verified state.localPublic state.peerPublic
    placeholderProof
  knownBranchDigestV1 (inner.take 112)

def prepareLocalBranch
    (state : PairKnownScheduler) : SessionResult × PairKnownScheduler :=
  let state :=
    { state with
      knownPath := state.start.localKnown && state.peerKnown
      localBranchProof := Block.zero 64 }
  if !state.knownPath then
    state.prepareSeal .branch
  else
    match state.branchDigest with
    | .error _ => state.reject .contractViolation
    | .ok digest =>
        issue { state with nextOperationId := state.nextOperationId + 1 }
          { kind := .sign
            token := state.token state.nextOperationId
            resource := state.start.localIdentityKey
            keyPurpose := 1
            domain := ascii "flynes-known-branch-v1"
            digest := digest }
          .keySignature .signLocalBranch

/-- What follows the check of the branch of the peer. -/
def branchVerified
    (state : PairKnownScheduler) : SessionResult × PairKnownScheduler :=
  let state := { state with peerBranchVerified := true }
  if state.localIsInitiator then
    (.ok,
      { state with
        ready := state.localBranchSent
        stage := if state.localBranchSent then .ready else .waitLocalBranchSent })
  else
    state.prepareLocalBranch

def preparePeerBranchVerify
    (state : PairKnownScheduler) : SessionResult × PairKnownScheduler :=
  match encodeKnownBranchInnerV1 state.start.transcriptHash state.peerRole
      state.branchKind state.peerPublic state.localPublic state.peerBranchProof with
  | .error _ => state.reject .authFailed
  | .ok inner =>
      if !state.knownPath then
        state.branchVerified
      else
        let token := state.token state.nextOperationId
        let publicKey := state.peerPublic.bytes
        let state := { state with nextOperationId := state.nextOperationId + 1 }
        match knownBranchDigestV1 (inner.take 112) with
        | .error _ => state.reject .authFailed
        | .ok digest =>
            state.issue
              { kind := .verify
                token := token
                publicKey := publicKey
                signature := state.peerBranchProof.bytes
                domain := ascii "flynes-known-branch-v1"
                digest := digest }
              .cryptoVerification .verifyPeerBranch

/-- A sealed message of this device is ready to be sent. -/
def sealedReady
    (state : PairKnownScheduler)
    (message : KnownMessage)
    (output : Bytes) : SessionResult × PairKnownScheduler :=
  if output.length ≠ message.innerSize + 16 then
    state.reject .contractViolation
  else
    match encodePairSecureEnvelopeV1 message.logicalType message.counter output with
    | .error _ => state.reject .contractViolation
    | .ok envelope =>
        (.ok,
          { state with
            localEnvelope := some envelope
            localMessageType := message.logicalType
            stage := message.sentStage })

/-- What follows the answer to an effect of a stage. -/
def finish
    (state : PairKnownScheduler)
    (output : Bytes) : SessionResult × PairKnownScheduler :=
  match state.stage with
  | .hmacLocalStatus =>
      if output.length ≠ 32 then
        state.reject .contractViolation
      else
        prepareSeal { state with localStatusTag := Block.copy 32 output } .status
  | .sealLocalStatus => state.sealedReady .status output
  | .sealLocalBranch => state.sealedReady .branch output
  | .openPeerStatus =>
      if output.length ≠ 144 then
        state.reject .authFailed
      else
        match decodeKnownStatusInnerV1 output state.start.transcriptHash
            state.peerRole state.peerPublic state.localPublic,
          buildKnownStatusHmacInputV1 (output.take 112) with
        | .ok (known, tag), .ok input =>
            preparePeerStatusHmac
              { state with
                peerStatusHmacInput := input
                peerStatusTag := tag
                peerKnown := known }
        | _, _ => state.reject .authFailed
  | .hmacPeerStatus =>
      if output ≠ state.peerStatusTag.bytes then
        state.reject .authFailed
      else
        let state :=
          { state with
            peerStatusVerified := true
            knownPath := state.start.localKnown && state.peerKnown
            peerEnvelope := none }
        if state.localIsInitiator then
          state.prepareLocalBranch
        else
          state.prepareLocalStatus
  | .signLocalBranch =>
      if output.length ≠ 64 then
        state.reject .contractViolation
      else
        prepareSeal { state with localBranchProof := Block.copy 64 output } .branch
  | .openPeerBranch =>
      if output.length ≠ 176 then
        state.reject .authFailed
      else
        match decodeKnownBranchInnerV1 output state.start.transcriptHash
            state.peerRole state.branchKind state.peerPublic state.localPublic with
        | .error _ => state.reject .authFailed
        | .ok proof =>
            preparePeerBranchVerify
              { state with peerBranchProof := proof, peerEnvelope := none }
  | .verifyPeerBranch => state.branchVerified
  | _ => state.reject .invalidState

def complete
    (state : PairKnownScheduler)
    (event : PortEvent) : SessionResult × PairKnownScheduler :=
  if !state.pending.isSome || state.failed then
    (.invalidState, state)
  else
    match state.operations.accept event (completionOf event) with
    | .error result => (result, state)
    | .ok (completion, operations) =>
        let state := { state with operations := operations }
        if completion.result ≠ .ok then
          state.reject completion.result
        else
          let state := { state with pending := none }
          if state.stage = .verifyPeerBranch then
            state.finish []
          else
            match readBuffer completion with
            | .error result => state.reject result
            | .ok output => state.finish output

/-- The message of a logical type and the stage in which it is taken. -/
def expectedMessage (logicalType : UInt8) : Option (KnownMessage × KnownStage) :=
  if logicalType = 21 then some (.status, .waitPeerStatus)
  else if logicalType = 17 then some (.branch, .waitPeerBranch)
  else none

def acceptPeerEnvelope
    (state : PairKnownScheduler)
    (logicalType : UInt8)
    (body : Bytes)
    (logicalHash : PlanHash) : SessionResult × PairKnownScheduler :=
  match expectedMessage logicalType with
  | none => (.invalidState, state)
  | some (message, stage) =>
      if !state.begun || state.failed || state.peerEnvelope.isSome ||
          state.stage ≠ stage || !nonzero logicalHash then
        (.invalidState, state)
      else
        match decodePairSecureEnvelopeV1 logicalType body with
        | .error _ => state.reject .authFailed
        | .ok envelope =>
            if envelope.messageCounter != message.counter then
              state.reject .authFailed
            else
              let (result, state) := prepareOpen
                { state with
                  peerEnvelope := some envelope
                  peerLogicalHash := logicalHash } message
              (if result = .ok then .accepted else .contractViolation, state)

def markLocalSent
    (state : PairKnownScheduler)
    (logicalHash : PlanHash) : SessionResult × PairKnownScheduler :=
  if !state.localEnvelope.isSome || !nonzero logicalHash then
    state.reject .invalidState
  else
    let state :=
      { state with localLogicalHash := logicalHash, localEnvelope := none }
    if state.localMessageType = 21 ∧ state.stage = .waitLocalStatusSent then
      (.ok,
        { state with
          localStatusSent := true
          stage := if state.localIsInitiator then .waitPeerStatus
            else .waitPeerBranch })
    else if state.localMessageType = 17 ∧ state.stage = .waitLocalBranchSent then
      let state := { state with localBranchSent := true }
      if state.localIsInitiator then
        (.ok, { state with stage := .waitPeerBranch })
      else if state.peerBranchVerified then
        (.ok, { state with ready := true, stage := .ready })
      else
        reject { state with ready := false } .invalidState
    else
      state.reject .invalidState

def cancelPending
    (state : PairKnownScheduler) : SessionResult × PairKnownScheduler :=
  match state.pending with
  | none => (.invalidState, state)
  | some effect =>
      match state.operations.cancel effect.token with
      | (.ok, operations) =>
          (.ok, (reject { state with operations := operations } .cancelled).2)
      | (result, operations) => (result, { state with operations := operations })

end PairKnownScheduler

end FlyNes.Pair
