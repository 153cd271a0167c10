import FlyNes.PairSignature

namespace FlyNes.Pair

open ByteString
open FlyNes.Dual (SessionResult)
open FlyNes.Ports

/-!
# The exchange of capability summaries

After key confirmation each device reveals its summary, the initiator first.  The
summary of the peer is accepted by the verification of the signature scheduler
when its tag is right, that of the device itself when it has been sent.  The
message is sealed under counter 5.
-/

structure PairCapabilityStart where
  engineInstanceId : Block 16
  linkId : Block 16
  generation : Nat
  firstOperationId : Nat
  localRole : PairRole
  transcriptHash : PlanHash
  localSummary : CapabilitySummary
  gattI2rKey : ResourceHandle
  gattR2iKey : ResourceHandle
  controlI2rKey : ResourceHandle
  controlR2iKey : ResourceHandle
deriving DecidableEq, Inhabited

inductive CapabilityStage where
  | empty
  | waitPeer
  | hmacLocal
  | sealLocal
  | openPeer
  | hmacPeer
  | waitLocalSent
  | ready
  | failed
deriving DecidableEq

structure PairCapabilityScheduler where
  operations : SchedulerJournal := .create 1
  start : PairCapabilityStart := default
  pending : Option PairEffect := none
  peerEnvelope : Option PairSecureEnvelope := none
  localEnvelope : Option Bytes := none
  peerSummary : Option CapabilitySummary := none
  peerTag : PlanHash := Block.zero 32
  peerLogicalHash : PlanHash := Block.zero 32
  localLogicalHash : PlanHash := Block.zero 32
  localTag : PlanHash := Block.zero 32
  localHmacInput : Bytes := []
  peerHmacInput : Bytes := []
  nextOperationId : Nat := 0
  stage : CapabilityStage := .empty
  begun : Bool := false
  localSent : Bool := false
  peerVerified : Bool := false
  ready : Bool := false
  failed : Bool := false
deriving DecidableEq

namespace PairCapabilityScheduler

def localIsInitiator (state : PairCapabilityScheduler) : Bool :=
  state.start.localRole == .initiator

def token (state : PairCapabilityScheduler) (operationId : Nat) : OpToken :=
  linkToken state.start.engineInstanceId state.start.linkId state.start.generation
    operationId

def gattKey (state : PairCapabilityScheduler) (sender : PairRole) : ResourceHandle :=
  directionKey state.start.gattI2rKey state.start.gattR2iKey sender

def reject
    (state : PairCapabilityScheduler)
    (result : SessionResult) : SessionResult × PairCapabilityScheduler :=
  (if result = .ok then .contractViolation else result,
    { state with pending := none, failed := true, stage := .failed })

/-- Wait for the answer to an effect in a stage. -/
def issue
    (state : PairCapabilityScheduler)
    (effect : PairEffect)
    (payloadKind : PayloadKind)
    (stage : CapabilityStage) : SessionResult × PairCapabilityScheduler :=
  match state.operations.expect effect.token payloadKind with
  | (.ok, operations) =>
      (.ok,
        { state with
          operations := operations
          pending := some effect
          stage := stage })
  | (result, _) => state.reject result

/-- The message of this device with a tag. -/
def localInner
    (state : PairCapabilityScheduler)
    (tag : PlanHash) : Except Dual.WireStatus Bytes :=
  encodePairCapabilityInnerV1 state.start.transcriptHash state.start.localRole
    state.start.localSummary tag

def prepareLocalHmac
    (state : PairCapabilityScheduler) : SessionResult × PairCapabilityScheduler :=
  match state.localInner (Block.zero 32) with
  | .error _ => state.reject .contractViolation
  | .ok inner =>
      match buildPairCapabilityHmacInputV1 (inner.take 560) with
      | .error _ => state.reject .contractViolation
      | .ok input =>
          issue
            { state with
              localHmacInput := input
              nextOperationId := state.nextOperationId + 1 }
            { kind := .hmac
              token := state.token state.nextOperationId
              resource := state.gattKey state.start.localRole
              input := input }
            .cryptoMac .hmacLocal

/-- The effect that seals the message of this device. -/
def sealEffect
    (state : PairCapabilityScheduler)
    (token : OpToken) : Except SessionResult PairEffect := do
  let sender := state.start.localRole
  let effect ← aeadEffect .aeadSeal token
    (directionKey state.start.controlI2rKey state.start.controlR2iKey sender) 23
    sender state.start.transcriptHash 5
  let inner ← orElseFail .contractViolation (state.localInner state.localTag)
  return { effect with input := inner }

/-- The effect that opens the message of the peer. -/
def openEffect
    (state : PairCapabilityScheduler)
    (token : OpToken) : Except SessionResult PairEffect := do
  let sender := state.start.localRole.other
  let effect ← aeadEffect .aeadOpen token
    (directionKey state.start.controlI2rKey state.start.controlR2iKey sender) 23
    sender state.start.transcriptHash 5
  match state.peerEnvelope with
  | none => .error .invalidState
  | some envelope => return { effect with input := envelope.ciphertextAndTag }

def prepareSeal
    (state : PairCapabilityScheduler) : SessionResult × PairCapabilityScheduler :=
  let token := state.token state.nextOperationId
  let state := { state with nextOperationId := state.nextOperationId + 1 }
  match state.sealEffect token with
  | .error result => state.reject result
  | .ok effect => state.issue effect .cryptoAead .sealLocal

def prepareOpen
    (state : PairCapabilityScheduler) : SessionResult × PairCapabilityScheduler :=
  let token := state.token state.nextOperationId
  let state := { state with nextOperationId := state.nextOperationId + 1 }
  match state.openEffect token with
  | .error result => state.reject result
  | .ok effect => state.issue effect .cryptoAead .openPeer

def begin
    (state : PairCapabilityScheduler)
    (verification : PairSignatureScheduler)
    (start : PairCapabilityStart) : Bool × PairCapabilityScheduler :=
  if state.begun || state.failed ||
      !verification.verification.keyConfirmationsVerified ||
      start.generation == 0 || start.firstOperationId == 0 ||
      start.firstOperationId > kMaxUint64 - 5 ||
      !nonzero start.engineInstanceId || !nonzero start.linkId ||
      !nonzero start.transcriptHash || !validCapability start.localSummary ||
      start.gattI2rKey == 0 || start.gattR2iKey == 0 ||
      start.controlI2rKey == 0 || start.controlR2iKey == 0 then
    (false, state)
  else
    let state :=
      { state with
        start := start
        nextOperationId := start.firstOperationId
        begun := true }
    if state.localIsInitiator then
      let (result, state) := state.prepareLocalHmac
      (result == .ok, state)
    else
      (true, { state with stage := .waitPeer })

def preparePeerHmac
    (state : PairCapabilityScheduler) : SessionResult × PairCapabilityScheduler :=
  issue { state with nextOperationId := state.nextOperationId + 1 }
    { kind := .hmac
      token := state.token state.nextOperationId
      resource := state.gattKey state.start.localRole.other
      input := state.peerHmacInput }
    .cryptoMac .hmacPeer

/-- What follows the check of the tag of the peer. -/
def peerRevealed
    (state : PairCapabilityScheduler) : SessionResult × PairCapabilityScheduler :=
  let state := { state with peerVerified := true }
  if !state.localIsInitiator then
    state.prepareLocalHmac
  else
    (.ok,
      { state with
        ready := state.localSent
        stage := if state.localSent then .ready else .waitLocalSent })

/-- The tag of the peer was computed again. -/
def checkPeerTag
    (state : PairCapabilityScheduler)
    (verification : PairSignatureScheduler)
    (bytes : Bytes) :
    SessionResult × PairCapabilityScheduler × PairSignatureScheduler :=
  match state.peerSummary with
  | none =>
      let (result, state) := state.reject .authFailed
      (result, state, verification)
  | some summary =>
      if bytes ≠ state.peerTag.bytes then
        let (result, state) := state.reject .authFailed
        (result, state, verification)
      else
        match verification.acceptCapability state.start.localRole.other summary
            state.peerLogicalHash with
        | (false, verification) =>
            let (result, state) := state.reject .authFailed
            (result, state, verification)
        | (true, verification) =>
            let (result, state) := state.peerRevealed
            (result, state, verification)

/-- What follows the answer to an effect of a stage. -/
def finish
    (state : PairCapabilityScheduler)
    (verification : PairSignatureScheduler)
    (bytes : Bytes) :
    SessionResult × PairCapabilityScheduler × PairSignatureScheduler :=
  let alone (outcome : SessionResult × PairCapabilityScheduler) :=
    (outcome.1, outcome.2, verification)
  match state.stage with
  | .hmacLocal =>
      if bytes.length ≠ 32 then
        alone (state.reject .contractViolation)
      else
        alone (prepareSeal { state with localTag := Block.copy 32 bytes })
  | .sealLocal =>
      if bytes.length ≠ 608 then
        alone (state.reject .contractViolation)
      else
        match encodePairSecureEnvelopeV1 23 5 bytes with
        | .error _ => alone (state.reject .contractViolation)
        | .ok envelope =>
            alone (.ok,
              { state with
                localEnvelope := some envelope
                stage := .waitLocalSent })
  | .openPeer =>
      match decodePairCapabilityInnerV1 bytes state.start.transcriptHash
          state.start.localRole.other,
        buildPairCapabilityHmacInputV1 (bytes.take 560) with
      | .ok (summary, tag), .ok input =>
          alone (preparePeerHmac
            { state with
              peerSummary := some summary
              peerTag := tag
              peerHmacInput := input })
      | .ok (summary, tag), .error _ =>
          alone
            (reject { state with peerSummary := some summary, peerTag := tag }
              .authFailed)
      | .error _, _ => alone (state.reject .authFailed)
  | .hmacPeer => state.checkPeerTag verification bytes
  | _ => alone (state.reject .invalidState)

def complete
    (state : PairCapabilityScheduler)
    (verification : PairSignatureScheduler)
    (event : PortEvent) :
    SessionResult × PairCapabilityScheduler × PairSignatureScheduler :=
  if !state.pending.isSome || state.failed then
    (.invalidState, state, verification)
  else
    match state.operations.accept event (completionOf event) with
    | .error result => (result, state, verification)
    | .ok (completion, operations) =>
        let state := { state with operations := operations }
        if completion.result ≠ .ok then
          let (result, state) := state.reject completion.result
          (result, state, verification)
        else
          let state := { state with pending := none }
          match readBuffer completion with
          | .error refused =>
              let (result, state) := state.reject refused
              (result, state, verification)
          | .ok bytes => state.finish verification bytes

def acceptPeerEnvelope
    (state : PairCapabilityScheduler)
    (body : Bytes)
    (logicalHash : PlanHash) : SessionResult × PairCapabilityScheduler :=
  if !state.begun || state.failed || state.peerEnvelope.isSome ||
      state.stage ≠ .waitPeer || !nonzero logicalHash then
    (.invalidState, state)
  else
    match decodePairSecureEnvelopeV1 23 body with
    | .error _ => state.reject .authFailed
    | .ok envelope =>
        if envelope.messageCounter != 5 then
          state.reject .authFailed
        else
          let (result, state) := prepareOpen
            { state with
              peerEnvelope := some envelope
              peerLogicalHash := logicalHash }
          (if result = .ok then .accepted else .contractViolation, state)

def markLocalSent
    (state : PairCapabilityScheduler)
    (verification : PairSignatureScheduler)
    (logicalHash : PlanHash) :
    SessionResult × PairCapabilityScheduler × PairSignatureScheduler :=
  if !state.localEnvelope.isSome || state.localSent ||
      state.stage ≠ .waitLocalSent || !nonzero logicalHash then
    let (result, state) := state.reject .invalidState
    (result, state, verification)
  else
    match verification.acceptCapability state.start.localRole
        state.start.localSummary logicalHash with
    | (false, verification) =>
        let (result, state) := state.reject .invalidState
        (result, state, verification)
    | (true, verification) =>
        let state := { state with localSent := true, localLogicalHash := logicalHash }
        if state.localIsInitiator then
          (.ok, { state with stage := .waitPeer }, verification)
        else if state.peerVerified then
          (.ok, { state with ready := true, stage := .ready }, verification)
        else
          let (result, state) := reject { state with ready := false } .invalidState
          (result, state, verification)

def cancelPending
    (state : PairCapabilityScheduler) : SessionResult × PairCapabilityScheduler :=
  match state.pending with
  | none => (.invalidState, state)
  | some effect =>
      match state.operations.cancel effect.token with
      | (.ok, operations) =>
          (.ok, (reject { state with operations := operations } .cancelled).2)
      | (result, operations) => (result, { state with operations := operations })

end PairCapabilityScheduler

end FlyNes.Pair
