import FlyNes.PairSignature

namespace FlyNes.Pair

open ByteString
open FlyNes.Dual (SessionResult)
open FlyNes.Ports

/-!
# Key confirmation

Once the user has approved the pair, each device sends a tag that proves it holds
the keys.  The tag of either side is computed again by the verification that the
signature scheduler owns: the calls that use it take it and return it.  The
message is sealed under counter 4.
-/

structure PairKeyConfirmStart where
  engineInstanceId : Block 16
  linkId : Block 16
  generation : Nat
  firstOperationId : Nat
  localRole : PairRole
  entryMode : UInt8 := 1
  approvalKind : UInt8 := 1
  transcriptHash : PlanHash
  initiatorContribution : PairContribution
  responderContribution : PairContribution
  gattI2rKey : ResourceHandle
  gattR2iKey : ResourceHandle
  controlI2rKey : ResourceHandle
  controlR2iKey : ResourceHandle
deriving DecidableEq, Inhabited

inductive KeyConfirmStage where
  | empty
  | waitPeer
  | hmacLocal
  | verifyLocal
  | sealLocal
  | openPeer
  | verifyPeer
  | waitLocalSent
  | ready
  | failed
deriving DecidableEq

structure PairKeyConfirmScheduler where
  operations : SchedulerJournal := .create 1
  start : PairKeyConfirmStart := default
  pending : Option PairEffect := none
  peerEnvelope : Option PairSecureEnvelope := none
  localEnvelope : Option Bytes := none
  localHmacInput : Bytes := []
  localTag : PlanHash := Block.zero 32
  nextOperationId : Nat := 0
  stage : KeyConfirmStage := .empty
  begun : Bool := false
  localSent : Bool := false
  ready : Bool := false
  failed : Bool := false
deriving DecidableEq

namespace PairKeyConfirmScheduler

def localIsInitiator (state : PairKeyConfirmScheduler) : Bool :=
  state.start.localRole == .initiator

def token (state : PairKeyConfirmScheduler) (operationId : Nat) : OpToken :=
  linkToken state.start.engineInstanceId state.start.linkId state.start.generation
    operationId

/-- The identity key of the device of a role. -/
def identityKey (state : PairKeyConfirmScheduler) : PairRole → PublicKey
  | .initiator => state.start.initiatorContribution.identityPublicKey
  | .responder => state.start.responderContribution.identityPublicKey

def gattKey (state : PairKeyConfirmScheduler) (sender : PairRole) : ResourceHandle :=
  directionKey state.start.gattI2rKey state.start.gattR2iKey sender

def reject
    (state : PairKeyConfirmScheduler)
    (result : SessionResult) : SessionResult × PairKeyConfirmScheduler :=
  (if result = .ok then .contractViolation else result,
    { state with pending := none, failed := true, stage := .failed })

/-- Wait for the answer to an effect in a stage. -/
def issue
    (state : PairKeyConfirmScheduler)
    (effect : PairEffect)
    (payloadKind : PayloadKind)
    (stage : KeyConfirmStage) : SessionResult × PairKeyConfirmScheduler :=
  match state.operations.expect effect.token payloadKind with
  | (.ok, operations) =>
      (.ok,
        { state with
          operations := operations
          pending := some effect
          stage := stage })
  | (result, _) => state.reject result

/-- The message of this device with a tag. -/
def localInner
    (state : PairKeyConfirmScheduler)
    (tag : PlanHash) : Except Dual.WireStatus Bytes :=
  encodeKeyConfirmInnerV1 state.start.entryMode state.start.approvalKind
    state.start.transcriptHash state.start.localRole
    (state.identityKey state.start.localRole)
    (state.identityKey state.start.localRole.other) tag

def prepareLocalHmac
    (state : PairKeyConfirmScheduler) : SessionResult × PairKeyConfirmScheduler :=
  match state.localInner (Block.zero 32) with
  | .error _ => state.reject .contractViolation
  | .ok inner =>
      match buildKeyConfirmHmacInputV1 (inner.take 112) with
      | .error _ => state.reject .contractViolation
      | .ok input =>
          issue
            { state with
              localHmacInput := input
              nextOperationId := state.nextOperationId + 1 }
            { kind := .hmac
              token := state.token state.nextOperationId
              resource := state.gattKey state.start.localRole
              input := input }
            .cryptoMac .hmacLocal

/-- The effect that seals the message of this device. -/
def sealEffect
    (state : PairKeyConfirmScheduler)
    (token : OpToken) : Except SessionResult PairEffect := do
  let sender := state.start.localRole
  let effect ← aeadEffect .aeadSeal token
    (directionKey state.start.controlI2rKey state.start.controlR2iKey sender) 7
    sender state.start.transcriptHash 4
  let inner ← orElseFail .contractViolation (state.localInner state.localTag)
  return { effect with input := inner }

/-- The effect that opens the message of the peer. -/
def openEffect
    (state : PairKeyConfirmScheduler)
    (token : OpToken) : Except SessionResult PairEffect := do
  let sender := state.start.localRole.other
  let effect ← aeadEffect .aeadOpen token
    (directionKey state.start.controlI2rKey state.start.controlR2iKey sender) 7
    sender state.start.transcriptHash 4
  match state.peerEnvelope with
  | none => .error .invalidState
  | some envelope => return { effect with input := envelope.ciphertextAndTag }

def prepareSeal
    (state : PairKeyConfirmScheduler) : SessionResult × PairKeyConfirmScheduler :=
  let token := state.token state.nextOperationId
  let state := { state with nextOperationId := state.nextOperationId + 1 }
  match state.sealEffect token with
  | .error result => state.reject result
  | .ok effect => state.issue effect .cryptoAead .sealLocal

def prepareOpen
    (state : PairKeyConfirmScheduler) : SessionResult × PairKeyConfirmScheduler :=
  let token := state.token state.nextOperationId
  let state := { state with nextOperationId := state.nextOperationId + 1 }
  match state.openEffect token with
  | .error result => state.reject result
  | .ok effect => state.issue effect .cryptoAead .openPeer

def begin
    (state : PairKeyConfirmScheduler)
    (verification : PairSignatureScheduler)
    (start : PairKeyConfirmStart) : Bool × PairKeyConfirmScheduler :=
  if state.begun || state.failed || !verification.isReady ||
      !verification.approved || start.generation == 0 ||
      start.firstOperationId == 0 || start.firstOperationId > kMaxUint64 - 6 ||
      !nonzero start.engineInstanceId || !nonzero start.linkId ||
      !nonzero start.transcriptHash || start.gattI2rKey == 0 ||
      start.gattR2iKey == 0 || start.controlI2rKey == 0 ||
      start.controlR2iKey == 0 then
    (false, state)
  else
    let state :=
      { state with
        start := start
        nextOperationId := start.firstOperationId
        begun := true }
    if state.localIsInitiator then
      let (result, state) := state.prepareLocalHmac
      (result == .ok, state)
    else
      (true, { state with stage := .waitPeer })

def prepareVerify
    (state : PairKeyConfirmScheduler)
    (verification : PairSignatureScheduler)
    (role : PairRole)
    (input : Bytes)
    (tag : PlanHash)
    (stage : KeyConfirmStage) :
    SessionResult × PairKeyConfirmScheduler × PairSignatureScheduler :=
  match verification.queueKeyConfirmation role (state.gattKey role) input tag with
  | (.accepted, verification) =>
      match verification.pollKeyConfirmationEffect with
      | none =>
          let (result, state) := state.reject .contractViolation
          (result, state, verification)
      | some effect =>
          (.ok,
            { state with
              pending := some
                { kind := .hmac
                  token := effect.token
                  resource := effect.key
                  input := effect.exactInput }
              stage := stage },
            verification)
  | (queued, verification) =>
      let (result, state) := state.reject queued
      (result, state, verification)

/-- What follows the check of a tag. -/
def completeVerification
    (state : PairKeyConfirmScheduler)
    (verification : PairSignatureScheduler)
    (event : PortEvent) :
    SessionResult × PairKeyConfirmScheduler × PairSignatureScheduler :=
  let state := { state with pending := none }
  match verification.completeKeyConfirmation event with
  | (.ok, verification) =>
      if state.stage = .verifyLocal then
        let (result, state) := state.prepareSeal
        (result, state, verification)
      else if !state.localIsInitiator then
        let (result, state) := state.prepareLocalHmac
        (result, state, verification)
      else
        let ready :=
          state.localSent && verification.verification.keyConfirmationsVerified
        (.ok,
          { state with
            ready := ready
            stage := if ready then .ready else .waitLocalSent },
          verification)
  | (refused, verification) =>
      let (result, state) := state.reject refused
      (result, state, verification)

/-- What follows the answer to an effect of a stage. -/
def finish
    (state : PairKeyConfirmScheduler)
    (verification : PairSignatureScheduler)
    (completion : ProviderOperationCompletion) :
    SessionResult × PairKeyConfirmScheduler × PairSignatureScheduler :=
  let alone (outcome : SessionResult × PairKeyConfirmScheduler) :=
    (outcome.1, outcome.2, verification)
  match state.stage with
  | .hmacLocal =>
      match readSized completion 32 .contractViolation with
      | .error result => alone (state.reject result)
      | .ok bytes =>
          let tag := Block.copy 32 bytes
          prepareVerify { state with localTag := tag } verification
            state.start.localRole state.localHmacInput tag .verifyLocal
  | .sealLocal =>
      match readSized completion 160 .contractViolation with
      | .error result => alone (state.reject result)
      | .ok bytes =>
          match encodePairSecureEnvelopeV1 7 4 bytes with
          | .error _ => alone (state.reject .contractViolation)
          | .ok envelope =>
              alone (.ok,
                { state with
                  localEnvelope := some envelope
                  stage := .waitLocalSent })
  | .openPeer =>
      match readSized completion 144 .authFailed with
      | .error result => alone (state.reject result)
      | .ok bytes =>
          let peer := state.start.localRole.other
          match decodeKeyConfirmInnerV1 bytes state.start.entryMode
              state.start.approvalKind state.start.transcriptHash peer
              (state.identityKey peer) (state.identityKey peer.other),
            buildKeyConfirmHmacInputV1 (bytes.take 112) with
          | .ok tag, .ok input =>
              state.prepareVerify verification peer input tag .verifyPeer
          | _, _ => alone (state.reject .authFailed)
  | _ => alone (state.reject .invalidState)

def complete
    (state : PairKeyConfirmScheduler)
    (verification : PairSignatureScheduler)
    (event : PortEvent) :
    SessionResult × PairKeyConfirmScheduler × PairSignatureScheduler :=
  if !state.pending.isSome || state.failed then
    (.invalidState, state, verification)
  else if state.stage = .verifyLocal ∨ state.stage = .verifyPeer then
    state.completeVerification verification event
  else
    match state.operations.accept event (completionOf event) with
    | .error result => (result, state, verification)
    | .ok (completion, operations) =>
        let state := { state with operations := operations }
        if completion.result ≠ .ok then
          let (result, state) := state.reject completion.result
          (result, state, verification)
        else
          finish { state with pending := none } verification completion

def acceptPeerEnvelope
    (state : PairKeyConfirmScheduler)
    (body : Bytes)
    (logicalHash : PlanHash) : SessionResult × PairKeyConfirmScheduler :=
  if !state.begun || state.failed || state.peerEnvelope.isSome ||
      !nonzero logicalHash || state.stage ≠ .waitPeer then
    (.invalidState, state)
  else
    match decodePairSecureEnvelopeV1 7 body with
    | .error _ => state.reject .authFailed
    | .ok envelope =>
        if envelope.messageCounter != 4 then
          state.reject .authFailed
        else
          let (result, state) :=
            prepareOpen { state with peerEnvelope := some envelope }
          (if result = .ok then .accepted else .contractViolation, state)

def markLocalSent
    (state : PairKeyConfirmScheduler)
    (verification : PairSignatureScheduler) :
    SessionResult × PairKeyConfirmScheduler :=
  if !state.localEnvelope.isSome || state.localSent ||
      state.stage ≠ .waitLocalSent then
    (.invalidState, state)
  else
    let state := { state with localSent := true }
    if state.localIsInitiator then
      (.ok, { state with stage := .waitPeer })
    else if verification.verification.keyConfirmationsVerified then
      (.ok, { state with ready := true, stage := .ready })
    else
      reject { state with ready := false } .invalidState

def cancelPending
    (state : PairKeyConfirmScheduler) : SessionResult × PairKeyConfirmScheduler :=
  match state.pending with
  | none => (.invalidState, state)
  | some effect =>
      if state.stage = .verifyLocal ∨ state.stage = .verifyPeer then
        state.reject .cancelled
      else
        match state.operations.cancel effect.token with
        | (.ok, operations) =>
            (.ok, (reject { state with operations := operations } .cancelled).2)
        | (result, operations) => (result, { state with operations := operations })

end PairKeyConfirmScheduler

end FlyNes.Pair
