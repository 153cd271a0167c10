import FlyNes.PairSignature
import FlyNes.GattFragment

namespace FlyNes.Pair

open ByteString
open FlyNes.Wire
open FlyNes.Dual (SessionResult)
open FlyNes.Ports

/-!
# The exchange of the initial plan

The scheduler around the initial plan lock: it builds, seals, opens and checks
the plan, its acknowledgement and the final message, and carries out the commands
of the lock that keep or send them.  The plan of the initiator and the
acknowledgement of the responder are sealed under counter 6, the final message of
the initiator under counter 7.
-/

structure InitialPlanStart where
  engineInstanceId : Block 16
  linkId : Block 16
  generation : Nat
  firstOperationId : Nat
  localRole : PairRole
  evidence : VerifiedPairEvidence
  selectedPlan : BearerPlanBytes
  gattI2rKey : ResourceHandle
  gattR2iKey : ResourceHandle
  controlI2rKey : ResourceHandle
  controlR2iKey : ResourceHandle
deriving DecidableEq, Inhabited

inductive InitialPlanMessage where
  | none
  | plan
  | ack
  | final
deriving DecidableEq

namespace InitialPlanMessage

def logicalType : InitialPlanMessage → UInt8
  | .plan => 24
  | .ack => 25
  | .final => 26
  | .none => 0

def counter : InitialPlanMessage → Nat
  | .final => 7
  | _ => 6

def sender : InitialPlanMessage → PairRole
  | .ack => .responder
  | _ => .initiator

end InitialPlanMessage

inductive PlanStage where
  | empty
  | randomPlan
  | hmacLocal
  | sealLocal
  | waitPeer
  | openPeer
  | hmacPeer
  | persist
  | waitLocalSend
  | ready
  | failed
deriving DecidableEq

structure InitialPlanScheduler where
  lock : InitialPlanLock := {}
  operations : SchedulerJournal := .create 1
  start : InitialPlanStart := default
  pending : Option PairEffect := none
  localSend : Option Bytes := none
  planExact : Bytes := []
  ackExact : Bytes := []
  finalExact : Bytes := []
  peerExact : Bytes := []
  peerEnvelope : Option PairSecureEnvelope := none
  planEvidence : VerifiedPlanEvidence := default
  planNonce : Block 16 := Block.zero 16
  localTag : PlanHash := Block.zero 32
  peerTag : PlanHash := Block.zero 32
  localHmacInput : Bytes := []
  peerHmacInput : Bytes := []
  nextOperationId : Nat := 0
  pendingLockCommandId : Nat := 0
  currentMessage : InitialPlanMessage := .none
  stage : PlanStage := .empty
  begun : Bool := false
  failed : Bool := false
deriving DecidableEq

namespace InitialPlanScheduler

def token (state : InitialPlanScheduler) (operationId : Nat) : OpToken :=
  linkToken state.start.engineInstanceId state.start.linkId state.start.generation
    operationId

/-- The exact bytes of a message; there are none for no message. -/
def exactFor (state : InitialPlanScheduler) : InitialPlanMessage → Bytes
  | .plan => state.planExact
  | .ack => state.ackExact
  | .final => state.finalExact
  | .none => []

def reject
    (state : InitialPlanScheduler)
    (result : SessionResult) : SessionResult × InitialPlanScheduler :=
  (if result = .ok then .contractViolation else result,
    { state with
      pending := none
      localSend := none
      lock := state.lock.invalidate
      failed := true
      stage := .failed })

def issue
    (state : InitialPlanScheduler)
    (effect : PairEffect)
    (payloadKind : PayloadKind)
    (stage : PlanStage) : SessionResult × InitialPlanScheduler :=
  match state.operations.expect effect.token payloadKind with
  | (.ok, operations) =>
      (.ok,
        { state with
          operations := operations
          pending := some effect
          stage := stage })
  | (result, _) => state.reject result

def prepareRandom
    (state : InitialPlanScheduler) : SessionResult × InitialPlanScheduler :=
  issue
    { state with
      nextOperationId := state.nextOperationId + 1
      currentMessage := .plan }
    { kind := .random, token := state.token state.nextOperationId }
    .cryptoRandom .randomPlan

def begin
    (state : InitialPlanScheduler)
    (start : InitialPlanStart) : Bool × InitialPlanScheduler :=
  if state.begun || state.failed || start.generation == 0 ||
      start.firstOperationId == 0 || start.firstOperationId > kMaxUint64 - 16 ||
      !nonzero start.engineInstanceId || !nonzero start.linkId ||
      start.localRole != start.evidence.localRole ||
      start.evidence.generation != start.generation ||
      start.gattI2rKey == 0 || start.gattR2iKey == 0 ||
      start.controlI2rKey == 0 || start.controlR2iKey == 0 then
    (false, state)
  else
    let (began, lock) := state.lock.begin start.evidence
    let state :=
      { state with
        start := start
        nextOperationId := start.firstOperationId
        lock := lock }
    if !began || lock.selected != start.selectedPlan then
      (false, state)
    else
      let state :=
        { state with
          planEvidence :=
            { state.planEvidence with
              generation := start.generation
              transcript := start.evidence.transcript
              initiatorReveal := start.evidence.initiatorReveal
              responderReveal := start.evidence.responderReveal
              initiatorCapability := start.evidence.initiatorCapability
              responderCapability := start.evidence.responderCapability
              selectedPlan := start.selectedPlan
              selectedPlanHash := selectedBearerPlanHashV1 start.selectedPlan }
          begun := true }
      if start.localRole = .initiator then
        let (result, state) := state.prepareRandom
        (result == .ok, state)
      else
        (true, { state with currentMessage := .plan, stage := .waitPeer })

/-- A message of this device with a tag. -/
def localInner
    (state : InitialPlanScheduler)
    (message : InitialPlanMessage)
    (tag : PlanHash) : Except Dual.WireStatus Bytes :=
  match message with
  | .plan =>
      encodeInitialBearerPlanInnerV1 state.start.evidence.transcript
        state.start.evidence.initiatorCapability
        state.start.evidence.responderCapability state.start.selectedPlan
        state.planNonce tag
  | .ack =>
      encodeInitialBearerPlanAckInnerV1 state.start.evidence.transcript
        state.planEvidence.planLogicalHash state.planEvidence.selectedPlanHash tag
  | .final =>
      encodeInitialBearerPlanFinalInnerV1 state.start.evidence.transcript
        state.planEvidence.planLogicalHash state.planEvidence.selectedPlanHash
        state.planEvidence.ackLogicalHash tag
  | .none => .error .invalidField

/-- What the tag of a message is computed over. -/
def hmacInput (message : InitialPlanMessage) (inner : Bytes) : Except Dual.WireStatus Bytes :=
  match message with
  | .plan => buildInitialBearerPlanHmacInputV1 (inner.take 176)
  | .ack => buildInitialBearerPlanAckHmacInputV1 (inner.take 112)
  | .final => buildInitialBearerPlanFinalHmacInputV1 (inner.take 144)
  | .none => .error .invalidField

def gattKey (state : InitialPlanScheduler) (message : InitialPlanMessage) : ResourceHandle :=
  directionKey state.start.gattI2rKey state.start.gattR2iKey message.sender

def prepareLocalHmac
    (state : InitialPlanScheduler)
    (message : InitialPlanMessage) : SessionResult × InitialPlanScheduler :=
  match state.localInner message (Block.zero 32) >>= hmacInput message with
  | .error _ => reject { state with localHmacInput := [] } .contractViolation
  | .ok input =>
      issue
        { state with
          localHmacInput := input
          nextOperationId := state.nextOperationId + 1
          currentMessage := message }
        { kind := .hmac
          token := state.token state.nextOperationId
          resource := state.gattKey message
          input := input }
        .cryptoMac .hmacLocal

/-- The effect that seals or opens a message, without its input. -/
def aeadFor
    (state : InitialPlanScheduler)
    (kind : PairEffectKind)
    (token : OpToken)
    (message : InitialPlanMessage) : Except SessionResult PairEffect :=
  aeadEffect kind token
    (directionKey state.start.controlI2rKey state.start.controlR2iKey
      message.sender)
    message.logicalType message.sender state.start.evidence.transcript
    message.counter

/-- The text that is sealed: anything that is neither the plan nor the
acknowledgement is the final message. -/
def sealedInner
    (state : InitialPlanScheduler)
    (message : InitialPlanMessage) : Except Dual.WireStatus Bytes :=
  match message with
  | .plan => state.localInner .plan state.localTag
  | .ack => state.localInner .ack state.localTag
  | _ => state.localInner .final state.localTag

def sealEffect
    (state : InitialPlanScheduler)
    (token : OpToken)
    (message : InitialPlanMessage) : Except SessionResult PairEffect := do
  let effect ← state.aeadFor .aeadSeal token message
  let inner ← orElseFail .contractViolation (state.sealedInner message)
  return { effect with input := inner }

def openEffect
    (state : InitialPlanScheduler)
    (token : OpToken)
    (message : InitialPlanMessage) : Except SessionResult PairEffect := do
  let effect ← state.aeadFor .aeadOpen token message
  match state.peerEnvelope with
  | none => .error .invalidState
  | some envelope => return { effect with input := envelope.ciphertextAndTag }

def prepareSeal
    (state : InitialPlanScheduler)
    (message : InitialPlanMessage) : SessionResult × InitialPlanScheduler :=
  let token := state.token state.nextOperationId
  let state := { state with nextOperationId := state.nextOperationId + 1 }
  match state.sealEffect token message with
  | .error result => state.reject result
  | .ok effect =>
      issue { state with currentMessage := message } effect .cryptoAead .sealLocal

def prepareOpen
    (state : InitialPlanScheduler)
    (message : InitialPlanMessage) : SessionResult × InitialPlanScheduler :=
  let token := state.token state.nextOperationId
  let state := { state with nextOperationId := state.nextOperationId + 1 }
  match state.openEffect token message with
  | .error result => state.reject result
  | .ok effect =>
      issue { state with currentMessage := message } effect .cryptoAead .openPeer

def preparePeerHmac
    (state : InitialPlanScheduler) : SessionResult × InitialPlanScheduler :=
  issue { state with nextOperationId := state.nextOperationId + 1 }
    { kind := .hmac
      token := state.token state.nextOperationId
      resource := state.gattKey state.currentMessage
      input := state.peerHmacInput }
    .cryptoMac .hmacPeer

/-- The message that a command of the lock keeps. -/
def keptMessage : InitialPlanCommandKind → InitialPlanMessage
  | .persistPlan => .plan
  | .persistPlanAndLock => .plan
  | .persistAck => .ack
  | .persistAckAndLock => .ack
  | .persistFinal => .final
  | _ => .none

def preparePersist
    (state : InitialPlanScheduler)
    (command : InitialPlanCommand) : SessionResult × InitialPlanScheduler :=
  let token := state.token state.nextOperationId
  let state :=
    { state with
      nextOperationId := state.nextOperationId + 1
      pendingLockCommandId := command.id }
  let effect (input : Bytes) : PairEffect :=
    { kind := .persist
      token := token
      persistKind := command.kind
      input := input }
  if command.kind = .persistMutualLock then
    state.issue
      (effect (ascii "flynes-initial-plan-mutual-v1" ++
        state.planEvidence.planLogicalHash.bytes ++
        state.planEvidence.ackLogicalHash.bytes ++
        state.planEvidence.finalLogicalHash.bytes ++
        state.planEvidence.selectedPlanHash.bytes))
      .secureStoreRevision .persist
  else
    let exact := state.exactFor (keptMessage command.kind)
    if exact.isEmpty then
      state.reject .contractViolation
    else
      state.issue (effect exact) .secureStoreRevision .persist

/-- Keep the exact bytes of the current message. -/
def keepExact (state : InitialPlanScheduler) (exact : Bytes) : InitialPlanScheduler :=
  { state with
    planExact := if state.currentMessage = .plan then exact else state.planExact
    ackExact := if state.currentMessage = .ack then exact else state.ackExact
    finalExact := if state.currentMessage = .final then exact else state.finalExact }

/-- The evidence of the current message and what the lock answers to it. -/
def lockAnswer
    (state : InitialPlanScheduler)
    (logicalHash : PlanHash) : VerifiedPlanEvidence × Bool × InitialPlanLock :=
  let evidence :=
    { state.planEvidence with
      sender := state.currentMessage.sender
      receiver := state.currentMessage.sender.other }
  match state.currentMessage with
  | .plan =>
      let evidence := { evidence with planLogicalHash := logicalHash }
      (evidence, state.lock.acceptPlan evidence)
  | .ack =>
      let evidence := { evidence with ackLogicalHash := logicalHash }
      (evidence, state.lock.acceptAck evidence)
  | _ =>
      let evidence := { evidence with finalLogicalHash := logicalHash }
      (evidence, state.lock.acceptFinal evidence)

/-- Hand the current message to the lock and carry out what the lock asks for. -/
def submitToLock
    (state : InitialPlanScheduler)
    (exact : Bytes) : SessionResult × InitialPlanScheduler :=
  if state.currentMessage = .none then
    state.reject .contractViolation
  else
    let answer := state.lockAnswer (Block.copy 32 (exact.drop (exact.length - 32)))
    let state :=
      { state.keepExact exact with
        planEvidence := answer.1
        lock := answer.2.2 }
    match answer.2.1, answer.2.2.poll with
    | true, some command => state.preparePersist command
    | _, _ => state.reject .contractViolation

def finalizeLocalEnvelope
    (state : InitialPlanScheduler)
    (ciphertextAndTag : Bytes) : SessionResult × InitialPlanScheduler :=
  let logicalType := state.currentMessage.logicalType
  match encodePairSecureEnvelopeV1 logicalType state.currentMessage.counter
      ciphertextAndTag with
  | .error _ => state.reject .contractViolation
  | .ok envelope =>
      match Gatt.encodeGattLogicalMessage logicalType envelope with
      | .error _ => state.reject .contractViolation
      | .ok logical => state.submitToLock logical

def acceptPeerLogical
    (state : InitialPlanScheduler)
    (bytes : Bytes) : SessionResult × InitialPlanScheduler :=
  if !state.begun || state.failed || state.stage ≠ .waitPeer then
    (.invalidState, state)
  else
    let logicalType := state.currentMessage.logicalType
    match Gatt.decodeGattLogicalMessage bytes logicalType with
    | .error _ => state.reject .authFailed
    | .ok logical =>
        match decodePairSecureEnvelopeV1 logicalType logical.body with
        | .error _ => state.reject .authFailed
        | .ok envelope =>
            if envelope.messageCounter != state.currentMessage.counter then
              state.reject .authFailed
            else
              let (result, state) := prepareOpen
                { state with
                  peerExact := bytes
                  peerEnvelope := some envelope } state.currentMessage
              (if result = .ok then .accepted else .contractViolation, state)

def acceptVerifiedPeer
    (state : InitialPlanScheduler) : SessionResult × InitialPlanScheduler :=
  if state.peerExact.length < 32 then
    state.reject .contractViolation
  else
    state.submitToLock state.peerExact

/-- The message that a command of the lock sends. -/
def sentMessage : InitialPlanCommandKind → Option InitialPlanMessage
  | .sendPlan => some .plan
  | .sendAck => some .ack
  | .sendFinal => some .final
  | _ => none

def afterLockTransition
    (state : InitialPlanScheduler) : SessionResult × InitialPlanScheduler :=
  match state.lock.poll with
  | some command =>
      if command.kind = .persistMutualLock then
        state.preparePersist command
      else
        match sentMessage command.kind with
        | some message =>
            let exact := state.exactFor message
            if exact.isEmpty then
              state.reject .contractViolation
            else
              (.ok,
                { state with
                  localSend := some exact
                  currentMessage := message
                  stage := .waitLocalSend })
        | none =>
            if state.lock.mutuallyLocked then
              (.ok, { state with stage := .ready })
            else
              state.reject .contractViolation
  | none =>
      if state.lock.mutuallyLocked then
        (.ok, { state with stage := .ready })
      else if state.start.localRole = .responder ∧ state.currentMessage = .plan then
        state.prepareLocalHmac .ack
      else if state.start.localRole = .initiator ∧ state.currentMessage = .ack then
        state.prepareLocalHmac .final
      else
        state.reject .contractViolation

def markLocalSent
    (state : InitialPlanScheduler) : SessionResult × InitialPlanScheduler :=
  if !state.localSend.isSome || state.stage ≠ .waitLocalSend || state.failed then
    (.invalidState, state)
  else
    match state.lock.poll with
    | none => state.reject .contractViolation
    | some command =>
        match state.lock.complete command.id command.generation true with
        | (false, lock) => reject { state with lock := lock } .contractViolation
        | (true, lock) =>
            let state := { state with lock := lock, localSend := none }
            match state.currentMessage with
            | .plan =>
                (.ok, { state with currentMessage := .ack, stage := .waitPeer })
            | .ack =>
                (.ok, { state with currentMessage := .final, stage := .waitPeer })
            | _ => state.afterLockTransition

/-- The tag of a message of the peer and what it is computed over. -/
def openedPeer
    (state : InitialPlanScheduler)
    (bytes : Bytes) : Except Dual.WireStatus (PlanHash × Bytes) := do
  match state.currentMessage with
  | .plan =>
      let tag ← decodeInitialBearerPlanInnerV1 bytes state.start.evidence.transcript
        state.start.evidence.initiatorCapability
        state.start.evidence.responderCapability state.start.selectedPlan
      let input ← hmacInput .plan bytes
      return (tag, input)
  | .ack =>
      let tag ← decodeInitialBearerPlanAckInnerV1 bytes
        state.start.evidence.transcript state.planEvidence.planLogicalHash
        state.planEvidence.selectedPlanHash
      let input ← hmacInput .ack bytes
      return (tag, input)
  | _ =>
      let tag ← decodeInitialBearerPlanFinalInnerV1 bytes
        state.start.evidence.transcript state.planEvidence.planLogicalHash
        state.planEvidence.selectedPlanHash state.planEvidence.ackLogicalHash
      let input ← hmacInput .final bytes
      return (tag, input)

/-- What follows the answer to an effect of a stage. -/
def finish
    (state : InitialPlanScheduler)
    (bytes : Bytes) : SessionResult × InitialPlanScheduler :=
  match state.stage with
  | .randomPlan =>
      if bytes.length ≠ 16 ∨ !anyNonzero bytes then
        state.reject .contractViolation
      else
        prepareLocalHmac { state with planNonce := Block.copy 16 bytes } .plan
  | .hmacLocal =>
      if bytes.length ≠ 32 then
        state.reject .contractViolation
      else
        prepareSeal { state with localTag := Block.copy 32 bytes }
          state.currentMessage
  | .sealLocal =>
      if (pairSecureInnerSizeV1 state.currentMessage.logicalType).any
          (bytes.length == · + 16) then
        state.finalizeLocalEnvelope bytes
      else
        state.reject .contractViolation
  | .openPeer =>
      match state.openedPeer bytes with
      | .error _ => reject { state with peerHmacInput := [] } .authFailed
      | .ok (tag, input) =>
          preparePeerHmac { state with peerTag := tag, peerHmacInput := input }
  | .hmacPeer =>
      if bytes = state.peerTag.bytes then
        state.acceptVerifiedPeer
      else
        state.reject .authFailed
  | _ => state.reject .invalidState

/-- A command of the lock has been carried out. -/
def finishPersist
    (state : InitialPlanScheduler)
    (persistKind : InitialPlanCommandKind) : SessionResult × InitialPlanScheduler :=
  match state.lock.poll.filter fun command =>
      command.id == state.pendingLockCommandId && command.kind == persistKind with
  | none => state.reject .contractViolation
  | some command =>
      match state.lock.complete command.id command.generation true with
      | (false, lock) => reject { state with lock := lock } .contractViolation
      | (true, lock) =>
          afterLockTransition { state with lock := lock, pendingLockCommandId := 0 }

def complete
    (state : InitialPlanScheduler)
    (event : PortEvent) : SessionResult × InitialPlanScheduler :=
  match state.pending with
  | none => (.invalidState, state)
  | some effect =>
      if state.failed then
        (.invalidState, state)
      else
        match state.operations.accept event (completionOf event) with
        | .error result => (result, state)
        | .ok (completion, operations) =>
            let state := { state with operations := operations }
            if completion.result ≠ .ok then
              state.reject completion.result
            else
              let state := { state with pending := none }
              if state.stage = .persist then
                state.finishPersist effect.persistKind
              else
                match readBuffer completion with
                | .error result => state.reject result
                | .ok bytes => state.finish bytes

def cancelPending
    (state : InitialPlanScheduler) : SessionResult × InitialPlanScheduler :=
  match state.pending with
  | none => (.invalidState, state)
  | some effect =>
      match state.operations.cancel effect.token with
      | (.ok, operations) =>
          (.ok, (reject { state with operations := operations } .cancelled).2)
      | (result, operations) => (result, { state with operations := operations })

def acceptCredentials
    (state : InitialPlanScheduler)
    (evidence : VerifiedCredentialEvidence) : Bool × InitialPlanScheduler :=
  let (accepted, lock) := state.lock.acceptCredentials evidence
  (accepted, { state with lock := lock })

def completeCommand
    (state : InitialPlanScheduler)
    (id : Nat)
    (success : Bool) : Bool × InitialPlanScheduler :=
  let (completed, lock) := state.lock.complete id state.start.generation success
  (completed, { state with lock := lock })

end InitialPlanScheduler

end FlyNes.Pair
