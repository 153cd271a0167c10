import FlyNes.PairCapability

namespace FlyNes.Pair

open ByteString
open FlyNes.Wire

/-!
# The initial plan lock

After pairing, the initiator proposes the bearer plan, the responder
acknowledges it and the initiator sends a final message.  Each device runs one
`InitialPlanLock`: it offers one command at a time, persists before it sends,
and gives up for good when anything fails.
-/

abbrev PlanHash := Block 32

abbrev CapabilitySummary := Block 512

inductive PairRole where
  | initiator
  | responder
deriving DecidableEq, Inhabited

namespace PairRole

def code : PairRole → UInt8
  | .initiator => 1
  | .responder => 2

/-- The role of a byte, if it has one. -/
def ofCode (code : UInt8) : Option PairRole :=
  if code = 1 then some .initiator
  else if code = 2 then some .responder
  else none

def other : PairRole → PairRole
  | .initiator => .responder
  | .responder => .initiator

end PairRole

def nonzero {size : Nat} (hash : Block size) : Bool :=
  hash.bytes.any (· != 0)

/-- What a device knows about the pair once it is authenticated. -/
structure VerifiedPairEvidence where
  localRole : PairRole
  generation : Nat
  transcript : PlanHash
  initiatorReveal : PlanHash
  responderReveal : PlanHash
  initiatorCapability : PlanHash
  responderCapability : PlanHash
  initiatorSummary : CapabilitySummary
  responderSummary : CapabilitySummary
  authenticationSeal : PlanHash
deriving DecidableEq, Inhabited

def evidenceSeal (evidence : VerifiedPairEvidence) : PlanHash :=
  sha256
    (ascii "flynes-verified-pair-evidence-v2" ++ [evidence.localRole.code] ++
      bigEndian 8 evidence.generation ++ evidence.transcript.bytes ++
      evidence.initiatorReveal.bytes ++ evidence.responderReveal.bytes ++
      evidence.initiatorCapability.bytes ++ evidence.responderCapability.bytes ++
      evidence.initiatorSummary.bytes ++ evidence.responderSummary.bytes)

namespace VerifiedPairEvidence

def sealForAuthenticatedPipeline
    (evidence : VerifiedPairEvidence) : VerifiedPairEvidence :=
  { evidence with authenticationSeal := evidenceSeal evidence }

def authenticated (evidence : VerifiedPairEvidence) : Bool :=
  nonzero evidence.authenticationSeal &&
    evidence.authenticationSeal == evidenceSeal evidence

end VerifiedPairEvidence

/-- The evidence of one verified message of the plan exchange. -/
structure VerifiedPlanEvidence where
  generation : Nat
  sender : PairRole
  receiver : PairRole
  transcript : PlanHash
  initiatorReveal : PlanHash
  responderReveal : PlanHash
  initiatorCapability : PlanHash
  responderCapability : PlanHash
  selectedPlan : BearerPlanBytes
  selectedPlanHash : PlanHash
  planLogicalHash : PlanHash
  ackLogicalHash : PlanHash
  finalLogicalHash : PlanHash
deriving DecidableEq, Inhabited

structure VerifiedCredentialEvidence where
  binding : VerifiedPlanEvidence
  credentialLogicalHash : PlanHash
deriving DecidableEq, Inhabited

inductive InitialPlanCommandKind where
  | persistPlan
  | persistPlanAndLock
  | sendPlan
  | persistAck
  | persistAckAndLock
  | sendAck
  | persistFinal
  | sendFinal
  | persistMutualLock
  | persistPromptConsumed
  | createBearer
  | publishCredentials
  | persistCredentials
  | joinBearer
deriving DecidableEq

structure InitialPlanCommand where
  id : Nat
  generation : Nat
  kind : InitialPlanCommandKind
  evidence : VerifiedPlanEvidence
  credentialLogicalHash : PlanHash
  mayPrompt : Bool
deriving DecidableEq

/-- What the lock waits for. -/
inductive Phase where
  | idle
  | plan
  | ack
  | final
  | credentials
  | pending
  | done
deriving DecidableEq

structure InitialPlanLock where
  phase : Phase := .idle
  failed : Bool := false
  notSupported : Bool := false
  locked : Bool := false
  mutuallyLocked : Bool := false
  promptConsumed : Bool := false
  nextId : Nat := 1
  pair : VerifiedPairEvidence := default
  evidence : VerifiedPlanEvidence := default
  credentialHash : PlanHash := default
  selected : BearerPlanBytes := default
  pending : Option InitialPlanCommand := none
deriving DecidableEq

namespace InitialPlanLock

def invalidate (state : InitialPlanLock) : InitialPlanLock :=
  { state with failed := true, pending := none, phase := .done }

def reject (state : InitialPlanLock) : Bool × InitialPlanLock :=
  (false, state.invalidate)

def begin
    (state : InitialPlanLock)
    (evidence : VerifiedPairEvidence) : Bool × InitialPlanLock :=
  if state.failed || state.phase != .idle || !evidence.authenticated ||
      evidence.generation == 0 || !nonzero evidence.transcript ||
      !nonzero evidence.initiatorReveal || !nonzero evidence.responderReveal ||
      !nonzero evidence.initiatorCapability ||
      !nonzero evidence.responderCapability then
    state.reject
  else
    match selectPairPlan evidence.initiatorSummary.bytes
        evidence.responderSummary.bytes with
    | .error status =>
        reject
          { state with
            selected := Block.zero 48
            notSupported := status == .noCommonPlan }
    | .ok plan =>
        (true, { state with selected := plan, pair := evidence, phase := .plan })

/-- The evidence is bound to this pair, to this plan and to its sender. -/
def validBinding
    (state : InitialPlanLock)
    (evidence : VerifiedPlanEvidence)
    (sender : PairRole) : Bool :=
  !state.failed && evidence.generation == state.pair.generation &&
    evidence.generation != 0 && evidence.sender == sender &&
    evidence.receiver == sender.other &&
    evidence.transcript == state.pair.transcript &&
    evidence.initiatorReveal == state.pair.initiatorReveal &&
    evidence.responderReveal == state.pair.responderReveal &&
    evidence.initiatorCapability == state.pair.initiatorCapability &&
    evidence.responderCapability == state.pair.responderCapability &&
    evidence.selectedPlan == state.selected &&
    evidence.selectedPlanHash == selectedBearerPlanHashV1 state.selected &&
    nonzero evidence.selectedPlanHash && nonzero evidence.planLogicalHash

/-- The lock with its next command pending. -/
def issued
    (state : InitialPlanLock)
    (kind : InitialPlanCommandKind)
    (mayPrompt : Bool) : InitialPlanLock :=
  { state with
    pending := some
      { id := state.nextId
        generation := state.pair.generation
        kind := kind
        evidence := state.evidence
        credentialLogicalHash := state.credentialHash
        mayPrompt := mayPrompt }
    nextId := state.nextId + 1
    phase := .pending }

def issue
    (state : InitialPlanLock)
    (kind : InitialPlanCommandKind)
    (mayPrompt : Bool := false) : Bool × InitialPlanLock :=
  if state.failed || state.pending.isSome || state.nextId == 2 ^ 64 - 1 then
    state.reject
  else
    (true, state.issued kind mayPrompt)

def acceptPlan
    (state : InitialPlanLock)
    (evidence : VerifiedPlanEvidence) : Bool × InitialPlanLock :=
  if state.phase != .plan || !state.validBinding evidence .initiator ||
      nonzero evidence.ackLogicalHash || nonzero evidence.finalLogicalHash then
    state.reject
  else
    issue { state with evidence := evidence }
      (if state.pair.localRole = .initiator then .persistPlan
        else .persistPlanAndLock)

def acceptAck
    (state : InitialPlanLock)
    (evidence : VerifiedPlanEvidence) : Bool × InitialPlanLock :=
  if state.phase != .ack || !state.validBinding evidence .responder ||
      evidence.planLogicalHash != state.evidence.planLogicalHash ||
      !nonzero evidence.ackLogicalHash || nonzero evidence.finalLogicalHash then
    state.reject
  else
    issue { state with evidence := evidence }
      (if state.pair.localRole = .initiator then .persistAckAndLock
        else .persistAck)

def acceptFinal
    (state : InitialPlanLock)
    (evidence : VerifiedPlanEvidence) : Bool × InitialPlanLock :=
  if state.phase != .final || !state.validBinding evidence .initiator ||
      evidence.planLogicalHash != state.evidence.planLogicalHash ||
      evidence.ackLogicalHash != state.evidence.ackLogicalHash ||
      !nonzero evidence.ackLogicalHash || !nonzero evidence.finalLogicalHash then
    state.reject
  else
    issue { state with evidence := evidence } .persistFinal

def acceptCredentials
    (state : InitialPlanLock)
    (evidence : VerifiedCredentialEvidence) : Bool × InitialPlanLock :=
  let creator := PairRole.ofCode (state.selected.bytes.getD 1 0)
  if state.phase != .credentials || !state.mutuallyLocked ||
      !creator.any (state.validBinding evidence.binding) ||
      evidence.binding.planLogicalHash != state.evidence.planLogicalHash ||
      evidence.binding.ackLogicalHash != state.evidence.ackLogicalHash ||
      evidence.binding.finalLogicalHash != state.evidence.finalLogicalHash ||
      !nonzero evidence.credentialLogicalHash then
    state.reject
  else
    issue
      { state with
        credentialHash := evidence.credentialLogicalHash
        evidence := evidence.binding }
      .persistCredentials

def poll (state : InitialPlanLock) : Option InitialPlanCommand :=
  state.pending

/-- The plan leaves the prompt to this device. -/
def designated (state : InitialPlanLock) : Bool :=
  state.selected.bytes.getD 5 0 == state.pair.localRole.code

/-- The plan has this device create the bearer. -/
def creator (state : InitialPlanLock) : Bool :=
  state.selected.bytes.getD 1 0 == state.pair.localRole.code

def issueBearer (state : InitialPlanLock) : Bool × InitialPlanLock :=
  if !state.mutuallyLocked || (state.designated && !state.promptConsumed) then
    state.reject
  else if !state.creator && !nonzero state.credentialHash then
    state.reject
  else
    state.issue (if state.creator then .createBearer else .joinBearer)
      state.designated

def authorizeBearer (state : InitialPlanLock) : Bool × InitialPlanLock :=
  if !state.mutuallyLocked then
    state.reject
  else if state.designated then
    if state.promptConsumed then
      state.reject
    else
      state.issue .persistPromptConsumed
  else
    state.issueBearer

/-- What follows a command that succeeded. -/
def finish
    (state : InitialPlanLock) : InitialPlanCommandKind → Bool × InitialPlanLock
  | .persistPlan => state.issue .sendPlan
  | .persistPlanAndLock => (true, { state with locked := true, phase := .ack })
  | .sendPlan => (true, { state with phase := .ack })
  | .persistAck => state.issue .sendAck
  | .persistAckAndLock => (true, { state with locked := true, phase := .final })
  | .sendAck => (true, { state with phase := .final })
  | .persistFinal =>
      state.issue
        (if state.pair.localRole = .initiator then .sendFinal
          else .persistMutualLock)
  | .sendFinal => state.issue .persistMutualLock
  | .persistMutualLock =>
      if state.creator then
        authorizeBearer { state with mutuallyLocked := true }
      else
        (true, { state with mutuallyLocked := true, phase := .credentials })
  | .persistCredentials =>
      if state.creator then
        state.issue .publishCredentials
      else
        state.authorizeBearer
  | .persistPromptConsumed => issueBearer { state with promptConsumed := true }
  | .createBearer => (true, { state with phase := .credentials })
  | .publishCredentials => (true, { state with phase := .done })
  | .joinBearer => (true, { state with phase := .done })

/-- The pending command that a report of success completes. -/
def completed?
    (state : InitialPlanLock)
    (id generation : Nat)
    (success : Bool) : Option InitialPlanCommand :=
  state.pending.filter fun command =>
    !state.failed && command.id == id && command.generation == generation &&
      state.pair.generation == generation && success

def complete
    (state : InitialPlanLock)
    (id generation : Nat)
    (success : Bool) : Bool × InitialPlanLock :=
  match state.completed? id generation success with
  | none => state.reject
  | some command => finish { state with pending := none } command.kind

end InitialPlanLock

end FlyNes.Pair
