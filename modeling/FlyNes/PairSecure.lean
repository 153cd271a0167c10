import FlyNes.PlanLock

namespace FlyNes.Pair

open ByteString
open FlyNes.Wire
open FlyNes.Dual (WireStatus loadAt)

/-!
# The messages of the pairing exchange

Commitments and contributions give the transcript of a pair.  Every later message
has an inner object, which is sealed under a nonce and an associated text that
name its sender, its counter and the transcript, and travels in an envelope.
-/

abbrev PublicKey := Block 65

abbrev Signature := Block 64

/-- Any byte differs from zero. -/
def anyNonzero (bytes : Bytes) : Bool :=
  bytes.any (· != 0)

def canonicalLowS (signature : Signature) : Bool :=
  anyNonzero (slice signature.bytes 0 32) &&
    anyNonzero (slice signature.bytes 32 32) &&
    loadAt 32 32 signature.bytes ≤ kHalfOrder

structure PairContribution where
  role : PairRole
  bytes : Block 320
  commitment : PlanHash
  identityPublicKey : PublicKey
  ephemeralPublicKey : PublicKey
  capabilitySummaryHash : PlanHash
deriving DecidableEq, Inhabited

structure PairCommit where
  sender : PairRole
  receiver : PairRole
  pairContextHash : PlanHash
  commitment : PlanHash
  ephemeralPublicKey : PublicKey
deriving DecidableEq, Inhabited

def pairCommitmentV1 (contribution : Bytes) : PlanHash :=
  domainHash (ascii "flynes-pair-commit-v1") contribution

/-- A contribution is the one that was committed to. -/
def bindRevealToCommitV1 (commit : PairCommit) (reveal : PairContribution) : Bool :=
  let calculated := pairCommitmentV1 reveal.bytes.bytes
  commit.sender == reveal.role && reveal.commitment == calculated &&
    commit.commitment == calculated &&
    slice reveal.bytes.bytes 153 65 == reveal.ephemeralPublicKey.bytes &&
    commit.ephemeralPublicKey == reveal.ephemeralPublicKey

/-- The bytes of the transcript of a pair and their hash. -/
def buildPairTranscriptPreimageV1
    (entryMode : UInt8)
    (entryContextHash initiatorCommitment responderCommitment : PlanHash)
    (initiator responder : PairContribution) :
    Except WireStatus (Bytes × PlanHash) := do
  demand
    ((entryMode == 1 || entryMode == 2) &&
      !(entryMode == 1 && nonzero entryContextHash) &&
      !(entryMode == 2 && !nonzero entryContextHash) &&
      initiator.role == .initiator && responder.role == .responder &&
      initiator.commitment == initiatorCommitment &&
      responder.commitment == responderCommitment) .invalidField
  let preimage :=
    [0, 1] ++ List.replicate 6 0 ++ [entryMode] ++ List.replicate 7 0 ++
      entryContextHash.bytes ++ initiatorCommitment.bytes ++
      responderCommitment.bytes ++ initiator.bytes.bytes ++ responder.bytes.bytes
  return (preimage, domainHash (ascii "flynes-pair-transcript-v1") preimage)

/-- The transcript with both signatures and its hash. -/
def buildPairTranscriptObjectV1
    (preimage : Bytes)
    (expectedTranscriptHash : PlanHash)
    (initiatorSignature responderSignature : Signature) :
    Except WireStatus (Bytes × PlanHash) := do
  demand
    (domainHash (ascii "flynes-pair-transcript-v1") preimage ==
        expectedTranscriptHash &&
      canonicalLowS initiatorSignature && canonicalLowS responderSignature)
    .invalidField
  let transcript := preimage ++ initiatorSignature.bytes ++ responderSignature.bytes
  return (transcript,
    domainHash (ascii "flynes-pair-transcript-object-v1") transcript)

def identityKeyIdV1 (publicKey : PublicKey) : Except WireStatus Bytes := do
  demand (validateP256UncompressedPoint publicKey.bytes) .invalidField
  return identityKeyId publicKey.bytes

/-- The layout shared by the signature, the known status and the known branch. -/
def identifiedInner
    (transcript : PlanHash)
    (sender : PairRole)
    (mark : UInt8)
    (senderId receiverId tail : Bytes) : Bytes :=
  [0, 1] ++ List.replicate 6 0 ++ transcript.bytes ++
    [sender.code, sender.other.code, mark] ++ List.replicate 5 0 ++
    senderId ++ receiverId ++ tail

def encodePairSignatureInnerV1
    (transcript : PlanHash)
    (sender : PairRole)
    (senderKey receiverKey : PublicKey)
    (signature : Signature) : Except WireStatus Bytes := do
  demand (nonzero transcript && canonicalLowS signature) .invalidField
  let senderId ← identityKeyIdV1 senderKey
  let receiverId ← identityKeyIdV1 receiverKey
  return identifiedInner transcript sender 0 senderId receiverId signature.bytes

/-- The checks shared by the decoders of the identified layout. -/
def checkIdentifiedInner
    (bytes : Bytes)
    (size : Nat)
    (transcript : PlanHash)
    (sender : PairRole)
    (senderKey receiverKey : PublicKey) : Except WireStatus Unit := do
  demand
    (bytes.getD 40 0 == sender.code && bytes.getD 41 0 == sender.other.code &&
      slice bytes 8 32 == transcript.bytes) .invalidField
  let senderId ← identityKeyIdV1 senderKey
  let receiverId ← identityKeyIdV1 receiverKey
  demand
    (slice bytes 48 32 == senderId && slice bytes 80 32 == receiverId &&
      bytes.length == size) .invalidField

/-- The signature of a peer. -/
def decodePairSignatureInnerV1
    (bytes : Bytes)
    (transcript : PlanHash)
    (sender : PairRole)
    (senderKey receiverKey : PublicKey) : Except WireStatus Signature := do
  demand (176 ≤ bytes.length) .truncated
  demand (bytes.length ≤ 176) .trailing
  demand (bytes.getD 0 0 == 0 && bytes.getD 1 0 == 1) .invalidField
  demand (zeros bytes 2 6 && zeros bytes 42 6) .nonzeroReserved
  checkIdentifiedInner bytes 176 transcript sender senderKey receiverKey
  let signature := Block.copy 64 (slice bytes 112 64)
  demand (canonicalLowS signature) .invalidField
  return signature

def validApproval
    (entryMode : UInt8)
    (sender : PairRole)
    (approvalKind : UInt8) : Bool :=
  if entryMode == 1 then
    approvalKind == 1 || approvalKind == 4 || approvalKind == 5
  else if entryMode == 2 then
    (sender == .initiator && approvalKind == 3) ||
      (sender == .responder && approvalKind == 2)
  else
    false

def encodeKeyConfirmInnerV1
    (entryMode approvalKind : UInt8)
    (transcript : PlanHash)
    (sender : PairRole)
    (senderKey receiverKey : PublicKey)
    (tag : PlanHash) : Except WireStatus Bytes := do
  demand (validApproval entryMode sender approvalKind && nonzero transcript)
    .invalidField
  let senderId ← identityKeyIdV1 senderKey
  let receiverId ← identityKeyIdV1 receiverKey
  return [0, 1] ++ List.replicate 6 0 ++
    [entryMode, approvalKind, sender.code, sender.other.code] ++
    List.replicate 4 0 ++ transcript.bytes ++ senderId ++ receiverId ++ tag.bytes

/-- The tag of the key confirmation of a peer. -/
def decodeKeyConfirmInnerV1
    (bytes : Bytes)
    (entryMode approvalKind : UInt8)
    (transcript : PlanHash)
    (sender : PairRole)
    (senderKey receiverKey : PublicKey) : Except WireStatus PlanHash := do
  demand (144 ≤ bytes.length) .truncated
  demand (bytes.length ≤ 144) .trailing
  demand (bytes.getD 0 0 == 0 && bytes.getD 1 0 == 1) .invalidField
  demand (zeros bytes 2 6 && zeros bytes 12 4) .nonzeroReserved
  demand
    (bytes.getD 8 0 == entryMode && bytes.getD 9 0 == approvalKind &&
      bytes.getD 10 0 == sender.code && bytes.getD 11 0 == sender.other.code &&
      validApproval (bytes.getD 8 0) sender (bytes.getD 9 0) &&
      slice bytes 16 32 == transcript.bytes) .invalidField
  let senderId ← identityKeyIdV1 senderKey
  let receiverId ← identityKeyIdV1 receiverKey
  demand (slice bytes 48 32 == senderId && slice bytes 80 32 == receiverId)
    .invalidField
  return Block.copy 32 (slice bytes 112 32)

/-- What a tag of a message is computed over. -/
def buildFixedHmacInput
    (domain : String)
    (pretag : Bytes)
    (expectedSize : Nat) : Except WireStatus Bytes := do
  demand (pretag.length == expectedSize) .invalidField
  return ascii domain ++ bigEndian 4 pretag.length ++ pretag

def buildKeyConfirmHmacInputV1 (body : Bytes) : Except WireStatus Bytes :=
  buildFixedHmacInput "flynes-key-confirm-v1" body 112

def encodeKnownStatusInnerV1
    (transcript : PlanHash)
    (sender : PairRole)
    (known : Bool)
    (senderKey peerKey : PublicKey)
    (tag : PlanHash) : Except WireStatus Bytes := do
  demand (nonzero transcript) .invalidField
  let senderId ← identityKeyIdV1 senderKey
  let peerId ← identityKeyIdV1 peerKey
  return identifiedInner transcript sender (if known then 1 else 0) senderId peerId
    tag.bytes

/-- Whether the peer knows this device, and its tag. -/
def decodeKnownStatusInnerV1
    (bytes : Bytes)
    (transcript : PlanHash)
    (sender : PairRole)
    (senderKey peerKey : PublicKey) : Except WireStatus (Bool × PlanHash) := do
  demand (144 ≤ bytes.length) .truncated
  demand (bytes.length ≤ 144) .trailing
  demand
    (bytes.getD 0 0 == 0 && bytes.getD 1 0 == 1 && bytes.getD 42 0 ≤ 1)
    .invalidField
  demand (zeros bytes 2 6 && zeros bytes 43 5) .nonzeroReserved
  checkIdentifiedInner bytes 144 transcript sender senderKey peerKey
  return (bytes.getD 42 0 == 1, Block.copy 32 (slice bytes 112 32))

def buildKnownStatusHmacInputV1 (body : Bytes) : Except WireStatus Bytes :=
  buildFixedHmacInput "flynes-known-status-v1" body 112

inductive KnownBranchKind where
  | verified
  | sasFallback
deriving DecidableEq

def KnownBranchKind.code : KnownBranchKind → UInt8
  | .verified => 1
  | .sasFallback => 2

def knownBranchDigestV1 (body : Bytes) : Except WireStatus PlanHash := do
  demand (body.length == 112) .invalidField
  return domainHash (ascii "flynes-known-branch-v1") body

/-- The proof of a branch: a signature, or nothing in the fallback. -/
def validBranchProof (kind : KnownBranchKind) (proof : Signature) : Bool :=
  match kind with
  | .verified => canonicalLowS proof
  | .sasFallback => !anyNonzero proof.bytes

def encodeKnownBranchInnerV1
    (transcript : PlanHash)
    (sender : PairRole)
    (kind : KnownBranchKind)
    (senderKey peerKey : PublicKey)
    (proof : Signature) : Except WireStatus Bytes := do
  demand (nonzero transcript && validBranchProof kind proof) .invalidField
  let senderId ← identityKeyIdV1 senderKey
  let peerId ← identityKeyIdV1 peerKey
  return identifiedInner transcript sender kind.code senderId peerId proof.bytes

/-- The proof of the branch of a peer. -/
def decodeKnownBranchInnerV1
    (bytes : Bytes)
    (transcript : PlanHash)
    (sender : PairRole)
    (expectedKind : KnownBranchKind)
    (senderKey peerKey : PublicKey) : Except WireStatus Signature := do
  demand (176 ≤ bytes.length) .truncated
  demand (bytes.length ≤ 176) .trailing
  demand
    (bytes.getD 0 0 == 0 && bytes.getD 1 0 == 1 &&
      bytes.getD 42 0 == expectedKind.code) .invalidField
  demand (zeros bytes 2 6 && zeros bytes 43 5) .nonzeroReserved
  let proof := Block.copy 64 (slice bytes 112 64)
  checkIdentifiedInner bytes 176 transcript sender senderKey peerKey
  demand (validBranchProof expectedKind proof) .invalidField
  return proof

def validCapability (summary : CapabilitySummary) : Bool :=
  match validatePairCapability summary.bytes with
  | .ok _ => true
  | .error _ => false

def encodePairCapabilityInnerV1
    (transcript : PlanHash)
    (sender : PairRole)
    (summary : CapabilitySummary)
    (tag : PlanHash) : Except WireStatus Bytes := do
  demand (nonzero transcript && validCapability summary) .invalidField
  return [0, 1] ++ List.replicate 6 0 ++ transcript.bytes ++
    [sender.code, sender.other.code] ++ List.replicate 6 0 ++ summary.bytes ++
    tag.bytes

/-- The summary of a peer and its tag. -/
def decodePairCapabilityInnerV1
    (bytes : Bytes)
    (transcript : PlanHash)
    (sender : PairRole) : Except WireStatus (CapabilitySummary × PlanHash) := do
  demand (592 ≤ bytes.length) .truncated
  demand (bytes.length ≤ 592) .trailing
  demand (bytes.getD 0 0 == 0 && bytes.getD 1 0 == 1) .invalidField
  demand (zeros bytes 2 6 && zeros bytes 42 6) .nonzeroReserved
  demand
    (bytes.getD 40 0 == sender.code && bytes.getD 41 0 == sender.other.code &&
      slice bytes 8 32 == transcript.bytes) .invalidField
  let summary := Block.copy 512 (slice bytes 48 512)
  demand (validCapability summary) .invalidField
  return (summary, Block.copy 32 (slice bytes 560 32))

def buildPairCapabilityHmacInputV1 (pretag : Bytes) : Except WireStatus Bytes :=
  buildFixedHmacInput "flynes-pair-capability-reveal-v1" pretag 560

/-- A plan that is valid on some platform. -/
def validPlan (plan : BearerPlanBytes) : Bool :=
  let platform : UInt8 := if plan.bytes.getD 4 0 == 3 then 3 else 1
  match validateBearerPlanV1 plan platform with
  | .ok _ => true
  | .error _ => false

def encodeInitialBearerPlanInnerV1
    (transcript initiatorCapability responderCapability : PlanHash)
    (selectedPlan : BearerPlanBytes)
    (planNonce : Block 16)
    (tag : PlanHash) : Except WireStatus Bytes := do
  demand
    (nonzero transcript && nonzero initiatorCapability &&
      nonzero responderCapability && nonzero planNonce && validPlan selectedPlan)
    .invalidField
  return [0, 1] ++ List.replicate 6 0 ++ transcript.bytes ++
    initiatorCapability.bytes ++ responderCapability.bytes ++
    selectedPlan.bytes ++ planNonce.bytes ++
    [PairRole.initiator.code, PairRole.responder.code] ++ List.replicate 6 0 ++
    tag.bytes

/-- The tag of the plan of a peer. -/
def decodeInitialBearerPlanInnerV1
    (bytes : Bytes)
    (transcript initiatorCapability responderCapability : PlanHash)
    (plan : BearerPlanBytes) : Except WireStatus PlanHash := do
  demand (208 ≤ bytes.length) .truncated
  demand (bytes.length ≤ 208) .trailing
  demand (bytes.getD 0 0 == 0 && bytes.getD 1 0 == 1) .invalidField
  demand (zeros bytes 2 6 && zeros bytes 170 6) .nonzeroReserved
  demand
    (nonzero transcript && nonzero initiatorCapability &&
      nonzero responderCapability && slice bytes 8 32 == transcript.bytes &&
      slice bytes 40 32 == initiatorCapability.bytes &&
      slice bytes 72 32 == responderCapability.bytes &&
      slice bytes 104 48 == plan.bytes && validPlan plan &&
      anyNonzero (slice bytes 152 16) &&
      bytes.getD 168 0 == PairRole.initiator.code &&
      bytes.getD 169 0 == PairRole.responder.code) .invalidField
  return Block.copy 32 (slice bytes 176 32)

def buildInitialBearerPlanHmacInputV1 (pretag : Bytes) : Except WireStatus Bytes :=
  buildFixedHmacInput "flynes-initial-bearer-plan-v1" pretag 176

def encodeInitialBearerPlanAckInnerV1
    (transcript planLogicalHash selectedPlanHash tag : PlanHash) :
    Except WireStatus Bytes := do
  demand
    (nonzero transcript && nonzero planLogicalHash && nonzero selectedPlanHash)
    .invalidField
  return [0, 1] ++ List.replicate 6 0 ++ transcript.bytes ++
    planLogicalHash.bytes ++ selectedPlanHash.bytes ++
    [PairRole.responder.code, PairRole.initiator.code] ++ List.replicate 6 0 ++
    tag.bytes

/-- The tag of the acknowledgement of a peer. -/
def decodeInitialBearerPlanAckInnerV1
    (bytes : Bytes)
    (transcript planLogicalHash selectedPlanHash : PlanHash) :
    Except WireStatus PlanHash := do
  demand (144 ≤ bytes.length) .truncated
  demand (bytes.length ≤ 144) .trailing
  demand (bytes.getD 0 0 == 0 && bytes.getD 1 0 == 1) .invalidField
  demand (zeros bytes 2 6 && zeros bytes 106 6) .nonzeroReserved
  demand
    (nonzero transcript && nonzero planLogicalHash && nonzero selectedPlanHash &&
      slice bytes 8 32 == transcript.bytes &&
      slice bytes 40 32 == planLogicalHash.bytes &&
      slice bytes 72 32 == selectedPlanHash.bytes &&
      bytes.getD 104 0 == PairRole.responder.code &&
      bytes.getD 105 0 == PairRole.initiator.code) .invalidField
  return Block.copy 32 (slice bytes 112 32)

def buildInitialBearerPlanAckHmacInputV1
    (pretag : Bytes) : Except WireStatus Bytes :=
  buildFixedHmacInput "flynes-initial-bearer-plan-ack-v1" pretag 112

def encodeInitialBearerPlanFinalInnerV1
    (transcript planLogicalHash selectedPlanHash ackLogicalHash tag : PlanHash) :
    Except WireStatus Bytes := do
  demand
    (nonzero transcript && nonzero planLogicalHash && nonzero selectedPlanHash &&
      nonzero ackLogicalHash) .invalidField
  return [0, 1] ++ List.replicate 6 0 ++ transcript.bytes ++
    planLogicalHash.bytes ++ selectedPlanHash.bytes ++ ackLogicalHash.bytes ++
    [PairRole.initiator.code, PairRole.responder.code] ++ List.replicate 6 0 ++
    tag.bytes

/-- The tag of the final message of a peer. -/
def decodeInitialBearerPlanFinalInnerV1
    (bytes : Bytes)
    (transcript planLogicalHash selectedPlanHash ackLogicalHash : PlanHash) :
    Except WireStatus PlanHash := do
  demand (176 ≤ bytes.length) .truncated
  demand (bytes.length ≤ 176) .trailing
  demand (bytes.getD 0 0 == 0 && bytes.getD 1 0 == 1) .invalidField
  demand (zeros bytes 2 6 && zeros bytes 138 6) .nonzeroReserved
  demand
    (nonzero transcript && nonzero planLogicalHash && nonzero selectedPlanHash &&
      nonzero ackLogicalHash && slice bytes 8 32 == transcript.bytes &&
      slice bytes 40 32 == planLogicalHash.bytes &&
      slice bytes 72 32 == selectedPlanHash.bytes &&
      slice bytes 104 32 == ackLogicalHash.bytes &&
      bytes.getD 136 0 == PairRole.initiator.code &&
      bytes.getD 137 0 == PairRole.responder.code) .invalidField
  return Block.copy 32 (slice bytes 144 32)

def buildInitialBearerPlanFinalHmacInputV1
    (pretag : Bytes) : Except WireStatus Bytes :=
  buildFixedHmacInput "flynes-initial-bearer-plan-final-v1" pretag 144

/-- The size of the inner object of a logical type. -/
def pairSecureInnerSizeV1 (logicalType : UInt8) : Option Nat :=
  if logicalType = 6 then some 176
  else if logicalType = 7 then some 144
  else if logicalType = 17 then some 176
  else if logicalType = 21 then some 144
  else if logicalType = 23 then some 592
  else if logicalType = 24 then some 208
  else if logicalType = 25 then some 144
  else if logicalType = 26 then some 176
  else none

/-- The first word of the nonces of a sender. -/
def PairRole.nonceWord : PairRole → Nat
  | .initiator => 0x50324301
  | .responder => 0x50324302

def buildPairSecureNonceV1
    (sender : PairRole)
    (messageCounter : Nat) : Except WireStatus Bytes := do
  demand (messageCounter != 0) .invalidField
  return bigEndian 4 sender.nonceWord ++ bigEndian 8 messageCounter

def kServiceUuid : Bytes :=
  [0xe7, 0x38, 0xdc, 0xda, 0xa2, 0x1a, 0x58, 0x2b, 0x9c, 0xed, 0xa9, 0x7f, 0x6f,
    0xeb, 0xee, 0xdd]

def buildPairSecureAadV1
    (logicalType : UInt8)
    (sender : PairRole)
    (transcript : PlanHash)
    (messageCounter : Nat) : Except WireStatus Bytes := do
  demand (messageCounter != 0 && nonzero transcript) .invalidField
  match pairSecureInnerSizeV1 logicalType with
  | none => .error .invalidField
  | some innerSize =>
      return kServiceUuid ++ [0, 2, 0, 0, logicalType, sender.code,
        sender.other.code, 0] ++ transcript.bytes ++
        bigEndian 8 messageCounter ++ bigEndian 4 innerSize

def encodePairSecureEnvelopeV1
    (logicalType : UInt8)
    (messageCounter : Nat)
    (ciphertextAndTag : Bytes) : Except WireStatus Bytes := do
  demand
    (messageCounter != 0 &&
      (pairSecureInnerSizeV1 logicalType).any fun innerSize =>
        ciphertextAndTag.length == innerSize + 16) .invalidField
  return [1, 0, 0, 0] ++ bigEndian 8 messageCounter ++ ciphertextAndTag

structure PairSecureEnvelope where
  messageCounter : Nat
  ciphertextAndTag : Bytes
deriving DecidableEq

def decodePairSecureEnvelopeV1
    (logicalType : UInt8)
    (bytes : Bytes) : Except WireStatus PairSecureEnvelope :=
  match pairSecureInnerSizeV1 logicalType with
  | none => .error .unknownKind
  | some innerSize => do
      demand (innerSize + 28 ≤ bytes.length) .truncated
      demand (bytes.length ≤ innerSize + 28) .trailing
      demand (bytes.getD 0 0 == 1) .invalidField
      demand (zeros bytes 1 3) .nonzeroReserved
      demand (loadAt 8 4 bytes != 0) .invalidField
      return {
        messageCounter := loadAt 8 4 bytes
        ciphertextAndTag := bytes.drop 12 }

end FlyNes.Pair
