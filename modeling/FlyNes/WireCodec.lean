import FlyNes.DualWire
import FlyNes.WireSha256

namespace FlyNes.Wire

open ByteString
open FlyNes.Dual (WireStatus loadAt checkBundle)

/-!
# The session codec

Every object that travels in an application frame is named by its kind, in the
hexadecimal spelling of the schema, or by its message name.  `check` finds the
validator of a name, runs it over the exact bytes of the object and returns the
hash of the object.
-/

/-- The application channels of a connection. -/
inductive QuicChannel where
  | control
  | input
  | stateCommit
  | bulk
  | rom
  | video
  | audio
deriving DecidableEq

def QuicChannel.code : QuicChannel → UInt8
  | .control => 1
  | .input => 2
  | .stateCommit => 3
  | .bulk => 4
  | .rom => 5
  | .video => 6
  | .audio => 7

/-- The bytes of an ASCII text. -/
def ascii (text : String) : Bytes :=
  text.toList.map fun letter => UInt8.ofNat letter.toNat

def zeros (bytes : Bytes) (offset count : Nat) : Bool :=
  ((bytes.drop offset).take count).all (· == 0)

/-- The bytes at an offset. -/
def slice (bytes : Bytes) (offset count : Nat) : Bytes :=
  (bytes.drop offset).take count

/-- Go on only if a check passes. -/
def require (status : WireStatus) : Except WireStatus Unit :=
  if status = .ok then .ok () else .error status

/-- Fail with a status unless a condition holds. -/
def demand (condition : Bool) (status : WireStatus) : Except WireStatus Unit :=
  if condition then .ok () else .error status

/-- The prime of the field of P-256. -/
def kPrime : Nat :=
  0xffffffff00000001000000000000000000000000ffffffffffffffffffffffff

/-- The constant of the curve equation. -/
def kB : Nat :=
  0x5ac635d8aa3a93e7b3ebbd55769886bc651d06b0cc53b0f63bce3c3e27d2604b

/-- An uncompressed point satisfies the equation of P-256. -/
def validateP256UncompressedPoint (point : Bytes) : Bool :=
  let x := loadAt 32 1 point
  let y := loadAt 32 33 point
  point.getD 0 0 == 0x04 && x < kPrime && y < kPrime &&
    y * y % kPrime ==
      (x * x % kPrime * x % kPrime + kPrime - 3 * x % kPrime + kB) % kPrime

/-- The order of the group of P-256. -/
def kOrder : Nat :=
  0xffffffff00000000ffffffffffffffffbce6faada7179e84f3b9cac2fc632551

def kHalfOrder : Nat :=
  0x7fffffff800000007fffffffffffffffde737d56d38bcf4279dce5617e3192a8

def canonicalP256LowS (signature : Bytes) : Bool :=
  !zeros signature 0 32 && loadAt 32 0 signature < kOrder &&
    !zeros signature 32 32 && loadAt 32 32 signature ≤ kHalfOrder

/-- The identifier of an identity key. -/
def identityKeyId (publicKey : Bytes) : Bytes :=
  (domainHash (ascii "flynes-identity-key-id-v1") publicKey).bytes

def validateIdentityVerifierRef (bytes : Bytes) : Except WireStatus Unit := do
  demand (loadAt 2 0 bytes == 1) .invalidField
  demand (zeros bytes 2 6 && zeros bytes 105 7) .nonzeroReserved
  demand (validateP256UncompressedPoint (slice bytes 40 65)) .invalidField
  demand (slice bytes 8 32 == identityKeyId (slice bytes 40 65)) .invalidField

def validateSessionSigningBinding (bytes : Bytes) : Except WireStatus Unit := do
  demand (!zeros bytes 8 32 && !zeros bytes 40 16) .invalidField
  demand (zeros bytes 57 7 && zeros bytes 241 7) .nonzeroReserved
  validateIdentityVerifierRef (bytes.drop 64)
  demand
    (validateP256UncompressedPoint (slice bytes 176 65) &&
      slice bytes 104 65 != slice bytes 176 65 &&
      canonicalP256LowS (slice bytes 248 64)) .invalidField

def lengthStatus (size expected : Nat) : WireStatus :=
  if size = expected then
    .ok
  else if size < expected then
    .truncated
  else
    .trailing

/-- The hash of an object, under its domain if it has one. -/
def writeHash (domain : String) (bytes : Bytes) : Block 32 :=
  if domain = "" then sha256 bytes else domainHash (ascii domain) bytes

def requireVersionReserved (bytes : Bytes) : Except WireStatus Unit := do
  demand (bytes.length ≥ 8) .truncated
  demand (loadAt 2 0 bytes == 1) .invalidField
  demand (zeros bytes 2 6) .nonzeroReserved

/-- An object of a fixed length, perhaps with one byte that is an enumeration. -/
def checkFixed
    (bytes : Bytes)
    (expected : Nat)
    (domain : String)
    (enumeration : Option (Nat × UInt8)) : Except WireStatus (Block 32) := do
  require (lengthStatus bytes.length expected)
  requireVersionReserved bytes
  match enumeration with
  | none => pure ()
  | some (offset, largest) =>
      demand (offset < bytes.length) .invalidField
      demand (1 ≤ bytes.getD offset 0 && bytes.getD offset 0 ≤ largest)
        .unknownEnum
  return writeHash domain bytes

def checkPendingConfigConfirm (bytes : Bytes) : Except WireStatus (Block 32) := do
  require (lengthStatus bytes.length 44)
  demand (loadAt 2 0 bytes == 1) .invalidField
  demand (zeros bytes 2 2) .nonzeroReserved
  demand (!zeros bytes 4 32) .invalidField
  demand (loadAt 8 36 bytes != 0) .invalidField
  return writeHash "flynes-pending-config-confirm-v1" bytes

def checkFrameCursor (bytes : Bytes) : Except WireStatus (Block 32) := do
  require (lengthStatus bytes.length 16)
  demand (bytes.getD 0 0 ≤ 1) .unknownEnum
  demand (zeros bytes 1 7) .nonzeroReserved
  demand (bytes.getD 0 0 != 0 || zeros bytes 8 8) .invalidField
  return writeHash "" bytes

def checkEvidence (bytes : Bytes) : Except WireStatus (Block 32) := do
  demand (bytes.length != 0) .truncated
  demand (bytes.getD 0 0 ≤ 1) .unknownEnum
  require (lengthStatus bytes.length (if bytes.getD 0 0 = 0 then 8 else 64))
  demand (zeros bytes 1 7) .nonzeroReserved
  if bytes.getD 0 0 = 1 then
    let _ ← checkFrameCursor (slice bytes 16 16)
  return writeHash "" bytes

/-- A canonical input bundle, with its hash. -/
def checkInputBundle (bytes : Bytes) : Except WireStatus (Block 32) := do
  require (checkBundle bytes)
  return sha256
    (0x10 :: ascii "flynes-input-bundle-v1" ++ bigEndian 4 bytes.length ++ bytes)

def checkChannelBind (bytes : Bytes) : Except WireStatus (Block 32) := do
  require (lengthStatus bytes.length 136)
  requireVersionReserved bytes
  let kind := bytes.getD 8 0
  demand (1 ≤ kind && kind ≤ 3) .unknownEnum
  demand (zeros bytes 9 7) .nonzeroReserved
  if kind = 1 then
    demand (zeros bytes 64 32) .invalidField
    demand (zeros bytes 96 8) .invalidField
    let nonce := sha256 (ascii "flynes-initial-bind-v1" ++ slice bytes 16 32)
    demand (slice bytes 120 16 == nonce.bytes.take 16) .invalidField
  return writeHash "" bytes

/-- Walk over the entries of an end package, from an offset. -/
def walkEndPackage
    (bytes : Bytes) : Nat → Nat → Nat → Except WireStatus Nat
  | 0, offset, _ => .ok offset
  | count + 1, offset, previous => do
      demand (offset + 6 ≤ bytes.length) .truncated
      let tag := loadAt 2 offset bytes
      let length := loadAt 4 (offset + 2) bytes
      demand (1 ≤ tag && tag ≤ 23) .unknownCriticalTag
      demand (previous < tag) .invalidField
      demand (offset + 6 + length ≤ bytes.length) .truncated
      walkEndPackage bytes count (offset + 6 + length) tag

def checkEndPackage (bytes : Bytes) : Except WireStatus (Block 32) := do
  demand (bytes.length ≥ 4) .truncated
  demand (loadAt 2 0 bytes == 1) .invalidField
  let offset ← walkEndPackage bytes (loadAt 2 2 bytes) 4 0
  demand (offset ≥ bytes.length) .trailing
  return writeHash "flynes-end-package-v1" bytes

/-- An object with a header and a counted list of entries. -/
def checkCounted
    (bytes : Bytes)
    (header entry countOffset maxCount : Nat)
    (domain : String) : Except WireStatus (Block 32) := do
  demand (bytes.length ≥ header) .truncated
  requireVersionReserved bytes
  let count := loadAt 4 countOffset bytes
  demand (count ≤ maxCount) .invalidField
  require (lengthStatus bytes.length (header + entry * count))
  return writeHash domain bytes

/-- A kind of a fixed length. -/
structure FixedKind where
  name : String
  length : Nat
  domain : String
  enumeration : Option (Nat × UInt8) := none

/-- The kinds of a fixed length. -/
def kFixed : List FixedKind :=
  [⟨"0x0201", 232, "flynes-dual-run-fence-v1", some (81, 2)⟩,
    ⟨"0x0202", 120, "flynes-input-sequence-ledger-v1", none⟩,
    ⟨"0x0203", 144, "flynes-input-sequence-reservation-v1", some (25, 4)⟩,
    ⟨"0x0205", 144, "flynes-reconnect-deadline-record-v1", none⟩,
    ⟨"0x0206", 272, "flynes-preprepare-terminal-evidence-v1", some (264, 4)⟩,
    ⟨"0x0207", 344, "flynes-terminal-recovery-evidence-v1", some (328, 8)⟩,
    ⟨"0x0208", 192, "flynes-opaque-recovery-failure-evidence-v1",
      some (176, 8)⟩,
    ⟨"0x0209", 112, "flynes-identity-verifier-ref-v1", none⟩,
    ⟨"0x020a", 312, "flynes-input-sequence-reserve-grant-v1", none⟩,
    ⟨"0x020b", 192, "flynes-input-sequence-reserve-ack-v1", none⟩,
    ⟨"0x020c", 248, "flynes-input-sequence-reserve-finalized-v1", none⟩,
    ⟨"0x020d", 184, "flynes-input-sequence-reserve-req-v1", some (25, 4)⟩,
    ⟨"0x020e", 240, "flynes-prime-authorization-v1", some (8, 4)⟩,
    ⟨"0x020f", 296, "flynes-epoch-input-close-certificate-v1", some (65, 3)⟩,
    ⟨"0x0210", 240, "flynes-suspend-intent-v1", none⟩,
    ⟨"0x0211", 336, "flynes-input-range-authorization-v1", some (8, 3)⟩,
    ⟨"0x0212", 312, "flynes-session-signing-key-binding-hash-v1", some (56, 2)⟩,
    ⟨"0x0213", 880, "flynes-pair-transcript-object-v1", some (8, 2)⟩,
    ⟨"0x0216", 488, "flynes-link-hello-object-v1", some (10, 2)⟩,
    ⟨"0x0217", 432, "flynes-link-ready-object-v1", some (10, 2)⟩,
    ⟨"0x0301", 312, "flynes-offline-release-certificate-hash-v1", none⟩,
    ⟨"0x0303", 392, "flynes-save-commit-certificate-hash-v1", none⟩,
    ⟨"0x0304", 208, "flynes-save-commit-decision-v1", some (24, 2)⟩,
    ⟨"0x0305", 400, "flynes-save-publication-certificate-hash-v1",
      some (296, 2)⟩,
    ⟨"0x0307", 360, "flynes-end-commit-decision-v1", some (352, 3)⟩,
    ⟨"0x0308", 392, "flynes-end-commit-certificate-hash-v1", none⟩]

/-- A kind of a fixed length, with the further checks that two kinds have. -/
def checkFixedKind
    (kind : FixedKind)
    (bytes : Bytes) : Except WireStatus (Block 32) := do
  let hash ← checkFixed bytes kind.length kind.domain kind.enumeration
  if kind.name = "0x0212" then
    validateSessionSigningBinding bytes
  else if kind.name = "0x0209" then
    demand (bytes.getD 40 0 == 0x04) .invalidField
    demand (slice bytes 8 32 == identityKeyId (slice bytes 40 65)) .invalidField
  return hash

/-- Validate the exact bytes of an object under its name, and hash them. -/
def check (typeName : String) (bytes : Bytes) : Except WireStatus (Block 32) :=
  if typeName = "FrameCursorV1" then
    checkFrameCursor bytes
  else if typeName = "EvidenceCursorV1" then
    checkEvidence bytes
  else if typeName = "CanonicalInputBundleV1" then
    checkInputBundle bytes
  else if typeName = "ChannelBindV1" then
    checkChannelBind bytes
  else if typeName = "ChannelResumeSummaryV1" then
    checkFixed bytes 176 "flynes-channel-resume-summary-v1" (some (88, 2))
  else if typeName = "0x0306" then
    checkEndPackage bytes
  else if typeName = "0x010f" then
    checkCounted bytes 220 36 216 32 "flynes-end-closure-manifest-v1"
  else if typeName = "0x0110" then
    checkCounted bytes 80 40 72 1024 "flynes-published-save-index-v1"
  else if typeName = "0x0112" then
    checkCounted bytes 104 184 96 8 "flynes-open-input-reservation-set-v1"
  else if typeName = "0x000b" then do
    require (lengthStatus bytes.length 245760)
    return writeHash "" bytes
  else if typeName = "0x0218" then
    checkPendingConfigConfirm bytes
  else
    match kFixed.find? (·.name = typeName) with
    | some kind => checkFixedKind kind bytes
    | none => .error .unknownKind

end FlyNes.Wire
