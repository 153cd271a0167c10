import FlyNes.DualScheduler

namespace FlyNes.Ports

open ByteString
open FlyNes.Dual (SessionResult)

/-!
# Provider events and the journal of operations

A scheduler hands an operation to a provider under a token and is called back
with an event.  The journal admits one terminal event for each operation, under
exactly the token and the kind of payload that were expected.
-/

/-- The handle of a resource of a provider. -/
abbrev ResourceHandle := Nat

/-- What identifies an operation.  The schedulers leave the other fields of a
token at fixed values. -/
structure OpToken where
  engineInstanceId : Block 16
  linkId : Block 16
  connectionGeneration : Nat
  operationId : Nat
  others : Bytes := []
deriving DecidableEq

/-- The kinds of payload of a provider event. -/
inductive PayloadKind where
  | pairSignatureVerified
  | pairKeyConfirmVerified
  | discoveryCandidate
  | discoveryConnection
  | discoveryMtu
  | discoveryBytes
  | discoveryEnd
  | bearerCapabilities
  | bearerPath
  | bearerEndpoint
  | bearerEnd
  | bearerCredential
  | keyHandle
  | keyPublic
  | keySignature
  | keyAgreement
  | cryptoRandom
  | cryptoSecret
  | cryptoAead
  | cryptoVerification
  | cryptoMac
  | tlsMaterial
  | secureStoreRevision
  | secureStoreRecord
  | objectImmutable
  | quicConnection
  | quicHandshake
  | quicExporter
  | quicStream
  | quicData
  | quicPayloadBudget
  | quicStats
  | quicEnd
  | contentChoice
  | unknown (code : Nat)
deriving DecidableEq

inductive PayloadForm where
  | resource
  | buffer
  | store
  | hash
  | metrics
  | ending
deriving DecidableEq

/-- The form of a payload and whether its event ends the operation. -/
def contractFor : PayloadKind → Option (PayloadForm × Bool)
  | .pairSignatureVerified => some (.ending, true)
  | .pairKeyConfirmVerified => some (.ending, true)
  | .discoveryCandidate => some (.resource, false)
  | .discoveryMtu => some (.resource, false)
  | .discoveryConnection => some (.resource, true)
  | .bearerPath => some (.resource, true)
  | .keyAgreement => some (.resource, true)
  | .cryptoSecret => some (.resource, true)
  | .secureStoreRevision => some (.resource, true)
  | .quicConnection => some (.resource, true)
  | .quicStream => some (.resource, true)
  | .quicPayloadBudget => some (.resource, true)
  | .discoveryBytes => some (.buffer, false)
  | .quicData => some (.buffer, false)
  | .bearerCapabilities => some (.buffer, true)
  | .bearerEndpoint => some (.buffer, true)
  | .keyPublic => some (.buffer, true)
  | .keySignature => some (.buffer, true)
  | .cryptoRandom => some (.buffer, true)
  | .cryptoMac => some (.buffer, true)
  | .cryptoAead => some (.buffer, true)
  | .quicExporter => some (.buffer, true)
  | .secureStoreRecord => some (.store, true)
  | .keyHandle => some (.hash, true)
  | .tlsMaterial => some (.hash, true)
  | .bearerCredential => some (.hash, true)
  | .objectImmutable => some (.hash, true)
  | .quicHandshake => some (.hash, true)
  | .contentChoice => some (.hash, true)
  | .quicStats => some (.metrics, true)
  | .discoveryEnd => some (.ending, true)
  | .bearerEnd => some (.ending, true)
  | .quicEnd => some (.ending, true)
  | .cryptoVerification => some (.ending, true)
  | .unknown _ => none

/-- A buffer that a provider lends. -/
structure Buffer where
  handle : Nat
  content : Bytes
deriving DecidableEq

structure ResourcePayload where
  resource : ResourceHandle
  generation : Nat
  value0 : Nat
  value1 : Nat
deriving DecidableEq

structure BufferPayload where
  buffer : Option Buffer
  generation : Nat
  logicalSize : Nat
  flags : Nat
deriving DecidableEq

structure StorePayload where
  buffer : Option Buffer
  revision : Nat
  logicalSize : Nat
  flags : Nat
deriving DecidableEq

structure HashPayload where
  resource : ResourceHandle
  hash : Block 32
  buffer : Option Buffer
deriving DecidableEq

/-- An event of a provider.  The payload is bytes; `as…` is what reading them as
one of the records answers. -/
structure PortEvent where
  token : OpToken
  header : SessionResult
  terminal : Bool
  result : SessionResult
  payloadKind : PayloadKind
  asResource : Except SessionResult ResourcePayload
  asBuffer : Except SessionResult BufferPayload
  asStore : Except SessionResult StorePayload
  asHash : Except SessionResult HashPayload
  asMetrics : Except SessionResult (Nat × Nat)
  asEnd : Except SessionResult Unit
deriving DecidableEq

/-- What is read from the payload of an event. -/
structure ParsedProviderEvent where
  resource : ResourceHandle := 0
  generation : Nat := 0
  value0 : Nat := 0
  value1 : Nat := 0
  hash : Block 32 := Block.zero 32
  buffer : Option Buffer := none
deriving DecidableEq

/-- The results that are not failures, other than success itself. -/
def SessionResult.positive : SessionResult → Bool
  | .accepted => true
  | .empty => true
  | .duplicate => true
  | _ => false

/-- Go on only if a condition holds. -/
def expectThat
    (condition : Bool)
    (result : SessionResult) : Except SessionResult Unit :=
  if condition then .ok () else .error result

def parseResource
    (event : PortEvent) : Except SessionResult ParsedProviderEvent := do
  let payload ← event.asResource
  expectThat (payload.resource != 0) .invalidArgument
  expectThat
    (!((event.payloadKind == .discoveryMtu ||
        event.payloadKind == .quicPayloadBudget) && payload.value0 == 0))
    .invalidArgument
  expectThat
    (!(event.payloadKind == .discoveryConnection &&
      (payload.value0 != 1 && payload.value0 != 2 || payload.value1 < 23 ||
        payload.value1 > 517 || payload.generation == 0))) .invalidArgument
  return {
    resource := payload.resource
    generation := payload.generation
    value0 := payload.value0
    value1 := payload.value1 }

def parseBuffer
    (event : PortEvent) : Except SessionResult ParsedProviderEvent := do
  let payload ← event.asBuffer
  expectThat (payload.flags == 0) .invalidArgument
  expectThat (payload.buffer.any fun buffer =>
    payload.logicalSize == buffer.content.length) .invalidArgument
  return {
    generation := payload.generation
    value0 := payload.logicalSize
    buffer := payload.buffer }

def parseHash
    (event : PortEvent) : Except SessionResult ParsedProviderEvent := do
  let payload ← event.asHash
  expectThat (payload.resource != 0) .invalidArgument
  expectThat payload.buffer.isSome .invalidArgument
  expectThat
    (event.payloadKind == .quicHandshake || payload.hash.bytes.any (· != 0))
    .invalidArgument
  return {
    resource := payload.resource
    hash := payload.hash
    buffer := payload.buffer }

def parseStore
    (event : PortEvent) : Except SessionResult ParsedProviderEvent := do
  let payload ← event.asStore
  expectThat (payload.revision != 0 && payload.flags == 0) .invalidArgument
  expectThat (payload.buffer.any fun buffer =>
    payload.logicalSize == buffer.content.length) .invalidArgument
  return {
    value0 := payload.revision
    value1 := payload.logicalSize
    buffer := payload.buffer }

def parseProviderEvent
    (event : PortEvent)
    (expectedToken : OpToken)
    (expectedKind : PayloadKind) : Except SessionResult ParsedProviderEvent := do
  expectThat (event.header == .ok) event.header
  expectThat (event.token == expectedToken) .stale
  expectThat (event.payloadKind == expectedKind) .contractViolation
  match contractFor event.payloadKind with
  | none => .error .unsupported
  | some (form, terminal) =>
      expectThat (!SessionResult.positive event.result) .contractViolation
      if event.result != .ok then
        -- A failed operation carries only the record that ends it.
        expectThat
          (event.terminal && (terminal || event.payloadKind == .quicData))
          .contractViolation
        event.asEnd
        return {}
      else
        expectThat (event.terminal == terminal) .contractViolation
        match form with
        | .resource => parseResource event
        | .buffer => parseBuffer event
        | .hash => parseHash event
        | .store => parseStore event
        | .metrics => do
            let values ← event.asMetrics
            return { value0 := values.1, value1 := values.2 }
        | .ending => do
            event.asEnd
            return {}

structure ProviderOperationCompletion where
  result : SessionResult
  payload : ParsedProviderEvent
deriving DecidableEq

/-! ### The journal -/

/-- What the journal reads of a token and of an event. -/
class ProviderAbi (Token : Type) (Id Kind Event : outParam Type) where
  operationId : Token → Id
  validToken : Token → Bool
  validKind : Kind → Bool
  token : Event → Token
  terminal : Event → Bool
  sameEvent : Event → Event → Bool

/-- How far an operation has come. -/
inductive RecordState (Event : Type) where
  | pending
  | terminal (event : Event)
  | cancelled
deriving DecidableEq

structure JournalRecord (Token Kind Event : Type) where
  token : Token
  payloadKind : Kind
  state : RecordState Event
deriving DecidableEq

structure ProviderOperationJournal (Token Id Kind Event : Type) where
  records : List (JournalRecord Token Kind Event)
  activeCapacity : Nat
  highestOperationId : Id
deriving DecidableEq

namespace ProviderOperationJournal

variable {Token Id Kind Event : Type}

def create [OfNat Id 0] (activeCapacity : Nat) :
    ProviderOperationJournal Token Id Kind Event where
  records := []
  activeCapacity := activeCapacity
  highestOperationId := 0

variable [DecidableEq Token] [DecidableEq Id] [DecidableEq Kind] [DecidableEq Event]
variable [LE Id] [DecidableLE Id] [ProviderAbi Token Id Kind Event]
variable (journal : ProviderOperationJournal Token Id Kind Event)

def record? (operationId : Id) : Option (JournalRecord Token Kind Event) :=
  journal.records.find? (ProviderAbi.operationId ·.token == operationId)

def active : Nat :=
  journal.records.countP (·.state == .pending)

/-- Give the first record of an operation a new state. -/
def mark
    (operationId : Id)
    (state : RecordState Event) : ProviderOperationJournal Token Id Kind Event :=
  { journal with
    records :=
      journal.records.modify
        (journal.records.findIdx (ProviderAbi.operationId ·.token == operationId))
        fun record => { record with state := state } }

def expect
    (token : Token)
    (payloadKind : Kind) :
    SessionResult × ProviderOperationJournal Token Id Kind Event :=
  if !ProviderAbi.validToken token || !ProviderAbi.validKind Token payloadKind then
    (.invalidArgument, journal)
  else
    match journal.record? (ProviderAbi.operationId token) with
    | some existing =>
        if existing.token = token && existing.payloadKind = payloadKind then
          (.duplicate, journal)
        else
          (.invalidArgument, journal)
    | none =>
        if ProviderAbi.operationId token ≤ journal.highestOperationId then
          (.invalidArgument, journal)
        else if journal.active ≥ journal.activeCapacity then
          (.backpressure, journal)
        else
          (.ok,
            { journal with
              records := journal.records ++ [⟨token, payloadKind, .pending⟩]
              highestOperationId := ProviderAbi.operationId token })

/-- Take an event in.  `parse` reads it as its record expects. -/
def accept
    {Parsed : Type}
    (event : Event)
    (parse : JournalRecord Token Kind Event → Except SessionResult Parsed) :
    Except SessionResult (Parsed × ProviderOperationJournal Token Id Kind Event) :=
  let token : Token := ProviderAbi.token event
  match journal.record? (ProviderAbi.operationId token) with
  | none => .error .stale
  | some record =>
      if record.token ≠ token then
        .error .stale
      else
        match record.state with
        | .cancelled => .error .stale
        | .terminal earlier =>
            .error
              (if ProviderAbi.sameEvent Token earlier event then .duplicate
              else .contractViolation)
        | .pending =>
            match parse record with
            | .error refused => .error refused
            | .ok parsed =>
                if !ProviderAbi.terminal Token event then
                  .error .contractViolation
                else
                  .ok
                    (parsed,
                      journal.mark (ProviderAbi.operationId token) (.terminal event))

def cancel
    (token : Token) : SessionResult × ProviderOperationJournal Token Id Kind Event :=
  match journal.record? (ProviderAbi.operationId token) with
  | none => (.stale, journal)
  | some record =>
      if record.token ≠ token then
        (.stale, journal)
      else if record.state ≠ .pending then
        (.duplicate, journal)
      else
        (.ok, journal.mark (ProviderAbi.operationId token) .cancelled)

theorem modify_middle
    {Record : Type}
    (front back : List Record)
    (record : Record)
    (change : Record → Record) :
    (front ++ record :: back).modify front.length change =
      front ++ change record :: back := by
  induction front with
  | nil => rfl
  | cons head tail inductionHypothesis => exact congrArg (head :: ·) inductionHypothesis

omit [DecidableEq Token] [DecidableEq Kind] [DecidableEq Event] [LE Id] [DecidableLE Id] in
variable {journal} in
/-- Marking changes one record. -/
theorem mark_records
    {operationId : Id}
    {record : JournalRecord Token Kind Event}
    (found : journal.record? operationId = some record)
    (state : RecordState Event) :
    ProviderAbi.operationId record.token = operationId ∧
      ∃ front back,
        journal.records = front ++ record :: back ∧
          (journal.mark operationId state).records =
            front ++ { record with state := state } :: back := by
  obtain ⟨same, front, back, split, others⟩ := List.find?_eq_some_iff_append.mp found
  refine ⟨by simpa using same, front, back, split, ?_⟩
  have place :
      journal.records.findIdx (ProviderAbi.operationId ·.token == operationId) =
        front.length := by
    rw [split, List.findIdx_append, List.findIdx_eq_length_of_false]
    · simp [List.findIdx_cons, same]
    · simpa using others
  change journal.records.modify _ _ = _
  rw [place, split, modify_middle]

end ProviderOperationJournal

/-! ### The journal of a scheduler -/

instance : ProviderAbi OpToken Nat PayloadKind PortEvent where
  operationId token := token.operationId
  validToken token := token.operationId != 0
  validKind kind := kind != .unknown 0
  token event := event.token
  terminal event := event.terminal
  sameEvent earlier event := earlier == event

abbrev SchedulerJournal := ProviderOperationJournal OpToken Nat PayloadKind PortEvent

/-- What a scheduler gets of an event that its operation has waited for. -/
def completionOf
    (event : PortEvent)
    (record : JournalRecord OpToken PayloadKind PortEvent) :
    Except SessionResult ProviderOperationCompletion := do
  let payload ← parseProviderEvent event record.token record.payloadKind
  return { result := event.result, payload := payload }

/-- The bytes of the buffer of a completion. -/
def readBuffer
    (completion : ProviderOperationCompletion) : Except SessionResult Bytes :=
  match completion.payload.buffer with
  | none => .error .contractViolation
  | some buffer =>
      if completion.payload.value0 = 0 ∨ completion.payload.value0 > 4096 then
        .error .contractViolation
      else if buffer.content.length < completion.payload.value0 then
        .error .contractViolation
      else
        .ok (buffer.content.take completion.payload.value0)

end FlyNes.Ports
