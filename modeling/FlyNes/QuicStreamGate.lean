import FlyNes.ByteString
import FlyNes.Chronology
import FlyNes.Logbook

namespace FlyNes.Wire

open ByteString

/-!
# The gate of the binding streams

A channel is bound over one stream, after a prebind stream when the peers reconnect on
the same path.  Each side sends a fixed row of records there; the gate counts them, and
lets no other traffic through before both sides have ended the bind stream.
-/

inductive BindingKind where
  | initial
  | samePathReconnect
  | newBearerReconnect
deriving DecidableEq

inductive TlsSide where
  | connector
  | listener
  | unknown (value : UInt8)
deriving DecidableEq

inductive QuicGateResult where
  | needMore
  | accepted
  | prebindComplete
  | channelBound
  | closed
  | backpressure
  | protocolViolation
  | invalidArgument
deriving DecidableEq

inductive GatePhase where
  | expectPrebind
  | prebind
  | expectBind
  | bind
  | bound
  | failed
deriving DecidableEq

/-- The size of a record, and its first byte unless that is zero. -/
structure ExpectedRecord where
  size : UInt32
  firstByte : UInt8
  filled : 0 < size.toNat
deriving DecidableEq

def kInitiatorPrebind : List ExpectedRecord :=
  [⟨356, 1, by decide⟩,
    ⟨356, 3, by decide⟩,
    ⟨289, 13, by decide⟩,
    ⟨181, 20, by decide⟩,
    ⟨173, 14, by decide⟩]

def kResponderPrebind : List ExpectedRecord :=
  [⟨356, 2, by decide⟩,
    ⟨356, 4, by decide⟩,
    ⟨181, 20, by decide⟩,
    ⟨289, 13, by decide⟩,
    ⟨173, 14, by decide⟩]

def kConnectorBind : List ExpectedRecord :=
  [⟨248, 0, by decide⟩,
    ⟨128, 0, by decide⟩]

def kListenerBind : List ExpectedRecord :=
  [⟨248, 0, by decide⟩]

def validSide (side : TlsSide) : Bool :=
  side == .connector || side == .listener

/-- What a side starts a stream with: the preamble is the connector's. -/
def preamble (phase : GatePhase) : Bytes :=
  if phase = .prebind then
    [0x46, 0x4E, 0x52, 0x31, 0, 1, 0, 2]
  else
    [0x46, 0x4E, 0x42, 0x31, 0, 1, 0, 1]

structure GateDirection where
  bytes : Bytes := []
  recordIndex : Nat := 0
  fin : Bool := false
deriving DecidableEq

structure QuicStreamGate where
  initiatorIsConnector : Bool
  phase : GatePhase
  streamId : UInt64 := 0
  priorStreamId : UInt64 := 0
  preambleComplete : Bool := false
  connector : GateDirection := {}
  listener : GateDirection := {}
deriving DecidableEq

/-- The records that a side sends on a stream. -/
def expectedRecords
    (phase : GatePhase)
    (initiatorIsConnector : Bool)
    (sender : TlsSide) : List ExpectedRecord :=
  if phase = .bind then
    if sender = .connector then kConnectorBind else kListenerBind
  else if (sender == .connector) == initiatorIsConnector then
    kInitiatorPrebind
  else
    kResponderPrebind

/-- Take whole records off the front of a direction, as long as they are expected. -/
def parse
    (expected : List ExpectedRecord)
    (value : GateDirection)
    (accepted : Bool) : QuicGateResult × GateDirection :=
  if value.bytes.length < 4 then
    (if accepted then .accepted else .needMore, value)
  else
    match expected with
    | [] => (.protocolViolation, value)
    | record :: rest =>
        let total := record.size.toNat + 4
        if fromBigEndian (value.bytes.take 4) ≠ record.size.toNat then
          (.protocolViolation, value)
        else if value.bytes.length < total then
          (.needMore, value)
        else if record.firstByte ≠ 0 ∧ value.bytes[4]? ≠ some record.firstByte then
          (.protocolViolation, value)
        else
          parse rest
            { value with
              bytes := value.bytes.drop total
              recordIndex := value.recordIndex + 1 }
            true

namespace QuicStreamGate

def start (kind : BindingKind) (initiatorIsConnector : Bool) : QuicStreamGate where
  initiatorIsConnector := initiatorIsConnector
  phase := if kind = .samePathReconnect then .expectPrebind else .expectBind

variable (gate : QuicStreamGate)

def fail (result : QuicGateResult) : QuicGateResult × QuicStreamGate :=
  (result,
    { gate with
      connector := { gate.connector with bytes := [] }
      listener := { gate.listener with bytes := [] }
      phase := .failed })

def openBidi
    (streamId : UInt64)
    (opener : TlsSide) : QuicGateResult × QuicStreamGate :=
  if !validSide opener || streamId == 0 then
    gate.fail .invalidArgument
  else if (gate.phase ≠ .expectPrebind ∧ gate.phase ≠ .expectBind) ∨
      opener ≠ .connector ∨ streamId = gate.priorStreamId then
    gate.fail .protocolViolation
  else
    (.accepted,
      { gate with
        streamId := streamId
        connector := {}
        listener := {}
        preambleComplete := false
        phase := if gate.phase = .expectPrebind then .prebind else .bind })

def direction (sender : TlsSide) : GateDirection :=
  if sender = .connector then gate.connector else gate.listener

def setDirection (sender : TlsSide) (value : GateDirection) : QuicStreamGate :=
  if sender = .connector then
    { gate with connector := value }
  else
    { gate with listener := value }

def records (sender : TlsSide) : List ExpectedRecord :=
  expectedRecords gate.phase gate.initiatorIsConnector sender

/-- Go on with a direction at the record that it has come to. -/
def parseDirection
    (value : GateDirection)
    (sender : TlsSide) : QuicGateResult × QuicStreamGate :=
  let parsed := parse ((gate.records sender).drop value.recordIndex) value false
  let gate := gate.setDirection sender parsed.2
  if parsed.1 = .protocolViolation then gate.fail parsed.1 else (parsed.1, gate)

def data
    (streamId : UInt64)
    (sender : TlsSide)
    (bytes : Bytes) : QuicGateResult × QuicStreamGate :=
  if !validSide sender then
    gate.fail .invalidArgument
  else if gate.phase = .failed ∨ gate.phase = .bound then
    (.closed, gate)
  else if (gate.phase ≠ .prebind ∧ gate.phase ≠ .bind) ∨
      streamId ≠ gate.streamId ∨ (gate.direction sender).fin then
    gate.fail .protocolViolation
  else
    let target := gate.direction sender
    if target.bytes.length + bytes.length > 2048 then
      gate.fail .backpressure
    else
      let target := { target with bytes := target.bytes ++ bytes }
      if gate.preambleComplete then
        gate.parseDirection target sender
      else if sender ≠ .connector then
        gate.fail .protocolViolation
      else if target.bytes.length < 8 then
        (.needMore, gate.setDirection sender target)
      else if target.bytes.take 8 ≠ preamble gate.phase then
        gate.fail .protocolViolation
      else
        { gate with preambleComplete := true }.parseDirection
          { target with bytes := target.bytes.drop 8 } sender

def finish
    (streamId : UInt64)
    (sender : TlsSide) : QuicGateResult × QuicStreamGate :=
  if !validSide sender then
    gate.fail .invalidArgument
  else if gate.phase = .failed ∨ gate.phase = .bound then
    (.closed, gate)
  else if (gate.phase ≠ .prebind ∧ gate.phase ≠ .bind) ∨
      streamId ≠ gate.streamId ∨ gate.preambleComplete = false then
    gate.fail .protocolViolation
  else
    let target := gate.direction sender
    if target.fin ∨ target.bytes ≠ [] ∨
        target.recordIndex ≠ (gate.records sender).length then
      gate.fail .protocolViolation
    else if gate.phase = .bind ∧ sender = .listener ∧ gate.connector.fin = false then
      gate.fail .protocolViolation
    else
      let gate := gate.setDirection sender { target with fin := true }
      if gate.connector.fin = false ∨ gate.listener.fin = false then
        (.accepted, gate)
      else
        let ended := { gate with priorStreamId := gate.streamId, streamId := 0 }
        if gate.phase = .prebind then
          (.prebindComplete, { ended with phase := .expectBind })
        else
          (.channelBound, { ended with phase := .bound })

end QuicStreamGate

inductive GateCall where
  | openBidi (streamId : UInt64) (opener : TlsSide)
  | data (streamId : UInt64) (sender : TlsSide) (bytes : Bytes)
  | finish (streamId : UInt64) (sender : TlsSide)
deriving DecidableEq

def QuicStreamGate.perform (gate : QuicStreamGate) :
    GateCall → QuicGateResult × QuicStreamGate
  | .openBidi streamId opener => gate.openBidi streamId opener
  | .data streamId sender bytes => gate.data streamId sender bytes
  | .finish streamId sender => gate.finish streamId sender

end FlyNes.Wire
