import FlyNes.PrebindQueue
import FlyNes.PairReducer

namespace FlyNes.Pair

open ByteString
open FlyNes.Wire
open FlyNes.Dual (WireStatus)

/-!
# The gate of an authenticated link

The gate turns the evidence of a pair and the facts of its transport into an
active link: a begin, the transport, the channel bind and the ready of both roles
follow each other, and anything else closes it for good.  Records that arrive in
between wait in the queue of the gate and leave it once the link is connected.
-/

/-- What a transport reports of its handshake. -/
structure QuicHandshakeFacts where
  tlsMajor : Nat
  tlsMinor : Nat
  fullHandshake : Bool
  pinVerifierInvoked : Bool
  peerCertificateVerified : Bool
  resumed : Bool
  zeroRtt : Bool
  alpn : Block 32
  derSpkiHash : Block 32
deriving DecidableEq

def quicConnectPolicySize : Nat := 88

def sessionAbiVersion : Nat := 2

structure QuicConnectPolicy where
  structSize : Nat := quicConnectPolicySize
  abiVersion : Nat := sessionAbiVersion
  requireFullTls13 : Nat
  forbidResumption : Nat
  forbidZeroRtt : Nat
  reservedZero : Nat := 0
  alpn : Block 32
  expectedDerSpkiHash : Block 32

def kAlpn : Bytes :=
  ascii "flynes-nearby/2"

/-- A text fills a field up to zeros behind it. -/
def exactText (bytes expected : Bytes) : Bool :=
  !decide (expected.length + 1 > bytes.length) &&
    bytes.take expected.length == expected &&
    (bytes.drop expected.length).all (· == 0)

def validateQuicPolicyV2 (policy : QuicConnectPolicy) : WireStatus :=
  if policy.structSize < quicConnectPolicySize ∨
      policy.abiVersion ≠ sessionAbiVersion then
    .badLength
  else if policy.reservedZero ≠ 0 then
    .nonzeroReserved
  else if policy.requireFullTls13 ≠ 1 ∨ policy.forbidResumption ≠ 1 ∨
      policy.forbidZeroRtt ≠ 1 ∨ !exactText policy.alpn.bytes kAlpn ∨
      !nonzero policy.expectedDerSpkiHash then
    .invalidField
  else
    .ok

def verifyQuicHandshakeV2
    (policy : QuicConnectPolicy)
    (facts : QuicHandshakeFacts) : WireStatus :=
  let validPolicy := validateQuicPolicyV2 policy
  if validPolicy ≠ .ok then
    validPolicy
  else if facts.tlsMajor ≠ 1 ∨ facts.tlsMinor ≠ 3 ∨ !facts.fullHandshake ∨
      !facts.pinVerifierInvoked ∨ !facts.peerCertificateVerified ∨
      facts.resumed ∨ facts.zeroRtt ∨ !exactText facts.alpn.bytes kAlpn ∨
      facts.derSpkiHash ≠ policy.expectedDerSpkiHash then
    .invalidField
  else
    .ok

def verifyQuicListenerHandshakeV2 (facts : QuicHandshakeFacts) : WireStatus :=
  if facts.tlsMajor ≠ 1 ∨ facts.tlsMinor ≠ 3 ∨ !facts.fullHandshake ∨
      facts.pinVerifierInvoked ∨ facts.peerCertificateVerified ∨
      facts.resumed ∨ facts.zeroRtt ∨ !exactText facts.alpn.bytes kAlpn ∨
      nonzero facts.derSpkiHash then
    .invalidField
  else
    .ok

def deriveChannelIdV1
    (pairTranscriptHash : PlanHash)
    (sessionId : Block 16)
    (reconnectTranscriptHash exporter : PlanHash) : Block 16 :=
  Block.copy 16
    (sha256
      (ascii "flynes-channel-id-v1" ++ pairTranscriptHash.bytes ++
        sessionId.bytes ++ reconnectTranscriptHash.bytes ++
        exporter.bytes)).bytes

inductive LinkActivationResult where
  | accepted
  | connected
  | released
  | closed
  | invalidArgument
  | authFailed
  | protocolViolation
  | backpressure
deriving DecidableEq

structure LinkActivationStart where
  pair : VerifiedPairEvidence
  sessionId : Block 16
  reconnectTranscriptHash : PlanHash
  quicListenerRole : PairRole
  listenerDerSpkiHash : PlanHash
deriving DecidableEq, Inhabited

structure LinkChannelBind where
  pairTranscriptHash : PlanHash
  sessionId : Block 16
  reconnectTranscriptHash : PlanHash
  channelId : Block 16
deriving DecidableEq

inductive GatePhase where
  | idle
  | pairAccepted
  | transportAuthenticated
  | bound
  | connected
  | failed
deriving DecidableEq

structure AuthenticatedLinkGate where
  prebind : PreBindRecordQueue
  phase : GatePhase := .idle
  start : LinkActivationStart := default
  exporter : PlanHash := Block.zero 32
  channelId : Block 16 := Block.zero 16
  initiatorReady : Bool := false
  responderReady : Bool := false
deriving DecidableEq

namespace AuthenticatedLinkGate

def create (maximumPrebindBytes maximumPrebindRecords : Nat) : AuthenticatedLinkGate :=
  { prebind :=
      { maximumBytes := maximumPrebindBytes
        maximumRecords := maximumPrebindRecords } }

def fail
    (gate : AuthenticatedLinkGate)
    (result : LinkActivationResult) :
    LinkActivationResult × AuthenticatedLinkGate :=
  (result, { gate with prebind := gate.prebind.discard, phase := .failed })

/-- The pair is authenticated and the values of the link are there. -/
def validStart (start : LinkActivationStart) : Bool :=
  start.pair.authenticated && start.pair.generation != 0 &&
    nonzero start.pair.transcript && anyNonzero start.sessionId.bytes &&
    nonzero start.listenerDerSpkiHash

/-- A start is `none` where one of its roles is neither of the two. -/
def begin
    (gate : AuthenticatedLinkGate)
    (start : Option LinkActivationStart) :
    LinkActivationResult × AuthenticatedLinkGate :=
  if gate.phase ≠ .idle then
    gate.fail .protocolViolation
  else
    match start with
    | none => gate.fail .authFailed
    | some start =>
        if !validStart start then
          gate.fail .authFailed
        else
          (.accepted, { gate with start := start, phase := .pairAccepted })

def mapQueue : PreBindQueueResult → LinkActivationResult
  | .queued => .accepted
  | .blocked => .accepted
  | .released => .released
  | .backpressure => .backpressure
  | .invalidArgument => .invalidArgument
  | .protocolViolation => .protocolViolation
  | .closed => .closed

def enqueuePrebind
    (gate : AuthenticatedLinkGate)
    (streamId streamSequence : Nat)
    (frame : OwnedAppFrame) : LinkActivationResult × AuthenticatedLinkGate :=
  if gate.phase = .idle then
    (.invalidArgument, gate)
  else if gate.phase = .failed ∨ gate.phase = .connected then
    (.closed, gate)
  else
    let (outcome, prebind) := gate.prebind.enqueue streamId streamSequence frame
    let gate := { gate with prebind := prebind }
    if outcome = .backpressure ∨ outcome = .protocolViolation then
      (mapQueue outcome, { gate with phase := .failed })
    else
      (mapQueue outcome, gate)

def connectPolicy (start : LinkActivationStart) : QuicConnectPolicy where
  requireFullTls13 := 1
  forbidResumption := 1
  forbidZeroRtt := 1
  alpn := Block.copy 32 kAlpn
  expectedDerSpkiHash := start.listenerDerSpkiHash

/-- The listener did not check a certificate, the other side checked its own. -/
def handshakeStatus
    (start : LinkActivationStart)
    (facts : QuicHandshakeFacts) : WireStatus :=
  if start.pair.localRole = start.quicListenerRole then
    verifyQuicListenerHandshakeV2 facts
  else
    verifyQuicHandshakeV2 (connectPolicy start) facts

def acceptTransport
    (gate : AuthenticatedLinkGate)
    (facts : QuicHandshakeFacts)
    (exporter : PlanHash) : LinkActivationResult × AuthenticatedLinkGate :=
  if gate.phase ≠ .pairAccepted then
    gate.fail .protocolViolation
  else if !nonzero exporter then
    gate.fail .authFailed
  else if handshakeStatus gate.start facts ≠ .ok then
    gate.fail .authFailed
  else
    let (queueResult, prebind) := gate.prebind.markTransportAuthenticated true true true
    let gate := { gate with exporter := exporter, prebind := prebind }
    if queueResult = .protocolViolation then
      gate.fail .protocolViolation
    else
      (.accepted, { gate with phase := .transportAuthenticated })

def expectedChannelId
    (start : LinkActivationStart)
    (exporter : PlanHash) : Block 16 :=
  deriveChannelIdV1 start.pair.transcript start.sessionId
    start.reconnectTranscriptHash exporter

/-- A bind names the pair, the session and the channel of the exporter. -/
def matchesBind
    (start : LinkActivationStart)
    (exporter : PlanHash)
    (bind : LinkChannelBind) : Bool :=
  bind.pairTranscriptHash == start.pair.transcript &&
    bind.sessionId == start.sessionId &&
    bind.reconnectTranscriptHash == start.reconnectTranscriptHash &&
    bind.channelId == expectedChannelId start exporter

def acceptChannelBind
    (gate : AuthenticatedLinkGate)
    (bind : LinkChannelBind) : LinkActivationResult × AuthenticatedLinkGate :=
  if gate.phase ≠ .transportAuthenticated then
    gate.fail .protocolViolation
  else if !matchesBind gate.start gate.exporter bind then
    gate.fail .protocolViolation
  else
    let (queueResult, prebind) := gate.prebind.markChannelBound
    let gate :=
      { gate with
        channelId := expectedChannelId gate.start gate.exporter
        prebind := prebind }
    if queueResult = .protocolViolation then
      gate.fail .protocolViolation
    else
      (.accepted, { gate with phase := .bound })

def readyOf (gate : AuthenticatedLinkGate) : PairRole → Bool
  | .initiator => gate.initiatorReady
  | .responder => gate.responderReady

def setReady (gate : AuthenticatedLinkGate) : PairRole → AuthenticatedLinkGate
  | .initiator => { gate with initiatorReady := true }
  | .responder => { gate with responderReady := true }

/-- A sender is `none` where it is neither of the two roles. -/
def acceptLinkReady
    (gate : AuthenticatedLinkGate)
    (sender : Option PairRole) : LinkActivationResult × AuthenticatedLinkGate :=
  match sender with
  | none => gate.fail .protocolViolation
  | some sender =>
      if gate.phase ≠ .bound then
        gate.fail .protocolViolation
      else if gate.readyOf sender then
        gate.fail .protocolViolation
      else
        let gate := gate.setReady sender
        let localRole := gate.start.pair.localRole
        let (queueResult, prebind) :=
          gate.prebind.markLinkReady (gate.readyOf localRole)
            (gate.readyOf localRole.other)
        let gate := { gate with prebind := prebind }
        if queueResult = .protocolViolation then
          gate.fail .protocolViolation
        else if gate.initiatorReady && gate.responderReady then
          (.connected, { gate with phase := .connected })
        else
          (.accepted, gate)

def releasePrebind
    (gate : AuthenticatedLinkGate)
    (output : Bool) :
    LinkActivationResult × List QueuedAppRecord × AuthenticatedLinkGate :=
  if gate.phase = .failed then
    (.closed, [], gate)
  else
    let (result, records, prebind) := gate.prebind.release output
    (mapQueue result, records, { gate with prebind := prebind })

def isConnected (gate : AuthenticatedLinkGate) : Bool :=
  gate.phase == .connected

def isFailed (gate : AuthenticatedLinkGate) : Bool :=
  gate.phase == .failed

end AuthenticatedLinkGate

/-- A call of the gate. -/
inductive GateCall where
  | begin (start : Option LinkActivationStart)
  | enqueuePrebind (streamId streamSequence : Nat) (frame : OwnedAppFrame)
  | acceptTransport (facts : QuicHandshakeFacts) (exporter : PlanHash)
  | acceptChannelBind (bind : LinkChannelBind)
  | acceptLinkReady (sender : Option PairRole)
  | releasePrebind (output : Bool)
deriving DecidableEq

/-- What a call answers and the records that it hands out. -/
structure GateAnswer where
  result : LinkActivationResult
  output : List QueuedAppRecord := []
deriving DecidableEq

/-- The calls of a run with their answers. -/
abbrev GateLog := List (GateCall × GateAnswer)

namespace AuthenticatedLinkGate

def perform
    (gate : AuthenticatedLinkGate) :
    GateCall → GateAnswer × AuthenticatedLinkGate
  | .begin start =>
      let (result, gate) := gate.begin start
      ({ result := result }, gate)
  | .enqueuePrebind streamId streamSequence frame =>
      let (result, gate) := gate.enqueuePrebind streamId streamSequence frame
      ({ result := result }, gate)
  | .acceptTransport facts exporter =>
      let (result, gate) := gate.acceptTransport facts exporter
      ({ result := result }, gate)
  | .acceptChannelBind bind =>
      let (result, gate) := gate.acceptChannelBind bind
      ({ result := result }, gate)
  | .acceptLinkReady sender =>
      let (result, gate) := gate.acceptLinkReady sender
      ({ result := result }, gate)
  | .releasePrebind output =>
      let (result, records, gate) := gate.releasePrebind output
      ({ result := result, output := records }, gate)

/-- The gate after the calls of a log and the log itself. -/
def run
    (gate : AuthenticatedLinkGate)
    (calls : List GateCall) : GateLog × AuthenticatedLinkGate :=
  calls.foldl
    (fun (log, gate) call =>
      let (answer, gate) := gate.perform call
      (log ++ [(call, answer)], gate))
    ([], gate)

end AuthenticatedLinkGate

namespace GateLog

def isActivation : GateCall → Bool
  | .enqueuePrebind .. => false
  | .releasePrebind _ => false
  | _ => true

/-- The steps of the activation. -/
def activation (log : GateLog) : GateLog :=
  log.filter fun entry => isActivation entry.1

/-- The records whose enqueue was accepted. -/
def accepted (log : GateLog) : List QueuedAppRecord :=
  log.filterMap fun entry =>
    match entry with
    | (.enqueuePrebind streamId streamSequence frame, { result := .accepted, .. }) =>
        some ⟨streamId, streamSequence, frame⟩
    | _ => none

/-- The records that were handed out. -/
def output (log : GateLog) : List QueuedAppRecord :=
  log.flatMap fun entry => entry.2.output

end GateLog

namespace GateLog

/-- The steps that activate the link of a start, in their order. -/
def activationOf
    (start : LinkActivationStart)
    (facts : QuicHandshakeFacts)
    (exporter : PlanHash)
    (bind : LinkChannelBind)
    (first : PairRole) : GateLog :=
  [(.begin (some start), { result := .accepted }),
    (.acceptTransport facts exporter, { result := .accepted }),
    (.acceptChannelBind bind, { result := .accepted }),
    (.acceptLinkReady (some first), { result := .accepted }),
    (.acceptLinkReady (some first.other), { result := .connected })]

/-- A transport is verified for a start. -/
def Verifies
    (start : LinkActivationStart)
    (facts : QuicHandshakeFacts)
    (exporter : PlanHash) : Prop :=
  nonzero exporter = true ∧ AuthenticatedLinkGate.handshakeStatus start facts = .ok

/-- The steps are an activation: none was refused and none is missing. -/
def Activated (steps : GateLog) : Prop :=
  ∃ start facts exporter bind first,
    steps = activationOf start facts exporter bind first ∧
    AuthenticatedLinkGate.validStart start = true ∧
    Verifies start facts exporter ∧
    AuthenticatedLinkGate.matchesBind start exporter bind = true

@[simp] theorem activation_append
    (log more : GateLog) :
    activation (log ++ more) = activation log ++ activation more :=
  List.filter_append ..

@[simp] theorem accepted_append
    (log more : GateLog) :
    accepted (log ++ more) = accepted log ++ accepted more :=
  List.filterMap_append ..

@[simp] theorem output_append
    (log more : GateLog) :
    output (log ++ more) = output log ++ output more :=
  List.flatMap_append ..

end GateLog

namespace AuthenticatedLinkGate

open GateLog
open PreBindRecordQueue

/-- The steps of the activation that a gate has taken. -/
inductive Progress (steps : GateLog) (gate : AuthenticatedLinkGate) : Prop where
  | idle
      (phase : gate.phase = .idle)
      (taken : steps = [])
      (unready : gate.initiatorReady = false ∧ gate.responderReady = false)
      (marked : Marked gate.prebind false false false false)
  | paired
      (phase : gate.phase = .pairAccepted)
      (taken : steps = [(.begin (some gate.start), { result := .accepted })])
      (unready : gate.initiatorReady = false ∧ gate.responderReady = false)
      (marked : Marked gate.prebind false false false false)
      (valid : validStart gate.start = true)
  | transported
      (phase : gate.phase = .transportAuthenticated)
      (facts : QuicHandshakeFacts)
      (taken :
        steps =
          [(.begin (some gate.start), { result := .accepted }),
            (.acceptTransport facts gate.exporter, { result := .accepted })])
      (unready : gate.initiatorReady = false ∧ gate.responderReady = false)
      (marked : Marked gate.prebind true false false false)
      (valid : validStart gate.start = true)
      (verified : Verifies gate.start facts gate.exporter)
  | bound
      (phase : gate.phase = .bound)
      (facts : QuicHandshakeFacts)
      (bind : LinkChannelBind)
      (taken :
        steps =
          [(.begin (some gate.start), { result := .accepted }),
            (.acceptTransport facts gate.exporter, { result := .accepted }),
            (.acceptChannelBind bind, { result := .accepted })])
      (unready : gate.initiatorReady = false ∧ gate.responderReady = false)
      (marked : Marked gate.prebind true true false false)
      (valid : validStart gate.start = true)
      (verified : Verifies gate.start facts gate.exporter)
      (matching : matchesBind gate.start gate.exporter bind = true)
  | half
      (phase : gate.phase = .bound)
      (facts : QuicHandshakeFacts)
      (bind : LinkChannelBind)
      (first : PairRole)
      (taken :
        steps =
          [(.begin (some gate.start), { result := .accepted }),
            (.acceptTransport facts gate.exporter, { result := .accepted }),
            (.acceptChannelBind bind, { result := .accepted }),
            (.acceptLinkReady (some first), { result := .accepted })])
      (ready : gate.readyOf first = true)
      (unready : gate.readyOf first.other = false)
      (marked :
        Marked gate.prebind true true (decide (gate.start.pair.localRole = first))
          (decide (gate.start.pair.localRole = first.other)))
      (valid : validStart gate.start = true)
      (verified : Verifies gate.start facts gate.exporter)
      (matching : matchesBind gate.start gate.exporter bind = true)
  | connected
      (phase : gate.phase = .connected)
      (activated : Activated steps)
      (opened :
        Marked gate.prebind true true true true ∨ gate.prebind.released = true)
  | failed
      (phase : gate.phase = .failed)

/-- Where the accepted records are. -/
inductive Stock (log : GateLog) (gate : AuthenticatedLinkGate) : Prop where
  | held
      (live : gate.phase ≠ .failed)
      (unreleased : gate.prebind.released = false)
      (nothing : output log = [])
      (unanswered : ∀ entry ∈ log, entry.2.result ≠ .released)
      (records : gate.prebind.records = accepted log)
  | handed
      (ended : gate.phase = .connected ∨ gate.phase = .failed)
      (released : gate.prebind.released = true)
      (all : output log = accepted log)
  | lost
      (phase : gate.phase = .failed)
      (nothing : output log = [])
      (unanswered : ∀ entry ∈ log, entry.2.result ≠ .released)

/-- Records leave a gate after a whole activation only. -/
def Gated (log : GateLog) : Prop :=
  ∀ before call answer later,
    log = before ++ (call, answer) :: later →
    (answer.output ≠ [] ∨ answer.result = .released) →
    Activated (activation before)

structure Keeps
    (maximumBytes maximumRecords : Nat)
    (log : GateLog)
    (gate : AuthenticatedLinkGate) : Prop where
  bounded : Bounded maximumBytes maximumRecords gate.prebind
  progress : Progress (activation log) gate
  stock : Stock log gate
  gated : Gated log

end AuthenticatedLinkGate

namespace AuthenticatedLinkGate

open GateLog
open PreBindRecordQueue

variable {log : GateLog} {call : GateCall} {answer : GateAnswer}

theorem Gated.append
    (gated : Gated log)
    (activated :
      answer.output ≠ [] ∨ answer.result = .released → Activated (activation log)) :
    Gated (log ++ [(call, answer)]) := by
  intro before other otherAnswer later split handsOut
  rcases List.eq_nil_or_concat later with rfl | ⟨later, last, rfl⟩
  · obtain ⟨rfl, last⟩ := List.append_inj' split rfl
    obtain ⟨rfl, rfl⟩ := Prod.mk.inj (List.singleton_inj.1 last)
    exact activated handsOut
  · have shape :
        log ++ [(call, answer)] = (before ++ (other, otherAnswer) :: later) ++ [last] := by
      simpa using split
    obtain ⟨rfl, -⟩ := List.append_inj' shape rfl
    exact gated before other otherAnswer later rfl handsOut

theorem output_silent
    (call : GateCall)
    (result : LinkActivationResult) :
    output [(call, { result := result })] = [] :=
  rfl

theorem unanswered_append
    (unanswered : ∀ entry ∈ log, entry.2.result ≠ .released)
    (other : answer.result ≠ .released) :
    ∀ entry ∈ log ++ [(call, answer)], entry.2.result ≠ .released := by
  intro entry member
  rcases List.mem_append.1 member with earlier | last
  · exact unanswered entry earlier
  · obtain rfl := List.mem_singleton.1 last
    exact other

variable {gate : AuthenticatedLinkGate}

theorem setReady_one
    (unready : gate.initiatorReady = false ∧ gate.responderReady = false)
    (sender role : PairRole) :
    (gate.setReady sender).readyOf role = decide (role = sender) := by
  cases sender <;> cases role <;> simp [setReady, readyOf, unready]

variable {first sender : PairRole}

theorem setReady_other
    (ready : gate.readyOf first = true)
    (fresh : gate.readyOf sender = false) :
    sender = first.other ∧
      ∀ role, (gate.setReady sender).readyOf role = true := by
  cases first <;> cases sender <;> simp_all [readyOf]
  · constructor
    · rfl
    · intro role
      cases role <;> simp [setReady, ready]
  · constructor
    · rfl
    · intro role
      cases role <;> simp [setReady, ready]

@[simp] theorem setReady_start
    (gate : AuthenticatedLinkGate)
    (sender : PairRole) :
    (gate.setReady sender).start = gate.start := by
  cases sender <;> rfl

@[simp] theorem setReady_exporter
    (gate : AuthenticatedLinkGate)
    (sender : PairRole) :
    (gate.setReady sender).exporter = gate.exporter := by
  cases sender <;> rfl

@[simp] theorem setReady_prebind
    (gate : AuthenticatedLinkGate)
    (sender : PairRole) :
    (gate.setReady sender).prebind = gate.prebind := by
  cases sender <;> rfl

@[simp] theorem setReady_phase
    (gate : AuthenticatedLinkGate)
    (sender : PairRole) :
    (gate.setReady sender).phase = gate.phase := by
  cases sender <;> rfl

@[simp] theorem readyOf_prebind
    (gate : AuthenticatedLinkGate)
    (prebind : PreBindRecordQueue)
    (role : PairRole) :
    { gate with prebind := prebind }.readyOf role = gate.readyOf role := by
  cases role <;> rfl

/-- The first ready leaves the gate waiting for the other role. -/
theorem acceptLinkReady_first
    (atBound : gate.phase = .bound)
    (unready : gate.initiatorReady = false ∧ gate.responderReady = false)
    (marked : Marked gate.prebind true true false false)
    (sender : PairRole) :
    gate.acceptLinkReady (some sender) =
      (.accepted,
        { gate.setReady sender with
          prebind :=
            { gate.prebind with
              localReady := decide (gate.start.pair.localRole = sender)
              remoteReady := decide (gate.start.pair.localRole = sender.other) } }) := by
  have readies := setReady_one unready sender
  have fresh : gate.readyOf sender = false := by
    cases sender <;> simp [readyOf, unready]
  obtain ⟨prebind, noViolation⟩ :=
    Marked.ready marked
      ((gate.setReady sender).readyOf gate.start.pair.localRole)
      ((gate.setReady sender).readyOf gate.start.pair.localRole.other)
  simp only [acceptLinkReady, atBound, fresh, setReady_prebind, setReady_start,
    noViolation, prebind, ne_eq, not_true_eq_false, Bool.false_eq_true, if_false]
  rw [if_neg (by cases sender <;> simp [setReady, unready])]
  simp only [readies, Bool.false_or]
  cases sender <;> cases gate.start.pair.localRole <;> rfl

/-- The ready of the other role connects the link. -/
theorem acceptLinkReady_second
    {localReady remoteReady : Bool}
    (atBound : gate.phase = .bound)
    (ready : gate.readyOf first = true)
    (fresh : gate.readyOf sender = false)
    (marked : Marked gate.prebind true true localReady remoteReady) :
    gate.acceptLinkReady (some sender) =
      (.connected,
        { gate.setReady sender with
          phase := .connected
          prebind := { gate.prebind with localReady := true, remoteReady := true } }) := by
  obtain ⟨-, readies⟩ := setReady_other ready fresh
  obtain ⟨prebind, noViolation⟩ := Marked.ready marked true true
  simp only [acceptLinkReady, atBound, fresh, setReady_prebind, setReady_start, readies,
    noViolation, prebind, ne_eq, not_true_eq_false, Bool.false_eq_true, if_false]
  rw [if_pos (by
    have initiator := readies .initiator
    have responder := readies .responder
    simp only [readyOf] at initiator responder
    simp [initiator, responder])]
  simp

/-- Other records in the queue are no step of the activation. -/
theorem Progress.restock
    {steps : GateLog}
    {prebind : PreBindRecordQueue}
    (progress : Progress steps gate)
    (restocked :
      ∃ identities records bytes,
        prebind =
          { gate.prebind with
            identities := identities
            records := records
            bytes := bytes }) :
    Progress steps { gate with prebind := prebind } := by
  obtain ⟨identities, records, bytes, rfl⟩ := restocked
  cases progress with
  | idle phase taken unready marked =>
      exact .idle phase taken unready { marked with }
  | paired phase taken unready marked valid =>
      exact .paired phase taken unready { marked with } valid
  | transported phase facts taken unready marked valid verified =>
      exact .transported phase facts taken unready { marked with } valid verified
  | bound phase facts bind taken unready marked valid verified matching =>
      exact .bound phase facts bind taken unready { marked with } valid verified matching
  | half phase facts bind first taken ready unready marked valid verified matching =>
      exact
        .half phase facts bind first taken ready unready { marked with } valid verified
          matching
  | connected phase activated opened =>
      exact .connected phase activated (opened.imp (fun marked => { marked with }) id)
  | failed phase => exact .failed phase

namespace Keeps

variable {maximumBytes maximumRecords : Nat}
variable {log : GateLog}
variable {gate gate' : AuthenticatedLinkGate}
variable {call : GateCall}
variable {result : LinkActivationResult}

variable (keeps : Keeps maximumBytes maximumRecords log gate)

include keeps

/-- The invariant survives a call that takes no step and hands out nothing. -/
theorem idle
    (noStep : isActivation call = false)
    (notAccepted : accepted [(call, { result := result })] = [])
    (notReleased : result ≠ .released) :
    Keeps maximumBytes maximumRecords (log ++ [(call, { result := result })]) gate := by
  have steps : activation (log ++ [(call, { result := result })]) = activation log := by
    simp [activation, noStep]
  refine ⟨keeps.bounded, ?_, ?_, keeps.gated.append ?_⟩
  · rw [steps]
    exact keeps.progress
  · cases keeps.stock with
    | held live unreleased nothing unanswered records =>
        exact
          .held live unreleased (by simp [nothing, output_silent])
            (unanswered_append unanswered notReleased)
            (by rw [accepted_append, notAccepted, List.append_nil, records])
    | handed ended released all =>
        exact
          .handed ended released
            (by rw [output_append, accepted_append, notAccepted, output_silent, all])
    | lost phase nothing unanswered =>
        exact
          .lost phase (by simp [nothing, output_silent])
            (unanswered_append unanswered notReleased)
  · rintro (outputs | released)
    · exact (outputs rfl).elim
    · exact (notReleased released).elim

/-- A gate that fails loses the records that it still holds. -/
theorem fail
    (bounded : Bounded maximumBytes maximumRecords gate'.prebind)
    (failed : gate'.phase = .failed)
    (sameRelease : gate.prebind.released = true → gate'.prebind.released = true)
    (notAccepted : accepted [(call, { result := result })] = [])
    (notReleased : result ≠ .released) :
    Keeps maximumBytes maximumRecords (log ++ [(call, { result := result })]) gate' := by
  refine ⟨bounded, .failed failed, ?_, keeps.gated.append ?_⟩
  · cases keeps.stock with
    | held live unreleased nothing unanswered records =>
        exact
          .lost failed (by simp [nothing, output_silent])
            (unanswered_append unanswered notReleased)
    | handed ended released all =>
        exact
          .handed (.inr failed) (sameRelease released)
            (by rw [output_append, accepted_append, notAccepted, output_silent, all])
    | lost phase nothing unanswered =>
        exact
          .lost failed (by simp [nothing, output_silent])
            (unanswered_append unanswered notReleased)
  · rintro (outputs | released)
    · exact (outputs rfl).elim
    · exact (notReleased released).elim

theorem refuse
    (notAccepted : accepted [(call, { result := result })] = [])
    (notReleased : result ≠ .released) :
    Keeps maximumBytes maximumRecords (log ++ [(call, { result := result })])
      (gate.fail result).2 :=
  keeps.fail keeps.bounded.discard rfl id notAccepted notReleased

/-- A queue that waits hands out nothing. -/
theorem blocked
    {transport bound localReady remoteReady : Bool}
    (marked : Marked gate.prebind transport bound localReady remoteReady)
    (unready : (transport && bound && localReady && remoteReady) = false)
    (output : Bool) :
    Keeps maximumBytes maximumRecords
      (log ++
        [(.releasePrebind output,
          { result := mapQueue (gate.prebind.release output).1
            output := (gate.prebind.release output).2.1 })])
      { gate with prebind := (gate.prebind.release output).2.2 } := by
  obtain ⟨same, notReleased⟩ := marked.release_closed unready output
  rw [same]
  refine keeps.idle rfl rfl ?_
  cases result : (gate.prebind.release output).1 <;>
    first | exact (notReleased result).elim | simp [mapQueue]

/-- A step of the activation leaves the records where they are. -/
theorem advance
    (bounded : Bounded maximumBytes maximumRecords gate'.prebind)
    (progress :
      Progress (activation log ++ activation [(call, { result := result })]) gate')
    (before : gate.phase ≠ .connected)
    (live : gate.phase ≠ .failed)
    (stays : gate'.phase ≠ .failed)
    (unreleased : gate'.prebind.released = false)
    (records : gate'.prebind.records = gate.prebind.records)
    (notAccepted : accepted [(call, { result := result })] = [])
    (notReleased : result ≠ .released) :
    Keeps maximumBytes maximumRecords (log ++ [(call, { result := result })]) gate' := by
  refine ⟨bounded, ?_, ?_, keeps.gated.append ?_⟩
  · rwa [activation_append]
  · cases keeps.stock with
    | held _ _ nothing unanswered same =>
        exact
          .held stays unreleased (by simp [nothing, output_silent])
            (unanswered_append unanswered notReleased)
            (by rw [records, same, accepted_append, notAccepted, List.append_nil])
    | handed ended released all =>
        rcases ended with connected | failed
        · exact (before connected).elim
        · exact (live failed).elim
    | lost phase nothing unanswered => exact (live phase).elim
  · rintro (outputs | released)
    · exact (outputs rfl).elim
    · exact (notReleased released).elim

theorem begin
    (start : Option LinkActivationStart) :
    Keeps maximumBytes maximumRecords
      (log ++ [(.begin start, (gate.perform (.begin start)).1)])
      (gate.perform (.begin start)).2 := by
  simp only [perform, AuthenticatedLinkGate.begin]
  split
  · exact keeps.refuse rfl (by simp [AuthenticatedLinkGate.fail])
  next idle =>
    have idle : gate.phase = .idle := not_not.1 idle
    cases start with
    | none => exact keeps.refuse rfl (by simp [AuthenticatedLinkGate.fail])
    | some start =>
        simp only
        split
        · exact keeps.refuse rfl (by simp [AuthenticatedLinkGate.fail])
        next valid =>
          have valid : validStart start = true := by simpa using valid
          cases keeps.progress with
          | idle _ taken unready marked =>
              refine
                keeps.advance keeps.bounded ?_ (by simp [idle]) (by simp [idle])
                  (by simp) marked.released rfl rfl (by simp)
              rw [taken]
              exact .paired rfl rfl unready marked valid
          | paired phase => rw [phase] at idle; cases idle
          | transported phase => rw [phase] at idle; cases idle
          | bound phase => rw [phase] at idle; cases idle
          | half phase => rw [phase] at idle; cases idle
          | connected phase => rw [phase] at idle; cases idle
          | failed phase => rw [phase] at idle; cases idle

theorem acceptTransport
    (facts : QuicHandshakeFacts)
    (exporter : PlanHash) :
    Keeps maximumBytes maximumRecords
      (log ++
        [(.acceptTransport facts exporter,
          (gate.perform (.acceptTransport facts exporter)).1)])
      (gate.perform (.acceptTransport facts exporter)).2 := by
  simp only [perform, AuthenticatedLinkGate.acceptTransport]
  split
  · exact keeps.refuse rfl (by simp [AuthenticatedLinkGate.fail])
  next paired =>
    have paired : gate.phase = .pairAccepted := not_not.1 paired
    split
    · exact keeps.refuse rfl (by simp [AuthenticatedLinkGate.fail])
    next exported =>
      split
      · exact keeps.refuse rfl (by simp [AuthenticatedLinkGate.fail])
      next verified =>
        have verified : Verifies gate.start facts exporter :=
          ⟨by simpa using exported, not_not.1 verified⟩
        cases keeps.progress with
        | paired phase taken unready marked valid =>
            rw [marked.authenticate]
            simp only [reduceCtorEq, if_false]
            refine
              keeps.advance
                ⟨keeps.bounded.byteLimit, keeps.bounded.recordLimit,
                  keeps.bounded.counted, keeps.bounded.bytes, keeps.bounded.records⟩
                ?_ (by simp [paired]) (by simp [paired]) (by simp) marked.released rfl
                rfl (by simp)
            rw [taken]
            exact
              .transported rfl facts rfl unready
                { marked with transport := rfl } valid verified
        | idle phase => rw [phase] at paired; cases paired
        | transported phase => rw [phase] at paired; cases paired
        | bound phase => rw [phase] at paired; cases paired
        | half phase => rw [phase] at paired; cases paired
        | connected phase => rw [phase] at paired; cases paired
        | failed phase => rw [phase] at paired; cases paired

theorem acceptChannelBind
    (bind : LinkChannelBind) :
    Keeps maximumBytes maximumRecords
      (log ++
        [(.acceptChannelBind bind, (gate.perform (.acceptChannelBind bind)).1)])
      (gate.perform (.acceptChannelBind bind)).2 := by
  simp only [perform, AuthenticatedLinkGate.acceptChannelBind]
  split
  · exact keeps.refuse rfl (by simp [AuthenticatedLinkGate.fail])
  next authenticated =>
    have authenticated : gate.phase = .transportAuthenticated :=
      not_not.1 authenticated
    split
    · exact keeps.refuse rfl (by simp [AuthenticatedLinkGate.fail])
    next matching =>
      have matching : matchesBind gate.start gate.exporter bind = true := by
        simpa using matching
      cases keeps.progress with
      | transported phase facts taken unready marked valid verified =>
          rw [marked.bind]
          simp only [reduceCtorEq, if_false]
          refine
            keeps.advance
              ⟨keeps.bounded.byteLimit, keeps.bounded.recordLimit,
                keeps.bounded.counted, keeps.bounded.bytes, keeps.bounded.records⟩
              ?_ (by simp [authenticated]) (by simp [authenticated]) (by simp)
              marked.released rfl rfl (by simp)
          rw [taken]
          exact
            .bound rfl facts bind rfl unready { marked with bound := rfl } valid
              verified matching
      | idle phase => rw [phase] at authenticated; cases authenticated
      | paired phase => rw [phase] at authenticated; cases authenticated
      | bound phase => rw [phase] at authenticated; cases authenticated
      | half phase => rw [phase] at authenticated; cases authenticated
      | connected phase => rw [phase] at authenticated; cases authenticated
      | failed phase => rw [phase] at authenticated; cases authenticated

theorem acceptLinkReady
    (sender : Option PairRole) :
    Keeps maximumBytes maximumRecords
      (log ++
        [(.acceptLinkReady sender, (gate.perform (.acceptLinkReady sender)).1)])
      (gate.perform (.acceptLinkReady sender)).2 := by
  cases sender with
  | none => exact keeps.refuse rfl (by simp)
  | some sender =>
      by_cases atBound : gate.phase = .bound
      swap
      · have refused :
            gate.acceptLinkReady (some sender) = gate.fail .protocolViolation := by
          simp [AuthenticatedLinkGate.acceptLinkReady, atBound]
        rw [perform, refused]
        exact keeps.refuse rfl (by simp [AuthenticatedLinkGate.fail])
      cases fresh : gate.readyOf sender with
      | true =>
          have refused :
              gate.acceptLinkReady (some sender) = gate.fail .protocolViolation := by
            simp [AuthenticatedLinkGate.acceptLinkReady, atBound, fresh]
          rw [perform, refused]
          exact keeps.refuse rfl (by simp [AuthenticatedLinkGate.fail])
      | false =>
          cases keeps.progress with
          | bound phase facts bind taken unready marked valid verified matching =>
              rw [perform, acceptLinkReady_first atBound unready marked]
              refine
                keeps.advance
                  ⟨keeps.bounded.byteLimit, keeps.bounded.recordLimit,
                    keeps.bounded.counted, keeps.bounded.bytes,
                    keeps.bounded.records⟩
                  ?_ (by simp [atBound]) (by simp [atBound]) (by simp [atBound])
                  marked.released rfl rfl (by simp)
              rw [taken]
              have readies := setReady_one unready sender
              refine
                .half (by simp [atBound]) facts bind sender ?_ ?_ ?_
                  ⟨marked.failed, marked.released, marked.transport, marked.bound,
                    by simp, by simp⟩
                  (by simpa using valid) (by simpa using verified)
                  (by simpa using matching)
              · simp [activation, isActivation]
              · rw [readyOf_prebind, readies]
                exact decide_eq_true rfl
              · rw [readyOf_prebind, readies]
                cases sender <;> rfl
          | half phase facts bind first taken ready unready marked valid verified
              matching =>
              obtain ⟨rfl, -⟩ := setReady_other ready fresh
              rw [perform, acceptLinkReady_second atBound ready fresh marked]
              refine
                keeps.advance
                  ⟨keeps.bounded.byteLimit, keeps.bounded.recordLimit,
                    keeps.bounded.counted, keeps.bounded.bytes,
                    keeps.bounded.records⟩
                  ?_ (by simp [atBound]) (by simp [atBound]) (by simp)
                  marked.released rfl rfl (by simp)
              rw [taken]
              exact
                .connected rfl
                  ⟨gate.start, facts, gate.exporter, bind, first, rfl, valid, verified,
                    matching⟩
                  (.inl
                    ⟨marked.failed, marked.released, marked.transport, marked.bound, rfl,
                      rfl⟩)
          | idle phase => rw [phase] at atBound; cases atBound
          | paired phase => rw [phase] at atBound; cases atBound
          | transported phase => rw [phase] at atBound; cases atBound
          | connected phase => rw [phase] at atBound; cases atBound
          | failed phase => rw [phase] at atBound; cases atBound

theorem enqueuePrebind
    (streamId streamSequence : Nat)
    (frame : OwnedAppFrame) :
    Keeps maximumBytes maximumRecords
      (log ++
        [(.enqueuePrebind streamId streamSequence frame,
          (gate.perform (.enqueuePrebind streamId streamSequence frame)).1)])
      (gate.perform (.enqueuePrebind streamId streamSequence frame)).2 := by
  simp only [perform, AuthenticatedLinkGate.enqueuePrebind]
  split
  · exact keeps.idle rfl rfl (by simp)
  split
  · exact keeps.idle rfl rfl (by simp)
  next started waiting =>
    obtain ⟨live, before⟩ := not_or.1 waiting
    have bounded := keeps.bounded.enqueue streamId streamSequence frame
    rcases gate.prebind.enqueue_cases streamId streamSequence frame with
      ⟨result, same, refused⟩ | ⟨result, failed, violation⟩ | ⟨queued, -, -⟩
    · rw [same]
      rcases refused with rfl | rfl
      · exact keeps.idle rfl rfl (by simp [mapQueue])
      · exact keeps.idle rfl rfl (by simp [mapQueue])
    · rw [failed] at bounded ⊢
      rcases violation with rfl | rfl
      · exact keeps.fail bounded rfl id rfl (by simp [mapQueue, PreBindRecordQueue.fail])
      · exact keeps.fail bounded rfl id rfl (by simp [mapQueue, PreBindRecordQueue.fail])
    · rw [queued] at bounded ⊢
      simp only [reduceCtorEq, or_self, if_false, mapQueue]
      refine ⟨bounded, ?_, ?_, keeps.gated.append (by simp)⟩
      · rw [activation_append]
        simpa [activation, isActivation] using keeps.progress.restock ⟨_, _, _, rfl⟩
      · cases keeps.stock with
        | held live unreleased nothing unanswered records =>
            refine
              .held live unreleased (by simp [nothing, output_silent])
                (unanswered_append unanswered (by simp)) ?_
            rw [accepted_append, ← records]
            rfl
        | handed ended released all =>
            rcases ended with connected | failed
            · exact (before connected).elim
            · exact (live failed).elim
        | lost phase => exact (live phase).elim

theorem releasePrebind
    (output : Bool) :
    Keeps maximumBytes maximumRecords
      (log ++
        [(.releasePrebind output, (gate.perform (.releasePrebind output)).1)])
      (gate.perform (.releasePrebind output)).2 := by
  simp only [perform, AuthenticatedLinkGate.releasePrebind]
  split
  · exact keeps.idle rfl rfl (by simp)
  next live =>
    cases keeps.progress with
    | idle phase taken unready marked => exact keeps.blocked marked rfl output
    | paired phase taken unready marked => exact keeps.blocked marked rfl output
    | transported phase facts taken unready marked =>
        exact keeps.blocked marked rfl output
    | bound phase facts bind taken unready marked =>
        exact keeps.blocked marked rfl output
    | half phase facts bind first taken ready unready marked =>
        refine keeps.blocked marked ?_ output
        cases first <;> cases gate.start.pair.localRole <;> rfl
    | connected phase activated opened =>
        rcases opened with marked | released
        · cases output with
          | false => exact keeps.idle rfl rfl (by simp [PreBindRecordQueue.release, mapQueue])
          | true =>
              rw [marked.release_open]
              have bounded := keeps.bounded.release true
              rw [marked.release_open] at bounded
              refine ⟨bounded, ?_, ?_, keeps.gated.append fun _ => activated⟩
              · rw [activation_append]
                simp only [activation, isActivation, List.filter_cons, List.filter_nil,
                  Bool.false_eq_true, if_false, List.append_nil]
                exact .connected phase activated (.inr rfl)
              · cases keeps.stock with
                | held _ unreleased nothing unanswered records =>
                    refine .handed (.inl phase) rfl ?_
                    rw [output_append, nothing, accepted_append, ← records]
                    simp [GateLog.output, accepted]
                | handed ended released all =>
                    rw [marked.released] at released
                    cases released
                | lost failed => exact (live failed).elim
        · have again :
              gate.prebind.release output =
                ((gate.prebind.release output).1, [], gate.prebind) :=
            Prod.ext rfl (release_again released output)
          rw [again]
          have steps :
              activation
                  (log ++
                    [(.releasePrebind output,
                      { result := mapQueue (gate.prebind.release output).1 })]) =
                activation log := by
            simp [activation, isActivation]
          refine ⟨keeps.bounded, ?_, ?_, keeps.gated.append fun _ => activated⟩
          · rw [steps]
            exact keeps.progress
          · cases keeps.stock with
            | held _ unreleased =>
                rw [released] at unreleased
                cases unreleased
            | handed ended _ all =>
                refine .handed ended released ?_
                rw [output_append, accepted_append, all]
                rfl
            | lost failed => exact (live failed).elim
    | failed phase => exact (live phase).elim

end Keeps

variable {maximumBytes maximumRecords : Nat}

theorem keeps_create :
    Keeps maximumBytes maximumRecords [] (create maximumBytes maximumRecords) :=
  ⟨⟨rfl, rfl, rfl, Nat.zero_le _, Nat.zero_le _⟩,
    .idle rfl rfl ⟨rfl, rfl⟩ ⟨rfl, rfl, rfl, rfl, rfl, rfl⟩,
    .held (by simp [create]) rfl rfl (by simp) rfl,
    fun before call answer later split => by simp at split⟩

theorem Keeps.perform
    (keeps : Keeps maximumBytes maximumRecords log gate)
    (call : GateCall) :
    Keeps maximumBytes maximumRecords (log ++ [(call, (gate.perform call).1)])
      (gate.perform call).2 := by
  cases call with
  | begin start => exact keeps.begin start
  | enqueuePrebind streamId streamSequence frame =>
      exact keeps.enqueuePrebind streamId streamSequence frame
  | acceptTransport facts exporter => exact keeps.acceptTransport facts exporter
  | acceptChannelBind bind => exact keeps.acceptChannelBind bind
  | acceptLinkReady sender => exact keeps.acceptLinkReady sender
  | releasePrebind output => exact keeps.releasePrebind output

theorem run_append
    (gate : AuthenticatedLinkGate)
    (calls : List GateCall)
    (call : GateCall) :
    gate.run (calls ++ [call]) =
      ((gate.run calls).1 ++ [(call, ((gate.run calls).2.perform call).1)],
        ((gate.run calls).2.perform call).2) := by
  simp [run]

theorem keeps_run (calls : List GateCall) :
    Keeps maximumBytes maximumRecords
      ((create maximumBytes maximumRecords).run calls).1
      ((create maximumBytes maximumRecords).run calls).2 := by
  induction calls using List.reverseRecOn with
  | nil => exact keeps_create
  | append_singleton calls call keeps =>
      rw [run_append]
      exact keeps.perform call

/-- A failed gate stays failed and hands out nothing. -/
theorem perform_failed
    (failed : gate.phase = .failed)
    (call : GateCall) :
    (gate.perform call).2.phase = .failed ∧ (gate.perform call).1.output = [] := by
  cases call with
  | begin start =>
      simp [perform, AuthenticatedLinkGate.begin, AuthenticatedLinkGate.fail, failed]
  | enqueuePrebind streamId streamSequence frame =>
      simp [perform, AuthenticatedLinkGate.enqueuePrebind, failed]
  | acceptTransport facts exporter =>
      simp [perform, AuthenticatedLinkGate.acceptTransport, AuthenticatedLinkGate.fail,
        failed]
  | acceptChannelBind bind =>
      simp [perform, AuthenticatedLinkGate.acceptChannelBind,
        AuthenticatedLinkGate.fail, failed]
  | acceptLinkReady sender =>
      cases sender <;>
        simp [perform, AuthenticatedLinkGate.acceptLinkReady,
          AuthenticatedLinkGate.fail, failed]
  | releasePrebind output =>
      simp [perform, AuthenticatedLinkGate.releasePrebind, failed]

theorem run_failed
    {calls : List GateCall}
    (failed : (gate.run calls).2.isFailed = true)
    (more : List GateCall) :
    (gate.run (calls ++ more)).2.isFailed = true ∧
      output (gate.run (calls ++ more)).1 = output (gate.run calls).1 := by
  induction more using List.reverseRecOn with
  | nil => simpa using failed
  | append_singleton more call inductionHypothesis =>
      obtain ⟨stillFailed, same⟩ := inductionHypothesis
      obtain ⟨fails, silent⟩ :=
        perform_failed (by simpa [isFailed] using stillFailed) call
      rw [← List.append_assoc, run_append]
      refine ⟨by simpa [isFailed] using fails, ?_⟩
      rw [output_append, same]
      simp [GateLog.output, silent]

/-- A connected gate hands out on the first call that gives it a vector. -/
theorem release_connected
    (keeps : Keeps maximumBytes maximumRecords log gate)
    (connected : gate.isConnected = true) :
    output (log ++ [(.releasePrebind true, (gate.perform (.releasePrebind true)).1)]) =
      accepted log := by
  have phase : gate.phase = .connected := by simpa [isConnected] using connected
  cases keeps.progress with
  | connected _ activated opened =>
      rcases opened with marked | released
      · cases keeps.stock with
        | held _ _ nothing _ records =>
            rw [output_append, nothing, ← records]
            simp [GateLog.output, AuthenticatedLinkGate.perform,
              AuthenticatedLinkGate.releasePrebind, phase, marked.release_open]
        | handed _ released =>
            rw [marked.released] at released
            cases released
        | lost failed => rw [phase] at failed; cases failed
      · cases keeps.stock with
        | held _ unreleased =>
            rw [released] at unreleased
            cases unreleased
        | handed _ _ all =>
            rw [output_append, all]
            simp [GateLog.output, AuthenticatedLinkGate.perform,
              AuthenticatedLinkGate.releasePrebind, phase,
              release_again released true]
        | lost failed => rw [phase] at failed; cases failed
  | idle other => rw [phase] at other; cases other
  | paired other => rw [phase] at other; cases other
  | transported other => rw [phase] at other; cases other
  | bound other => rw [phase] at other; cases other
  | half other => rw [phase] at other; cases other
  | failed other => rw [phase] at other; cases other

/--
Every run of a gate: records are handed out after a whole activation only, whose
steps were all accepted; what is handed out over the run is nothing, or all
accepted records in their order, each once, and a connected gate hands them out
when it is asked; what the queue holds stays within both limits; and a failed gate
stays failed and hands out nothing more.
-/
theorem prebind_release
    (maximumBytes maximumRecords : Nat)
    (calls : List GateCall) :
    let gate := create maximumBytes maximumRecords
    (∀ before call answer later,
      (gate.run calls).1 = before ++ (call, answer) :: later →
      (answer.output ≠ [] ∨ answer.result = .released) →
      Activated (activation before)) ∧
    (output (gate.run calls).1 = accepted (gate.run calls).1 ∨
      output (gate.run calls).1 = [] ∧
        ∀ entry ∈ (gate.run calls).1, entry.2.result ≠ .released) ∧
    ((gate.run calls).2.isConnected = true →
      output (gate.run (calls ++ [.releasePrebind true])).1 =
        accepted (gate.run calls).1) ∧
    (gate.run calls).2.prebind.bytes =
        ((gate.run calls).2.prebind.records.map QueuedAppRecord.recordBytes).sum ∧
    (gate.run calls).2.prebind.bytes ≤ maximumBytes ∧
    (gate.run calls).2.prebind.records.length ≤ maximumRecords ∧
    ((gate.run calls).2.isFailed = true →
      ∀ more,
        (gate.run (calls ++ more)).2.isFailed = true ∧
        output (gate.run (calls ++ more)).1 = output (gate.run calls).1) := by
  intro gate
  have keeps :
      Keeps maximumBytes maximumRecords (gate.run calls).1 (gate.run calls).2 :=
    keeps_run calls
  refine ⟨keeps.gated, ?_, ?_, keeps.bounded.counted, keeps.bounded.bytes,
    keeps.bounded.records, run_failed⟩
  · cases keeps.stock with
    | held _ _ nothing unanswered => exact .inr ⟨nothing, unanswered⟩
    | handed _ _ all => exact .inl all
    | lost _ nothing unanswered => exact .inr ⟨nothing, unanswered⟩
  · intro connected
    rw [run_append]
    exact release_connected keeps connected

/-! A link whose listener answers, with one record that arrived early. -/

def sampleEvidence : VerifiedPairEvidence :=
  VerifiedPairEvidence.sealForAuthenticatedPipeline
    { localRole := .initiator
      generation := 1
      transcript := Block.copy 32 [1]
      initiatorReveal := Block.copy 32 [2]
      responderReveal := Block.copy 32 [3]
      initiatorCapability := Block.copy 32 [4]
      responderCapability := Block.copy 32 [5]
      initiatorSummary := Block.zero 512
      responderSummary := Block.zero 512
      authenticationSeal := Block.zero 32 }

def sampleLinkStart : LinkActivationStart where
  pair := sampleEvidence
  sessionId := Block.copy 16 [6]
  reconnectTranscriptHash := Block.zero 32
  quicListenerRole := .responder
  listenerDerSpkiHash := Block.copy 32 [7]

def sampleFacts : QuicHandshakeFacts where
  tlsMajor := 1
  tlsMinor := 3
  fullHandshake := true
  pinVerifierInvoked := true
  peerCertificateVerified := true
  resumed := false
  zeroRtt := false
  alpn := Block.copy 32 kAlpn
  derSpkiHash := Block.copy 32 [7]

def sampleFrame : OwnedAppFrame where
  frameTypeTag := 1
  typeNamespace := .objectKind
  typeName := "record"
  objectBytes := [1, 2, 3]
  objectHash := Block.zero 32
  appFrameHash := Block.zero 32

def sampleCalls : List GateCall :=
  [.begin (some sampleLinkStart),
    .enqueuePrebind 1 1 sampleFrame,
    .acceptTransport sampleFacts (Block.copy 32 [8]),
    .acceptChannelBind
      { pairTranscriptHash := sampleEvidence.transcript
        sessionId := sampleLinkStart.sessionId
        reconnectTranscriptHash := sampleLinkStart.reconnectTranscriptHash
        channelId := expectedChannelId sampleLinkStart (Block.copy 32 [8]) },
    .acceptLinkReady (some .responder),
    .acceptLinkReady (some .initiator)]

theorem sample_release :
    output ((create 64 4).run (sampleCalls ++ [.releasePrebind true])).1 =
      accepted ((create 64 4).run sampleCalls).1 :=
  (prebind_release 64 4 sampleCalls).2.2.1 (by decide +kernel)

end AuthenticatedLinkGate

end FlyNes.Pair
