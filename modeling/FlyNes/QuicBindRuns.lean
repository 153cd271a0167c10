import FlyNes.QuicBindStreams

namespace FlyNes.Wire

open ByteString

/-!
# Runs of the gate

The calls on one stream make up its language: every call continues those before it, and
in the end both sides have finished and sent all that is expected of them.  While a
stream is being used the gate has read of each side what the calls have brought; it
fails as soon as no further calls could complete the stream.
-/

/-! ### The language -/

def GateCall.bytesFrom (side : TlsSide) : GateCall → Bytes
  | .data _ sender bytes => if sender = side then bytes else []
  | _ => []

/-- The bytes that a side has sent in some calls. -/
def sent (side : TlsSide) (calls : List GateCall) : Bytes :=
  calls.flatMap (·.bytesFrom side)

/-- A side may speak on a stream until it has finished, the listener behind the preamble. -/
structure Speaks
    (streamId : UInt64)
    (earlier : List GateCall)
    (sender : TlsSide) : Prop where
  valid : validSide sender = true
  unfinished : .finish streamId sender ∉ earlier
  heard : sender = .listener → 8 ≤ (sent .connector earlier).length

/-- The calls on a stream that may come behind others. -/
inductive Continues
    (phase : GatePhase)
    (streamId : UInt64)
    (earlier : List GateCall) : GateCall → Prop where
  | data
      {sender : TlsSide}
      {bytes : Bytes}
      (speaks : Speaks streamId earlier sender) :
      Continues phase streamId earlier (.data streamId sender bytes)
  | finish
      {sender : TlsSide}
      (speaks : Speaks streamId earlier sender)
      (last :
        phase = .bind → sender = .listener → .finish streamId .connector ∈ earlier) :
      Continues phase streamId earlier (.finish streamId sender)

/-- The calls behind the opening of a stream that make it complete. -/
structure Complete
    (phase : GatePhase)
    (initiatorIsConnector : Bool)
    (streamId : UInt64)
    (calls : List GateCall) : Prop where
  ordered : Chronology.Every (Continues phase streamId) calls
  finished : ∀ side, validSide side = true → .finish streamId side ∈ calls
  sent :
    ∀ side, validSide side = true →
      Transmission phase initiatorIsConnector side (sent side calls)

/-- The first bytes of a side, up to the preamble and as far as the records are whole. -/
def Leads
    (phase : GatePhase)
    (initiatorIsConnector : Bool)
    (side : TlsSide)
    (bytes : Bytes) : Prop :=
  (side = .connector ∧ bytes.length < 8) ∨
    ∃ rest,
      bytes = lead phase side ++ rest ∧
        Settled (expectedRecords phase initiatorIsConnector side) rest

/-- Calls that the gate takes, whether or not they can still be completed. -/
structure Orderly
    (phase : GatePhase)
    (initiatorIsConnector : Bool)
    (streamId : UInt64)
    (calls : List GateCall) : Prop where
  ordered : Chronology.Every (Continues phase streamId) calls
  begins :
    ∀ side, validSide side = true →
      Leads phase initiatorIsConnector side (sent side calls)
  finished :
    ∀ side, validSide side = true → .finish streamId side ∈ calls →
      Transmission phase initiatorIsConnector side (sent side calls)

theorem Complete.orderly
    {phase : GatePhase}
    {initiatorIsConnector : Bool}
    {streamId : UInt64}
    {calls : List GateCall}
    (complete : Complete phase initiatorIsConnector streamId calls) :
    Orderly phase initiatorIsConnector streamId calls where
  ordered := complete.ordered
  begins side valid := by
    obtain ⟨rows, shape, records⟩ := complete.sent side valid
    exact Or.inr ⟨rows, shape, records.settled⟩
  finished side valid _ := complete.sent side valid

/-- What has come before the bind stream: on a reconnect a complete prebind stream. -/
inductive Introduced
    (kind : BindingKind)
    (initiatorIsConnector : Bool) : UInt64 → List GateCall → Prop where
  | fresh (other : kind ≠ .samePathReconnect) :
      Introduced kind initiatorIsConnector 0 []
  | reconnect
      {streamId : UInt64}
      {calls : List GateCall}
      (same : kind = .samePathReconnect)
      (named : streamId ≠ 0)
      (complete : Complete .prebind initiatorIsConnector streamId calls) :
      Introduced kind initiatorIsConnector streamId (.openBidi streamId .connector :: calls)

/-- The calls that bind a channel. -/
inductive Binds
    (kind : BindingKind)
    (initiatorIsConnector : Bool) : List GateCall → Prop where
  | bind
      {priorStreamId streamId : UInt64}
      {front calls : List GateCall}
      (introduced : Introduced kind initiatorIsConnector priorStreamId front)
      (named : streamId ≠ 0)
      (other : streamId ≠ priorStreamId)
      (complete : Complete .bind initiatorIsConnector streamId calls) :
      Binds kind initiatorIsConnector
        (front ++ .openBidi streamId .connector :: calls)

/-- A call that a bound gate answers with `closed`. -/
def Ignored : GateCall → Prop
  | .openBidi _ _ => False
  | .data _ sender _ => validSide sender = true
  | .finish _ sender => validSide sender = true

section Sent

variable {side sender : TlsSide}
variable {streamId : UInt64}
variable {bytes : Bytes}
variable {first second calls : List GateCall}

@[simp] theorem sent_append :
    sent side (first ++ second) = sent side first ++ sent side second :=
  List.flatMap_append

@[simp] theorem sent_cons {call : GateCall} :
    sent side (call :: calls) = call.bytesFrom side ++ sent side calls :=
  rfl

@[simp] theorem sent_nil : sent side [] = [] :=
  rfl

@[simp] theorem bytesFrom_finish :
    (GateCall.finish streamId sender).bytesFrom side = [] :=
  rfl

theorem bytesFrom_data :
    (GateCall.data streamId sender bytes).bytesFrom side =
      if sender = side then bytes else [] :=
  rfl

/-- A side that has finished sends nothing later. -/
theorem sent_behind_finish
    {phase : GatePhase}
    {back : List GateCall}
    (ordered :
      Chronology.Every (Continues phase streamId) (calls ++ .finish streamId side :: back)) :
    sent side back = [] := by
  unfold sent
  rw [List.flatMap_eq_nil_iff]
  intro call member
  obtain ⟨before, after, rfl⟩ := List.append_of_mem member
  have continues :=
    ordered (calls ++ .finish streamId side :: before) call after (by simp)
  cases continues with
  | finish => rfl
  | @data sender bytes speaks =>
      rw [bytesFrom_data]
      split
      next same =>
        subst same
        exact absurd (by simp) speaks.unfinished
      · rfl

end Sent

/-! ### A stream in use -/

namespace QuicStreamGate

/-- What the gate has of a stream after the calls on it, until both sides finish. -/
structure Streaming
    (gate : QuicStreamGate)
    (streamId : UInt64)
    (calls : List GateCall) : Prop where
  named : gate.streamId = streamId
  phase : gate.phase = .prebind ∨ gate.phase = .bind
  ordered : Chronology.Every (Continues gate.phase streamId) calls
  fin :
    ∀ side, validSide side = true →
      ((gate.direction side).fin = true ↔ .finish streamId side ∈ calls)
  running : gate.connector.fin = false ∨ gate.listener.fin = false
  ended :
    ∀ side, validSide side = true → (gate.direction side).fin = true →
      Transmission gate.phase gate.initiatorIsConnector side (sent side calls)
  waiting :
    gate.preambleComplete = false →
      gate.connector.fin = false ∧ gate.listener.fin = false ∧
        gate.connector.recordIndex = 0 ∧
        sent .connector calls = gate.connector.bytes ∧ gate.connector.bytes.length < 8
  reading :
    ∀ side, validSide side = true → (side = .connector → gate.preambleComplete = true) →
      Reading (gate.records side) (lead gate.phase side) (sent side calls)
        (gate.direction side)

/-- What a call does on a stream: it fails for good, goes on or completes the stream. -/
inductive Streams
    (gate : QuicStreamGate)
    (streamId : UInt64)
    (calls : List GateCall)
    (call : GateCall) : QuicStreamGate → Prop where
  | failed
      {after : QuicStreamGate}
      (failed : after.phase = .failed)
      (dead :
        ∀ back,
          ¬ Orderly gate.phase gate.initiatorIsConnector streamId (calls ++ call :: back)) :
      Streams gate streamId calls call after
  | streaming
      {after : QuicStreamGate}
      (streaming : after.Streaming streamId (calls ++ [call]))
      (phase : after.phase = gate.phase)
      (role : after.initiatorIsConnector = gate.initiatorIsConnector)
      (prior : after.priorStreamId = gate.priorStreamId) :
      Streams gate streamId calls call after
  | completed
      {after : QuicStreamGate}
      (complete :
        Complete gate.phase gate.initiatorIsConnector streamId (calls ++ [call]))
      (phase : after.phase = if gate.phase = .prebind then .expectBind else .bound)
      (role : after.initiatorIsConnector = gate.initiatorIsConnector)
      (prior : after.priorStreamId = streamId) :
      Streams gate streamId calls call after

section Directions

variable {gate : QuicStreamGate}
variable {side sender : TlsSide}
variable {value : GateDirection}

@[simp] theorem setDirection_phase : (gate.setDirection sender value).phase = gate.phase := by
  unfold setDirection
  split <;> rfl

@[simp] theorem setDirection_role :
    (gate.setDirection sender value).initiatorIsConnector = gate.initiatorIsConnector := by
  unfold setDirection
  split <;> rfl

@[simp] theorem setDirection_streamId :
    (gate.setDirection sender value).streamId = gate.streamId := by
  unfold setDirection
  split <;> rfl

@[simp] theorem setDirection_priorStreamId :
    (gate.setDirection sender value).priorStreamId = gate.priorStreamId := by
  unfold setDirection
  split <;> rfl

@[simp] theorem setDirection_preambleComplete :
    (gate.setDirection sender value).preambleComplete = gate.preambleComplete := by
  unfold setDirection
  split <;> rfl

@[simp] theorem direction_setDirection :
    (gate.setDirection sender value).direction sender = value := by
  unfold setDirection direction
  split <;> rfl

theorem direction_setDirection_of_ne
    (valid : validSide side = true)
    (validSender : validSide sender = true)
    (other : sender ≠ side) :
    (gate.setDirection sender value).direction side = gate.direction side := by
  cases side with
  | connector => simp [setDirection, direction, other]
  | listener =>
      cases sender with
      | connector => simp [setDirection, direction]
      | listener => exact absurd rfl other
      | unknown byte => simp [validSide] at validSender
  | unknown byte => simp [validSide] at valid

@[simp] theorem setDirection_records :
    (gate.setDirection sender value).records side = gate.records side := by
  simp [records]

end Directions

theorem rowLength_expectedRecords
    (phase : GatePhase)
    (initiatorIsConnector : Bool)
    (side : TlsSide) :
    rowLength (expectedRecords phase initiatorIsConnector side) ≤ 1375 := by
  unfold expectedRecords
  split
  · split <;> decide
  · split <;> decide

theorem length_lead (phase : GatePhase) (side : TlsSide) :
    (lead phase side).length = if side = .connector then 8 else 0 := by
  unfold lead preamble
  split
  · split <;> rfl
  · rfl

variable {phase : GatePhase} {initiatorIsConnector : Bool} {side : TlsSide} {bytes : Bytes}

theorem length_of_leads
    (begins : Leads phase initiatorIsConnector side bytes) :
    bytes.length < 2048 := by
  rcases begins with ⟨-, short⟩ | ⟨rest, rfl, settled⟩
  · omega
  · have row := rowLength_expectedRecords phase initiatorIsConnector side
    have length := settled.length_lt
    rw [List.length_append, length_lead]
    split <;> omega

theorem behind_lead
    (begins : Leads phase initiatorIsConnector side bytes)
    (long : side = .connector → 8 ≤ bytes.length) :
    ∃ rest,
      bytes = lead phase side ++ rest ∧
        Settled (expectedRecords phase initiatorIsConnector side) rest := by
  rcases begins with ⟨connector, short⟩ | settled
  · exact absurd (long connector) (Nat.not_le.mpr short)
  · exact settled

section Calls

variable {gate : QuicStreamGate}
variable {streamId : UInt64}
variable {calls : List GateCall}

theorem parseDirection_cases
    {sender : TlsSide}
    {value : GateDirection}
    {front total read : Bytes}
    {done left : List ExpectedRecord}
    (reads : Reads (gate.records sender) front total value done left read) :
    ((gate.parseDirection value sender).2.phase = .failed ∧
        ∀ rest more, total ++ more = front ++ rest →
          ¬ Settled (gate.records sender) rest) ∨
      ∃ next,
        (gate.parseDirection value sender).2 = gate.setDirection sender next ∧
          next.fin = value.fin ∧ Reading (gate.records sender) front total next := by
  unfold parseDirection
  dsimp only
  rw [reads.drop]
  rcases reads.goesOn false with ⟨refused, dead⟩ | ⟨fine, fin, reading⟩
  · rw [if_pos refused]
    exact Or.inl ⟨rfl, dead⟩
  · rw [if_neg fine]
    exact Or.inr ⟨_, rfl, fin, reading⟩

/-- The bytes that a direction holds are the last that have come. -/
theorem Streaming.length_le
    (streaming : gate.Streaming streamId calls)
    {sender : TlsSide}
    (valid : validSide sender = true) :
    (gate.direction sender).bytes.length ≤ (sent sender calls).length := by
  by_cases ready : sender = .connector → gate.preambleComplete = true
  · obtain ⟨done, left, read, reads, -⟩ := streaming.reading sender valid ready
    rw [reads.shape, List.length_append, List.length_append]
    omega
  · rw [Classical.not_imp, Bool.not_eq_true] at ready
    obtain ⟨rfl, incomplete⟩ := ready
    obtain ⟨-, -, -, same, -⟩ := streaming.waiting incomplete
    exact Nat.le_of_eq (congrArg List.length same.symm)

theorem Streaming.heard
    (streaming : gate.Streaming streamId calls)
    (ready : gate.preambleComplete = true) :
    8 ≤ (sent .connector calls).length := by
  obtain ⟨done, left, read, reads, -⟩ := streaming.reading .connector rfl fun _ => ready
  rw [reads.shape, List.length_append, length_lead, if_pos rfl]
  exact Nat.le_add_right 8 _

/-- The gate has taken the bytes of a call that continues the stream. -/
theorem Streaming.hear
    (streaming : gate.Streaming streamId calls)
    {sender : TlsSide}
    {bytes : Bytes}
    (speaks : Speaks streamId calls sender)
    {next : GateDirection}
    (fin : next.fin = (gate.direction sender).fin)
    {flag : Bool}
    (keep : flag = gate.preambleComplete ∨ (flag = true ∧ sender = .connector))
    (waits :
      flag = false →
        sender = .connector ∧ next.recordIndex = 0 ∧
          sent .connector calls ++ bytes = next.bytes ∧ next.bytes.length < 8)
    (reads :
      flag = true →
        Reading (gate.records sender) (lead gate.phase sender)
          (sent sender calls ++ bytes) next) :
    ({ gate with preambleComplete := flag }.setDirection sender next).Streaming streamId
      (calls ++ [GateCall.data streamId sender bytes]) := by
  have directions (side : TlsSide) (valid : validSide side = true) :
      (({ gate with preambleComplete := flag }.setDirection sender next).direction side).fin =
        (gate.direction side).fin := by
    by_cases same : sender = side
    · rw [← same, direction_setDirection, fin]
    · rw [direction_setDirection_of_ne valid speaks.valid same]
      rfl
  have connectorFin := directions .connector rfl
  have listenerFin := directions .listener rfl
  have unfinished : (gate.direction sender).fin = false := by
    rw [Bool.eq_false_iff]
    exact fun finished => speaks.unfinished ((streaming.fin sender speaks.valid).mp finished)
  constructor
  · simpa using streaming.named
  · simpa using streaming.phase
  · rw [setDirection_phase]
    exact streaming.ordered.concat (.data speaks)
  · intro side valid
    rw [directions side valid, streaming.fin side valid]
    simp
  · change ((QuicStreamGate.direction _ .connector).fin = false ∨
      (QuicStreamGate.direction _ .listener).fin = false)
    rw [connectorFin, listenerFin]
    exact streaming.running
  · intro side valid finished
    rw [directions side valid] at finished
    have other : sender ≠ side := by
      rintro rfl
      rw [unfinished] at finished
      cases finished
    simpa [bytesFrom_data, other] using streaming.ended side valid finished
  · intro incomplete
    rw [setDirection_preambleComplete] at incomplete
    obtain ⟨rfl, index, shape, short⟩ := waits incomplete
    have before : gate.preambleComplete = false := by
      rcases keep with same | ⟨set, -⟩
      · exact same ▸ incomplete
      · exact absurd (set.symm.trans incomplete) (by decide)
    obtain ⟨connector, listener, -⟩ := streaming.waiting before
    exact ⟨connectorFin.trans connector, listenerFin.trans listener, index,
      by simpa [bytesFrom_data, setDirection] using shape, short⟩
  · intro side valid ready
    rw [setDirection_preambleComplete] at ready
    by_cases same : sender = side
    · subst same
      have set : flag = true := by
        by_cases connector : sender = .connector
        · exact ready connector
        · rw [← Bool.not_eq_false]
          exact fun unset => connector (waits unset).1
      simpa [bytesFrom_data, records] using reads set
    · rw [direction_setDirection_of_ne valid speaks.valid same]
      have before : side = .connector → gate.preambleComplete = true := by
        intro connector
        rcases keep with kept | ⟨-, sender⟩
        · exact kept ▸ ready connector
        · exact absurd (sender.trans connector.symm) same
      simpa [bytesFrom_data, same, records, direction] using
        streaming.reading side valid before

/-- A call that does not continue the stream can not be a part of a complete one. -/
theorem Streams.stray
    {call : GateCall}
    {after : QuicStreamGate}
    (failed : after.phase = .failed)
    (stray : ¬ Continues gate.phase streamId calls call) :
    gate.Streams streamId calls call after :=
  .failed failed fun back orderly => stray (orderly.ordered calls call back rfl)

theorem Streaming.data
    (streaming : gate.Streaming streamId calls)
    (stream : UInt64)
    (sender : TlsSide)
    (bytes : Bytes) :
    gate.Streams streamId calls (.data stream sender bytes)
      (gate.data stream sender bytes).2 := by
  unfold QuicStreamGate.data
  split
  next invalid =>
    refine .stray rfl ?_
    rintro ⟨speaks⟩
    simp [speaks.valid] at invalid
  next known =>
    have valid : validSide sender = true := by simpa using known
    split
    next ended => rcases streaming.phase with phase | phase <;> simp [phase] at ended
    · split
      next wrong =>
        refine .stray rfl ?_
        rintro ⟨speaks⟩
        rcases wrong with phases | other | finished
        · rcases streaming.phase with phase | phase <;> simp [phase] at phases
        · exact other streaming.named.symm
        · exact speaks.unfinished ((streaming.fin sender valid).mp finished)
      next right =>
        simp only [not_or, not_and, not_not, Bool.not_eq_true] at right
        obtain ⟨-, same, going⟩ := right
        obtain rfl : streamId = stream := (same.trans streaming.named).symm
        have unfinished : GateCall.finish streamId sender ∉ calls := fun member => by
          rw [(streaming.fin sender valid).mpr member] at going
          cases going
        have total (back : List GateCall) :
            sent sender (calls ++ .data streamId sender bytes :: back) =
              sent sender calls ++ bytes ++ sent sender back := by
          simp [bytesFrom_data]
        dsimp only
        split
        next long =>
          refine .failed rfl fun back orderly => ?_
          have bound := length_of_leads (orderly.begins sender valid)
          have held := streaming.length_le valid
          rw [total, List.length_append, List.length_append] at bound
          omega
        next fits =>
          split
          next ready =>
            have speaks : Speaks streamId calls sender :=
              ⟨valid, unfinished, fun _ => streaming.heard ready⟩
            obtain ⟨done, left, read, reads, -⟩ :=
              streaming.reading sender valid fun _ => ready
            rcases parseDirection_cases (reads.append bytes) with
              ⟨failed, dead⟩ | ⟨next, is, fin, reading⟩
            · refine .failed failed fun back orderly => ?_
              have heard := streaming.heard ready
              obtain ⟨rest, shape, settled⟩ :=
                behind_lead (orderly.begins sender valid) fun connector => by
                  rw [total, connector, List.append_assoc, List.length_append]
                  omega
              rw [total] at shape
              exact dead rest _ shape settled
            · rw [is]
              refine .streaming ?_ (by simp) (by simp) (by simp)
              exact @Streaming.hear gate streamId calls streaming sender bytes speaks next fin
                gate.preambleComplete (Or.inl rfl)
                (fun unset => absurd (ready.symm.trans unset) (by decide))
                fun _ => reading
          next incomplete =>
            rw [Bool.not_eq_true] at incomplete
            obtain ⟨-, -, index, held, short⟩ := streaming.waiting incomplete
            split
            next other =>
              refine .stray rfl ?_
              rintro ⟨speaks⟩
              have listener : sender = .listener := by
                simpa [validSide, other] using valid
              have heard := speaks.heard listener
              rw [held] at heard
              omega
            next connector =>
              obtain rfl := not_not.mp connector
              have speaks : Speaks streamId calls .connector :=
                ⟨valid, unfinished, fun same => by cases same⟩
              split
              next few =>
                refine .streaming ?_ (by simp) (by simp) (by simp)
                exact @Streaming.hear gate streamId calls streaming .connector bytes speaks
                  { gate.connector with bytes := gate.connector.bytes ++ bytes } rfl
                  gate.preambleComplete (Or.inl rfl)
                  (fun _ => ⟨rfl, index, congrArg (· ++ bytes) held, few⟩)
                  fun set => absurd (incomplete.symm.trans set) (by decide)
              next many =>
                have enough : 8 ≤ (gate.connector.bytes ++ bytes).length := Nat.not_lt.mp many
                have begun (back : List GateCall)
                    (orderly :
                      Orderly gate.phase gate.initiatorIsConnector streamId
                        (calls ++ .data streamId .connector bytes :: back)) :
                    ∃ rest,
                      sent .connector calls ++ bytes ++ sent .connector back =
                          lead gate.phase .connector ++ rest ∧
                        Settled (gate.records .connector) rest := by
                  rw [← total]
                  refine behind_lead (orderly.begins .connector valid) fun _ => ?_
                  rw [total, held, List.length_append]
                  exact Nat.le_add_right_of_le enough
                split
                next other =>
                  refine .failed rfl fun back orderly => other ?_
                  obtain ⟨rows, shape, -⟩ := begun back orderly
                  rw [held] at shape
                  have front := congrArg (List.take 8) shape
                  rw [List.take_append_of_le_length enough] at front
                  have eight : (preamble gate.phase).length = 8 := length_lead gate.phase .connector
                  change List.take 8 (gate.connector.bytes ++ bytes) =
                    List.take 8 (preamble gate.phase ++ rows) at front
                  rw [← eight, List.take_left, eight] at front
                  exact front
                next agreed =>
                  have reads :
                      Reads
                        ({ gate with preambleComplete := true }.records .connector)
                        (lead gate.phase .connector) (sent .connector calls ++ bytes)
                        { gate.direction .connector with
                          bytes := ((gate.direction .connector).bytes ++ bytes).drop 8 }
                        [] (gate.records .connector) [] := by
                    refine ⟨rfl, ?_, rfl, index⟩
                    change _ = preamble gate.phase ++ _
                    rw [held, ← not_not.mp agreed]
                    exact (List.take_append_drop 8 _).symm
                  rcases parseDirection_cases reads with
                    ⟨failed, dead⟩ | ⟨next, is, fin, reading⟩
                  · refine .failed failed fun back orderly => ?_
                    obtain ⟨rest, shape, settled⟩ := begun back orderly
                    exact dead rest _ shape settled
                  · rw [is]
                    refine .streaming ?_ (by simp) (by simp) (by simp)
                    exact streaming.hear speaks fin (Or.inr ⟨rfl, rfl⟩)
                      (fun unset => by cases unset) fun _ => reading

/-- A side that finishes has sent all that is expected of it. -/
theorem transmission_of_orderly
    {phase : GatePhase}
    {initiatorIsConnector : Bool}
    {sender : TlsSide}
    {back : List GateCall}
    (orderly :
      Orderly phase initiatorIsConnector streamId (calls ++ .finish streamId sender :: back))
    (valid : validSide sender = true) :
    Transmission phase initiatorIsConnector sender (sent sender calls) := by
  have whole := orderly.finished sender valid (by simp)
  rw [sent_append, sent_cons, sent_behind_finish orderly.ordered, bytesFrom_finish,
    List.append_nil, List.append_nil] at whole
  exact whole

/-- A direction with all its records read finishes. -/
theorem Streaming.close
    (streaming : gate.Streaming streamId calls)
    (ready : gate.preambleComplete = true)
    {sender : TlsSide}
    (speaks : Speaks streamId calls sender)
    (last :
      gate.phase = .bind → sender = .listener → .finish streamId .connector ∈ calls)
    (transmission :
      Transmission gate.phase gate.initiatorIsConnector sender (sent sender calls)) :
    let after := gate.setDirection sender { gate.direction sender with fin := true }
    Chronology.Every (Continues gate.phase streamId)
        (calls ++ [GateCall.finish streamId sender]) ∧
      (∀ side, validSide side = true →
        ((after.direction side).fin = true ↔
          GateCall.finish streamId side ∈ calls ++ [GateCall.finish streamId sender])) ∧
      (∀ side, validSide side = true → (after.direction side).fin = true →
        Transmission gate.phase gate.initiatorIsConnector side
          (sent side (calls ++ [GateCall.finish streamId sender]))) ∧
      ∀ side, validSide side = true →
        Reading (gate.records side) (lead gate.phase side)
          (sent side (calls ++ [GateCall.finish streamId sender])) (after.direction side) := by
  intro after
  refine ⟨streaming.ordered.concat (.finish speaks last), fun side valid => ?_,
    fun side valid finished => ?_, fun side valid => ?_⟩
  · by_cases same : sender = side
    · subst same
      simp [after]
    · rw [direction_setDirection_of_ne valid speaks.valid same, streaming.fin side valid]
      simp [Ne.symm same]
  · have whole : Transmission gate.phase gate.initiatorIsConnector side (sent side calls) := by
      by_cases same : sender = side
      · exact same ▸ transmission
      · rw [direction_setDirection_of_ne valid speaks.valid same] at finished
        exact streaming.ended side valid finished
    simpa using whole
  · obtain ⟨done, left, read, reads, stuck⟩ := streaming.reading side valid fun _ => ready
    have total : sent side (calls ++ [GateCall.finish streamId sender]) = sent side calls := by
      simp
    rw [total]
    by_cases same : sender = side
    · subst same
      rw [direction_setDirection]
      exact ⟨done, left, read, ⟨reads.split, reads.shape, reads.records, reads.index⟩, stuck⟩
    · rw [direction_setDirection_of_ne valid speaks.valid same]
      exact ⟨done, left, read, reads, stuck⟩

theorem Streaming.finish
    (streaming : gate.Streaming streamId calls)
    (stream : UInt64)
    (sender : TlsSide) :
    gate.Streams streamId calls (.finish stream sender) (gate.finish stream sender).2 := by
  unfold QuicStreamGate.finish
  split
  next invalid =>
    refine .stray rfl ?_
    rintro (- | ⟨speaks, -⟩)
    simp [speaks.valid] at invalid
  next known =>
    have valid : validSide sender = true := by simpa using known
    split
    next ended => rcases streaming.phase with phase | phase <;> simp [phase] at ended
    · split
      next wrong =>
        rcases wrong with phases | other | incomplete
        · rcases streaming.phase with phase | phase <;> simp [phase] at phases
        · refine .stray rfl ?_
          rintro (- | -)
          exact other streaming.named.symm
        · refine .failed rfl fun back orderly => ?_
          obtain ⟨-, -, -, held, short⟩ := streaming.waiting incomplete
          rcases orderly.ordered calls _ back rfl with - | ⟨speaks, -⟩
          cases sender with
          | connector =>
              obtain ⟨rows, shape, -⟩ := transmission_of_orderly orderly valid
              rw [held] at shape
              have length := congrArg List.length shape
              rw [List.length_append, length_lead, if_pos rfl] at length
              omega
          | listener =>
              have heard := speaks.heard rfl
              rw [held] at heard
              omega
          | unknown byte => simp [validSide] at valid
      next right =>
        simp only [not_or, not_and, not_not, Bool.not_eq_false] at right
        obtain ⟨-, same, ready⟩ := right
        obtain rfl : streamId = stream := (same.trans streaming.named).symm
        have reading := streaming.reading sender valid fun _ => ready
        dsimp only
        split
        next short =>
          refine .failed rfl fun back orderly => ?_
          rcases orderly.ordered calls _ back rfl with - | ⟨speaks, -⟩
          obtain ⟨rows, shape, records⟩ := transmission_of_orderly orderly valid
          obtain ⟨empty, index⟩ := reading.of_whole shape records
          rcases short with finished | bytes | count
          · exact speaks.unfinished ((streaming.fin sender valid).mp finished)
          · exact bytes empty
          · exact count index
        next whole =>
          simp only [not_or, not_not, Bool.not_eq_true] at whole
          obtain ⟨going, empty, count⟩ := whole
          have unfinished : GateCall.finish streamId sender ∉ calls := fun member => by
            rw [(streaming.fin sender valid).mpr member] at going
            cases going
          have speaks : Speaks streamId calls sender :=
            ⟨valid, unfinished, fun _ => streaming.heard ready⟩
          split
          next early =>
            refine .stray rfl ?_
            rintro (- | ⟨-, last⟩)
            have finished := (streaming.fin .connector rfl).mpr (last early.1 early.2.1)
            exact absurd (finished.symm.trans early.2.2) (by decide)
          next inOrder =>
            have last :
                gate.phase = .bind → sender = .listener →
                  GateCall.finish streamId .connector ∈ calls := by
              intro binding listener
              refine (streaming.fin .connector rfl).mp ?_
              rw [← Bool.not_eq_false]
              exact fun going => inOrder ⟨binding, listener, going⟩
            obtain ⟨ordered, fin, ended, reads⟩ :=
              streaming.close ready speaks last (reading.whole empty count)
            split
            next running =>
              refine .streaming ?_ (by simp) (by simp) (by simp)
              constructor
              · simpa using streaming.named
              · simpa using streaming.phase
              · simpa using ordered
              · exact fin
              · exact running
              · simpa using ended
              · intro incomplete
                rw [setDirection_preambleComplete] at incomplete
                exact absurd (ready.symm.trans incomplete) (by decide)
              · intro side valid _
                simpa using reads side valid
            next both =>
              simp only [not_or, Bool.not_eq_false] at both
              have finished (side : TlsSide) (valid : validSide side = true) :
                  ((gate.setDirection sender
                    { gate.direction sender with fin := true }).direction side).fin = true := by
                cases side with
                | connector => exact both.1
                | listener => exact both.2
                | unknown byte => simp [validSide] at valid
              have complete :
                  Complete gate.phase gate.initiatorIsConnector streamId
                    (calls ++ [GateCall.finish streamId sender]) :=
                ⟨ordered, fun side valid => (fin side valid).mp (finished side valid),
                  fun side valid => ended side valid (finished side valid)⟩
              rw [setDirection_phase]
              split
              next prebind =>
                exact .completed complete (by simp [prebind]) (by simp)
                  (by simp [streaming.named])
              next binding =>
                exact .completed complete (by simp [binding]) (by simp)
                  (by simp [streaming.named])

end Calls

end QuicStreamGate

end FlyNes.Wire
