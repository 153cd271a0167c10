import FlyNes.QuicStreamGate

namespace FlyNes.Wire

open ByteString

/-!
# What the gate lets through

The language of the gate speaks of the bytes that each side has sent altogether: they
are a row of records, and the connector's stand behind the preamble.  A direction has
read a part of such a row and is stuck in front of the next record.
-/

/-! ### Rows of records -/

/-- A row of records, each with its size and its body. -/
def Records : List ExpectedRecord → Bytes → Prop
  | [], bytes => bytes = []
  | expected :: rest, bytes =>
      ∃ body later,
        bytes = bigEndian 4 expected.size.toNat ++ (body ++ later) ∧
          body.length = expected.size.toNat ∧
          (expected.firstByte ≠ 0 → body.head? = some expected.firstByte) ∧
          Records rest later

def rowLength (row : List ExpectedRecord) : Nat :=
  (row.map (·.size.toNat + 4)).sum

variable {row : List ExpectedRecord} {bytes : Bytes}

theorem Records.length
    (records : Records row bytes) :
    bytes.length = rowLength row := by
  induction row generalizing bytes with
  | nil =>
      obtain rfl := records
      rfl
  | cons expected rest inductionHypothesis =>
      obtain ⟨body, later, rfl, size, -, laterRecords⟩ := records
      simp only [List.length_append, length_bigEndian, size,
        inductionHypothesis laterRecords, rowLength, List.map_cons, List.sum_cons]
      omega

variable {done left : List ExpectedRecord} {bytes later : Bytes}

theorem Records.append
    (records : Records done bytes)
    (behind : Records left later) :
    Records (done ++ left) (bytes ++ later) := by
  induction done generalizing bytes with
  | nil =>
      obtain rfl := records
      exact behind
  | cons expected rest inductionHypothesis =>
      obtain ⟨body, others, rfl, size, first, restRecords⟩ := records
      exact ⟨body, others ++ later, by simp, size, first, inductionHypothesis restRecords⟩

/-- No record of the row can be taken off the front yet. -/
def Stuck : List ExpectedRecord → Bytes → Prop
  | [], bytes => bytes.length < 4
  | expected :: _, bytes =>
      bytes.length < 4 ∨
        (bytes.take 4 = bigEndian 4 expected.size.toNat ∧
          bytes.length < expected.size.toNat + 4)

/-- Bytes of which all whole records can be taken off. -/
def Settled (row : List ExpectedRecord) (bytes : Bytes) : Prop :=
  ∃ done left read rest,
    row = done ++ left ∧ bytes = read ++ rest ∧ Records done read ∧ Stuck left rest

theorem Records.settled
    (records : Records row bytes) :
    Settled row bytes :=
  ⟨row, [], bytes, [], by simp, by simp, records, Nat.zero_lt_succ 3⟩

theorem Settled.length_lt
    (settled : Settled row bytes) :
    bytes.length < rowLength row + 4 := by
  obtain ⟨done, left, read, rest, rfl, rfl, records, stuck⟩ := settled
  rw [List.length_append, records.length, rowLength, rowLength, List.map_append,
    List.sum_append]
  cases left with
  | nil =>
      have short : rest.length < 4 := stuck
      simp only [List.map_nil, List.sum_nil]
      omega
  | cons expected others =>
      simp only [List.map_cons, List.sum_cons]
      rcases stuck with short | ⟨-, short⟩ <;> omega

variable {expected : ExpectedRecord}

theorem Settled.cons_cases
    (settled : Settled (expected :: row) bytes)
    (long : 4 ≤ bytes.length) :
    bytes.take 4 = bigEndian 4 expected.size.toNat ∧
      (bytes.length < expected.size.toNat + 4 ∨
        ∃ body later,
          bytes = bigEndian 4 expected.size.toNat ++ (body ++ later) ∧
            body.length = expected.size.toNat ∧
            (expected.firstByte ≠ 0 → body.head? = some expected.firstByte) ∧
            Settled row later) := by
  obtain ⟨done, left, read, rest, split, rfl, records, stuck⟩ := settled
  cases done with
  | nil =>
      obtain rfl := records
      obtain rfl : expected :: row = left := split
      rcases stuck with short | ⟨size, short⟩
      · exact absurd long (Nat.not_le.mpr short)
      · exact ⟨size, Or.inl short⟩
  | cons first others =>
      obtain ⟨rfl, rfl⟩ := List.cons.inj split
      obtain ⟨body, later, rfl, size, marked, records⟩ := records
      refine ⟨?_, Or.inr ⟨body, later ++ rest, by simp, size, marked, ?_⟩⟩
      · rw [List.append_assoc]
        exact List.take_left' (by simp)
      · exact ⟨others, left, later, rest, rfl, rfl, records, stuck⟩

/-- Whole records in front do not keep the bytes behind them from being settled. -/
theorem Records.settled_append
    (records : Records done bytes)
    (settled : Settled (done ++ left) (bytes ++ later)) :
    Settled left later := by
  induction done generalizing bytes with
  | nil =>
      obtain rfl := records
      exact settled
  | cons expected rest inductionHypothesis =>
      obtain ⟨body, others, rfl, size, -, restRecords⟩ := records
      obtain ⟨-, short | ⟨body', later', shape, size', -, whole⟩⟩ :=
        settled.cons_cases (by simp)
      · simp [size] at short
        omega
      · simp only [List.append_assoc] at shape
        obtain ⟨-, shape⟩ := List.append_inj shape (by simp)
        obtain ⟨-, rfl⟩ := List.append_inj shape (by rw [size, size'])
        exact inductionHypothesis restRecords whole

/-- A row settles in one way. -/
theorem settled_unique
    {done left done' left' : List ExpectedRecord}
    {read rest read' rest' : Bytes}
    (split : done ++ left = done' ++ left')
    (shape : read ++ rest = read' ++ rest')
    (records : Records done read)
    (records' : Records done' read')
    (stuck : Stuck left rest)
    (stuck' : Stuck left' rest') :
    done.length = done'.length ∧ rest = rest' := by
  have early
      {expected : ExpectedRecord}
      {row others : List ExpectedRecord}
      {bytes more : Bytes}
      (records : Records (expected :: row) bytes)
      (stuck : Stuck (expected :: others) (bytes ++ more)) : False := by
    have length := records.length
    simp only [rowLength, List.map_cons, List.sum_cons] at length
    rcases stuck with short | ⟨-, short⟩ <;> rw [List.length_append] at short <;> omega
  induction done generalizing done' read read' with
  | nil =>
      obtain rfl := records
      cases done' with
      | nil =>
          obtain rfl := records'
          exact ⟨rfl, shape⟩
      | cons first others =>
          obtain rfl : left = first :: (others ++ left') := split
          obtain rfl : rest = read' ++ rest' := shape
          exact (early records' stuck).elim
  | cons expected row inductionHypothesis =>
      cases done' with
      | nil =>
          obtain rfl := records'
          obtain rfl : expected :: (row ++ left) = left' := split
          obtain rfl : read ++ rest = rest' := shape
          exact (early records stuck').elim
      | cons first others =>
          obtain ⟨rfl, tails⟩ := List.cons.inj split
          obtain ⟨body, later, rfl, size, -, laterRecords⟩ := records
          obtain ⟨body', later', rfl, size', -, laterRecords'⟩ := records'
          simp only [List.append_assoc] at shape
          obtain ⟨-, bodies⟩ := List.append_inj shape (by simp)
          obtain ⟨-, behind⟩ := List.append_inj bodies (by rw [size, size'])
          obtain ⟨same, rests⟩ :=
            inductionHypothesis tails behind laterRecords laterRecords'
          exact ⟨congrArg Nat.succ same, rests⟩

/-- What a pass of the loop makes of a direction. -/
inductive Parses (row : List ExpectedRecord) (value : GateDirection) :
    QuicGateResult × GateDirection → Prop where
  | refused
      {left : GateDirection}
      (dead : ∀ more, ¬ Settled row (value.bytes ++ more)) :
      Parses row value (.protocolViolation, left)
  | stopped
      {result : QuicGateResult}
      {done left : List ExpectedRecord}
      {read rest : Bytes}
      (fine : result ≠ .protocolViolation)
      (split : row = done ++ left)
      (shape : value.bytes = read ++ rest)
      (records : Records done read)
      (stuck : Stuck left rest) :
      Parses row value
        (result,
          { value with bytes := rest, recordIndex := value.recordIndex + done.length })

variable {value : GateDirection}

theorem Parses.stay
    {result : QuicGateResult}
    (fine : result ≠ .protocolViolation)
    (stuck : Stuck row value.bytes) :
    Parses row value (result, value) :=
  @Parses.stopped row value result [] row [] value.bytes fine rfl rfl rfl stuck

/-- A record in front of what is read later. -/
theorem Parses.cons
    {body later : Bytes}
    (shape : value.bytes = bigEndian 4 expected.size.toNat ++ (body ++ later))
    (size : body.length = expected.size.toNat)
    (first : expected.firstByte ≠ 0 → body.head? = some expected.firstByte)
    {outcome : QuicGateResult × GateDirection}
    (parses :
      Parses row
        { value with bytes := later, recordIndex := value.recordIndex + 1 } outcome) :
    Parses (expected :: row) value outcome := by
  cases parses with
  | refused dead =>
      refine .refused fun more settled => dead more ?_
      rw [shape, List.append_assoc, List.append_assoc] at settled
      obtain ⟨-, short | ⟨body', later', shape', size', -, whole⟩⟩ :=
        settled.cons_cases (by simp)
      · simp [size] at short
        omega
      · obtain ⟨-, bodies⟩ := List.append_inj shape' (by simp)
        obtain ⟨-, rfl⟩ := List.append_inj bodies (by rw [size, size'])
        exact whole
  | @stopped result done left read rest fine split shape' records stuck =>
      obtain rfl : later = read ++ rest := shape'
      have index :
          value.recordIndex + 1 + done.length =
            value.recordIndex + (expected :: done).length := by
        rw [List.length_cons]
        omega
      dsimp only
      rw [index]
      exact .stopped fine (congrArg (expected :: ·) split)
        (by rw [shape]; simp only [List.append_assoc])
        ⟨body, read, rfl, size, first, records⟩ stuck

theorem parses
    (row : List ExpectedRecord)
    (value : GateDirection)
    (accepted : Bool) :
    Parses row value (parse row value accepted) := by
  induction row generalizing value accepted with
  | nil =>
      unfold parse
      split
      next short =>
        exact .stay (by cases accepted <;> decide) short
      next long =>
        refine .refused fun more settled => long ?_
        obtain ⟨done, left, read, rest, split, shape, records, stuck⟩ := settled
        obtain ⟨rfl, rfl⟩ := List.append_eq_nil_iff.mp split.symm
        obtain rfl := records
        have short : (value.bytes ++ more).length < 4 := shape ▸ stuck
        rw [List.length_append] at short
        omega
  | cons expected rest inductionHypothesis =>
      have bound : expected.size.toNat < 256 ^ 4 := expected.size.toNat_lt
      unfold parse
      dsimp only
      split
      next short =>
        exact .stay (by cases accepted <;> decide) (Or.inl short)
      next long =>
        have front (more : Bytes) (settled : Settled (expected :: rest) (value.bytes ++ more)) :=
          settled.cons_cases
            (Nat.le_trans (Nat.not_lt.mp long) (List.length_append ▸ Nat.le_add_right _ _))
        split
        next other =>
          refine .refused fun more settled => other ?_
          have taken := (front more settled).1
          rw [List.take_append_of_le_length (Nat.not_lt.mp long)] at taken
          rw [taken, fromBigEndian_bigEndian, Nat.mod_eq_of_lt bound]
        next same =>
          have four : (value.bytes.take 4).length = 4 := by
            rw [List.length_take]
            omega
          have size : value.bytes.take 4 = bigEndian 4 expected.size.toNat := by
            have back := bigEndian_fromBigEndian (value.bytes.take 4)
            rw [four, not_not.mp same] at back
            exact back.symm
          split
          next short =>
            exact .stay (by decide) (Or.inr ⟨size, short⟩)
          next whole =>
            have rest :
                value.bytes =
                  bigEndian 4 expected.size.toNat ++
                    ((value.bytes.drop 4).take expected.size.toNat ++
                      value.bytes.drop (expected.size.toNat + 4)) := by
              rw [← size, Nat.add_comm, ← List.drop_drop, List.take_append_drop,
                List.take_append_drop]
            have length :
                ((value.bytes.drop 4).take expected.size.toNat).length =
                  expected.size.toNat := by
              rw [List.length_take, List.length_drop]
              omega
            have head :
                ((value.bytes.drop 4).take expected.size.toNat).head? = value.bytes[4]? := by
              rw [List.head?_take, if_neg (Nat.ne_of_gt expected.filled), List.head?_drop]
            split
            next other =>
              refine .refused fun more settled => other.2 ?_
              obtain ⟨-, short | ⟨body, later, shape, length', first, -⟩⟩ := front more settled
              · rw [List.length_append] at short
                omega
              rw [rest, List.append_assoc, List.append_assoc] at shape
              obtain ⟨-, bodies⟩ := List.append_inj shape (by simp)
              obtain ⟨same, -⟩ := List.append_inj bodies (by rw [length, length'])
              rw [← head, same]
              exact first other.1
            next agreed =>
              refine .cons rest length (fun marked => ?_) (inductionHypothesis _ true)
              rw [head]
              exact not_not.mp fun other => agreed ⟨marked, other⟩

/-! ### Reading a side -/

/-- What a side of a stream starts with. -/
def lead (phase : GatePhase) (side : TlsSide) : Bytes :=
  if side = .connector then preamble phase else []

/-- All that a side sends on a stream. -/
def Transmission
    (phase : GatePhase)
    (initiatorIsConnector : Bool)
    (side : TlsSide)
    (bytes : Bytes) : Prop :=
  ∃ rows,
    bytes = lead phase side ++ rows ∧
      Records (expectedRecords phase initiatorIsConnector side) rows

/-- A direction has read whole records of a row, and has more bytes. -/
structure Reads
    (row : List ExpectedRecord)
    (front total : Bytes)
    (value : GateDirection)
    (done left : List ExpectedRecord)
    (read : Bytes) : Prop where
  split : row = done ++ left
  shape : total = front ++ (read ++ value.bytes)
  records : Records done read
  index : value.recordIndex = done.length

/-- A direction has read all whole records of what has come. -/
def Reading
    (row : List ExpectedRecord)
    (front total : Bytes)
    (value : GateDirection) : Prop :=
  ∃ done left read, Reads row front total value done left read ∧ Stuck left value.bytes

section Reads

variable {row done left : List ExpectedRecord}
variable {front total read : Bytes}
variable {value : GateDirection}

theorem Reads.append
    (reads : Reads row front total value done left read)
    (more : Bytes) :
    Reads row front (total ++ more) { value with bytes := value.bytes ++ more }
      done left read where
  split := reads.split
  shape := by simp [reads.shape]
  records := reads.records
  index := reads.index

theorem Reads.drop
    (reads : Reads row front total value done left read) :
    row.drop value.recordIndex = left := by
  rw [reads.split, reads.index, List.drop_left]

theorem Reads.settled
    (reads : Reads row front total value done left read)
    {rest more : Bytes}
    (whole : total ++ more = front ++ rest)
    (settled : Settled row rest) :
    Settled left (value.bytes ++ more) := by
  rw [reads.shape, List.append_assoc, List.append_assoc] at whole
  rw [← List.append_cancel_left whole, reads.split] at settled
  exact reads.records.settled_append settled

/-- A pass of the loop goes on with the row. -/
theorem Reads.goesOn
    (reads : Reads row front total value done left read)
    (accepted : Bool) :
    ((parse left value accepted).1 = .protocolViolation ∧
        ∀ rest more, total ++ more = front ++ rest → ¬ Settled row rest) ∨
      ((parse left value accepted).1 ≠ .protocolViolation ∧
        (parse left value accepted).2.fin = value.fin ∧
        Reading row front total (parse left value accepted).2) := by
  have cases := parses left value accepted
  generalize parse left value accepted = outcome at cases ⊢
  cases cases with
  | refused dead =>
      exact Or.inl ⟨rfl, fun rest more whole settled =>
        dead more (reads.settled whole settled)⟩
  | @stopped result taken others taken' rest fine split shape records stuck =>
      refine Or.inr ⟨fine, rfl, done ++ taken, others, read ++ taken', ?_, stuck⟩
      constructor
      · rw [reads.split, split, List.append_assoc]
      · rw [reads.shape, shape, List.append_assoc]
      · exact reads.records.append records
      · simp [reads.index]

theorem Reading.settled (reading : Reading row front total value) :
    ∃ rest, total = front ++ rest ∧ Settled row rest := by
  obtain ⟨done, left, read, reads, stuck⟩ := reading
  exact ⟨read ++ value.bytes, reads.shape, done, left, read, value.bytes, reads.split, rfl,
    reads.records, stuck⟩

theorem Reading.unique
    {other : GateDirection}
    (reading : Reading row front total value)
    (reading' : Reading row front total other)
    (fin : value.fin = other.fin) :
    value = other := by
  obtain ⟨done, left, read, reads, stuck⟩ := reading
  obtain ⟨done', left', read', reads', stuck'⟩ := reading'
  have shape := reads.shape.symm.trans reads'.shape
  obtain ⟨index, bytes⟩ :=
    settled_unique (reads.split.symm.trans reads'.split) (List.append_cancel_left shape)
      reads.records reads'.records stuck stuck'
  rw [← reads.index, ← reads'.index] at index
  cases value
  cases other
  simp only at bytes index fin
  rw [bytes, index, fin]

/-- A direction without bytes behind the last record has read the whole row. -/
theorem Reading.whole
    (reading : Reading row front total value)
    (empty : value.bytes = [])
    (last : value.recordIndex = row.length) :
    ∃ rows, total = front ++ rows ∧ Records row rows := by
  obtain ⟨done, left, read, reads, -⟩ := reading
  have none : left = [] := by
    have length := congrArg List.length reads.split
    rw [List.length_append, ← reads.index, last] at length
    exact List.length_eq_zero_iff.mp (by omega)
  refine ⟨read, by rw [reads.shape, empty, List.append_nil], ?_⟩
  rw [reads.split, none, List.append_nil]
  exact reads.records

theorem Reading.of_whole
    (reading : Reading row front total value)
    {rows : Bytes}
    (shape : total = front ++ rows)
    (records : Records row rows) :
    value.bytes = [] ∧ value.recordIndex = row.length := by
  obtain ⟨done, left, read, reads, stuck⟩ := reading
  have same : read ++ value.bytes = rows ++ [] := by
    rw [List.append_nil]
    exact List.append_cancel_left (reads.shape.symm.trans shape)
  obtain ⟨index, bytes⟩ :=
    settled_unique (reads.split.symm.trans (List.append_nil row).symm) same reads.records
      records stuck (Nat.zero_lt_succ 3 : Stuck [] [])
  exact ⟨bytes, reads.index.trans index⟩

end Reads

end FlyNes.Wire
