import FlyNes.Chronology
import FlyNes.DualScheduler
import FlyNes.Logbook
import FlyNes.WireCodec
import Mathlib.Data.List.DropRight

namespace FlyNes.Recovery

open ByteString FlyNes.Dual FlyNes.Wire

/-!
# The input sequence ledger of a parent link

Every seat takes its input sequence numbers from intervals that are granted one
after the other.  A child that closes burns what was reserved for it, and its
successor goes on after it.  An abort before the start burns nothing: the numbers
it leaves can be consumed again once the successor has been granted an interval.
-/

def kLedgerSeatCount : Nat := 2

inductive ReservationKind where
  | normal
  | prime
  | terminal
  | authorityClear
deriving DecidableEq

structure SeatLedger where
  reservedThrough : UInt64 := 0
  ledgerGeneration : UInt64 := 0
  lastReservationHash : Block 32 := Block.zero 32
  consumedThrough : UInt64 := 0
deriving DecidableEq

/-- `reservation_hash`: the seat, the interval, the generation and the hash before. -/
def reservationHash
    (seat : UInt8)
    (fromInclusive throughInclusive generation : UInt64)
    (previous : Block 32) : Block 32 :=
  domainHash (ascii "flynes-ledger-reservation-v1")
    (seat :: bigEndian 8 fromInclusive.toNat ++
      bigEndian 8 throughInclusive.toNat ++
      bigEndian 8 generation.toNat ++ previous.bytes)

structure InputSequenceLedger where
  seats : Fin kLedgerSeatCount → SeatLedger := fun _ => {}
  granted : Bool := false
  closed : Bool := false
  abortedPrestart : Bool := false
  sourceWriterAlive : Bool := true
  repairBlocked : Bool := false
  everNonzero : Bool := false

namespace InputSequenceLedger

variable (ledger : InputSequenceLedger)

/-- The accessor: an index that names no seat reads the first one. -/
def seat (index : UInt8) : SeatLedger :=
  if inRange : index.toNat < kLedgerSeatCount then
    ledger.seats ⟨index.toNat, inRange⟩
  else
    ledger.seats ⟨0, by decide⟩

def genesis : SessionResult × InputSequenceLedger :=
  if ledger.everNonzero then
    (.invalidState, ledger)
  else
    (.ok, ledger)

def resetToZero : SessionResult × InputSequenceLedger :=
  if ledger.everNonzero then
    (.invalidState, ledger)
  else
    (.ok, ledger)

/-- What an accepted grant writes. -/
def reserve
    (index : Fin kLedgerSeatCount)
    (fromInclusive throughInclusive : UInt64) : InputSequenceLedger :=
  let slot := ledger.seats index
  let nextGeneration := slot.ledgerGeneration + 1
  { ledger with
    seats := Function.update ledger.seats index
      { slot with
        lastReservationHash :=
          reservationHash (UInt8.ofNat index) fromInclusive throughInclusive
            nextGeneration slot.lastReservationHash
        reservedThrough := throughInclusive
        ledgerGeneration := nextGeneration }
    granted := true
    everNonzero := true
    abortedPrestart := false }

def grant
    (seat : UInt8)
    (fromInclusive throughInclusive : UInt64)
    (_kind : ReservationKind) : SessionResult × InputSequenceLedger :=
  if inRange : seat.toNat < kLedgerSeatCount then
    if fromInclusive == 0 || throughInclusive < fromInclusive then
      (.invalidArgument, ledger)
    else if ledger.repairBlocked || ledger.closed ||
        !ledger.sourceWriterAlive then
      (.invalidState, ledger)
    else
      let slot := ledger.seats ⟨seat.toNat, inRange⟩
      let expectedFrom :=
        if slot.reservedThrough = 0 then 1 else slot.reservedThrough + 1
      if fromInclusive = expectedFrom then
        (.ok,
          ledger.reserve ⟨seat.toNat, inRange⟩ fromInclusive throughInclusive)
      else
        (.invalidState, ledger)
  else
    (.invalidArgument, ledger)

def consume
    (seat : UInt8)
    (sequence : UInt64) : SessionResult × InputSequenceLedger :=
  if inRange : seat.toNat < kLedgerSeatCount then
    if sequence = 0 then
      (.invalidArgument, ledger)
    else if !ledger.granted || ledger.closed || ledger.repairBlocked then
      (.invalidState, ledger)
    else
      let slot := ledger.seats ⟨seat.toNat, inRange⟩
      if sequence ≤ slot.consumedThrough || slot.reservedThrough < sequence then
        (.invalidState, ledger)
      else
        (.ok,
          { ledger with
            seats := Function.update ledger.seats ⟨seat.toNat, inRange⟩
              { slot with consumedThrough := sequence } })
  else
    (.invalidArgument, ledger)

def closeChild : SessionResult × InputSequenceLedger :=
  if !ledger.granted || ledger.closed then
    (.invalidState, ledger)
  else
    (.ok,
      { ledger with
        seats := fun index =>
          { ledger.seats index with
            consumedThrough := (ledger.seats index).reservedThrough }
        closed := true })

def abortPrestart : SessionResult × InputSequenceLedger :=
  if ledger.closed || ledger.repairBlocked then
    (.invalidState, ledger)
  else if ∃ index, (ledger.seats index).consumedThrough ≠ 0 then
    (.invalidState, ledger)
  else
    -- nothing is burned here: `reserved` and `consumed` of the seats stay
    (.ok,
      { ledger with
        abortedPrestart := true
        closed := true
        granted := false })

def handoffSuccessor : SessionResult × InputSequenceLedger :=
  if ledger.closed then
    (.ok,
      { ledger with
        seats := fun index =>
          { ledger.seats index with
            ledgerGeneration := (ledger.seats index).ledgerGeneration + 1 }
        closed := false
        granted := false
        abortedPrestart := false })
  else
    (.invalidState, ledger)

def releaseSourceWriter : SessionResult × InputSequenceLedger :=
  (.ok, { ledger with sourceWriterAlive := false })

end InputSequenceLedger

/-! ## Calls and what the log says of them -/

inductive LedgerCall where
  | genesis
  | grant
      (seat : UInt8)
      (fromInclusive throughInclusive : UInt64)
      (kind : ReservationKind)
  | consume (seat : UInt8) (sequence : UInt64)
  | closeChild
  | abortPrestart
  | handoffSuccessor
  | releaseSourceWriter
  | resetToZero
deriving DecidableEq

structure Reservation where
  fromInclusive : UInt64
  throughInclusive : UInt64
deriving DecidableEq

namespace InputSequenceLedger

def step
    (ledger : InputSequenceLedger) :
    LedgerCall → SessionResult × InputSequenceLedger
  | .genesis => ledger.genesis
  | .grant seat fromInclusive throughInclusive kind =>
      ledger.grant seat fromInclusive throughInclusive kind
  | .consume seat sequence => ledger.consume seat sequence
  | .closeChild => ledger.closeChild
  | .abortPrestart => ledger.abortPrestart
  | .handoffSuccessor => ledger.handoffSuccessor
  | .releaseSourceWriter => ledger.releaseSourceWriter
  | .resetToZero => ledger.resetToZero

abbrev LedgerEntry := Logbook.Entry InputSequenceLedger LedgerCall SessionResult

/-- The interval that an entry grants to a seat. -/
def grantedBy (seat : UInt8) (entry : LedgerEntry) : Option Reservation :=
  match entry.call with
  | .grant other fromInclusive throughInclusive _ =>
      if entry.answer = .ok ∧ other = seat then
        some ⟨fromInclusive, throughInclusive⟩
      else
        none
  | _ => none

/-- The number that an entry consumes at a seat. -/
def consumedBy (seat : UInt8) (entry : LedgerEntry) : Option UInt64 :=
  match entry.call with
  | .consume other sequence =>
      if entry.answer = .ok ∧ other = seat then some sequence else none
  | _ => none

def handsOff (entry : LedgerEntry) : Bool :=
  entry.call = .handoffSuccessor && entry.answer = .ok

def reservations (seat : UInt8) (log : List LedgerEntry) : List Reservation :=
  log.filterMap (grantedBy seat)

def consumptions (seat : UInt8) (log : List LedgerEntry) : List UInt64 :=
  log.filterMap (consumedBy seat)

/-- The entries after the last successful handoff. -/
def sinceHandoff (log : List LedgerEntry) : List LedgerEntry :=
  log.rtakeWhile fun entry => !handsOff entry

/-- A number lies in an interval granted to the seat since the last handoff. -/
def Covered
    (log : List LedgerEntry)
    (seat : UInt8)
    (sequence : UInt64) : Prop :=
  ∃ reservation ∈ reservations seat (sinceHandoff log),
    reservation.fromInclusive ≤ sequence ∧
      sequence ≤ reservation.throughInclusive

/-- Every number consumed was granted since the last handoff before it. -/
def ConsumedSinceHandoff (log : List LedgerEntry) : Prop :=
  Chronology.Every
    (fun earlier entry =>
      ∀ seat sequence,
        consumedBy seat entry = some sequence → Covered earlier seat sequence)
    log

/-- The intervals of every seat increase and do not meet. -/
def ReservationsIncrease (log : List LedgerEntry) : Prop :=
  ∀ seat,
    (reservations seat log).Pairwise
        (fun first second => first.throughInclusive < second.fromInclusive) ∧
      ∀ reservation ∈ reservations seat log,
        reservation.fromInclusive ≤ reservation.throughInclusive

/-- The numbers consumed at every seat increase, so that none is consumed twice. -/
def ConsumptionsIncrease (log : List LedgerEntry) : Prop :=
  ∀ seat, (consumptions seat log).Pairwise (· < ·)

/--
Every grant that succeeds while nothing is granted, after genesis or a handoff,
finds the numbers reserved before it burned at both seats.
-/
def GrantsAfterBurning (log : List LedgerEntry) : Prop :=
  ∀ entry ∈ log,
    ∀ seat reservation,
      grantedBy seat entry = some reservation →
      entry.before.granted = false →
      ∀ index,
        (entry.before.seats index).consumedThrough =
          (entry.before.seats index).reservedThrough

/-! ## What one call does -/

section Steps

variable {ledger : InputSequenceLedger} {seat : UInt8}

theorem seat_eq
    {index : Fin kLedgerSeatCount}
    (same : seat.toNat = index) :
    ledger.seat seat = ledger.seats index := by
  have inRange : seat.toNat < kLedgerSeatCount := by
    rw [same]
    exact index.isLt
  obtain rfl : index = ⟨seat.toNat, inRange⟩ := Fin.ext same.symm
  simp only [InputSequenceLedger.seat, inRange, ↓reduceDIte]

/-- Two names of seats read the same slot only if one of them names no seat. -/
theorem seat_reads
    (seat : UInt8) :
    ∃ index,
      (∀ ledger : InputSequenceLedger, ledger.seat seat = ledger.seats index) ∧
        (seat.toNat < kLedgerSeatCount → seat.toNat = index) := by
  by_cases inRange : seat.toNat < kLedgerSeatCount
  · exact ⟨⟨seat.toNat, inRange⟩, fun _ => seat_eq rfl, fun _ => rfl⟩
  · refine ⟨⟨0, by decide⟩, fun ledger => ?_, fun claimed => absurd claimed inRange⟩
    simp only [InputSequenceLedger.seat, inRange, ↓reduceDIte]

/-- A number that follows another without wrapping. -/
theorem follows_of_expected
    {reserved expected : UInt64}
    (nonzero : expected ≠ 0)
    (same : expected = if reserved = 0 then 1 else reserved + 1) :
    expected.toNat = reserved.toNat + 1 := by
  have value : expected = reserved + 1 := by
    rw [same]
    split
    case isTrue empty => simp [empty]
    case isFalse => rfl
  have positive : expected.toNat ≠ 0 := by
    intro zero
    exact nonzero (UInt64.toNat_inj.1 (by simpa using zero))
  rw [value, UInt64.toNat_add] at positive ⊢
  have bound := reserved.toNat_lt
  simp only [UInt64.toNat_one] at positive ⊢
  omega

theorem grant_ok
    {fromInclusive throughInclusive : UInt64}
    {kind : ReservationKind}
    (answer :
      (ledger.grant seat fromInclusive throughInclusive kind).1 = .ok) :
    ∃ index : Fin kLedgerSeatCount,
      seat.toNat = index ∧
      (ledger.closed = false ∧ ledger.repairBlocked = false) ∧
      fromInclusive ≤ throughInclusive ∧
      fromInclusive.toNat = (ledger.seats index).reservedThrough.toNat + 1 ∧
      (ledger.grant seat fromInclusive throughInclusive kind).2 =
        ledger.reserve index fromInclusive throughInclusive := by
  unfold grant at answer ⊢
  split at answer
  case isFalse => simp at answer
  case isTrue inRange =>
    simp only [inRange, ↓reduceDIte] at answer ⊢
    generalize expectedShape :
      (if (ledger.seats ⟨seat.toNat, inRange⟩).reservedThrough = 0 then 1
        else (ledger.seats ⟨seat.toNat, inRange⟩).reservedThrough + 1) =
          expectedFrom at answer ⊢
    refine ⟨⟨seat.toNat, inRange⟩, rfl, ?_⟩
    have following :
        fromInclusive ≠ 0 →
        fromInclusive = expectedFrom →
        fromInclusive.toNat =
          (ledger.seats ⟨seat.toNat, inRange⟩).reservedThrough.toNat + 1 :=
      fun nonzero expected =>
        follows_of_expected nonzero (expected.trans expectedShape.symm)
    grind

theorem consume_ok
    {sequence : UInt64}
    (answer : (ledger.consume seat sequence).1 = .ok) :
    ∃ index : Fin kLedgerSeatCount,
      seat.toNat = index ∧
      ledger.granted = true ∧
      (ledger.seats index).consumedThrough < sequence ∧
      sequence ≤ (ledger.seats index).reservedThrough ∧
      (ledger.consume seat sequence).2 =
        { ledger with
          seats := Function.update ledger.seats index
            { ledger.seats index with consumedThrough := sequence } } := by
  unfold consume at answer ⊢
  split at answer
  case isFalse => simp at answer
  case isTrue inRange =>
    refine ⟨⟨seat.toNat, inRange⟩, rfl, ?_⟩
    simp only [inRange, ↓reduceDIte]
    grind

theorem abortPrestart_ok
    (answer : ledger.abortPrestart.1 = .ok) :
    ledger.abortPrestart.2 =
      { ledger with
        abortedPrestart := true
        closed := true
        granted := false } := by
  unfold abortPrestart at answer ⊢
  split
  case isTrue blocked => simp [blocked] at answer
  case isFalse =>
    split
    case isTrue used => simp [used] at answer
    case isFalse => rfl

/-- A call that is refused leaves the ledger as it was. -/
theorem step_refused
    {call : LedgerCall}
    (refused : (ledger.step call).1 ≠ .ok) :
    (ledger.step call).2 = ledger := by
  cases call with
  | abortPrestart =>
      simp only [step, abortPrestart] at refused ⊢
      split
      case isTrue => rfl
      case isFalse ready =>
        simp only [ready] at refused
        split
        case isTrue => rfl
        case isFalse unused => simp [unused] at refused
  | _ =>
      simp only [step, genesis, resetToZero, grant, consume, closeChild,
        handoffSuccessor, releaseSourceWriter] at refused ⊢
      grind

end Steps

/-! ## Reading the log -/

section Reading

variable {seat : UInt8} {entry : LedgerEntry}

theorem grantedBy_eq_some
    {reservation : Reservation} :
    grantedBy seat entry = some reservation ↔
      entry.answer = .ok ∧
        ∃ kind,
          entry.call =
            .grant seat reservation.fromInclusive reservation.throughInclusive
              kind := by
  obtain ⟨before, call, answer⟩ := entry
  obtain ⟨first, last⟩ := reservation
  cases call with
  | grant =>
      simp only [grantedBy, LedgerCall.grant.injEq]
      grind
  | _ => simp [grantedBy]

theorem consumedBy_eq_some
    {sequence : UInt64} :
    consumedBy seat entry = some sequence ↔
      entry.answer = .ok ∧ entry.call = .consume seat sequence := by
  obtain ⟨before, call, answer⟩ := entry
  cases call <;> simp only [consumedBy] <;> grind

end Reading

/-! ## The marks of a seat only move up -/

/-- From one state of a seat to a later one. -/
structure Advances (first second : SeatLedger) : Prop where
  reserved : first.reservedThrough ≤ second.reservedThrough
  consumed : first.consumedThrough ≤ second.consumedThrough
  ordered : second.consumedThrough ≤ second.reservedThrough

/-- At every seat what is consumed has been reserved. -/
def Ordered (ledger : InputSequenceLedger) : Prop :=
  ∀ index,
    (ledger.seats index).consumedThrough ≤ (ledger.seats index).reservedThrough

section Advance

variable {ledger : InputSequenceLedger}

theorem Advances.same
    {slot : SeatLedger}
    (ordered : slot.consumedThrough ≤ slot.reservedThrough) :
    Advances slot slot where
  reserved := UInt64.le_refl _
  consumed := UInt64.le_refl _
  ordered := ordered

theorem reserve_advances
    {index : Fin kLedgerSeatCount}
    {fromInclusive throughInclusive : UInt64}
    (ordered : ledger.Ordered)
    (higher : (ledger.seats index).reservedThrough ≤ throughInclusive)
    (other : Fin kLedgerSeatCount) :
    Advances (ledger.seats other)
      ((ledger.reserve index fromInclusive throughInclusive).seats other) := by
  by_cases same : other = index
  · subst same
    simp only [reserve, Function.update_self]
    exact ⟨higher, UInt64.le_refl _, UInt64.le_trans (ordered other) higher⟩
  · simp only [reserve, ne_eq, same, not_false_eq_true, Function.update_of_ne]
    exact Advances.same (ordered other)

theorem step_advances
    (ordered : ledger.Ordered)
    (call : LedgerCall)
    (index : Fin kLedgerSeatCount) :
    Advances (ledger.seats index) ((ledger.step call).2.seats index) := by
  by_cases accepted : (ledger.step call).1 = .ok
  case neg =>
    rw [step_refused accepted]
    exact Advances.same (ordered index)
  case pos =>
    cases call with
    | grant seat fromInclusive throughInclusive kind =>
        obtain ⟨at_, _, _, interval, following, moved⟩ := grant_ok accepted
        rw [step, moved]
        refine reserve_advances ordered ?_ index
        rw [UInt64.le_iff_toNat_le] at interval ⊢
        omega
    | consume seat sequence =>
        obtain ⟨at_, _, _, higher, reserved, moved⟩ := consume_ok accepted
        rw [step, moved]
        by_cases same : index = at_
        · subst same
          simp only [Function.update_self]
          exact ⟨UInt64.le_refl _, UInt64.le_of_lt higher, reserved⟩
        · simp only [ne_eq, same, not_false_eq_true, Function.update_of_ne]
          exact Advances.same (ordered index)
    | closeChild =>
        simp only [step, closeChild]
        split
        case isTrue => exact Advances.same (ordered index)
        case isFalse =>
          exact ⟨UInt64.le_refl _, ordered index, UInt64.le_refl _⟩
    | abortPrestart =>
        rw [step, abortPrestart_ok accepted]
        exact Advances.same (ordered index)
    | _ =>
        have kept := ordered index
        simp only [step, genesis, resetToZero, handoffSuccessor,
          releaseSourceWriter]
        constructor <;> grind

variable {call : LedgerCall} {seat : UInt8}

/-- An interval granted to a seat follows what was reserved for it. -/
theorem grantedBy_some
    {reservation : Reservation}
    (granted :
      grantedBy seat (Logbook.entry step ledger call) = some reservation) :
    ∃ (kind : ReservationKind) (index : Fin kLedgerSeatCount),
      call =
        .grant seat reservation.fromInclusive reservation.throughInclusive
          kind ∧
      seat.toNat = index ∧
      (ledger.closed = false ∧ ledger.repairBlocked = false) ∧
      reservation.fromInclusive ≤ reservation.throughInclusive ∧
      reservation.fromInclusive.toNat =
        (ledger.seats index).reservedThrough.toNat + 1 ∧
      (ledger.step call).2 =
        ledger.reserve index reservation.fromInclusive
          reservation.throughInclusive := by
  obtain ⟨accepted, kind, rfl⟩ := grantedBy_eq_some.1 granted
  obtain ⟨index, facts⟩ := grant_ok accepted
  exact ⟨kind, index, rfl, facts⟩

/-- A number consumed at a seat lies between the marks of the seat. -/
theorem consumedBy_some
    {sequence : UInt64}
    (consumed :
      consumedBy seat (Logbook.entry step ledger call) = some sequence) :
    ∃ index : Fin kLedgerSeatCount,
      seat.toNat = index ∧
      ledger.granted = true ∧
      (ledger.seats index).consumedThrough < sequence ∧
      sequence ≤ (ledger.seats index).reservedThrough ∧
      ((ledger.step call).2.seats index).consumedThrough = sequence := by
  obtain ⟨accepted, rfl⟩ := consumedBy_eq_some.1 consumed
  obtain ⟨index, same, granted, higher, reserved, moved⟩ := consume_ok accepted
  refine ⟨index, same, granted, higher, reserved, ?_⟩
  simp only [step, moved, Function.update_self]

end Advance

/-! ## Increasing intervals and increasing numbers -/

/-- What the log says of the marks of a ledger. -/
structure Marked
    (log : List LedgerEntry)
    (ledger : InputSequenceLedger) : Prop where
  ordered : ledger.Ordered
  increasing : ReservationsIncrease log
  reserved :
    ∀ seat, ∀ reservation ∈ reservations seat log,
      reservation.throughInclusive ≤ (ledger.seat seat).reservedThrough
  unique : ConsumptionsIncrease log
  consumed :
    ∀ seat, ∀ sequence ∈ consumptions seat log,
      sequence ≤ (ledger.seat seat).consumedThrough

theorem reservations_concat
    (seat : UInt8)
    (log : List LedgerEntry)
    (entry : LedgerEntry) :
    reservations seat (log ++ [entry]) =
      reservations seat log ++ (grantedBy seat entry).toList := by
  simp only [reservations, List.filterMap_append, List.filterMap_cons,
    List.filterMap_nil]
  cases grantedBy seat entry <;> rfl

theorem consumptions_concat
    (seat : UInt8)
    (log : List LedgerEntry)
    (entry : LedgerEntry) :
    consumptions seat (log ++ [entry]) =
      consumptions seat log ++ (consumedBy seat entry).toList := by
  simp only [consumptions, List.filterMap_append, List.filterMap_cons,
    List.filterMap_nil]
  cases consumedBy seat entry <;> rfl

/-- A list stays sorted when its next item stands above all the others. -/
theorem pairwise_toList
    {Item : Type}
    {related : Item → Item → Prop}
    {items : List Item}
    {next : Option Item}
    (sorted : items.Pairwise related)
    (above : ∀ item ∈ next, ∀ earlier ∈ items, related earlier item) :
    (items ++ next.toList).Pairwise related := by
  cases next with
  | none => simpa using sorted
  | some item =>
      refine List.pairwise_append.2 ⟨sorted, by simp, ?_⟩
      intro earlier member last isLast
      obtain rfl := List.mem_singleton.1 isLast
      exact above last rfl earlier member

namespace Marked

variable {log : List LedgerEntry} {ledger : InputSequenceLedger}

theorem start : Marked [] {} where
  ordered := fun _ => UInt64.le_refl _
  increasing := fun _ => by simp [reservations]
  reserved := fun _ => by simp [reservations]
  unique := fun _ => by simp [consumptions]
  consumed := fun _ => by simp [consumptions]

theorem keeps
    (marked : Marked log ledger)
    (call : LedgerCall) :
    Marked (log ++ [Logbook.entry step ledger call])
      (ledger.step call).2 := by
  have advances := step_advances marked.ordered call
  have granting :
      ∀ seat, ∀ reservation,
        grantedBy seat (Logbook.entry step ledger call) = some reservation →
        (ledger.seat seat).reservedThrough < reservation.fromInclusive ∧
          reservation.fromInclusive ≤ reservation.throughInclusive ∧
          reservation.throughInclusive =
            ((ledger.step call).2.seat seat).reservedThrough := by
    intro seat reservation granted
    obtain ⟨_, index, _, same, _, interval, following, moved⟩ :=
      grantedBy_some granted
    rw [moved, seat_eq same, seat_eq same, UInt64.lt_iff_toNat_lt]
    refine ⟨by omega, interval, ?_⟩
    simp only [reserve, Function.update_self]
  have consuming :
      ∀ seat, ∀ sequence,
        consumedBy seat (Logbook.entry step ledger call) = some sequence →
        (ledger.seat seat).consumedThrough < sequence ∧
          sequence = ((ledger.step call).2.seat seat).consumedThrough := by
    intro seat sequence consumed
    obtain ⟨index, same, _, higher, _, moved⟩ := consumedBy_some consumed
    rw [seat_eq same, seat_eq same]
    exact ⟨higher, moved.symm⟩
  refine ⟨fun index => (advances index).ordered, fun seat => ⟨?_, ?_⟩,
    fun seat => ?_, fun seat => ?_, fun seat => ?_⟩
  · rw [reservations_concat]
    refine pairwise_toList (marked.increasing seat).1 ?_
    intro reservation granted earlier member
    exact UInt64.lt_of_le_of_lt (marked.reserved seat earlier member)
      (granting seat reservation granted).1
  · intro reservation member
    rw [reservations_concat, List.mem_append, Option.mem_toList] at member
    rcases member with old | new
    · exact (marked.increasing seat).2 reservation old
    · exact (granting seat reservation new).2.1
  · intro reservation member
    rw [reservations_concat, List.mem_append, Option.mem_toList] at member
    rcases member with old | new
    · obtain ⟨index, reads, _⟩ := seat_reads seat
      have bound := marked.reserved seat reservation old
      rw [reads] at bound ⊢
      exact UInt64.le_trans bound (advances index).reserved
    · exact UInt64.le_of_eq (granting seat reservation new).2.2
  · rw [consumptions_concat]
    refine pairwise_toList (marked.unique seat) ?_
    intro sequence consumed earlier member
    exact UInt64.lt_of_le_of_lt (marked.consumed seat earlier member)
      (consuming seat sequence consumed).1
  · intro sequence member
    rw [consumptions_concat, List.mem_append, Option.mem_toList] at member
    rcases member with old | new
    · obtain ⟨index, reads, _⟩ := seat_reads seat
      have bound := marked.consumed seat sequence old
      rw [reads] at bound ⊢
      exact UInt64.le_trans bound (advances index).consumed
    · exact UInt64.le_of_eq (consuming seat sequence new).2

theorem run
    (calls : List LedgerCall) :
    Marked (Logbook.log step {} calls) (Logbook.after step {} calls) :=
  Logbook.run_keeps step Marked start (fun _ _ call marked => marked.keeps call)
    calls

end Marked

/-! ## Numbers granted since the last handoff -/

theorem sinceHandoff_concat
    (log : List LedgerEntry)
    (entry : LedgerEntry) :
    sinceHandoff (log ++ [entry]) =
      if handsOff entry then [] else sinceHandoff log ++ [entry] := by
  rw [sinceHandoff, List.rtakeWhile_concat]
  cases handsOff entry <;> rfl

section Coverage

variable {log : List LedgerEntry} {seat : UInt8} {sequence : UInt64} {entry : LedgerEntry}

theorem Covered.concat
    (covered : Covered log seat sequence)
    (staying : handsOff entry = false) :
    Covered (log ++ [entry]) seat sequence := by
  obtain ⟨reservation, member, bounds⟩ := covered
  refine ⟨reservation, ?_, bounds⟩
  rw [sinceHandoff_concat, staying, if_neg Bool.false_ne_true,
    reservations_concat]
  exact List.mem_append_left _ member

variable {reservation : Reservation}

theorem Covered.of_grant
    (granted : grantedBy seat entry = some reservation)
    (lower : reservation.fromInclusive ≤ sequence)
    (upper : sequence ≤ reservation.throughInclusive) :
    Covered (log ++ [entry]) seat sequence := by
  refine ⟨reservation, ?_, lower, upper⟩
  have staying : handsOff entry = false := by
    obtain ⟨_, kind, shape⟩ := grantedBy_eq_some.1 granted
    simp [handsOff, shape]
  rw [sinceHandoff_concat, staying, if_neg Bool.false_ne_true,
    reservations_concat, granted]
  simp

/-- While numbers are granted, those not yet consumed were granted since the handoff. -/
def Settled
    (log : List LedgerEntry)
    (ledger : InputSequenceLedger) : Prop :=
  ledger.granted = true →
  ∀ (seat : UInt8) (index : Fin kLedgerSeatCount) (sequence : UInt64),
    seat.toNat = index →
    (ledger.seats index).consumedThrough < sequence →
    sequence ≤ (ledger.seats index).reservedThrough →
    Covered log seat sequence

variable {ledger : InputSequenceLedger}

/-- A call after which the open numbers are among those open before it. -/
theorem Settled.of_open
    {next : InputSequenceLedger}
    (settled : Settled log ledger)
    (staying : handsOff entry = false)
    (granted : next.granted = true → ledger.granted = true)
    (within :
      ∀ index sequence,
        (next.seats index).consumedThrough < sequence →
        sequence ≤ (next.seats index).reservedThrough →
        (ledger.seats index).consumedThrough < sequence ∧
          sequence ≤ (ledger.seats index).reservedThrough) :
    Settled (log ++ [entry]) next := by
  intro granting seat index sequence same lower upper
  obtain ⟨above, below⟩ := within index sequence lower upper
  exact (settled (granted granting) seat index sequence same above below).concat
    staying

variable {call : LedgerCall}

theorem Settled.grant
    (settled : Settled log ledger)
    (granted :
      grantedBy seat (Logbook.entry step ledger call) = some reservation)
    (burned :
      ledger.granted = false →
      ∀ index,
        (ledger.seats index).consumedThrough =
          (ledger.seats index).reservedThrough) :
    Settled (log ++ [Logbook.entry step ledger call]) (ledger.step call).2 := by
  obtain ⟨kind, index, shape, same, _, interval, following, moved⟩ :=
    grantedBy_some granted
  have staying : handsOff (Logbook.entry step ledger call) = false := by
    simp [handsOff, Logbook.entry, shape]
  have before :
      ∀ (other : UInt8) (place : Fin kLedgerSeatCount) (sequence : UInt64),
        other.toNat = place →
        (ledger.seats place).consumedThrough < sequence →
        sequence ≤ (ledger.seats place).reservedThrough →
        Covered (log ++ [Logbook.entry step ledger call]) other sequence := by
    intro other place sequence named above below
    cases granting : ledger.granted with
    | true =>
        exact (settled granting other place sequence named above below).concat
          staying
    | false =>
        rw [burned granting place] at above
        exact absurd (UInt64.lt_of_lt_of_le above below) (UInt64.lt_irrefl _)
  rw [moved]
  intro _ other place sequence named above below
  by_cases here : place = index
  · subst here
    obtain rfl : other = seat := UInt8.toNat_inj.1 (named.trans same.symm)
    simp only [reserve, Function.update_self] at above below
    by_cases old : sequence ≤ (ledger.seats place).reservedThrough
    · exact before other place sequence named above old
    · refine Covered.of_grant granted ?_ below
      rw [UInt64.le_iff_toNat_le] at old ⊢
      omega
  · simp only [reserve, ne_eq, here, not_false_eq_true, Function.update_of_ne]
      at above below
    exact before other place sequence named above below

theorem Settled.keeps
    (settled : Settled log ledger)
    (burned :
      ∀ seat reservation,
        grantedBy seat (Logbook.entry step ledger call) = some reservation →
        ledger.granted = false →
        ∀ index,
          (ledger.seats index).consumedThrough =
            (ledger.seats index).reservedThrough) :
    Settled (log ++ [Logbook.entry step ledger call]) (ledger.step call).2 := by
  by_cases accepted : (ledger.step call).1 = .ok
  case neg =>
    have staying : handsOff (Logbook.entry step ledger call) = false := by
      simp [handsOff, Logbook.entry, accepted]
    rw [step_refused accepted]
    exact settled.of_open staying id fun _ _ above below => ⟨above, below⟩
  case pos =>
    cases call with
    | grant seat fromInclusive throughInclusive kind =>
        have granted :
            grantedBy seat
                (Logbook.entry step ledger
                  (.grant seat fromInclusive throughInclusive kind)) =
              some ⟨fromInclusive, throughInclusive⟩ :=
          grantedBy_eq_some.2 ⟨accepted, kind, rfl⟩
        exact settled.grant granted (burned seat _ granted)
    | consume seat sequence =>
        obtain ⟨place, _, granted, higher, _, moved⟩ := consume_ok accepted
        refine settled.of_open rfl (fun _ => granted) ?_
        rw [step, moved]
        intro index next above below
        by_cases here : index = place
        · subst here
          simp only [Function.update_self] at above below
          exact ⟨UInt64.lt_trans higher above, below⟩
        · simp only [ne_eq, here, not_false_eq_true, Function.update_of_ne]
            at above below
          exact ⟨above, below⟩
    | closeChild =>
        refine settled.of_open rfl ?_ ?_ <;>
          simp only [step, closeChild] <;> grind
    | abortPrestart =>
        rw [step, abortPrestart_ok accepted]
        intro granted
        simp at granted
    | handoffSuccessor =>
        intro granted
        simp only [step, handoffSuccessor] at granted accepted
        grind
    | _ =>
        refine settled.of_open rfl ?_ ?_ <;>
          simp only [step, genesis, resetToZero, releaseSourceWriter] <;> grind

end Coverage

/-! ## The ledger over a whole run -/

variable {log : List LedgerEntry}

theorem grantsAfterBurning_concat
    {entry : LedgerEntry} :
    GrantsAfterBurning (log ++ [entry]) ↔
      GrantsAfterBurning log ∧
        ∀ seat reservation,
          grantedBy seat entry = some reservation →
          entry.before.granted = false →
          ∀ index,
            (entry.before.seats index).consumedThrough =
              (entry.before.seats index).reservedThrough := by
  simp only [GrantsAfterBurning, List.mem_append, List.mem_singleton,
    or_imp, forall_and, forall_eq]

/-- Grants that find the old numbers burned keep the numbers consumed new. -/
theorem consumed_since_handoff
    (calls : List LedgerCall) :
    GrantsAfterBurning (Logbook.log step {} calls) →
    Settled (Logbook.log step {} calls) (Logbook.after step {} calls) ∧
      ConsumedSinceHandoff (Logbook.log step {} calls) := by
  refine Logbook.run_keeps step
    (fun log ledger =>
      GrantsAfterBurning log → Settled log ledger ∧ ConsumedSinceHandoff log)
    (fun _ => ⟨fun granted => absurd granted Bool.false_ne_true,
      Chronology.Every.nil⟩) ?_ calls
  intro log ledger call kept grants
  obtain ⟨earlier, burned⟩ := grantsAfterBurning_concat.1 grants
  obtain ⟨settled, since⟩ := kept earlier
  refine ⟨settled.keeps burned, since.concat ?_⟩
  intro seat sequence consumed
  obtain ⟨index, same, granted, above, below, _⟩ := consumedBy_some consumed
  exact settled granted seat index sequence same above below

/--
In every run the intervals of a seat increase without meeting, the numbers
consumed at a seat increase, and a refused call leaves the ledger as it was.  The
numbers consumed were granted since the last handoff as long as every grant after
a handoff finds the older numbers burned.
-/
theorem input_sequences_unique
    (calls : List LedgerCall) :
    ReservationsIncrease (Logbook.log step {} calls) ∧
      ConsumptionsIncrease (Logbook.log step {} calls) ∧
      (∀ (ledger : InputSequenceLedger) (call : LedgerCall),
        (ledger.step call).1 ≠ .ok → (ledger.step call).2 = ledger) ∧
      (GrantsAfterBurning (Logbook.log step {} calls) →
        ConsumedSinceHandoff (Logbook.log step {} calls)) := by
  have marked := Marked.run calls
  exact ⟨marked.increasing, marked.unique, fun _ _ refused => step_refused refused,
    fun grants => (consumed_since_handoff calls grants).2⟩

/-- Nothing has been granted to an open ledger since the handoff. -/
def Fresh
    (log : List LedgerEntry)
    (ledger : InputSequenceLedger) : Prop :=
  ledger.granted = false →
  ledger.closed = false →
  ∀ seat, reservations seat (sinceHandoff log) = []

variable {ledger : InputSequenceLedger}

theorem Fresh.keeps
    (fresh : Fresh log ledger)
    (call : LedgerCall) :
    Fresh (log ++ [Logbook.entry step ledger call]) (ledger.step call).2 := by
  intro granted opened seat
  rw [sinceHandoff_concat]
  split
  case isTrue => rfl
  case isFalse staying =>
    rw [reservations_concat]
    cases granting : grantedBy seat (Logbook.entry step ledger call) with
    | some reservation =>
        obtain ⟨_, _, _, _, _, _, _, moved⟩ := grantedBy_some granting
        rw [moved] at granted
        simp [reserve] at granted
    | none =>
        have before : ledger.granted = false ∧ ledger.closed = false := by
          by_cases accepted : (ledger.step call).1 = .ok
          case neg =>
            rw [step_refused accepted] at granted opened
            exact ⟨granted, opened⟩
          case pos =>
            cases call with
            | grant other fromInclusive throughInclusive kind =>
                obtain ⟨_, _, _, _, _, moved⟩ := grant_ok accepted
                rw [step, moved] at granted
                simp [reserve] at granted
            | consume other sequence =>
                obtain ⟨_, _, _, _, _, moved⟩ := consume_ok accepted
                rw [step, moved] at granted opened
                exact ⟨granted, opened⟩
            | closeChild =>
                simp only [step, closeChild] at accepted opened
                grind
            | abortPrestart =>
                rw [step, abortPrestart_ok accepted] at opened
                simp at opened
            | handoffSuccessor =>
                simp [handsOff, Logbook.entry, accepted] at staying
            | _ =>
                simp only [step, genesis, resetToZero, releaseSourceWriter]
                  at granted opened
                grind
        rw [fresh before.1 before.2 seat]
        rfl

theorem Fresh.run
    (calls : List LedgerCall) :
    Fresh (Logbook.log step {} calls) (Logbook.after step {} calls) :=
  Logbook.run_keeps step Fresh (fun _ _ _ => rfl)
    (fun _ _ call fresh => fresh.keeps call) calls

/-- A number between the marks of an open seat is consumed. -/
theorem consumedBy_consume
    {index : Fin kLedgerSeatCount}
    {sequence : UInt64}
    (granted : ledger.granted = true)
    (opened : ledger.closed = false ∧ ledger.repairBlocked = false)
    (above : (ledger.seats index).consumedThrough < sequence)
    (below : sequence ≤ (ledger.seats index).reservedThrough) :
    consumedBy (UInt8.ofNat index)
        (Logbook.entry step ledger (.consume (UInt8.ofNat index) sequence)) =
      some sequence := by
  refine consumedBy_eq_some.2 ⟨?_, rfl⟩
  have named : (UInt8.ofNat index).toNat = index :=
    UInt8.toNat_ofNat_of_lt' (Nat.lt_trans index.isLt (by decide))
  have inRange : (UInt8.ofNat index).toNat < kLedgerSeatCount := by
    rw [named]
    exact index.isLt
  have nonzero : sequence ≠ 0 := by
    rintro rfl
    exact absurd above (by simp)
  have slot :
      ledger.seats ⟨(UInt8.ofNat index).toNat, inRange⟩ = ledger.seats index :=
    congrArg ledger.seats (Fin.ext named)
  simp only [Logbook.entry, step, consume, inRange, ↓reduceDIte, nonzero,
    ↓reduceIte, granted, opened, slot, Bool.not_true, Bool.or_self,
    Bool.false_eq_true]
  grind

/--
A grant that finds a number reserved and not burned brings it back: the number is
consumed right after the grant, though it was reserved before the handoff.
-/
theorem grant_revives
    (calls : List LedgerCall)
    {call : LedgerCall}
    {seat : UInt8}
    {reservation : Reservation}
    (granted :
      grantedBy seat (Logbook.entry step (Logbook.after step {} calls) call) =
        some reservation)
    (fresh : (Logbook.after step {} calls).granted = false)
    (index : Fin kLedgerSeatCount)
    (unburned :
      ((Logbook.after step {} calls).seats index).consumedThrough ≠
        ((Logbook.after step {} calls).seats index).reservedThrough) :
    ∃ sequence,
      consumedBy (UInt8.ofNat index)
          (Logbook.entry step (Logbook.after step {} (calls ++ [call]))
            (.consume (UInt8.ofNat index) sequence)) =
        some sequence ∧
      ¬ Covered (Logbook.log step {} (calls ++ [call])) (UInt8.ofNat index) sequence := by
  have ordered := (Marked.run calls).ordered
  have empty := Fresh.run calls fresh
  simp only [Logbook.log_append, Logbook.after_append]
  generalize Logbook.log step {} calls = log at *
  generalize Logbook.after step {} calls = ledger at *
  obtain ⟨_, place, _, _, opened, interval, following, moved⟩ :=
    grantedBy_some granted
  have between :
      (ledger.seats index).consumedThrough.toNat + 1 ≤
        (ledger.seats index).reservedThrough.toNat := by
    have bound := UInt64.le_iff_toNat_le.1 (ordered index)
    have different := mt UInt64.toNat_inj.1 unburned
    omega
  have next :
      ((ledger.seats index).consumedThrough + 1).toNat =
        (ledger.seats index).consumedThrough.toNat + 1 := by
    rw [UInt64.toNat_add, UInt64.toNat_one]
    have bound := (ledger.seats index).reservedThrough.toNat_lt
    omega
  have kept :
      ((ledger.step call).2.seats index).consumedThrough =
        (ledger.seats index).consumedThrough := by
    rw [moved]
    by_cases here : index = place
    · subst here
      simp only [reserve, Function.update_self]
    · simp only [reserve, ne_eq, here, not_false_eq_true, Function.update_of_ne]
  have advances := (step_advances ordered call index).reserved
  have consumed :=
    consumedBy_consume
      (by rw [moved]; rfl : (ledger.step call).2.granted = true)
      (by rw [moved]; exact opened)
      (by rw [kept, UInt64.lt_iff_toNat_lt]; omega :
        ((ledger.step call).2.seats index).consumedThrough <
          (ledger.seats index).consumedThrough + 1)
      (by rw [UInt64.le_iff_toNat_le] at advances ⊢; omega)
  refine ⟨(ledger.seats index).consumedThrough + 1, consumed, ?_⟩
  rintro ⟨other, member, lower, _⟩
  have staying : handsOff (Logbook.entry step ledger call) = false := by
    obtain ⟨_, kind, shape⟩ := grantedBy_eq_some.1 granted
    simp [handsOff, shape]
  change other ∈ reservations _ (sinceHandoff (log ++ [_])) at member
  rw [sinceHandoff_concat, staying, if_neg Bool.false_ne_true,
    reservations_concat, empty opened.1, List.nil_append, Option.mem_toList]
    at member
  obtain ⟨_, same, _, named, _, _, above, _⟩ := grantedBy_some member
  obtain rfl : same = index := by
    refine Fin.ext (named.symm.trans ?_)
    exact UInt8.toNat_ofNat_of_lt' (Nat.lt_trans index.isLt (by decide))
  rw [UInt64.le_iff_toNat_le] at lower
  omega

/-- A child that closes, its successor, and one number of each. -/
def closedChildCalls : List LedgerCall :=
  [.grant 0 1 5 .prime, .consume 0 3, .closeChild, .handoffSuccessor,
    .grant 0 6 10 .normal, .consume 0 6]

/-- The successor of a closed child consumes only new numbers. -/
theorem closed_child_numbers_new :
    consumptions 0 (Logbook.log step {} closedChildCalls) = [3, 6] ∧
      ConsumedSinceHandoff (Logbook.log step {} closedChildCalls) := by
  have burned :
      ∀ entry ∈ Logbook.log step {} closedChildCalls,
        entry.before.granted = false →
        ∀ index,
          (entry.before.seats index).consumedThrough =
            (entry.before.seats index).reservedThrough := by
    decide
  exact ⟨by decide, (input_sequences_unique closedChildCalls).2.2.2
    fun entry member _ _ _ fresh => burned entry member fresh⟩

/-- An aborted child, its successor, and a number reserved before the abort. -/
def abortedChildCalls : List LedgerCall :=
  [.grant 0 1 5 .prime, .abortPrestart, .handoffSuccessor, .grant 0 6 10 .normal,
    .consume 0 3]

/-- The abort burns nothing: its successor consumes a number reserved before. -/
theorem aborted_number_consumed_again :
    ¬ ConsumedSinceHandoff (Logbook.log step {} abortedChildCalls) := by
  intro since
  have covered :=
    since (Logbook.log step {} (abortedChildCalls.take 4))
      (Logbook.entry step (Logbook.after step {} (abortedChildCalls.take 4))
        (.consume 0 3)) [] rfl 0 3 (by decide)
  obtain ⟨reservation, member, lower, _⟩ := covered
  have only :
      reservations 0
          (sinceHandoff (Logbook.log step {} (abortedChildCalls.take 4))) =
        [⟨6, 10⟩] := by
    decide
  rw [only] at member
  obtain rfl := List.mem_singleton.1 member
  exact absurd lower (by decide)

theorem aborted_numbers_revived :
    ∃ sequence,
      consumedBy 0
          (Logbook.entry step (Logbook.after step {} (abortedChildCalls.take 4))
            (.consume 0 sequence)) =
        some sequence ∧
      ¬ Covered (Logbook.log step {} (abortedChildCalls.take 4)) 0 sequence :=
  grant_revives (abortedChildCalls.take 3)
    (rfl : grantedBy 0
        (Logbook.entry step (Logbook.after step {} (abortedChildCalls.take 3))
          (.grant 0 6 10 .normal)) =
      some ⟨6, 10⟩)
    rfl ⟨0, by decide⟩ (by decide)

end InputSequenceLedger

end FlyNes.Recovery
