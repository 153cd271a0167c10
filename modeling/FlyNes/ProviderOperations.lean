import FlyNes.Logbook
import FlyNes.ProviderJournal

namespace FlyNes.Ports.Abi

open ByteString
open FlyNes.Dual (SessionResult)

/-!
# The journal of operations over whole tokens

The tokens and events of providers have all their fields here, since the journal
compares every one of them.  What an event carries is parsed elsewhere: an accept gets
the outcome of that with the event.
-/

def kSessionAbiVersion : UInt32 := 2

def kSessionScopeSize : UInt32 := 48

def kSessionOpTokenSize : UInt32 := 160

structure SessionScope where
  structSize : UInt32
  abiVersion : UInt32
  kind : UInt32
  reservedZero : UInt32
  linkId : Block 16
  branchId : Block 16
deriving DecidableEq

structure SessionOpToken where
  structSize : UInt32
  abiVersion : UInt32
  engineInstanceId : Block 16
  scope : SessionScope
  connectionGeneration : UInt64
  configRevision : UInt64
  authorityTerm : UInt64
  writerGeneration : UInt64
  timelineEpoch : UInt64
  seatRevision : UInt64
  modeGeneration : UInt64
  mediaGeneration : UInt64
  operationId : UInt64
  transitionId : Block 16
deriving DecidableEq

structure SessionPortEvent where
  structSize : UInt32
  abiVersion : UInt32
  token : SessionOpToken
  eventSequence : UInt64
  eventKind : UInt32
  terminal : UInt32
  result : Int32
  payloadKind : UInt32
  payloadSize : UInt32
  reservedZero : UInt32
  payload : Block 64
deriving DecidableEq

def validToken (token : SessionOpToken) : Bool :=
  token.structSize == kSessionOpTokenSize && token.abiVersion == kSessionAbiVersion &&
    token.scope.structSize == kSessionScopeSize &&
    token.scope.abiVersion == kSessionAbiVersion && token.scope.reservedZero == 0 &&
    token.operationId != 0 && 1 ≤ token.scope.kind && token.scope.kind ≤ 3

/-- The payloads are compared as far as the first one declares. -/
def sameEvent (left right : SessionPortEvent) : Bool :=
  left.token == right.token && left.structSize == right.structSize &&
    left.abiVersion == right.abiVersion && left.eventSequence == right.eventSequence &&
    left.eventKind == right.eventKind && left.terminal == right.terminal &&
    left.result == right.result && left.payloadKind == right.payloadKind &&
    left.payloadSize == right.payloadSize && left.reservedZero == right.reservedZero &&
    left.payload.bytes.take left.payloadSize.toNat ==
      right.payload.bytes.take left.payloadSize.toNat

/-- The events agree in every field and in the payload that they declare. -/
theorem sameEvent_iff (left right : SessionPortEvent) :
    sameEvent left right = true ↔
      left = { right with payload := left.payload } ∧
        left.payload.bytes.take left.payloadSize.toNat =
          right.payload.bytes.take right.payloadSize.toNat := by
  cases left
  cases right
  simp only [sameEvent, Bool.and_eq_true, beq_iff_eq, SessionPortEvent.mk.injEq]
  constructor
  · rintro ⟨⟨⟨⟨⟨⟨⟨⟨⟨⟨rfl, rfl⟩, rfl⟩, rfl⟩, rfl⟩, rfl⟩, rfl⟩, rfl⟩, rfl⟩, rfl⟩, payload⟩
    simpa using payload
  · rintro ⟨⟨rfl, rfl, rfl, rfl, rfl, rfl, rfl, rfl, rfl, rfl, -⟩, payload⟩
    simpa using payload

/-- The answers of `parse_provider_event_v2` to events that it refuses. -/
inductive ParseRefusal where
  | abiMismatch
  | invalidArgument
  | stale
  | contractViolation
  | unsupported
deriving DecidableEq

def ParseRefusal.result : ParseRefusal → SessionResult
  | .abiMismatch => .abiMismatch
  | .invalidArgument => .invalidArgument
  | .stale => .stale
  | .contractViolation => .contractViolation
  | .unsupported => .unsupported

instance : ProviderAbi SessionOpToken UInt64 UInt32 SessionPortEvent where
  operationId token := token.operationId
  validToken := validToken
  validKind kind := kind != 0
  token event := event.token
  terminal event := event.terminal != 0
  sameEvent := sameEvent

abbrev OperationRecord := JournalRecord SessionOpToken UInt32 SessionPortEvent

/-- The journal over whole tokens and events. -/
abbrev SessionJournal :=
  ProviderOperationJournal SessionOpToken UInt64 UInt32 SessionPortEvent

inductive JournalCall where
  | expect (token : SessionOpToken) (payloadKind : UInt32)
  | accept (event : SessionPortEvent) (parsed : Except ParseRefusal Unit)
  | cancel (token : SessionOpToken)

namespace SessionJournal

def perform (journal : SessionJournal) :
    JournalCall → SessionResult × SessionJournal
  | .expect token payloadKind => journal.expect token payloadKind
  | .accept event parsed =>
      match journal.accept event fun _ => parsed.mapError ParseRefusal.result with
      | .error result => (result, journal)
      | .ok (_, journal) => (.ok, journal)
  | .cancel token => journal.cancel token

/-! ### What a call does -/

/-- The outcomes of a call: it is refused, or a record is added or ended. -/
inductive Performs (journal : SessionJournal) :
    JournalCall → SessionResult × SessionJournal → Prop where
  | refused
      {call : JournalCall}
      {result : SessionResult}
      (failed : result ≠ .ok)
      (duplicate :
        ∀ event parsed, call = .accept event parsed → result = .duplicate →
          ∃ record earlier,
            journal.record? event.token.operationId = some record ∧
              record.state = .terminal earlier ∧ sameEvent earlier event = true) :
      Performs journal call (result, journal)
  | expected
      {token : SessionOpToken}
      {payloadKind : UInt32}
      (new : journal.highestOperationId < token.operationId)
      (room : journal.active < journal.activeCapacity) :
      Performs journal (.expect token payloadKind)
        (.ok,
          { journal with
            records := journal.records ++ [⟨token, payloadKind, .pending⟩]
            highestOperationId := token.operationId })
  | accepted
      {event : SessionPortEvent}
      {parsed : Except ParseRefusal Unit}
      {record : OperationRecord}
      (found : journal.record? event.token.operationId = some record)
      (pending : record.state = .pending)
      (same : record.token = event.token) :
      Performs journal (.accept event parsed)
        (.ok, journal.mark event.token.operationId (.terminal event))
  | cancelled
      {token : SessionOpToken}
      {record : OperationRecord}
      (found : journal.record? token.operationId = some record)
      (pending : record.state = .pending)
      (same : record.token = token) :
      Performs journal (.cancel token)
        (.ok, journal.mark token.operationId .cancelled)

theorem ParseRefusal_result_ne (refusal : ParseRefusal) :
    refusal.result ≠ .ok ∧ refusal.result ≠ .duplicate := by
  cases refusal <;> decide

theorem perform_cases
    (journal : SessionJournal)
    (call : JournalCall) :
    journal.Performs call (journal.perform call) := by
  cases call with
  | expect token payloadKind =>
      have refuse (result : SessionResult) (failed : result ≠ .ok) :
          journal.Performs (.expect token payloadKind) (result, journal) :=
        .refused failed fun _ _ call => by cases call
      simp only [perform, ProviderOperationJournal.expect]
      split
      · exact refuse _ (by decide)
      · split
        · split
          · exact refuse _ (by decide)
          · exact refuse _ (by decide)
        · split
          · exact refuse _ (by decide)
          next new =>
            split
            · exact refuse _ (by decide)
            next room =>
              exact .expected (UInt64.not_le.mp new) (Nat.not_le.mp room)
  | cancel token =>
      have refuse (result : SessionResult) (failed : result ≠ .ok) :
          journal.Performs (.cancel token) (result, journal) :=
        .refused failed fun _ _ call => by cases call
      simp only [perform, ProviderOperationJournal.cancel]
      split
      · exact refuse _ (by decide)
      next record found =>
        split
        · exact refuse _ (by decide)
        next same =>
          split
          · exact refuse _ (by decide)
          next pending => exact .cancelled found (not_not.mp pending) (not_not.mp same)
  | accept event parsed =>
      have refuse (result : SessionResult) (failed : result ≠ .ok)
          (fresh : result ≠ .duplicate) :
          journal.Performs (.accept event parsed) (result, journal) :=
        .refused failed fun _ _ _ duplicate => absurd duplicate fresh
      simp only [perform, ProviderOperationJournal.accept]
      split
      next result failed =>
        split at failed
        · cases failed
          exact refuse _ (by decide) (by decide)
        next record found =>
          split at failed
          · cases failed
            exact refuse _ (by decide) (by decide)
          · split at failed
            · cases failed
              exact refuse _ (by decide) (by decide)
            next earlier ended =>
              cases failed
              refine .refused ?_ ?_
              · split <;> decide
              · rintro other parsed ⟨⟩ duplicate
                split at duplicate
                next repeated => exact ⟨record, earlier, found, ended, repeated⟩
                · cases duplicate
            · split at failed
              next refused unread =>
                cases failed
                cases parsed with
                | ok => cases unread
                | error refusal =>
                    cases unread
                    obtain ⟨failed, fresh⟩ := ParseRefusal_result_ne refusal
                    exact refuse _ failed fresh
              · split at failed
                · cases failed
                  exact refuse _ (by decide) (by decide)
                · cases failed
      next done later accepted =>
        split at accepted
        · cases accepted
        next record found =>
          split at accepted
          · cases accepted
          next same =>
            split at accepted
            · cases accepted
            · cases accepted
            next pending =>
              split at accepted
              · cases accepted
              · split at accepted
                · cases accepted
                · cases accepted
                  exact .accepted found pending (not_not.mp same)

end SessionJournal

/-! ### Logs -/

abbrev JournalEntry := Logbook.Entry SessionJournal JournalCall SessionResult

abbrev JournalLog := List JournalEntry

namespace JournalLog

/-- The operation that an entry has registered. -/
def expectedId (entry : JournalEntry) : Option UInt64 :=
  match entry.call, entry.answer with
  | .expect token _, .ok => some token.operationId
  | _, _ => none

/-- The operation whose event an entry has accepted. -/
def acceptedId (entry : JournalEntry) : Option UInt64 :=
  match entry.call, entry.answer with
  | .accept event _, .ok => some event.token.operationId
  | _, _ => none

def cancelledId (entry : JournalEntry) : Option UInt64 :=
  match entry.call, entry.answer with
  | .cancel token, .ok => some token.operationId
  | _, _ => none

/-- The entry has accepted an event. -/
def Completes (event : SessionPortEvent) (entry : JournalEntry) : Prop :=
  entry.answer = .ok ∧ ∃ parsed, entry.call = .accept event parsed

theorem filterMap_concat
    (field : JournalEntry → Option UInt64)
    (log : JournalLog)
    (entry : JournalEntry) :
    (log ++ [entry]).filterMap field = log.filterMap field ++ (field entry).toList := by
  cases value : field entry <;> simp [value]

/-- What holds of a log and of the journal behind it. -/
structure Recorded
    (capacity : Nat)
    (log : JournalLog)
    (journal : SessionJournal) : Prop where
  capacity : journal.activeCapacity = capacity
  ids : journal.records.map (·.token.operationId) = log.filterMap expectedId
  increasing : (log.filterMap expectedId).Pairwise (· < ·)
  highest : ∀ id ∈ log.filterMap expectedId, id ≤ journal.highestOperationId
  few : journal.active ≤ journal.activeCapacity
  ended :
    ∀ id, id ∈ log.filterMap acceptedId ∨ id ∈ log.filterMap cancelledId →
      id ∈ log.filterMap expectedId
  pending :
    ∀ record ∈ journal.records, record.state = .pending →
      record.token.operationId ∉ log.filterMap acceptedId ∧
        record.token.operationId ∉ log.filterMap cancelledId
  once : (log.filterMap acceptedId).Nodup
  apart : ∀ id ∈ log.filterMap acceptedId, id ∉ log.filterMap cancelledId
  completed :
    ∀ record ∈ journal.records, ∀ event, record.state = .terminal event →
      ∃ entry ∈ log, Completes event entry

section Steps

variable {capacity : Nat}
variable {log : JournalLog}
variable {journal : SessionJournal}

theorem Recorded.start :
    Recorded capacity [] (.create capacity) where
  capacity := rfl
  ids := rfl
  increasing := .nil
  highest := by simp
  few := Nat.zero_le _
  ended := by simp
  pending := by simp
  once := .nil
  apart := by simp
  completed := by simp [ProviderOperationJournal.create]

variable {record : OperationRecord}

/-- The record of an operation is the one that its number finds. -/
theorem Recorded.record?_eq_some
    (recorded : Recorded capacity log journal)
    (member : record ∈ journal.records) :
    journal.record? record.token.operationId = some record := by
  have distinct : (journal.records.map (·.token.operationId)).Nodup := by
    rw [recorded.ids]
    exact recorded.increasing.imp UInt64.ne_of_lt
  unfold ProviderOperationJournal.record?
  cases found : journal.records.find?
      (·.token.operationId == record.token.operationId) with
  | none =>
      rw [List.find?_eq_none] at found
      exact absurd (beq_self_eq_true _) (found record member)
  | some other =>
      have otherMember := List.mem_of_find?_eq_some found
      have sameId : other.token.operationId = record.token.operationId := by
        simpa using List.find?_some found
      rw [List.inj_on_of_nodup_map distinct otherMember member sameId]

variable {entry : JournalEntry}

theorem Recorded.refuse
    (recorded : Recorded capacity log journal)
    (failed : entry.answer ≠ .ok) :
    Recorded capacity (log ++ [entry]) journal := by
  have noExpected : expectedId entry = none := by
    unfold expectedId
    split
    next ok => exact absurd ok failed
    · rfl
  have noAccepted : acceptedId entry = none := by
    unfold acceptedId
    split
    next ok => exact absurd ok failed
    · rfl
  have noCancelled : cancelledId entry = none := by
    unfold cancelledId
    split
    next ok => exact absurd ok failed
    · rfl
  constructor
  · exact recorded.capacity
  · simpa [filterMap_concat, noExpected] using recorded.ids
  · simpa [filterMap_concat, noExpected] using recorded.increasing
  · simpa only [filterMap_concat, noExpected, Option.toList, List.append_nil]
      using recorded.highest
  · exact recorded.few
  · simpa only [filterMap_concat, noExpected, noAccepted, noCancelled, Option.toList,
      List.append_nil] using recorded.ended
  · simpa only [filterMap_concat, noAccepted, noCancelled, Option.toList,
      List.append_nil] using recorded.pending
  · simpa [filterMap_concat, noAccepted] using recorded.once
  · simpa only [filterMap_concat, noAccepted, noCancelled, Option.toList,
      List.append_nil] using recorded.apart
  · intro record member event ended
    obtain ⟨old, among, completes⟩ := recorded.completed record member event ended
    exact ⟨old, List.mem_append_left _ among, completes⟩

theorem Recorded.expect
    (recorded : Recorded capacity log journal)
    {token : SessionOpToken}
    {payloadKind : UInt32}
    (new : journal.highestOperationId < token.operationId)
    (room : journal.active < journal.activeCapacity)
    (call : entry.call = .expect token payloadKind)
    (answer : entry.answer = .ok) :
    Recorded capacity (log ++ [entry])
      { journal with
        records := journal.records ++ [⟨token, payloadKind, .pending⟩]
        highestOperationId := token.operationId } := by
  have expected : expectedId entry = some token.operationId := by
    simp only [expectedId, call, answer]
  have noAccepted : acceptedId entry = none := by
    simp only [acceptedId, call]
  have noCancelled : cancelledId entry = none := by
    simp only [cancelledId, call]
  have below : ∀ id ∈ log.filterMap expectedId, id < token.operationId :=
    fun id member => UInt64.lt_of_le_of_lt (recorded.highest id member) new
  have fresh : token.operationId ∉ log.filterMap expectedId :=
    fun member => UInt64.lt_irrefl _ (below _ member)
  constructor
  · exact recorded.capacity
  · simp [expected, recorded.ids]
  · rw [filterMap_concat, expected]
    refine List.pairwise_append.mpr ⟨recorded.increasing, List.pairwise_singleton _ _, ?_⟩
    intro id member last among
    obtain rfl := List.mem_singleton.mp among
    exact below id member
  · intro id member
    rw [filterMap_concat, expected] at member
    rcases List.mem_append.mp member with old | last
    · exact UInt64.le_of_lt (below id old)
    · exact UInt64.le_of_eq (List.mem_singleton.mp last)
  · change (journal.records ++ [_]).countP _ ≤ _
    rw [List.countP_append]
    exact room
  · intro id found
    simp only [filterMap_concat, noAccepted, noCancelled, Option.toList,
      List.append_nil] at found
    rw [filterMap_concat]
    exact List.mem_append_left _ (recorded.ended id found)
  · intro record member isPending
    simp only [filterMap_concat, noAccepted, noCancelled, Option.toList, List.append_nil]
    rcases List.mem_append.mp member with old | last
    · exact recorded.pending record old isPending
    · obtain rfl := List.mem_singleton.mp last
      exact ⟨fun early => fresh (recorded.ended _ (Or.inl early)),
        fun early => fresh (recorded.ended _ (Or.inr early))⟩
  · simpa [filterMap_concat, noAccepted] using recorded.once
  · simpa only [filterMap_concat, noAccepted, noCancelled, Option.toList,
      List.append_nil] using recorded.apart
  · intro record member event ended
    rcases List.mem_append.mp member with old | last
    · obtain ⟨earlier, among, completes⟩ := recorded.completed record old event ended
      exact ⟨earlier, List.mem_append_left _ among, completes⟩
    · obtain rfl := List.mem_singleton.mp last
      cases ended

/-- An entry that ends a pending record, by an event or a cancellation. -/
theorem Recorded.finish
    (recorded : Recorded capacity log journal)
    {operationId : UInt64}
    (found : journal.record? operationId = some record)
    (pending : record.state = .pending)
    {state : RecordState SessionPortEvent}
    (ends : state ≠ .pending)
    (noExpected : expectedId entry = none)
    (result :
      (acceptedId entry = some operationId ∧ cancelledId entry = none) ∨
        (acceptedId entry = none ∧ cancelledId entry = some operationId))
    (completes : ∀ event, state = .terminal event → Completes event entry) :
    Recorded capacity (log ++ [entry]) (journal.mark operationId state) := by
  obtain ⟨same, front, back, split, marked⟩ :=
    ProviderOperationJournal.mark_records found state
  obtain rfl : record.token.operationId = operationId := same
  have ids := recorded.ids
  rw [split, List.map_append, List.map_cons] at ids
  have member : record ∈ journal.records := by
    rw [split]
    simp
  have known : record.token.operationId ∈ log.filterMap expectedId := by
    rw [← ids]
    simp
  obtain ⟨unaccepted, uncancelled⟩ := recorded.pending record member pending
  have distinct : ∀ other ∈ front ++ back,
      other.token.operationId ≠ record.token.operationId := by
    have increasing := recorded.increasing
    rw [← ids] at increasing
    obtain ⟨-, behind, before⟩ := List.pairwise_append.mp increasing
    obtain ⟨after, -⟩ := List.pairwise_cons.mp behind
    intro other among
    rcases List.mem_append.mp among with early | late
    · exact UInt64.ne_of_lt
        (before _ (List.mem_map_of_mem early) _ (List.mem_cons_self))
    · exact (UInt64.ne_of_lt (after _ (List.mem_map_of_mem late))).symm
  have kept : ∀ other ∈ (journal.mark record.token.operationId state).records,
      other = { record with state := state } ∨
        (other ∈ journal.records ∧ other ∈ front ++ back) := by
    intro other among
    rw [marked] at among
    rcases List.mem_append.mp among with early | late
    · exact Or.inr ⟨by rw [split]; exact List.mem_append_left _ early,
        List.mem_append_left _ early⟩
    · rcases List.mem_cons.mp late with here | late
      · exact Or.inl here
      · exact Or.inr ⟨by rw [split]; exact List.mem_append_right _ (.tail _ late),
          List.mem_append_right _ late⟩
  have accepted (id : UInt64) :
      id ∈ (log ++ [entry]).filterMap acceptedId ↔
        id ∈ log.filterMap acceptedId ∨ acceptedId entry = some id := by
    rw [filterMap_concat, List.mem_append, Option.mem_toList]
  have cancelled (id : UInt64) :
      id ∈ (log ++ [entry]).filterMap cancelledId ↔
        id ∈ log.filterMap cancelledId ∨ cancelledId entry = some id := by
    rw [filterMap_concat, List.mem_append, Option.mem_toList]
  have expected : (log ++ [entry]).filterMap expectedId = log.filterMap expectedId := by
    simp [noExpected]
  have named (id : UInt64)
      (here : acceptedId entry = some id ∨ cancelledId entry = some id) :
      id = record.token.operationId := by
    rcases result with ⟨one, none⟩ | ⟨none, one⟩
    · simpa [one, none, eq_comm] using here
    · simpa [one, none, eq_comm] using here
  constructor
  · exact recorded.capacity
  · rw [marked, expected, ← ids]
    simp
  · rw [expected]
    exact recorded.increasing
  · rw [expected]
    exact recorded.highest
  · have before := recorded.few
    change ((journal.mark record.token.operationId state).records).countP _ ≤ _
    rw [marked, List.countP_append, List.countP_cons_of_neg (by simpa using ends)]
    rw [ProviderOperationJournal.active, split, List.countP_append,
      List.countP_cons_of_pos (by simpa using pending)] at before
    change _ ≤ journal.activeCapacity
    omega
  · intro id either
    rw [expected]
    rw [accepted, cancelled] at either
    rcases either with (old | new) | (old | new)
    · exact recorded.ended id (Or.inl old)
    · exact named id (Or.inl new) ▸ known
    · exact recorded.ended id (Or.inr old)
    · exact named id (Or.inr new) ▸ known
  · intro other among isPending
    rcases kept other among with rfl | ⟨old, others⟩
    · exact absurd isPending ends
    · obtain ⟨noAccept, noCancel⟩ := recorded.pending other old isPending
      rw [accepted, cancelled]
      exact ⟨fun either => either.elim noAccept
          fun new => distinct other others (named _ (Or.inl new)),
        fun either => either.elim noCancel
          fun new => distinct other others (named _ (Or.inr new))⟩
  · rw [filterMap_concat]
    refine List.nodup_append.mpr ⟨recorded.once, by cases acceptedId entry <;> simp, ?_⟩
    intro id old other new
    rw [Option.mem_toList] at new
    obtain rfl := named other (Or.inl new)
    rintro rfl
    exact unaccepted old
  · intro id one other
    rw [accepted] at one
    rw [cancelled] at other
    rcases one with one | one
    · rcases other with other | other
      · exact recorded.apart id one other
      · obtain rfl := named id (Or.inr other)
        exact unaccepted one
    · rcases other with other | other
      · obtain rfl := named id (Or.inl one)
        exact uncancelled other
      · rcases result with ⟨-, none⟩ | ⟨none, -⟩
        · rw [none] at other
          cases other
        · rw [none] at one
          cases one
  · intro other among event ended
    rcases kept other among with rfl | ⟨old, -⟩
    · exact ⟨entry, by simp, completes event ended⟩
    · obtain ⟨earlier, found, done⟩ := recorded.completed other old event ended
      exact ⟨earlier, List.mem_append_left _ found, done⟩

theorem Recorded.perform
    (recorded : Recorded capacity log journal)
    (call : JournalCall) :
    Recorded capacity
      (log ++ [Logbook.entry SessionJournal.perform journal call])
      (journal.perform call).2 := by
  have cases := journal.perform_cases call
  have answer :
      (Logbook.entry SessionJournal.perform journal call).answer =
        (journal.perform call).1 := rfl
  generalize entryIs :
    Logbook.entry SessionJournal.perform journal call = entry at answer ⊢
  have callIs : entry.call = call := by
    rw [← entryIs]
    rfl
  generalize journal.perform call = outcome at cases answer ⊢
  cases cases with
  | refused failed => exact recorded.refuse (answer ▸ failed)
  | expected new room => exact recorded.expect new room callIs answer
  | @accepted event parsed record found pending same =>
      refine recorded.finish found pending (by simp) ?_ (Or.inl ⟨?_, ?_⟩) ?_
      · simp only [expectedId, callIs]
      · simp only [acceptedId, callIs, answer]
      · simp only [cancelledId, callIs]
      · rintro other ⟨⟩
        exact ⟨answer, parsed, callIs⟩
  | cancelled found pending same =>
      refine recorded.finish found pending (by simp) ?_ (Or.inr ⟨?_, ?_⟩) ?_
      · simp only [expectedId, callIs]
      · simp only [acceptedId, callIs]
      · simp only [cancelledId, callIs, answer]
      · rintro other ⟨⟩

end Steps

/-- Every operation is accepted at most once and not when it was cancelled; operations
are registered in increasing order and a bounded number of them is pending.  Events under
another token are stale, repeated ones are those that completed their operation, and a
call that is refused leaves the records. -/
theorem operations_recorded
    (capacity : Nat)
    (calls : List JournalCall) :
    let start : SessionJournal := .create capacity
    let log := Logbook.log SessionJournal.perform start calls
    let journal := Logbook.after SessionJournal.perform start calls
    (log.filterMap acceptedId).Nodup ∧
      (∀ id ∈ log.filterMap acceptedId, id ∉ log.filterMap cancelledId) ∧
      (log.filterMap expectedId).Pairwise (· < ·) ∧
      journal.active ≤ capacity ∧
      (∀ record ∈ journal.records, ∀ event parsed,
        event.token.operationId = record.token.operationId →
          event.token ≠ record.token →
            journal.perform (.accept event parsed) = (.stale, journal)) ∧
      (∀ event parsed,
        (journal.perform (.accept event parsed)).1 = .duplicate →
          ∃ earlier, earlier = { event with payload := earlier.payload } ∧
            earlier.payload.bytes.take earlier.payloadSize.toNat =
              event.payload.bytes.take event.payloadSize.toNat ∧
            ∃ entry ∈ log, Completes earlier entry) ∧
      ∀ call, (journal.perform call).1 ≠ .ok → (journal.perform call).2 = journal := by
  intro start log journal
  have recorded : Recorded capacity log journal :=
    Logbook.run_keeps SessionJournal.perform (Recorded capacity) Recorded.start
      (fun _ _ call recorded => recorded.perform call) calls
  refine ⟨recorded.once, recorded.apart, recorded.increasing,
    recorded.few.trans_eq recorded.capacity, ?_, ?_, ?_⟩
  · intro record member event parsed sameId other
    have found := recorded.record?_eq_some member
    rw [← sameId] at found
    have accepted :
        (journal.accept event fun _ => parsed.mapError ParseRefusal.result) =
          .error .stale := by
      unfold ProviderOperationJournal.accept
      dsimp only
      change journal.record?
        (ProviderAbi.operationId (ProviderAbi.token event : SessionOpToken)) = _ at found
      rw [found]
      exact if_pos (Ne.symm other)
    simp only [SessionJournal.perform, accepted]
  · intro event parsed repeated
    have cases := journal.perform_cases (.accept event parsed)
    change (journal.perform (.accept event parsed)).1 = .duplicate at repeated
    generalize journal.perform (.accept event parsed) = outcome at cases repeated
    cases cases with
    | refused failed duplicate =>
        obtain ⟨record, earlier, found, ended, same⟩ :=
          duplicate event parsed rfl repeated
        obtain ⟨fields, payload⟩ := (sameEvent_iff earlier event).mp same
        exact ⟨earlier, fields, payload,
          recorded.completed record (List.mem_of_find?_eq_some found) earlier ended⟩
    | accepted => cases repeated
  · intro call failed
    have cases := journal.perform_cases call
    generalize journal.perform call = outcome at cases failed ⊢
    cases cases with
    | refused => rfl
    | expected => exact absurd rfl failed
    | accepted => exact absurd rfl failed
    | cancelled => exact absurd rfl failed

end JournalLog

end FlyNes.Ports.Abi
