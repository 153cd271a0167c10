import FlyNes.PairSecure
import FlyNes.Logbook

namespace FlyNes.Pair

open List
open ByteString
open FlyNes.Wire

/-!
# The queue of the envelopes of a known pair

Status and branch envelopes wait here until their decoder may read them.  The queue
counts the bytes that it holds, hands out what it holds once, and fails for good when
an envelope is not one that it may hold or does not fit.
-/

inductive PairKnownQueueResult where
  | queued
  | released
  | backpressure
  | protocolViolation
  | invalidArgument
deriving DecidableEq

structure QueuedPairKnownEnvelope where
  logicalType : UInt8
  body : Bytes
  logicalHash : PlanHash
deriving DecidableEq

def kPairKnownStatusType : UInt8 := 21

def kPairKnownBranchType : UInt8 := 17

def legalStatusEnvelope
    (logicalType : UInt8)
    (body : Bytes)
    (logicalHash : PlanHash) : Bool :=
  if logicalType != kPairKnownStatusType && logicalType != kPairKnownBranchType then
    false
  else if !anyNonzero logicalHash.bytes then
    false
  else
    match decodePairSecureEnvelopeV1 logicalType body with
    | .error _ => false
    | .ok envelope =>
        envelope.messageCounter == if logicalType == kPairKnownStatusType then 2 else 3

/-- The bytes that an envelope counts for. -/
def QueuedPairKnownEnvelope.recordBytes (record : QueuedPairKnownEnvelope) : Nat :=
  record.body.length + 32 + 1

structure PairKnownEnvelopeQueue where
  maximumBytes : Nat
  maximumRecords : Nat
  bytes : Nat := 0
  records : List QueuedPairKnownEnvelope := []
  released : Bool := false
  failed : Bool := false
deriving DecidableEq

namespace PairKnownEnvelopeQueue

def discard (queue : PairKnownEnvelopeQueue) : PairKnownEnvelopeQueue :=
  { queue with records := [], bytes := 0, released := false }

def fail
    (queue : PairKnownEnvelopeQueue)
    (result : PairKnownQueueResult) :
    PairKnownQueueResult × PairKnownEnvelopeQueue :=
  (result, { queue.discard with failed := true })

def enqueue
    (queue : PairKnownEnvelopeQueue)
    (record : QueuedPairKnownEnvelope) :
    PairKnownQueueResult × PairKnownEnvelopeQueue :=
  if queue.maximumBytes = 0 ∨ queue.maximumRecords = 0 ∨ record.body = [] then
    (.invalidArgument, queue)
  else if queue.failed then
    (.protocolViolation, queue)
  else if !legalStatusEnvelope record.logicalType record.body record.logicalHash then
    queue.fail .protocolViolation
  else if queue.records.length ≥ queue.maximumRecords ∨
      record.recordBytes > queue.maximumBytes ∨
      queue.bytes > queue.maximumBytes - record.recordBytes then
    queue.fail .backpressure
  else
    (.queued,
      { queue with
        records := queue.records ++ [record]
        bytes := queue.bytes + record.recordBytes
        released := false })

/-- Hand out the envelopes, if there is a vector for them to go to. -/
def release
    (queue : PairKnownEnvelopeQueue)
    (output : Bool) :
    PairKnownQueueResult × List QueuedPairKnownEnvelope × PairKnownEnvelopeQueue :=
  if !output then
    (.invalidArgument, [], queue)
  else if queue.failed then
    (.protocolViolation, [], queue)
  else if queue.released then
    (.released, [], queue)
  else
    (.released, queue.records,
      { queue with records := [], bytes := 0, released := true })

end PairKnownEnvelopeQueue

/-! ### Runs -/

inductive PairKnownQueueCall where
  | enqueue (record : QueuedPairKnownEnvelope)
  | release (output : Bool)
  | discard

/-- What a call answers and the envelopes that it hands out. -/
structure PairKnownQueueAnswer where
  result : Option PairKnownQueueResult := none
  handed : List QueuedPairKnownEnvelope := []

namespace PairKnownEnvelopeQueue

def perform (queue : PairKnownEnvelopeQueue) :
    PairKnownQueueCall → PairKnownQueueAnswer × PairKnownEnvelopeQueue
  | .enqueue record =>
      let (result, after) := queue.enqueue record
      ({ result := some result }, after)
  | .release output =>
      let (result, handed, after) := queue.release output
      ({ result := some result, handed := handed }, after)
  | .discard => ({}, queue.discard)

/-- The outcomes of an enqueue. -/
inductive Enqueues (queue : PairKnownEnvelopeQueue) (record : QueuedPairKnownEnvelope) :
    PairKnownQueueResult × PairKnownEnvelopeQueue → Prop where
  | invalid : Enqueues queue record (.invalidArgument, queue)
  | closed (failed : queue.failed = true) :
      Enqueues queue record (.protocolViolation, queue)
  | illegal : Enqueues queue record (queue.fail .protocolViolation)
  | full : Enqueues queue record (queue.fail .backpressure)
  | queued
      (open_ : queue.failed = false)
      (few : queue.records.length < queue.maximumRecords)
      (fits : queue.bytes + record.recordBytes ≤ queue.maximumBytes) :
      Enqueues queue record
        (.queued,
          { queue with
            records := queue.records ++ [record]
            bytes := queue.bytes + record.recordBytes
            released := false })

theorem enqueue_cases
    (queue : PairKnownEnvelopeQueue)
    (record : QueuedPairKnownEnvelope) :
    queue.Enqueues record (queue.enqueue record) := by
  unfold enqueue
  split
  · exact .invalid
  · split
    · next failed => exact .closed failed
    · next working =>
      split
      · exact .illegal
      · split
        · exact .full
        · next room =>
          simp only [not_or, Nat.not_le, Nat.not_lt] at room
          exact .queued (Bool.eq_false_iff.mpr working) room.1 (by omega)

end PairKnownEnvelopeQueue

abbrev PairKnownQueueEntry :=
  Logbook.Entry PairKnownEnvelopeQueue PairKnownQueueCall PairKnownQueueAnswer

abbrev PairKnownQueueLog := List PairKnownQueueEntry

namespace PairKnownQueueLog

/-- The envelope that an entry has queued. -/
def queued (entry : PairKnownQueueEntry) : Option QueuedPairKnownEnvelope :=
  match entry.call, entry.answer.result with
  | .enqueue record, some .queued => some record
  | _, _ => none

/-- A discard, or a release that was not refused. -/
def clears (entry : PairKnownQueueEntry) : Bool :=
  match entry.call, entry.answer.result with
  | .discard, _ => true
  | .release _, some .released => true
  | _, _ => false

/-- An enqueue that fails the queue, or meets a failed one. -/
def fails (entry : PairKnownQueueEntry) : Bool :=
  entry.answer.result == some .protocolViolation ||
    entry.answer.result == some .backpressure

/-- The envelopes queued since the last release or discard. -/
def waiting (log : PairKnownQueueLog) : List QueuedPairKnownEnvelope :=
  log.foldl
    (fun held entry => if clears entry then [] else held ++ (queued entry).toList) []

/-- The envelopes that were handed out. -/
def handed (log : PairKnownQueueLog) : List QueuedPairKnownEnvelope :=
  log.flatMap fun entry => entry.answer.handed

theorem waiting_concat
    (log : PairKnownQueueLog)
    (entry : PairKnownQueueEntry) :
    waiting (log ++ [entry]) =
      if clears entry then [] else waiting log ++ (queued entry).toList := by
  simp [waiting]

theorem handed_concat
    (log : PairKnownQueueLog)
    (entry : PairKnownQueueEntry) :
    handed (log ++ [entry]) = handed log ++ entry.answer.handed := by
  simp [handed]

theorem queued_concat
    (log : PairKnownQueueLog)
    (entry : PairKnownQueueEntry) :
    (log ++ [entry]).filterMap queued =
      log.filterMap queued ++ (queued entry).toList := by
  cases record : queued entry <;>
    simp [record]

/-- What holds of a log and of the queue behind it. -/
structure Kept
    (maximumBytes maximumRecords : Nat)
    (log : PairKnownQueueLog)
    (queue : PairKnownEnvelopeQueue) : Prop where
  maximumBytes : queue.maximumBytes = maximumBytes
  maximumRecords : queue.maximumRecords = maximumRecords
  bytes :
    queue.bytes = (queue.records.map QueuedPairKnownEnvelope.recordBytes).sum
  fits : queue.bytes ≤ queue.maximumBytes
  few : queue.records.length ≤ queue.maximumRecords
  latched : queue.released = true → queue.records = []
  waiting : queue.failed = false → queue.records = waiting log
  once : handed log ++ queue.records <+ log.filterMap queued
  whole :
    (∀ entry ∈ log, entry.call ≠ .discard ∧ fails entry = false) →
      handed log ++ queue.records = log.filterMap queued

section Steps

variable {maximumBytes maximumRecords : Nat}
variable {log : PairKnownQueueLog}
variable {queue : PairKnownEnvelopeQueue}

theorem Kept.start :
    Kept maximumBytes maximumRecords []
      { maximumBytes := maximumBytes, maximumRecords := maximumRecords } where
  maximumBytes := rfl
  maximumRecords := rfl
  bytes := rfl
  fits := Nat.zero_le _
  few := Nat.zero_le _
  latched := fun _ => rfl
  waiting := fun _ => rfl
  once := .slnil
  whole := fun _ => rfl

variable {entry : PairKnownQueueEntry}

/-- An entry that leaves everything as it is. -/
theorem Kept.idle
    (kept : Kept maximumBytes maximumRecords log queue)
    (noRecord : queued entry = none)
    (nothing : entry.answer.handed = [])
    (empties : clears entry = true → queue.failed = false → queue.records = []) :
    Kept maximumBytes maximumRecords (log ++ [entry]) queue where
  maximumBytes := kept.maximumBytes
  maximumRecords := kept.maximumRecords
  bytes := kept.bytes
  fits := kept.fits
  few := kept.few
  latched := kept.latched
  waiting := by
    intro working
    rw [waiting_concat, noRecord]
    split
    · next clearing => exact empties clearing working
    · simpa using kept.waiting working
  once := by
    rw [handed_concat, queued_concat, noRecord, nothing]
    simpa using kept.once
  whole := by
    intro clean
    rw [handed_concat, queued_concat, noRecord, nothing]
    simpa using kept.whole fun old member => clean old (List.mem_append_left _ member)

/-- An entry that drops what the queue holds. -/
theorem Kept.drop
    (kept : Kept maximumBytes maximumRecords log queue)
    (noRecord : queued entry = none)
    (nothing : entry.answer.handed = [])
    (unclean : ¬ (entry.call ≠ .discard ∧ fails entry = false))
    {after : PairKnownEnvelopeQueue}
    (limits : after.maximumBytes = queue.maximumBytes ∧
      after.maximumRecords = queue.maximumRecords)
    (emptied : after.records = [] ∧ after.bytes = 0)
    (clearing : after.failed = false → clears entry = true) :
    Kept maximumBytes maximumRecords (log ++ [entry]) after where
  maximumBytes := limits.1.trans kept.maximumBytes
  maximumRecords := limits.2.trans kept.maximumRecords
  bytes := by
    rw [emptied.1, emptied.2]
    rfl
  fits := by
    rw [emptied.2]
    exact Nat.zero_le _
  few := by
    rw [emptied.1]
    exact Nat.zero_le _
  latched := fun _ => emptied.1
  waiting := by
    intro working
    rw [waiting_concat, if_pos (clearing working)]
    exact emptied.1
  once := by
    rw [handed_concat, queued_concat, noRecord, nothing, emptied.1]
    simpa using (List.sublist_append_left _ _).trans kept.once
  whole := by
    intro clean
    exact (unclean (clean entry (by simp))).elim

theorem Kept.enqueue
    (kept : Kept maximumBytes maximumRecords log queue)
    (record : QueuedPairKnownEnvelope) :
    Kept maximumBytes maximumRecords
      (log ++ [Logbook.entry PairKnownEnvelopeQueue.perform queue (.enqueue record)])
      (queue.enqueue record).2 := by
  have cases := queue.enqueue_cases record
  have answer :
      (Logbook.entry PairKnownEnvelopeQueue.perform queue (.enqueue record)).answer =
        { result := some (queue.enqueue record).1 } := rfl
  generalize entryIs :
    Logbook.entry PairKnownEnvelopeQueue.perform queue (.enqueue record) = entry
      at answer ⊢
  have call : entry.call = .enqueue record := by
    rw [← entryIs]
    rfl
  generalize queue.enqueue record = outcome at cases answer ⊢
  cases cases with
  | invalid =>
      refine kept.idle ?_ ?_ ?_
      · simp only [queued, call, answer]
      · rw [answer]
      · simp [clears, call]
  | closed failed =>
      refine kept.idle ?_ ?_ ?_
      · simp only [queued, call, answer]
      · rw [answer]
      · simp [clears, call]
  | illegal =>
      refine kept.drop ?_ ?_ ?_ ⟨rfl, rfl⟩ ⟨rfl, rfl⟩ ?_
      · simp only [queued, call, answer, PairKnownEnvelopeQueue.fail]
      · rw [answer]
      · simp [fails, answer, PairKnownEnvelopeQueue.fail]
      · exact fun working => nomatch working
  | full =>
      refine kept.drop ?_ ?_ ?_ ⟨rfl, rfl⟩ ⟨rfl, rfl⟩ ?_
      · simp only [queued, call, answer, PairKnownEnvelopeQueue.fail]
      · rw [answer]
      · simp [fails, answer, PairKnownEnvelopeQueue.fail]
      · exact fun working => nomatch working
  | queued working few fits =>
      have taken : queued entry = some record := by
        simp only [queued, call, answer]
      have keeps : clears entry = false := by
        simp only [clears, call]
      have nothing : entry.answer.handed = [] := by
        rw [answer]
      constructor
      · exact kept.maximumBytes
      · exact kept.maximumRecords
      · simp [kept.bytes]
      · exact fits
      · rw [List.length_append]
        exact few
      · exact fun latch => nomatch latch
      · intro _
        rw [waiting_concat, keeps, taken, ← kept.waiting working]
        rfl
      · rw [handed_concat, queued_concat, taken, nothing, List.append_nil,
          ← List.append_assoc]
        exact kept.once.append (.refl _)
      · intro clean
        rw [handed_concat, queued_concat, taken, nothing, List.append_nil,
          ← List.append_assoc,
          kept.whole fun old member => clean old (List.mem_append_left _ member)]
        rfl

theorem Kept.release
    (kept : Kept maximumBytes maximumRecords log queue)
    (output : Bool) :
    Kept maximumBytes maximumRecords
      (log ++ [Logbook.entry PairKnownEnvelopeQueue.perform queue (.release output)])
      (queue.release output).2.2 := by
  have answer :
      (Logbook.entry PairKnownEnvelopeQueue.perform queue (.release output)).answer =
        { result := some (queue.release output).1
          handed := (queue.release output).2.1 } := rfl
  generalize entryIs :
    Logbook.entry PairKnownEnvelopeQueue.perform queue (.release output) = entry
      at answer ⊢
  have call : entry.call = .release output := by
    rw [← entryIs]
    rfl
  have noRecord : queued entry = none := by
    simp only [queued, call]
  unfold PairKnownEnvelopeQueue.release at answer ⊢
  by_cases given : output = true
  swap
  · rw [if_pos (by simpa using given)] at answer ⊢
    refine kept.idle noRecord ?_ ?_
    · rw [answer]
    · simp [clears, call, answer]
  rw [if_neg (by simpa using given)] at answer ⊢
  by_cases failed : queue.failed = true
  · rw [if_pos failed] at answer ⊢
    refine kept.idle noRecord ?_ ?_
    · rw [answer]
    · simp [clears, call, answer]
  rw [if_neg failed] at answer ⊢
  by_cases latch : queue.released = true
  · rw [if_pos latch] at answer ⊢
    refine kept.idle noRecord ?_ fun _ _ => kept.latched latch
    rw [answer]
  rw [if_neg latch] at answer ⊢
  have clearing : clears entry = true := by
    simp only [clears, call, answer]
  constructor
  · exact kept.maximumBytes
  · exact kept.maximumRecords
  · rfl
  · exact Nat.zero_le _
  · exact Nat.zero_le _
  · exact fun _ => rfl
  · intro _
    rw [waiting_concat, if_pos clearing]
  · rw [handed_concat, queued_concat, noRecord, answer]
    simpa using kept.once
  · intro clean
    rw [handed_concat, queued_concat, noRecord, answer]
    simpa using kept.whole fun old member => clean old (List.mem_append_left _ member)

theorem Kept.perform
    (kept : Kept maximumBytes maximumRecords log queue)
    (call : PairKnownQueueCall) :
    Kept maximumBytes maximumRecords
      (log ++ [Logbook.entry PairKnownEnvelopeQueue.perform queue call])
      (queue.perform call).2 := by
  cases call with
  | enqueue record => exact kept.enqueue record
  | release output => exact kept.release output
  | discard =>
      refine kept.drop rfl rfl ?_ ⟨rfl, rfl⟩ ⟨rfl, rfl⟩ fun _ => rfl
      exact fun clean => clean.1 rfl

/-- A failed queue queues nothing and hands out nothing any more. -/
theorem failed_stays
    (failed : queue.failed = true)
    (calls : List PairKnownQueueCall) :
    ∀ entry ∈ Logbook.log PairKnownEnvelopeQueue.perform queue calls,
      queued entry = none ∧ entry.answer.result ≠ some .released ∧
        entry.answer.handed = [] := by
  induction calls generalizing queue with
  | nil => simp [Logbook.log]
  | cons call rest inductionHypothesis =>
      have one :
          (queue.perform call).2.failed = true ∧
            queued (Logbook.entry PairKnownEnvelopeQueue.perform queue call) = none ∧
            (queue.perform call).1.result ≠ some .released ∧
            (queue.perform call).1.handed = [] := by
        cases call with
        | enqueue record =>
            have cases := queue.enqueue_cases record
            simp only [PairKnownEnvelopeQueue.perform, Logbook.entry, queued]
            generalize queue.enqueue record = outcome at cases ⊢
            cases cases with
            | queued working => simp [working] at failed
            | _ => simp [failed, PairKnownEnvelopeQueue.fail]
        | release output =>
            cases output <;>
              simp [PairKnownEnvelopeQueue.perform, PairKnownEnvelopeQueue.release,
                Logbook.entry, queued, failed]
        | discard =>
            exact ⟨failed, rfl, by simp [PairKnownEnvelopeQueue.perform], rfl⟩
      intro entry member
      rcases List.mem_cons.mp member with rfl | later
      · exact one.2
      · exact inductionHypothesis one.1 entry later

end Steps

/-- A release hands out what was queued since the last one or a discard; no envelope is
handed out twice, and without discards and failures none is lost.  The bytes are counted
and limited, and so are the envelopes; after a failure nothing is queued or released. -/
theorem envelopes_kept
    (maximumBytes maximumRecords : Nat)
    (calls : List PairKnownQueueCall) :
    let start : PairKnownEnvelopeQueue :=
      { maximumBytes := maximumBytes, maximumRecords := maximumRecords }
    let log := Logbook.log PairKnownEnvelopeQueue.perform start calls
    let queue := Logbook.after PairKnownEnvelopeQueue.perform start calls
    (∀ output, (queue.release output).1 = .released →
        (queue.release output).2.1 = waiting log) ∧
      handed log <+ log.filterMap queued ∧
      ((∀ entry ∈ log, entry.call ≠ .discard ∧ fails entry = false) →
        handed log ++ queue.records = log.filterMap queued) ∧
      queue.bytes = (queue.records.map QueuedPairKnownEnvelope.recordBytes).sum ∧
      queue.bytes ≤ maximumBytes ∧
      queue.records.length ≤ maximumRecords ∧
      ∀ record,
        (queue.enqueue record).1 = .protocolViolation ∨
            (queue.enqueue record).1 = .backpressure →
          ∀ later,
            ∀ entry ∈
              Logbook.log PairKnownEnvelopeQueue.perform (queue.enqueue record).2 later,
              queued entry = none ∧ entry.answer.result ≠ some .released ∧
                entry.answer.handed = [] := by
  intro start log queue
  have kept : Kept maximumBytes maximumRecords log queue :=
    Logbook.run_keeps PairKnownEnvelopeQueue.perform (Kept maximumBytes maximumRecords)
      Kept.start (fun _ _ call kept => kept.perform call) calls
  refine ⟨?_, (List.sublist_append_left _ _).trans kept.once, kept.whole, kept.bytes,
    kept.fits.trans_eq kept.maximumBytes, kept.few.trans_eq kept.maximumRecords, ?_⟩
  · intro output released
    unfold PairKnownEnvelopeQueue.release at released ⊢
    split at released
    · cases released
    · split at released
      · cases released
      next given working =>
        have current := kept.waiting (Bool.eq_false_iff.mpr working)
        rw [if_neg given, if_neg working]
        split
        · next latch =>
          rw [← current]
          exact (kept.latched latch).symm
        · exact current
  · intro record refused later
    refine failed_stays ?_ later
    have cases := queue.enqueue_cases record
    generalize queue.enqueue record = outcome at cases refused ⊢
    cases cases with
    | closed failed => exact failed
    | illegal => rfl
    | full => rfl
    | invalid => simp at refused
    | queued => simp at refused

end PairKnownQueueLog

end FlyNes.Pair
