import FlyNes.AppStream

namespace FlyNes.Wire

/-!
# The queue of records that arrive before the bind

Decoded frames wait here until the transport, the channel bind and the ready of
both sides stand.  The queue counts the bytes that it holds and fails when a
record does not fit or repeats the place of another one in its stream.
-/

inductive PreBindQueueResult where
  | queued
  | blocked
  | released
  | closed
  | backpressure
  | protocolViolation
  | invalidArgument
deriving DecidableEq

structure QueuedAppRecord where
  streamId : Nat
  streamSequence : Nat
  frame : OwnedAppFrame
deriving DecidableEq

def kAppFramePrefixBytes : Nat := 6

/-- The largest size of an object in memory. -/
def sizeMax : Nat := 2 ^ 64 - 1

/-- The bytes that a record counts for. -/
def QueuedAppRecord.recordBytes (record : QueuedAppRecord) : Nat :=
  record.frame.objectBytes.length + kAppFramePrefixBytes

structure PreBindRecordQueue where
  maximumBytes : Nat
  maximumRecords : Nat
  bytes : Nat := 0
  records : List QueuedAppRecord := []
  identities : List (Nat × Nat) := []
  transportAuthenticated : Bool := false
  channelBound : Bool := false
  localReady : Bool := false
  remoteReady : Bool := false
  released : Bool := false
  failed : Bool := false
deriving DecidableEq

namespace PreBindRecordQueue

def discard (queue : PreBindRecordQueue) : PreBindRecordQueue :=
  { queue with records := [], identities := [], bytes := 0 }

def fail
    (queue : PreBindRecordQueue)
    (result : PreBindQueueResult) : PreBindQueueResult × PreBindRecordQueue :=
  (result, { queue.discard with failed := true })

def isOpen (queue : PreBindRecordQueue) : Bool :=
  queue.transportAuthenticated && queue.channelBound && queue.localReady &&
    queue.remoteReady

def gateResult (queue : PreBindRecordQueue) : PreBindQueueResult :=
  if queue.isOpen then .released else .blocked

def enqueue
    (queue : PreBindRecordQueue)
    (streamId streamSequence : Nat)
    (frame : OwnedAppFrame) : PreBindQueueResult × PreBindRecordQueue :=
  if queue.maximumBytes = 0 ∨ queue.maximumRecords = 0 ∨ streamId = 0 ∨
      streamSequence = 0 ∨ frame.frameTypeTag = 0 ∨ frame.typeName = "" then
    (.invalidArgument, queue)
  else if queue.failed || queue.released || queue.isOpen then
    (.closed, queue)
  else if queue.identities.contains (streamId, streamSequence) then
    queue.fail .protocolViolation
  else if frame.objectBytes.length > sizeMax - kAppFramePrefixBytes then
    queue.fail .backpressure
  else
    let record : QueuedAppRecord :=
      { streamId := streamId, streamSequence := streamSequence, frame := frame }
    if queue.records.length ≥ queue.maximumRecords ∨
        record.recordBytes > queue.maximumBytes ∨
        queue.bytes > queue.maximumBytes - record.recordBytes then
      queue.fail .backpressure
    else
      (.queued,
        { queue with
          identities := (streamId, streamSequence) :: queue.identities
          records := queue.records ++ [record]
          bytes := queue.bytes + record.recordBytes })

def markTransportAuthenticated
    (queue : PreBindRecordQueue)
    (fullTls13 pinVerified exporterVerified : Bool) :
    PreBindQueueResult × PreBindRecordQueue :=
  if queue.failed || queue.released then
    (.closed, queue)
  else if !fullTls13 || !pinVerified || !exporterVerified then
    queue.fail .protocolViolation
  else
    let queue := { queue with transportAuthenticated := true }
    (queue.gateResult, queue)

def markChannelBound
    (queue : PreBindRecordQueue) : PreBindQueueResult × PreBindRecordQueue :=
  if queue.failed || queue.released then
    (.closed, queue)
  else if !queue.transportAuthenticated then
    queue.fail .protocolViolation
  else
    let queue := { queue with channelBound := true }
    (queue.gateResult, queue)

def markLinkReady
    (queue : PreBindRecordQueue)
    (localReady remoteReady : Bool) :
    PreBindQueueResult × PreBindRecordQueue :=
  if queue.failed || queue.released then
    (.closed, queue)
  else if !queue.channelBound then
    queue.fail .protocolViolation
  else
    let queue :=
      { queue with
        localReady := queue.localReady || localReady
        remoteReady := queue.remoteReady || remoteReady }
    (queue.gateResult, queue)

/-- Hand out the records, if there is a vector for them to go to. -/
def release
    (queue : PreBindRecordQueue)
    (output : Bool) :
    PreBindQueueResult × List QueuedAppRecord × PreBindRecordQueue :=
  if !output then
    (.invalidArgument, [], queue)
  else if queue.failed then
    (.closed, [], queue)
  else if queue.released then
    (.released, [], queue)
  else if !queue.isOpen then
    (.blocked, [], queue)
  else
    (.released, queue.records, { queue.discard with released := true })

variable {maximumBytes maximumRecords : Nat}

/-- The byte count is that of the held records, and both are within the limits. -/
structure Bounded
    (maximumBytes maximumRecords : Nat)
    (queue : PreBindRecordQueue) : Prop where
  byteLimit : queue.maximumBytes = maximumBytes
  recordLimit : queue.maximumRecords = maximumRecords
  counted : queue.bytes = (queue.records.map QueuedAppRecord.recordBytes).sum
  bytes : queue.bytes ≤ maximumBytes
  records : queue.records.length ≤ maximumRecords

/-- A record is queued at the end, refused, or fails the queue. -/
theorem enqueue_cases
    (queue : PreBindRecordQueue)
    (streamId streamSequence : Nat)
    (frame : OwnedAppFrame) :
    (∃ result,
        queue.enqueue streamId streamSequence frame = (result, queue) ∧
        (result = .invalidArgument ∨ result = .closed)) ∨
      (∃ result,
        queue.enqueue streamId streamSequence frame = queue.fail result ∧
        (result = .backpressure ∨ result = .protocolViolation)) ∨
      queue.enqueue streamId streamSequence frame =
          (.queued,
            { queue with
              identities := (streamId, streamSequence) :: queue.identities
              records := queue.records ++ [⟨streamId, streamSequence, frame⟩]
              bytes :=
                queue.bytes +
                  QueuedAppRecord.recordBytes ⟨streamId, streamSequence, frame⟩ }) ∧
        queue.records.length < queue.maximumRecords ∧
        queue.bytes +
            QueuedAppRecord.recordBytes ⟨streamId, streamSequence, frame⟩ ≤
          queue.maximumBytes := by
  unfold enqueue
  split
  · exact .inl ⟨_, rfl, .inl rfl⟩
  split
  · exact .inl ⟨_, rfl, .inr rfl⟩
  split
  · exact .inr (.inl ⟨_, rfl, .inr rfl⟩)
  split
  · exact .inr (.inl ⟨_, rfl, .inl rfl⟩)
  simp only
  split
  · exact .inr (.inl ⟨_, rfl, .inl rfl⟩)
  next fits =>
    refine .inr (.inr ⟨rfl, ?_, ?_⟩) <;> omega

namespace Bounded

variable {queue : PreBindRecordQueue}

theorem discard
    (bounded : Bounded maximumBytes maximumRecords queue) :
    Bounded maximumBytes maximumRecords queue.discard :=
  ⟨bounded.byteLimit, bounded.recordLimit, rfl, Nat.zero_le _, Nat.zero_le _⟩

theorem fail
    (bounded : Bounded maximumBytes maximumRecords queue)
    (result : PreBindQueueResult) :
    Bounded maximumBytes maximumRecords (queue.fail result).2 :=
  ⟨bounded.byteLimit, bounded.recordLimit, rfl, Nat.zero_le _, Nat.zero_le _⟩

theorem enqueue
    (bounded : Bounded maximumBytes maximumRecords queue)
    (streamId streamSequence : Nat)
    (frame : OwnedAppFrame) :
    Bounded maximumBytes maximumRecords
      (queue.enqueue streamId streamSequence frame).2 := by
  rcases queue.enqueue_cases streamId streamSequence frame with
    ⟨result, same, -⟩ | ⟨result, failed, -⟩ | ⟨queued, room, fits⟩
  · rw [same]
    exact bounded
  · rw [failed]
    exact bounded.fail result
  · rw [queued]
    rw [bounded.recordLimit] at room
    rw [bounded.byteLimit] at fits
    refine ⟨bounded.byteLimit, bounded.recordLimit, ?_, fits, ?_⟩
    · simp [bounded.counted]
    · simpa using Nat.succ_le_of_lt room

theorem release
    (bounded : Bounded maximumBytes maximumRecords queue)
    (output : Bool) :
    Bounded maximumBytes maximumRecords (queue.release output).2.2 := by
  unfold PreBindRecordQueue.release
  split
  · exact bounded
  split
  · exact bounded
  split
  · exact bounded
  split
  · exact bounded
  · exact ⟨bounded.byteLimit, bounded.recordLimit, rfl, Nat.zero_le _, Nat.zero_le _⟩

end Bounded

/-- The marks of a queue that holds its records for the bind. -/
structure Marked
    (queue : PreBindRecordQueue)
    (transport bound localReady remoteReady : Bool) : Prop where
  failed : queue.failed = false
  released : queue.released = false
  transport : queue.transportAuthenticated = transport
  bound : queue.channelBound = bound
  localReady : queue.localReady = localReady
  remoteReady : queue.remoteReady = remoteReady

namespace Marked

variable {queue : PreBindRecordQueue}
variable {transport bound localReady remoteReady : Bool}

theorem authenticate
    (marked : Marked queue transport false false false) :
    queue.markTransportAuthenticated true true true =
      (.blocked, { queue with transportAuthenticated := true }) := by
  simp [markTransportAuthenticated, gateResult, isOpen, marked.failed,
    marked.released, marked.bound]

theorem bind
    (marked : Marked queue true bound false false) :
    queue.markChannelBound = (.blocked, { queue with channelBound := true }) := by
  simp [markChannelBound, gateResult, isOpen, marked.failed, marked.released,
    marked.transport, marked.localReady]

theorem ready
    (marked : Marked queue true true localReady remoteReady)
    (localNow remoteNow : Bool) :
    (queue.markLinkReady localNow remoteNow).2 =
        { queue with
          localReady := localReady || localNow
          remoteReady := remoteReady || remoteNow } ∧
      (queue.markLinkReady localNow remoteNow).1 ≠ .protocolViolation := by
  simp only [markLinkReady, gateResult, marked.failed, marked.released, marked.bound,
    marked.localReady, marked.remoteReady, Bool.or_self, Bool.not_true,
    Bool.false_eq_true, if_false, true_and]
  split <;> simp

theorem release_closed
    (marked : Marked queue transport bound localReady remoteReady)
    (unready : (transport && bound && localReady && remoteReady) = false)
    (output : Bool) :
    (queue.release output).2 = ([], queue) ∧
      (queue.release output).1 ≠ .released := by
  have closed : queue.isOpen = false := by
    rw [isOpen, marked.transport, marked.bound, marked.localReady,
      marked.remoteReady]
    exact unready
  unfold release
  rw [marked.failed, marked.released, closed]
  cases output <;> simp

theorem release_open
    (marked : Marked queue true true true true) :
    queue.release true =
      (.released, queue.records, { queue.discard with released := true }) := by
  simp [release, isOpen, marked.failed, marked.released, marked.transport,
    marked.bound, marked.localReady, marked.remoteReady]

end Marked

/-- A queue hands its records out once. -/
theorem release_again
    {queue : PreBindRecordQueue}
    (released : queue.released = true)
    (output : Bool) :
    (queue.release output).2 = ([], queue) := by
  unfold release
  split
  · rfl
  split
  · rfl
  · rfl

end PreBindRecordQueue

end FlyNes.Wire
