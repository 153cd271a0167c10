import FlyNes.ContentIntegrity

namespace FlyNes.Content

open ByteString FlyNes.Dual FlyNes.Wire

/-!
# The stream of a ROM

The stream of an offer is its declaration and the slices of its payload, each a
record of its own.  Whatever the offerer of an undisturbed transfer does, it writes
the records of this stream in order, and it has a way to their end.
-/

/-- How many slices a payload has. -/
def chunkCount (payload : Bytes) : Nat :=
  (payload.length + (kContentChunkMaxPayload - 1)) / kContentChunkMaxPayload

/-- Where a slice begins. -/
def chunkOffset (index : Nat) : Nat :=
  kContentChunkMaxPayload * index

def chunkData (payload : Bytes) (index : Nat) : Bytes :=
  (payload.drop (chunkOffset index)).take kContentChunkMaxPayload

/-- The records of the stream: the declaration, then the slices. -/
def romRecord (decl : ContentOfferDecl) (payload : Bytes) : Nat → Bytes
  | 0 => encodeContentOffer decl
  | index + 1 =>
      wrapRecord kContentChunkType
        (contentChunkBody decl.offerId (chunkOffset index)
          (chunkData payload index))

/-- The records from one on. -/
def recordsFrom
    (decl : ContentOfferDecl)
    (payload : Bytes)
    (index : Nat) : List Bytes :=
  (List.range' index (chunkCount payload + 1 - index)).map (romRecord decl payload)

def romStream (decl : ContentOfferDecl) (payload : Bytes) : Bytes :=
  (recordsFrom decl payload 0).flatten

/-- A declaration of the payload that an offerer accepts. -/
structure Declares (decl : ContentOfferDecl) (payload : Bytes) : Prop where
  named : decl.offerId ≠ Block.zero 16 ∧ decl.contentId ≠ Block.zero 32
  nonempty : payload ≠ []
  bounded : payload.length ≤ kContentRomMaxBytes
  length : decl.declaredLength = payload.length
  hash : decl.payloadSha256 = sha256 payload

/-! ## Calls of an undisturbed transfer -/

abbrev ContentEntry :=
  Logbook.Entry ContentTransferController ContentCall SessionResult

namespace ContentTransferController

/-- The bytes that an effect hands to the stream. -/
def effectBytes : Option ContentEffect → Bytes
  | some (.write _ bytes) => bytes
  | _ => []

/-- The bytes that a call hands to the stream. -/
def writtenBy (controller : ContentTransferController) : ContentCall → Bytes
  | .pollEffect => effectBytes controller.pollEffect.1
  | _ => []

/-- The bytes that a run hands to the stream. -/
def written (log : List ContentEntry) : Bytes :=
  log.flatMap fun entry => entry.before.writtenBy entry.call

/-- The bytes that a call takes from the stream. -/
def takenBy : ContentCall → Bytes
  | .ingestRemoteBytes bytes => bytes
  | _ => []

/-- The bytes that a run takes from the stream. -/
def ingested (log : List ContentEntry) : Bytes :=
  log.flatMap fun entry => takenBy entry.call

/--
What an offerer goes through in an undisturbed transfer: it offers the payload,
consents, and sees its writes completed one after another.
-/
def OffererEntry
    (decl : ContentOfferDecl)
    (payload : Bytes)
    (entry : ContentEntry) : Prop :=
  match entry.call with
  | .offer offered bytes => offered = decl ∧ bytes = payload
  | .onWriteComplete => entry.before.writeOutstanding = true
  | .attachConnection _ _ | .approveSend | .approveReceive | .noteFriendSaved
  | .onClock _ | .pollEffect | .onStreamOpen _ _ => True
  | _ => False

/--
What a receiver goes through: it may learn of the offer beforehand, both consents
are given before it reads, and its clock does not time out.
-/
def ReceiverEntry
    (decl : ContentOfferDecl)
    (entry : ContentEntry) : Prop :=
  match entry.call with
  | .acceptOffer offered => offered = decl
  | .onClock _ => entry.answer = .ok
  | .ingestRemoteBytes _ =>
      entry.before.scheduler.sendOk = true ∧
        entry.before.scheduler.receiveOk = true
  | .attachConnection _ _ | .approveSend | .approveReceive | .noteFriendSaved
  | .pollEffect | .onStreamOpen _ _ => True
  | _ => False

/-- The records that are queued and not yet handed to the stream. -/
def unwritten (controller : ContentTransferController) : List Bytes :=
  if controller.writeOutstanding then
    controller.writeQueue.tail
  else
    controller.writeQueue

/-- Every record has been queued and handed to the stream. -/
def Drained (controller : ContentTransferController) : Prop :=
  controller.framesQueued = true ∧ controller.unwritten = []

end ContentTransferController

/-- The chunks that a scheduler has accepted, with their offsets. -/
def acceptedChunks
    (log : List ContentOfferScheduler.OfferEntry) : List (Nat × Bytes) :=
  log.filterMap fun entry =>
    match entry.call with
    | .appendBytes offset data =>
        if entry.answer = .ok then some (offset, data) else none
    | _ => none

/-- The chunks that the calls of a run have its scheduler accept. -/
def acceptedIn (log : List ContentEntry) : List (Nat × Bytes) :=
  log.flatMap fun entry =>
    acceptedChunks
      (Logbook.log ContentOfferScheduler.step entry.before.scheduler
        (entry.before.offerCalls entry.call))

/-- The chunks of a payload with their offsets. -/
def payloadChunks (payload : Bytes) (first count : Nat) : List (Nat × Bytes) :=
  (List.range' first count).map fun index =>
    (chunkOffset index, chunkData payload index)

/-! ## The slices of a payload -/

section Slices

variable {payload : Bytes} {index : Nat}

theorem chunkOffset_lt_iff
    (payload : Bytes)
    (index : Nat) :
    chunkOffset index < payload.length ↔ index < chunkCount payload := by
  simp only [chunkOffset, chunkCount, kContentChunkMaxPayload]
  omega

theorem length_chunkData
    (payload : Bytes)
    (index : Nat) :
    (chunkData payload index).length =
      min kContentChunkMaxPayload (payload.length - chunkOffset index) := by
  simp [chunkData]

/-- A slice ends where the next one begins, and the last one with the payload. -/
theorem chunk_end
    (inside : index < chunkCount payload) :
    chunkOffset index + (chunkData payload index).length =
      if index + 1 < chunkCount payload then
        chunkOffset (index + 1)
      else
        payload.length := by
  have here := (chunkOffset_lt_iff payload index).2 inside
  have next := chunkOffset_lt_iff payload (index + 1)
  rw [length_chunkData]
  simp only [chunkOffset, kContentChunkMaxPayload] at here next ⊢
  split <;> omega

theorem recordsFrom_cons
    (decl : ContentOfferDecl)
    (inside : index ≤ chunkCount payload) :
    recordsFrom decl payload index =
      romRecord decl payload index :: recordsFrom decl payload (index + 1) := by
  have count :
      chunkCount payload + 1 - index = chunkCount payload + 1 - (index + 1) + 1 := by
    omega
  rw [recordsFrom, count, List.range'_succ, List.map_cons, recordsFrom]

theorem recordsFrom_end
    (decl : ContentOfferDecl)
    (payload : Bytes) :
    recordsFrom decl payload (chunkCount payload + 1) = [] := by
  simp [recordsFrom]

/-- The chunk loop queues the slices that are left. -/
theorem queueChunks_eq
    (decl : ContentOfferDecl)
    (payload : Bytes)
    (fuel : Nat)
    (index offset : Nat)
    (queue : List Bytes)
    (inside : index ≤ chunkCount payload)
    (here : index < chunkCount payload → offset = chunkOffset index)
    (done : index = chunkCount payload → payload.length ≤ offset)
    (enough : chunkCount payload - index ≤ fuel) :
    queueChunks decl.offerId payload fuel offset queue =
      (true, queue ++ recordsFrom decl payload (index + 1)) := by
  induction fuel generalizing index offset queue with
  | zero =>
      obtain rfl : index = chunkCount payload := by omega
      rw [queueChunks, recordsFrom_end, List.append_nil]
  | succ fuel inductionHypothesis =>
      rw [queueChunks]
      split
      case isFalse past =>
        obtain rfl : index = chunkCount payload := by
          by_contra other
          have less : index < chunkCount payload := by omega
          rw [here less] at past
          exact past ((chunkOffset_lt_iff _ _).2 less)
        rw [recordsFrom_end, List.append_nil]
      case isTrue before =>
        have less : index < chunkCount payload := by
          by_contra other
          have last : index = chunkCount payload := by omega
          exact absurd before (Nat.not_lt.2 (done last))
        have place := here less
        subst place
        have slice :
            (if kContentChunkMaxPayload < payload.length - chunkOffset index then
                kContentChunkMaxPayload
              else
                payload.length - chunkOffset index) =
              (chunkData payload index).length := by
          rw [length_chunkData]
          split <;> omega
        have data :
            (payload.drop (chunkOffset index)).take
                (chunkData payload index).length =
              chunkData payload index := by
          rw [length_chunkData, chunkData]
          rcases Nat.le_total kContentChunkMaxPayload
              (payload.length - chunkOffset index) with full | last
          · rw [Nat.min_eq_left full]
          · rw [Nat.min_eq_right last, List.take_of_length_le (by simp),
              List.take_of_length_le (by simpa using last)]
        have small :
            ¬ kContentChunkMaxPayload < (chunkData payload index).length := by
          rw [length_chunkData]
          omega
        simp only [slice, data, encodeContentChunk, small, ↓reduceIte]
        have ending := chunk_end less
        rw [inductionHypothesis (index + 1) _ _ (by omega)
          (fun more => by rw [ending, if_pos more])
          (fun last => by rw [ending, if_neg (by omega)]) (by omega)]
        have next : index + 1 ≤ chunkCount payload := by omega
        rw [recordsFrom_cons decl next, List.append_assoc]
        rfl

end Slices

/-! ## The offerer -/

section Offerer

variable {decl : ContentOfferDecl} {payload : Bytes}

/-- The scheduler of an offerer whose transfer is not disturbed. -/
structure Offering
    (decl : ContentOfferDecl)
    (scheduler : ContentOfferScheduler) : Prop where
  role : scheduler.role = .offerer
  still : scheduler.stagingLive = false
  phase :
    scheduler.state = .idle ∨
      (scheduler.state = .offered ∨ scheduler.state = .waitingConsent ∨
          scheduler.state = .transferring) ∧
        scheduler.decl = decl

namespace Offering

variable {scheduler : ContentOfferScheduler}

theorem offer
    (offering : Offering decl scheduler)
    (declares : Declares decl payload) :
    Offering decl (scheduler.offer decl).2 ∧
      (scheduler.offer decl).1 ≠ .protocolViolation ∧
      ((scheduler.offer decl).1 ≠ .ok →
        (scheduler.offer decl).2 = scheduler) := by
  have positive : decl.declaredLength ≠ 0 := by
    rw [declares.length]
    exact fun none => declares.nonempty (List.eq_nil_of_length_eq_zero none)
  have bounded : ¬ kContentRomMaxBytes < decl.declaredLength := by
    rw [declares.length]
    exact Nat.not_lt.2 declares.bounded
  by_cases idle : scheduler.state = .idle
  · have bound :
        scheduler.offer decl =
          (.ok,
            { scheduler with
              decl := decl
              staging := List.replicate decl.declaredLength 0
              transferred := 0
              stagingLive := false
              state := .offered }) := by
      simp [ContentOfferScheduler.offer, ContentOfferScheduler.bindDecl,
        offering.role, declares.named, positive, bounded, idle]
    rw [bound]
    exact ⟨⟨offering.role, rfl, Or.inr ⟨Or.inl rfl, rfl⟩⟩, by simp,
      fun refused => absurd rfl refused⟩
  · have refused : scheduler.offer decl = (.invalidState, scheduler) := by
      simp [ContentOfferScheduler.offer, ContentOfferScheduler.bindDecl,
        offering.role, idle]
    rw [refused]
    exact ⟨offering, by simp, fun _ => rfl⟩

theorem approve
    {consented : ContentOfferScheduler}
    (offering : Offering decl scheduler)
    (approved : Offering decl consented)
    (same : consented.state = scheduler.state) :
    Offering decl (scheduler.approve consented).2 ∧
      (scheduler.approve consented).1 ≠ .protocolViolation ∧
      ((scheduler.approve consented).2.state = .idle ↔
        scheduler.state = .idle) := by
  have entered : Offering decl consented.maybeEnterTransfer := by
    obtain ⟨role, still, phase⟩ := approved
    unfold ContentOfferScheduler.maybeEnterTransfer
    constructor <;> grind
  unfold ContentOfferScheduler.approve
  split
  case isTrue => exact ⟨offering, by simp, Iff.rfl⟩
  case isFalse =>
    split
    case isTrue => simp [offering.role, offering]
    case isFalse active =>
      refine ⟨entered, by simp, ?_⟩
      unfold ContentOfferScheduler.maybeEnterTransfer
      grind

theorem onClock
    (offering : Offering decl scheduler)
    (continuousNs : Nat) :
    Offering decl (scheduler.onClock continuousNs).2 ∧
      (scheduler.onClock continuousNs).1 ≠ .protocolViolation ∧
      ((scheduler.onClock continuousNs).2.state = .idle ↔
        scheduler.state = .idle) := by
  obtain ⟨role, still, phase⟩ := offering
  unfold ContentOfferScheduler.onClock
  split
  case isTrue => exact ⟨⟨role, still, phase⟩, by simp, Iff.rfl⟩
  case isFalse =>
    split
    case isTrue => exact ⟨⟨role, still, phase⟩, by simp, Iff.rfl⟩
    case isFalse =>
      split
      case isTrue late => simp [still] at late
      case isFalse => exact ⟨⟨role, still, phase⟩, by simp, Iff.rfl⟩

end Offering

/-- An offerer that has handed some bytes to the stream and has the others queued. -/
structure OffererStands
    (decl : ContentOfferDecl)
    (payload sent : Bytes)
    (controller : ContentTransferController) : Prop where
  role : controller.role = .offerer
  offering : Offering decl controller.scheduler
  holding : controller.scheduler.state ≠ .idle → controller.payload = payload
  waiting :
    controller.framesQueued = false →
    sent = [] ∧ controller.writeQueue = [] ∧ controller.writeOutstanding = false
  queued :
    controller.framesQueued = true →
    sent ++ controller.unwritten.flatten = romStream decl payload
  pending : controller.writeOutstanding = true → controller.writeQueue ≠ []

namespace OffererStands

variable {sent : Bytes} {controller : ContentTransferController}

variable (stands : OffererStands decl payload sent controller)

include stands

open ContentTransferController

/-- The offerer queues the records of the stream, once. -/
theorem queuePayloadFrames_eq
    (opened : controller.scheduler.mayOpenRomStream = true)
    (unqueued : controller.framesQueued = false) :
    controller.queuePayloadFrames =
      { controller with
        writeQueue := recordsFrom decl payload 0
        framesQueued := true } := by
  have active : controller.scheduler.state ≠ .idle := by
    intro claimed
    simp [ContentOfferScheduler.mayOpenRomStream, stands.offering.role, claimed]
      at opened
  have bound : controller.scheduler.decl = decl := by
    rcases stands.offering.phase with claimed | ⟨_, same⟩
    · exact absurd claimed active
    · exact same
  have start : 0 ≤ chunkCount payload := Nat.zero_le _
  have records :=
    queueChunks_eq decl payload payload.length 0 0
      [encodeContentOffer decl] start (fun _ => rfl)
      (fun last => by
        simp only [chunkCount, kContentChunkMaxPayload] at last
        omega)
      (by
        simp only [chunkCount, kContentChunkMaxPayload]
        omega)
  have holding := stands.holding active
  have role := stands.role
  have empty := (stands.waiting unqueued).2.1
  simp only [ContentTransferController.queuePayloadFrames, unqueued, role, holding,
    bound, empty, List.nil_append, records]
  rw [recordsFrom_cons decl start, ← holding, ← role]
  simp [romRecord]

theorem queuePayloadFrames
    (opened : controller.scheduler.mayOpenRomStream = true)
    (unqueued : controller.framesQueued = false) :
    OffererStands decl payload sent controller.queuePayloadFrames := by
  obtain ⟨none, _, idle⟩ := stands.waiting unqueued
  rw [stands.queuePayloadFrames_eq opened unqueued]
  refine ⟨stands.role, stands.offering, stands.holding, by simp, fun _ => ?_,
    fun claimed => ?_⟩
  · subst none
    simp only [unwritten, idle, List.nil_append, romStream, Bool.false_eq_true,
      ↓reduceIte]
  · exact absurd claimed (by simp [idle])

/-- A poll hands the next record to the stream or leaves the stream alone. -/
theorem pollEffect :
    OffererStands decl payload (sent ++ controller.writtenBy .pollEffect)
      controller.pollEffect.2 := by
  simp only [writtenBy]
  unfold ContentTransferController.pollEffect
  split
  case isTrue => simpa [effectBytes] using stands
  case isFalse =>
    split
    case isTrue =>
      have opening :
          OffererStands decl payload sent
            { controller with openOutstanding := true } :=
        { stands with }
      simpa [effectBytes] using opening
    case isFalse =>
      simp only
      have ready :
          OffererStands decl payload sent
            (if (controller.streamOpen && decide (controller.role = .offerer) &&
                !controller.framesQueued &&
                controller.scheduler.mayOpenRomStream) = true then
              controller.queuePayloadFrames
            else
              controller) := by
        split
        case isTrue opened =>
          simp only [Bool.and_eq_true, Bool.not_eq_eq_eq_not, Bool.not_true]
            at opened
          exact stands.queuePayloadFrames opened.2 opened.1.2
        case isFalse => exact stands
      generalize
        (if (controller.streamOpen && decide (controller.role = .offerer) &&
            !controller.framesQueued &&
            controller.scheduler.mayOpenRomStream) = true then
          controller.queuePayloadFrames
        else
          controller) = now at ready ⊢
      split
      case isTrue writing =>
        simp only [Bool.and_eq_true, Bool.not_eq_eq_eq_not, Bool.not_true,
          List.isEmpty_eq_false_iff] at writing
        obtain ⟨⟨_, free⟩, some⟩ := writing
        refine ⟨ready.role, ready.offering, ready.holding, fun unqueued => ?_,
          fun queued => ?_, fun _ => some⟩
        · exact absurd (ready.waiting unqueued).2.1 some
        · have all := ready.queued queued
          rw [← all]
          obtain ⟨head, tail, shape⟩ := List.exists_cons_of_ne_nil some
          simp [unwritten, free, shape, effectBytes]
      case isFalse =>
        split
        case isTrue =>
          have reading :
              OffererStands decl payload sent
                { now with readOutstanding := true } :=
            { ready with }
          simpa [effectBytes] using reading
        case isFalse => simpa [effectBytes] using ready

/-- A call of the scheduler that moves no record keeps the offerer as it stands. -/
theorem delegate
    {call : OfferCall}
    (offering : Offering decl (controller.scheduler.step call).2)
    (idle :
      (controller.scheduler.step call).2.state = .idle ↔
        controller.scheduler.state = .idle) :
    OffererStands decl payload sent (controller.delegate call).2 :=
  { stands with
    offering := offering
    holding := fun active => stands.holding (mt idle.2 active) }

theorem consent
    (call : OfferCall)
    (offering : Offering decl (controller.scheduler.step call).2)
    (idle :
      (controller.scheduler.step call).2.state = .idle ↔
        controller.scheduler.state = .idle) :
    OffererStands decl payload sent (controller.consent call).2 ∧
      (controller.consent call).1 = (controller.scheduler.step call).1 := by
  have delegated := stands.delegate offering idle
  simp only [ContentTransferController.consent]
  split
  case isTrue => exact ⟨{ delegated with }, rfl⟩
  case isFalse => exact ⟨delegated, rfl⟩

theorem offer
    (declares : Declares decl payload) :
    OffererStands decl payload sent (controller.offer decl payload).2 ∧
      (controller.offer decl payload).1 ≠ .protocolViolation := by
  obtain ⟨offering, answer, refused⟩ := stands.offering.offer declares
  simp only [ContentTransferController.offer, declares.length]
  split
  case isTrue differs => exact absurd rfl differs
  case isFalse =>
    split
    case isTrue failed =>
      have same : (controller.delegate (.offer decl)).2 = controller := by
        have unchanged := refused failed
        simp only [ContentTransferController.delegate,
          ContentOfferScheduler.step, unchanged]
      rw [same]
      exact ⟨stands, answer⟩
    case isFalse =>
      exact ⟨{ stands with
        offering := offering
        holding := fun _ => rfl }, by simp⟩

theorem onWriteComplete
    (writing : controller.writeOutstanding = true) :
    OffererStands decl payload sent controller.onWriteComplete.2 := by
  refine ⟨stands.role, stands.offering, stands.holding, fun unqueued => ?_,
    fun queued => ?_, by simp [ContentTransferController.onWriteComplete]⟩
  · have none := (stands.waiting unqueued).2.2
    rw [writing] at none
    exact absurd none (by simp)
  · have all := stands.queued queued
    simp only [unwritten, writing, ↓reduceIte] at all
    simpa [unwritten, ContentTransferController.onWriteComplete] using all

variable {call : ContentCall}

/-- A call that hands nothing to the stream. -/
theorem silent
    (declares : Declares decl payload)
    (allowed :
      OffererEntry decl payload
        (Logbook.entry ContentTransferController.step controller call))
    (quiet : call ≠ .pollEffect) :
    OffererStands decl payload sent (controller.step call).2 ∧
      (controller.step call).1 ≠ .protocolViolation := by
  cases call with
  | offer offered bytes =>
      obtain ⟨rfl, rfl⟩ := allowed
      exact stands.offer declares
  | onWriteComplete =>
      exact ⟨stands.onWriteComplete allowed, by simp [
        ContentTransferController.step,
        ContentTransferController.onWriteComplete]⟩
  | attachConnection connection localIsListener =>
      exact ⟨{ stands with }, by simp [ContentTransferController.step]⟩
  | approveSend =>
      have approved :
          Offering decl { controller.scheduler with sendOk := true } :=
        { stands.offering with }
      obtain ⟨offering, answer, idle⟩ := stands.offering.approve approved rfl
      obtain ⟨consented, same⟩ := stands.consent .approveSend offering idle
      refine ⟨consented, ?_⟩
      rw [ContentTransferController.step, approveSend, same]
      exact answer
  | approveReceive =>
      have approved :
          Offering decl { controller.scheduler with receiveOk := true } :=
        { stands.offering with }
      obtain ⟨offering, answer, idle⟩ := stands.offering.approve approved rfl
      obtain ⟨consented, same⟩ := stands.consent .approveReceive offering idle
      refine ⟨consented, ?_⟩
      rw [ContentTransferController.step, approveReceive, same]
      exact answer
  | noteFriendSaved =>
      exact ⟨stands.delegate stands.offering Iff.rfl, by simp [
        ContentTransferController.step,
        ContentTransferController.noteFriendSaved,
        ContentTransferController.delegate, ContentOfferScheduler.step,
        ContentOfferScheduler.noteFriendSaved]⟩
  | onClock continuousNs =>
      obtain ⟨offering, answer, idle⟩ := stands.offering.onClock continuousNs
      exact ⟨stands.delegate offering idle, answer⟩
  | pollEffect => exact absurd rfl quiet
  | onStreamOpen send recv =>
      simp only [ContentTransferController.step,
        ContentTransferController.onStreamOpen]
      split
      case isTrue => exact ⟨{ stands with }, by simp⟩
      case isFalse =>
        split <;> exact ⟨{ stands with }, by simp⟩
  | _ => exact absurd allowed id

/-- One call of an undisturbed transfer. -/
theorem step
    (declares : Declares decl payload)
    (allowed :
      OffererEntry decl payload
        (Logbook.entry ContentTransferController.step controller call)) :
    OffererStands decl payload (sent ++ controller.writtenBy call)
        (controller.step call).2 ∧
      (controller.step call).1 ≠ .protocolViolation := by
  by_cases polls : call = .pollEffect
  · subst polls
    exact ⟨stands.pollEffect, by simp [ContentTransferController.step]⟩
  · have none : controller.writtenBy call = [] := by
      cases call <;> first | rfl | exact absurd rfl polls
    rw [none, List.append_nil]
    exact stands.silent declares allowed polls

omit stands in
/-- The offerer of an undisturbed transfer writes the records of the stream. -/
theorem run
    (declares : Declares decl payload)
    (controller : ContentTransferController)
    (calls : List ContentCall) :
    (∀ entry ∈ Logbook.log ContentTransferController.step
        (controller.reset .offerer) calls,
      OffererEntry decl payload entry) →
    OffererStands decl payload
        (written (Logbook.log ContentTransferController.step
          (controller.reset .offerer) calls))
        (Logbook.after ContentTransferController.step
          (controller.reset .offerer) calls) ∧
      ∀ entry ∈ Logbook.log ContentTransferController.step
          (controller.reset .offerer) calls,
        entry.answer ≠ .protocolViolation := by
  refine Logbook.run_keeps ContentTransferController.step
    (fun log now =>
      (∀ entry ∈ log, OffererEntry decl payload entry) →
      OffererStands decl payload (written log) now ∧
        ∀ entry ∈ log, entry.answer ≠ .protocolViolation)
    (fun _ => ⟨?_, by simp⟩) ?_ calls
  · refine ⟨rfl, ⟨rfl, rfl, Or.inl rfl⟩, fun active => absurd rfl active,
      fun _ => ⟨rfl, rfl, rfl⟩, fun claimed => ?_, fun claimed => ?_⟩ <;>
      simp [reset] at claimed
  · intro log now call kept allowed
    obtain ⟨stands, answers⟩ := kept fun entry member =>
      allowed entry (List.mem_append_left _ member)
    obtain ⟨next, answer⟩ :=
      stands.step declares
        (allowed (Logbook.entry ContentTransferController.step now call) (by simp))
    refine ⟨by simpa [written, Logbook.entry] using next, fun entry member => ?_⟩
    rcases List.mem_append.1 member with old | new
    · exact answers entry old
    · obtain rfl := List.mem_singleton.1 new
      exact answer

end OffererStands

end Offerer

/-! ## The stream is written to its end -/

section Draining

variable
  {decl : ContentOfferDecl}
  {payload sent : Bytes}
  {controller : ContentTransferController}

open ContentTransferController

/-- An offerer whose stream is open and that may write. -/
structure Writing (controller : ContentTransferController) : Prop where
  role : controller.role = .offerer
  opened : controller.streamOpen = true
  mayOpen : controller.scheduler.mayOpenRomStream = true
  active : controller.scheduler.state = .transferring

/-- With its records queued, a poll writes the first of them. -/
theorem Writing.poll
    (writing : Writing controller)
    (free : controller.writeOutstanding = false)
    {now : ContentTransferController}
    (ready :
      (if controller.framesQueued then
          controller
        else
          controller.queuePayloadFrames) = now)
    (some : now.writeQueue ≠ [])
    (same : now.writeOutstanding = controller.writeOutstanding ∧
      now.streamOpen = controller.streamOpen) :
    controller.pollEffect.2 = { now with writeOutstanding := true } := by
  unfold pollEffect
  rw [if_neg (by simp [writing.active]), if_neg (by simp [writing.opened])]
  have chosen :
      (if controller.streamOpen && decide (controller.role = .offerer) &&
          !controller.framesQueued &&
          controller.scheduler.mayOpenRomStream then
        controller.queuePayloadFrames
      else
        controller) = now := by
    rw [← ready]
    cases controller.framesQueued <;>
      simp [writing.opened, writing.role, writing.mayOpen]
  simp only [chosen]
  simp [same, writing.opened, free, some]

/-- Polls and completions write the queued records one after another. -/
theorem Writing.drain_queue
    (decl : ContentOfferDecl)
    (payload : Bytes)
    (queue : List Bytes)
    (controller : ContentTransferController)
    (writing : Writing controller)
    (queued : controller.framesQueued = true)
    (free : controller.writeOutstanding = false)
    (shape : controller.writeQueue = queue) :
    ∃ calls,
      (∀ entry ∈ Logbook.log ContentTransferController.step controller calls,
        OffererEntry decl payload entry) ∧
        Drained (Logbook.after ContentTransferController.step controller calls) := by
  induction queue generalizing controller with
  | nil =>
      refine ⟨[], by simp [Logbook.log], queued, ?_⟩
      change controller.unwritten = []
      simp [unwritten, free, shape]
  | cons head tail inductionHypothesis =>
      have polled :
          controller.pollEffect.2 = { controller with writeOutstanding := true } :=
        writing.poll free (by rw [queued]; rfl) (by simp [shape]) ⟨rfl, rfl⟩
      obtain ⟨calls, allowed, drained⟩ :=
        inductionHypothesis (controller.pollEffect.2.onWriteComplete).2
          (by rw [polled]; exact { writing with })
          (by rw [polled]; exact queued) (by rw [polled]; rfl)
          (by rw [polled]; simp [ContentTransferController.onWriteComplete, shape])
      refine ⟨.pollEffect :: .onWriteComplete :: calls, ?_, drained⟩
      intro entry member
      simp only [Logbook.log, List.mem_cons] at member
      rcases member with rfl | rfl | later
      · trivial
      · change controller.pollEffect.2.writeOutstanding = true
        rw [polled]
      · exact allowed entry later

/-- An offerer that may write has a way to write the stream to its end. -/
theorem OffererStands.drains
    (stands : OffererStands decl payload sent controller)
    (opened : controller.streamOpen = true)
    (mayOpen : controller.scheduler.mayOpenRomStream = true) :
    ∃ calls,
      (∀ entry ∈ Logbook.log ContentTransferController.step controller calls,
        OffererEntry decl payload entry) ∧
        Drained (Logbook.after ContentTransferController.step controller calls) := by
  have active : controller.scheduler.state = .transferring := by
    have role := stands.offering.role
    rcases stands.offering.phase with state | ⟨state | state | state, _⟩ <;>
      simp [ContentOfferScheduler.mayOpenRomStream, role, state] at mayOpen ⊢
  have writing : Writing controller := ⟨stands.role, opened, mayOpen, active⟩
  cases queued : controller.framesQueued with
  | true =>
      cases free : controller.writeOutstanding with
      | false => exact writing.drain_queue _ _ _ controller queued free rfl
      | true =>
          obtain ⟨calls, allowed, drained⟩ :=
            Writing.drain_queue decl payload
              controller.writeQueue.tail controller.onWriteComplete.2
              { writing with } queued rfl rfl
          refine ⟨.onWriteComplete :: calls, ?_, drained⟩
          intro entry member
          rcases List.mem_cons.1 member with rfl | later
          · exact free
          · exact allowed entry later
  | false =>
      obtain ⟨_, _, free⟩ := stands.waiting queued
      have framed := stands.queuePayloadFrames_eq mayOpen queued
      have records := recordsFrom_cons decl (Nat.zero_le (chunkCount payload))
      have polled :
          controller.pollEffect.2 =
            { controller.queuePayloadFrames with writeOutstanding := true } := by
        refine writing.poll free (by rw [queued]; rfl) ?_ ?_
        · rw [framed]
          simp [records]
        · rw [framed]
          exact ⟨rfl, rfl⟩
      rw [framed] at polled
      obtain ⟨calls, allowed, drained⟩ :=
        Writing.drain_queue decl payload
          (recordsFrom decl payload 0).tail
          controller.pollEffect.2.onWriteComplete.2
          (by rw [polled]; exact { writing with }) (by rw [polled]; rfl)
          (by rw [polled]; rfl) (by rw [polled]; rfl)
      refine ⟨.pollEffect :: .onWriteComplete :: calls, ?_, drained⟩
      intro entry member
      simp only [Logbook.log, List.mem_cons] at member
      rcases member with rfl | rfl | later
      · trivial
      · change controller.pollEffect.2.writeOutstanding = true
        rw [polled]
      · exact allowed entry later

end Draining

end FlyNes.Content
