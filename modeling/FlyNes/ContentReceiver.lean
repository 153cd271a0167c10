import FlyNes.ContentStream

namespace FlyNes.Content

open ByteString FlyNes.Dual FlyNes.Wire

/-!
# Receiving a ROM

However the stream is cut into reads, the receiver of an undisturbed transfer takes
the same records out of it: it binds the declaration, stages every slice at its
offset, and checks the payload when the last slice has arrived.
-/

section Receiver

variable {decl : ContentOfferDecl} {payload : Bytes}

/-- The slices before an offset are staged and the others are still missing. -/
structure Halfway
    (decl : ContentOfferDecl)
    (payload : Bytes)
    (offset : Nat)
    (scheduler : ContentOfferScheduler) : Prop where
  state : scheduler.state = .transferring
  bound : scheduler.decl = decl
  staging :
    scheduler.staging =
      payload.take offset ++ List.replicate (payload.length - offset) 0
  transferred : scheduler.transferred = offset

/-- The payload waits for its import. -/
structure Arrived
    (decl : ContentOfferDecl)
    (payload : Bytes)
    (scheduler : ContentOfferScheduler) : Prop where
  state : scheduler.state = .waitingImport
  bound : scheduler.decl = decl
  staging : scheduler.staging = payload

/-- What a receiver has after the first records of the stream. -/
def Receiving
    (decl : ContentOfferDecl)
    (payload : Bytes) : Nat → ContentOfferScheduler → Prop
  | 0, scheduler => scheduler.state = .idle ∨ Halfway decl payload 0 scheduler
  | index + 1, scheduler =>
      if index < chunkCount payload then
        Halfway decl payload (chunkOffset index) scheduler
      else
        Arrived decl payload scheduler

/-- A receiver with both consents. -/
structure Consented (scheduler : ContentOfferScheduler) : Prop where
  role : scheduler.role = .receiver
  send : scheduler.sendOk = true
  receive : scheduler.receiveOk = true

variable {scheduler : ContentOfferScheduler}

theorem Consented.mayOpen
    (consented : Consented scheduler) :
    scheduler.mayOpenRomStream = true := by
  simp [ContentOfferScheduler.mayOpenRomStream, consented.role, consented.send,
    consented.receive]

/-- Writing the next slice behind those that are staged. -/
theorem overwrite_slice
    (payload : Bytes)
    {offset count : Nat}
    (inside : offset + count ≤ payload.length) :
    overwrite
        (payload.take offset ++ List.replicate (payload.length - offset) 0)
        offset ((payload.drop offset).take count) =
      payload.take (offset + count) ++
        List.replicate (payload.length - (offset + count)) 0 := by
  have first : (payload.take offset).length = offset := by
    rw [List.length_take]
    omega
  have size : ((payload.drop offset).take count).length = count := by
    rw [List.length_take, List.length_drop]
    omega
  have before :
      (payload.take offset ++ List.replicate (payload.length - offset) 0).take
          offset =
        payload.take offset :=
    List.take_left' first
  have after :
      (payload.take offset ++ List.replicate (payload.length - offset) 0).drop
          (offset + count) =
        List.replicate (payload.length - (offset + count)) 0 := by
    rw [List.drop_append, first, List.drop_eq_nil_of_le (by omega),
      List.nil_append, List.drop_replicate]
    congr 1
    omega
  rw [overwrite, size, before, after, List.take_add]

theorem chunkData_eq
    (payload : Bytes)
    (index : Nat) :
    chunkData payload index =
      (payload.drop (chunkOffset index)).take (chunkData payload index).length := by
  rw [length_chunkData, chunkData]
  rcases Nat.le_total kContentChunkMaxPayload
      (payload.length - chunkOffset index) with full | last
  · rw [Nat.min_eq_left full]
  · rw [Nat.min_eq_right last, List.take_of_length_le (by simpa using last),
      List.take_of_length_le (by simp)]

section Appending

variable {scheduler : ContentOfferScheduler} {offset : Nat} {data : Bytes}

/-- An append in range that does not fail the check. -/
theorem appendBytes_inRange
    (opened : scheduler.mayOpenRomStream = true)
    (inRange : scheduler.InRange offset data)
    (unfailed :
      (ContentOfferScheduler.maybeFinishCheck
        { scheduler with
          staging := overwrite scheduler.sizedStaging offset data
          transferred := max scheduler.transferred (offset + data.length)
          stagingLive := true }).state ≠ .failed) :
    scheduler.appendBytes offset data =
      (.ok,
        ContentOfferScheduler.maybeFinishCheck
          { scheduler with
            staging := overwrite scheduler.sizedStaging offset data
            transferred := max scheduler.transferred (offset + data.length)
            stagingLive := true }) := by
  simp only [ContentOfferScheduler.appendBytes, opened, Nat.not_lt.2 inRange.1,
    Nat.not_lt.2 inRange.2, unfailed, Bool.not_true, Bool.false_eq_true,
    ↓reduceIte]

theorem maybeFinishCheck_short
    (missing : scheduler.transferred < scheduler.decl.declaredLength) :
    scheduler.maybeFinishCheck = scheduler := by
  simp [ContentOfferScheduler.maybeFinishCheck, missing]

theorem maybeFinishCheck_whole
    (transferring : scheduler.state = .transferring)
    (whole : ¬ scheduler.transferred < scheduler.decl.declaredLength)
    (same :
      sha256 (scheduler.staging.take scheduler.decl.declaredLength) =
        scheduler.decl.payloadSha256) :
    scheduler.maybeFinishCheck = { scheduler with state := .waitingImport } := by
  simp [ContentOfferScheduler.maybeFinishCheck, transferring, whole, same]

end Appending

variable {index : Nat}

/-- A slice is accepted at its offset, and the last one passes the check. -/
theorem Halfway.append
    (declares : Declares decl payload)
    (consented : Consented scheduler)
    (inside : index < chunkCount payload)
    (halfway : Halfway decl payload (chunkOffset index) scheduler) :
    (scheduler.appendBytes (chunkOffset index) (chunkData payload index)).1 = .ok ∧
      Consented
        (scheduler.appendBytes (chunkOffset index) (chunkData payload index)).2 ∧
      Receiving decl payload (index + 2)
        (scheduler.appendBytes (chunkOffset index) (chunkData payload index)).2 := by
  have ending := chunk_end inside
  have next := chunkOffset_lt_iff payload (index + 1)
  have fits :
      chunkOffset index + (chunkData payload index).length ≤ payload.length := by
    rw [ending]
    split
    case isTrue more => exact Nat.le_of_lt (next.2 more)
    case isFalse => exact Nat.le_refl _
  have sized : scheduler.sizedStaging = scheduler.staging := by
    have length : scheduler.staging.length = scheduler.decl.declaredLength := by
      rw [halfway.staging, halfway.bound, declares.length]
      simp only [List.length_append, List.length_take, List.length_replicate]
      omega
    simp [ContentOfferScheduler.sizedStaging, length]
  have staged :
      overwrite scheduler.staging (chunkOffset index) (chunkData payload index) =
        payload.take (chunkOffset index + (chunkData payload index).length) ++
          List.replicate
            (payload.length -
              (chunkOffset index + (chunkData payload index).length)) 0 := by
    rw [halfway.staging, ← overwrite_slice payload fits, ← chunkData_eq]
  have inRange :
      scheduler.InRange (chunkOffset index) (chunkData payload index) := by
    refine ⟨?_, by rw [halfway.bound, declares.length]; exact fits⟩
    have bounded := declares.bounded
    omega
  have farther :
      max scheduler.transferred
          (chunkOffset index + (chunkData payload index).length) =
        chunkOffset index + (chunkData payload index).length := by
    rw [halfway.transferred]
    omega
  have appended :=
    appendBytes_inRange consented.mayOpen inRange
  rw [sized, staged, farther, ending] at appended
  by_cases more : index + 1 < chunkCount payload
  · have less := next.2 more
    rw [if_pos more, maybeFinishCheck_short (by
      simpa [halfway.bound, declares.length] using less)] at appended
    have accepted := appended (by simp [halfway.state])
    rw [accepted]
    refine ⟨rfl, { consented with }, ?_⟩
    rw [Receiving, if_pos more]
    exact ⟨halfway.state, halfway.bound, rfl, rfl⟩
  · have all :
        payload.take payload.length ++
            List.replicate (payload.length - payload.length) 0 =
          payload := by
      simp
    rw [if_neg more, all, maybeFinishCheck_whole (by exact halfway.state) (by
      simp [halfway.bound, declares.length]) (by
      simp [halfway.bound, declares.length, declares.hash])] at appended
    have accepted := appended (by simp)
    rw [accepted]
    refine ⟨rfl, { consented with }, ?_⟩
    rw [Receiving, if_neg more]
    exact ⟨rfl, halfway.bound, rfl⟩

/-- A receiver that knows of no offer binds the declaration. -/
theorem acceptOffer_idle
    (declares : Declares decl payload)
    (role : scheduler.role = .receiver)
    (idle : scheduler.state = .idle) :
    scheduler.acceptOffer decl =
      (.ok,
        ContentOfferScheduler.maybeEnterTransfer
          { scheduler with
            decl := decl
            staging := List.replicate payload.length 0
            transferred := 0
            stagingLive := false
            state := .offered }) := by
  have positive : payload.length ≠ 0 :=
    fun none => declares.nonempty (List.eq_nil_of_length_eq_zero none)
  simp [ContentOfferScheduler.acceptOffer, ContentOfferScheduler.bindDecl, role,
    idle, declares.named, declares.length, positive,
    Nat.not_lt.2 declares.bounded]

theorem chunkCount_pos
    (declares : Declares decl payload) :
    0 < chunkCount payload := by
  have positive : payload.length ≠ 0 :=
    fun none => declares.nonempty (List.eq_nil_of_length_eq_zero none)
  simp only [chunkCount, kContentChunkMaxPayload]
  omega

/-- One record at the front of what is read, and what the receiver makes of it. -/
structure RecordTaken
    (decl : ContentOfferDecl)
    (payload : Bytes)
    (index : Nat)
    (controller : ContentTransferController)
    (type : UInt8)
    (body : Bytes)
    (scheduler : ContentOfferScheduler) : Prop where
  record : romRecord decl payload index = wrapRecord type body
  fits : 5 + body.length ≤ kContentRecordMaxBytes
  handled :
    ∀ total,
      controller.handleRecord type body total =
        (.ok,
          { controller with
            scheduler := scheduler
            readAccumulator := controller.readAccumulator.drop total })
  consented : Consented scheduler
  receiving : Receiving decl payload (index + 1) scheduler
  accepted :
    payloadChunks payload 0 (index - 1) ++
        acceptedChunks
          (Logbook.log ContentOfferScheduler.step controller.scheduler
            (controller.recordCalls type body)) =
      payloadChunks payload 0 index

variable {controller : ContentTransferController}

/-- The declaration is bound, or known already. -/
theorem take_offer
    (declares : Declares decl payload)
    (role : controller.role = .receiver)
    (consented : Consented controller.scheduler)
    (receiving : Receiving decl payload 0 controller.scheduler) :
    ∃ scheduler,
      RecordTaken decl payload 0 controller kContentOfferType
        (contentOfferBody decl) scheduler := by
  have bounded := declares.bounded
  have decoded : decodeContentOffer (contentOfferBody decl) = some decl := by
    refine decodeContentOffer_body ?_
    rw [declares.length]
    simp only [kContentRomMaxBytes] at bounded
    omega
  have fits :
      5 + (contentOfferBody decl).length ≤ kContentRecordMaxBytes := by
    rw [length_contentOfferBody]
    decide
  have first := chunkCount_pos declares
  rcases receiving with idle | halfway
  · have accepted := acceptOffer_idle declares consented.role idle
    have entered :
        (ContentOfferScheduler.maybeEnterTransfer
          { controller.scheduler with
            decl := decl
            staging := List.replicate payload.length 0
            transferred := 0
            stagingLive := false
            state := .offered }) =
          { controller.scheduler with
            decl := decl
            staging := List.replicate payload.length 0
            transferred := 0
            stagingLive := false
            state := .transferring } := by
      simp [ContentOfferScheduler.maybeEnterTransfer, consented.send,
        consented.receive]
    rw [entered] at accepted
    have asked :
        controller.recordCall kContentOfferType (contentOfferBody decl) =
          .ok (some (.acceptOffer decl)) := by
      simp [ContentTransferController.recordCall, decoded, role, idle]
    refine ⟨{ controller.scheduler with
        decl := decl
        staging := List.replicate payload.length 0
        transferred := 0
        stagingLive := false
        state := .transferring }, rfl, fits, fun total => ?_,
      { consented with }, ?_, ?_⟩
    · simp only [ContentTransferController.handleRecord, asked,
        ContentTransferController.delegate, ContentOfferScheduler.step, accepted,
        ↓reduceIte]
    · rw [Receiving, if_pos first]
      exact ⟨rfl, rfl, by simp [chunkOffset], rfl⟩
    · simp [ContentTransferController.recordCalls, asked, Logbook.log,
        Logbook.entry, acceptedChunks, payloadChunks]
  · have asked :
        controller.recordCall kContentOfferType (contentOfferBody decl) =
          .ok none := by
      simp [ContentTransferController.recordCall, decoded, halfway.state]
    refine ⟨controller.scheduler, rfl, fits, fun total => ?_, consented, ?_, ?_⟩
    · simp only [ContentTransferController.handleRecord, asked]
    · rw [Receiving, if_pos first]
      exact halfway
    · simp [ContentTransferController.recordCalls, asked, Logbook.log,
        acceptedChunks, payloadChunks]

/-- A chunk is appended at its offset. -/
theorem take_chunk
    (declares : Declares decl payload)
    (consented : Consented controller.scheduler)
    (inside : index < chunkCount payload)
    (receiving : Receiving decl payload (index + 1) controller.scheduler) :
    ∃ scheduler,
      RecordTaken decl payload (index + 1) controller kContentChunkType
        (contentChunkBody decl.offerId (chunkOffset index)
          (chunkData payload index)) scheduler := by
  rw [Receiving, if_pos inside] at receiving
  obtain ⟨answer, stillConsented, next⟩ :=
    receiving.append declares consented inside
  have bounded := declares.bounded
  have here := (chunkOffset_lt_iff payload index).2 inside
  have size := length_chunkData payload index
  simp only [kContentRomMaxBytes, kContentChunkMaxPayload] at bounded size
  have decoded :
      decodeContentChunk
          (contentChunkBody decl.offerId (chunkOffset index)
            (chunkData payload index)) =
        some ⟨decl.offerId, chunkOffset index, chunkData payload index⟩ :=
    decodeContentChunk_body (by omega) (by omega)
  have asked :
      controller.recordCall kContentChunkType
          (contentChunkBody decl.offerId (chunkOffset index)
            (chunkData payload index)) =
        .ok (some
          (.appendBytes (chunkOffset index) (chunkData payload index))) := by
    simp [ContentTransferController.recordCall, decoded, receiving.bound,
      kContentChunkType, kContentOfferType]
  refine ⟨_, rfl, ?_, fun total => ?_, stillConsented, next, ?_⟩
  · rw [length_contentChunkBody]
    simp only [kContentChunkHeaderBytes, kContentRecordMaxBytes]
    omega
  · simp only [ContentTransferController.handleRecord, asked,
      ContentTransferController.delegate, ContentOfferScheduler.step, answer,
      ↓reduceIte]
  · simp [ContentTransferController.recordCalls, asked, Logbook.log,
      Logbook.entry, acceptedChunks, ContentOfferScheduler.step, answer,
      payloadChunks, List.range'_concat]

theorem take_record
    (declares : Declares decl payload)
    (role : controller.role = .receiver)
    (consented : Consented controller.scheduler)
    (inside : index ≤ chunkCount payload)
    (receiving : Receiving decl payload index controller.scheduler) :
    ∃ type body scheduler,
      RecordTaken decl payload index controller type body scheduler := by
  cases index with
  | zero => exact ⟨_, _, take_offer declares role consented receiving⟩
  | succ index => exact ⟨_, _, take_chunk declares consented inside receiving⟩

/-- What the loop over the records leaves of a part of the stream. -/
structure Reached
    (decl : ContentOfferDecl)
    (payload rest : Bytes)
    (index : Nat)
    (scheduler : ContentOfferScheduler)
    (accumulator : Bytes) : Prop where
  bound : index ≤ chunkCount payload + 1
  consented : Consented scheduler
  receiving : Receiving decl payload index scheduler
  remaining : accumulator ++ rest = (recordsFrom decl payload index).flatten

/-- The record that the receiver is at has not been read whole. -/
def Short
    (decl : ContentOfferDecl)
    (payload : Bytes)
    (index : Nat)
    (accumulator : Bytes) : Prop :=
  index ≤ chunkCount payload →
  accumulator.length < (romRecord decl payload index).length

theorem romRecord_pos
    (index : Nat) :
    0 < (romRecord decl payload index).length := by
  cases index <;> simp [romRecord, encodeContentOffer, length_wrapRecord]

theorem recordFront_nil :
    recordFront [] = .incomplete := rfl

/--
The loop takes the records that have been read whole, whatever part of the stream
has been read; by induction on its fuel.
-/
theorem consumeLoop_stream
    (declares : Declares decl payload)
    (rest : Bytes)
    (fuel : Nat)
    (controller : ContentTransferController)
    (index : Nat)
    (role : controller.role = .receiver)
    (reached :
      Reached decl payload rest index controller.scheduler
        controller.readAccumulator)
    (enough : controller.readAccumulator.length ≤ fuel) :
    ∃ next scheduler accumulator,
      ContentTransferController.consumeLoop fuel controller =
          (.ok,
            { controller with
              scheduler := scheduler
              readAccumulator := accumulator }) ∧
        Reached decl payload rest next scheduler accumulator ∧
        Short decl payload next accumulator ∧
        payloadChunks payload 0 (index - 1) ++
            acceptedChunks
              (Logbook.log ContentOfferScheduler.step controller.scheduler
                (controller.consumedCalls fuel)) =
          payloadChunks payload 0 (next - 1) := by
  induction fuel generalizing controller index with
  | zero =>
      have empty : controller.readAccumulator = [] :=
        List.eq_nil_of_length_eq_zero (by omega)
      refine ⟨index, controller.scheduler, controller.readAccumulator, rfl,
        reached, fun _ => ?_, ?_⟩
      · rw [empty]
        exact romRecord_pos index
      · simp [ContentTransferController.consumedCalls, Logbook.log,
          acceptedChunks]
  | succ fuel inductionHypothesis =>
      have waits :
          recordFront controller.readAccumulator = .incomplete →
          Short decl payload index controller.readAccumulator →
          ∃ next scheduler accumulator,
            ContentTransferController.consumeLoop (fuel + 1) controller =
                (.ok,
                  { controller with
                    scheduler := scheduler
                    readAccumulator := accumulator }) ∧
              Reached decl payload rest next scheduler accumulator ∧
              Short decl payload next accumulator ∧
              payloadChunks payload 0 (index - 1) ++
                  acceptedChunks
                    (Logbook.log ContentOfferScheduler.step controller.scheduler
                      (controller.consumedCalls (fuel + 1))) =
                payloadChunks payload 0 (next - 1) := by
        intro front short
        refine ⟨index, controller.scheduler, controller.readAccumulator, ?_,
          reached, short, ?_⟩
        · simp only [ContentTransferController.consumeLoop, front]
        · simp [ContentTransferController.consumedCalls, front, Logbook.log,
            acceptedChunks]
      rcases Nat.lt_or_ge (chunkCount payload) index with done | inside
      · obtain rfl : index = chunkCount payload + 1 := by
          have bound := reached.bound
          omega
        have remaining := reached.remaining
        rw [recordsFrom_end, List.flatten_nil, List.append_eq_nil_iff]
          at remaining
        refine waits ?_ (fun claimed => by omega)
        rw [remaining.1]
        exact recordFront_nil
      · obtain ⟨type, body, scheduler, taken⟩ :=
          take_record declares role reached.consented inside reached.receiving
        have shape := reached.remaining
        rw [recordsFrom_cons decl inside, List.flatten_cons, taken.record]
          at shape
        have size : (romRecord decl payload index).length = 5 + body.length := by
          rw [taken.record, length_wrapRecord]
        rcases Nat.lt_or_ge controller.readAccumulator.length (5 + body.length)
          with short | whole
        · exact waits (recordFront_of_short taken.fits shape short)
            (fun _ => by rw [size]; exact short)
        · obtain ⟨front, remaining⟩ :=
            recordFront_of_whole taken.fits shape whole
          obtain ⟨next, later, accumulator, looped, leads, short, accepted⟩ :=
            inductionHypothesis
              { controller with
                scheduler := scheduler
                readAccumulator :=
                  controller.readAccumulator.drop (5 + body.length) }
              (index + 1) role
              ⟨by omega, taken.consented, taken.receiving, remaining⟩
              (by
                simp only [List.length_drop]
                omega)
          refine ⟨next, later, accumulator, ?_, leads, short, ?_⟩
          · simp only [ContentTransferController.consumeLoop, front,
              taken.handled, ↓reduceIte]
            exact looped
          · have moved := taken.handled (5 + body.length)
            have calls :=
              ContentTransferController.handleRecord_scheduler controller type
                body (5 + body.length)
            rw [moved] at calls
            simp only [ContentTransferController.consumedCalls, front, moved,
              ↓reduceIte, Logbook.log_append, ← calls]
            rw [← accepted, Nat.add_sub_cancel, ← taken.accepted]
            simp [acceptedChunks]

/-- The scheduler of a receiver that has read no whole record. -/
structure Opening
    (decl : ContentOfferDecl)
    (payload : Bytes)
    (scheduler : ContentOfferScheduler) : Prop where
  role : scheduler.role = .receiver
  phase :
    scheduler.state = .idle ∨
      (scheduler.decl = decl ∧
        scheduler.staging = List.replicate payload.length 0 ∧
        scheduler.transferred = 0) ∧
        (scheduler.state = .waitingConsent ∧
            (scheduler.sendOk && scheduler.receiveOk) = false ∨
          scheduler.state = .transferring ∧
            (scheduler.sendOk && scheduler.receiveOk) = true)

/-- The scheduler of a receiver after a number of records. -/
def Phase
    (decl : ContentOfferDecl)
    (payload : Bytes) : Nat → ContentOfferScheduler → Prop
  | 0, scheduler => Opening decl payload scheduler
  | index + 1, scheduler =>
      Consented scheduler ∧ Receiving decl payload (index + 1) scheduler

theorem Opening.receiving
    (opening : Opening decl payload scheduler)
    (consented : Consented scheduler) :
    Receiving decl payload 0 scheduler := by
  rcases opening.phase with idle | ⟨⟨bound, staging, transferred⟩, waits | goes⟩
  · exact Or.inl idle
  · have both := waits.2
    simp [consented.send, consented.receive] at both
  · exact Or.inr ⟨goes.1, bound, by simpa using staging, transferred⟩

theorem Opening.of_receiving
    (consented : Consented scheduler)
    (receiving : Receiving decl payload 0 scheduler) :
    Opening decl payload scheduler := by
  refine ⟨consented.role, ?_⟩
  rcases receiving with idle | halfway
  · exact Or.inl idle
  · refine Or.inr ⟨⟨halfway.bound, by simpa using halfway.staging,
      halfway.transferred⟩, Or.inr ⟨halfway.state, ?_⟩⟩
    simp [consented.send, consented.receive]

/-- Before the last record nothing waits for its import. -/
theorem Receiving.unfinished
    (receiving : Receiving decl payload index scheduler)
    (inside : index ≤ chunkCount payload) :
    scheduler.state = .idle ∨ scheduler.state = .transferring := by
  cases index with
  | zero => exact receiving.imp_right Halfway.state
  | succ index =>
      rw [Receiving, if_pos (by omega)] at receiving
      exact Or.inr receiving.state

variable {scheduler consented : ContentOfferScheduler}

theorem Opening.approve
    (opening : Opening decl payload scheduler)
    (changed :
      consented = { scheduler with sendOk := true } ∨
        consented = { scheduler with receiveOk := true }) :
    Opening decl payload (scheduler.approve consented).2 ∧
      (scheduler.approve consented).1 ≠ .protocolViolation := by
  obtain ⟨role, phase⟩ := opening
  have shape :
      (scheduler.approve consented).1 ≠ .protocolViolation ∧
        (scheduler.approve consented).2.role = .receiver := by
    simp only [ContentOfferScheduler.approve,
      ContentOfferScheduler.maybeEnterTransfer]
    grind
  refine ⟨⟨shape.2, ?_⟩, shape.1⟩
  simp only [ContentOfferScheduler.approve,
    ContentOfferScheduler.maybeEnterTransfer]
  rcases changed with rfl | rfl <;> grind

theorem Receiving.settled
    (receiving : Receiving decl payload (index + 1) scheduler) :
    scheduler.state = .transferring ∨ scheduler.state = .waitingImport := by
  rw [Receiving] at receiving
  split at receiving
  · exact Or.inl receiving.state
  · exact Or.inr receiving.state

/-- A consent that is given again changes nothing. -/
theorem approve_settled
    (settled :
      scheduler.state = .transferring ∨ scheduler.state = .waitingImport)
    (same : consented = scheduler) :
    scheduler.approve consented = (.ok, scheduler) := by
  subst same
  rcases settled with state | state <;>
    simp [ContentOfferScheduler.approve, ContentOfferScheduler.maybeEnterTransfer,
      state]

namespace Phase

variable {scheduler : ContentOfferScheduler} {index : Nat}

theorem approve
    {consented : ContentOfferScheduler}
    (phase : Phase decl payload index scheduler)
    (changed :
      consented = { scheduler with sendOk := true } ∨
        consented = { scheduler with receiveOk := true }) :
    Phase decl payload index (scheduler.approve consented).2 ∧
      (scheduler.approve consented).1 ≠ .protocolViolation := by
  cases index with
  | zero => exact Opening.approve phase changed
  | succ index =>
      have given := phase.1
      have same : consented = scheduler := by
        rcases changed with rfl | rfl
        · rw [← given.send]
        · rw [← given.receive]
      rw [approve_settled phase.2.settled same]
      exact ⟨phase, by simp⟩

theorem acceptOffer
    (declares : Declares decl payload)
    (phase : Phase decl payload index scheduler) :
    Phase decl payload index (scheduler.acceptOffer decl).2 ∧
      (scheduler.acceptOffer decl).1 ≠ .protocolViolation := by
  by_cases idle : scheduler.state = .idle
  case neg =>
    have refused : scheduler.acceptOffer decl = (.invalidState, scheduler) := by
      simp [ContentOfferScheduler.acceptOffer, ContentOfferScheduler.bindDecl,
        idle]
    rw [refused]
    exact ⟨phase, by simp⟩
  case pos =>
    cases index with
    | succ index =>
        rcases phase.2.settled with state | state <;> simp [idle] at state
    | zero =>
        have role := Opening.role phase
        rw [acceptOffer_idle declares role idle]
        refine ⟨⟨?_, ?_⟩, by simp⟩ <;>
          simp only [ContentOfferScheduler.maybeEnterTransfer] <;> grind

/-- A clock that does not time out moves only the clock fields. -/
theorem onClock
    {continuousNs : Nat}
    (phase : Phase decl payload index scheduler)
    (answer : (scheduler.onClock continuousNs).1 = .ok) :
    Phase decl payload index (scheduler.onClock continuousNs).2 := by
  have moved :
      ∃ lastProgressNs clockSeen,
        (scheduler.onClock continuousNs).2 =
          { scheduler with
            lastProgressNs := lastProgressNs
            clockSeen := clockSeen } := by
    unfold ContentOfferScheduler.onClock at answer ⊢
    split
    case isTrue => exact ⟨_, _, rfl⟩
    case isFalse active =>
      split
      case isTrue => exact ⟨_, _, rfl⟩
      case isFalse seen =>
        split
        case isTrue late => simp [active, seen, late] at answer
        case isFalse => exact ⟨_, _, rfl⟩
  obtain ⟨lastProgressNs, clockSeen, same⟩ := moved
  rw [same]
  cases index with
  | zero => exact { phase with }
  | succ index =>
      obtain ⟨consented, receiving⟩ := phase
      refine ⟨{ consented with }, ?_⟩
      rw [Receiving] at receiving ⊢
      split at receiving
      case isTrue inside =>
        rw [if_pos inside]
        exact { receiving with }
      case isFalse done =>
        rw [if_neg done]
        exact { receiving with }

end Phase

/-- A receiver that has read the stream up to `rest`. -/
structure ReceiverStands
    (decl : ContentOfferDecl)
    (payload rest : Bytes)
    (accepted : List (Nat × Bytes))
    (index : Nat)
    (controller : ContentTransferController) : Prop where
  role : controller.role = .receiver
  bound : index ≤ chunkCount payload + 1
  phase : Phase decl payload index controller.scheduler
  remaining :
    controller.readAccumulator ++ rest = (recordsFrom decl payload index).flatten
  short : Short decl payload index controller.readAccumulator
  accepted : accepted = payloadChunks payload 0 (index - 1)
  reading :
    controller.streamOpen = true →
    index ≤ chunkCount payload →
    controller.wantRead = true

namespace ReceiverStands

variable
  {rest : Bytes}
  {accepted : List (Nat × Bytes)}
  {index : Nat}
  {controller : ContentTransferController}

open ContentTransferController

theorem delegate
    {call : OfferCall}
    (stands : ReceiverStands decl payload rest accepted index controller)
    (phase : Phase decl payload index (controller.scheduler.step call).2) :
    ReceiverStands decl payload rest accepted index
      (controller.delegate call).2 :=
  { stands with phase := phase }

theorem consent
    (call : OfferCall)
    (stands : ReceiverStands decl payload rest accepted index controller)
    (phase : Phase decl payload index (controller.scheduler.step call).2) :
    ReceiverStands decl payload rest accepted index
        (controller.consent call).2 ∧
      (controller.consent call).1 = (controller.scheduler.step call).1 := by
  have delegated := stands.delegate phase
  simp only [ContentTransferController.consent]
  split
  case isTrue => exact ⟨{ delegated with }, rfl⟩
  case isFalse => exact ⟨delegated, rfl⟩

theorem pollEffect
    (stands : ReceiverStands decl payload rest accepted index controller) :
    ReceiverStands decl payload rest accepted index controller.pollEffect.2 := by
  have other : controller.role ≠ .offerer := by
    simp [stands.role]
  simp only [ContentTransferController.pollEffect, other, decide_false,
    Bool.and_false, Bool.false_and, Bool.false_eq_true, ↓reduceIte]
  split
  case isTrue => exact stands
  case isFalse =>
    split
    case isTrue => exact { stands with }
    case isFalse =>
      split
      case isTrue => exact { stands with }
      case isFalse =>
        split
        case isTrue => exact { stands with }
        case isFalse => exact stands

theorem onStreamOpen
    (stands : ReceiverStands decl payload rest accepted index controller)
    (send recv : Nat) :
    ReceiverStands decl payload rest accepted index
        (controller.onStreamOpen send recv).2 ∧
      (controller.onStreamOpen send recv).1 ≠ .protocolViolation := by
  simp only [ContentTransferController.onStreamOpen]
  split
  case isTrue => exact ⟨{ stands with }, by simp⟩
  case isFalse =>
    split
    case isTrue => exact ⟨{ stands with reading := fun _ _ => rfl }, by simp⟩
    case isFalse other => exact absurd stands.role other

/-- The bytes that come next are read, whatever part of the stream they are. -/
theorem ingest
    (declares : Declares decl payload)
    {bytes later : Bytes}
    (stands :
      ReceiverStands decl payload (bytes ++ later) accepted index controller)
    (send : controller.scheduler.sendOk = true)
    (receive : controller.scheduler.receiveOk = true) :
    (controller.ingestRemoteBytes bytes).1 = .ok ∧
      ∃ next,
        ReceiverStands decl payload later
          (accepted ++
            acceptedChunks
              (Logbook.log ContentOfferScheduler.step controller.scheduler
                (controller.offerCalls (.ingestRemoteBytes bytes))))
          next (controller.ingestRemoteBytes bytes).2 := by
  have consented : Consented controller.scheduler := by
    refine ⟨?_, send, receive⟩
    have phase := stands.phase
    cases index with
    | zero => exact Opening.role phase
    | succ index => exact phase.1.role
  have receiving : Receiving decl payload index controller.scheduler := by
    have phase := stands.phase
    cases index with
    | zero => exact Opening.receiving phase consented
    | succ index => exact phase.2
  obtain ⟨next, scheduler, accumulator, looped, reached, short, chunks⟩ :=
    consumeLoop_stream declares later
      (controller.readAccumulator ++ bytes).length
      { controller with
        readOutstanding := false
        wantRead := false
        readAccumulator := controller.readAccumulator ++ bytes }
      index stands.role
      ⟨stands.bound, consented, receiving, by
        rw [List.append_assoc]
        exact stands.remaining⟩
      (Nat.le_refl _)
  have phase : Phase decl payload next scheduler := by
    cases next with
    | zero => exact Opening.of_receiving reached.consented reached.receiving
    | succ next => exact ⟨reached.consented, reached.receiving⟩
  have consumed :
      ContentTransferController.consumeRecords
          { controller with
            readOutstanding := false
            wantRead := false
            readAccumulator := controller.readAccumulator ++ bytes } =
        (.ok,
          { controller with
            readOutstanding := false
            wantRead := false
            scheduler := scheduler
            readAccumulator := accumulator }) :=
    looped
  simp only [ContentTransferController.ingestRemoteBytes, consumed]
  have done :
      (readingDone
        { controller with
          readOutstanding := false
          wantRead := false
          scheduler := scheduler
          readAccumulator := accumulator }) = true →
      ¬ next ≤ chunkCount payload := by
    intro finished inside
    rcases reached.receiving.unfinished inside with state | state <;>
      simp [readingDone, state] at finished
  have total :
      accepted ++
          acceptedChunks
            (Logbook.log ContentOfferScheduler.step controller.scheduler
              (controller.offerCalls (.ingestRemoteBytes bytes))) =
        payloadChunks payload 0 (next - 1) := by
    rw [stands.accepted]
    exact chunks
  simp only [ne_eq, not_true_eq_false, ↓reduceIte]
  split
  case isTrue finished =>
    exact ⟨rfl, next, stands.role, reached.bound, phase, reached.remaining, short,
      total, fun _ inside => absurd inside (done finished)⟩
  case isFalse =>
    exact ⟨rfl, next, stands.role, reached.bound, phase, reached.remaining, short,
      total, fun _ _ => rfl⟩

variable {call : ContentCall}

/-- A call that reads nothing. -/
theorem silent
    (declares : Declares decl payload)
    (stands : ReceiverStands decl payload rest accepted index controller)
    (allowed :
      ReceiverEntry decl
        (Logbook.entry ContentTransferController.step controller call))
    (quiet : ∀ bytes, call ≠ .ingestRemoteBytes bytes) :
    ReceiverStands decl payload rest accepted index (controller.step call).2 ∧
      (controller.step call).1 ≠ .protocolViolation ∧
      acceptedChunks
          (Logbook.log ContentOfferScheduler.step controller.scheduler
            (controller.offerCalls call)) =
        [] := by
  cases call with
  | ingestRemoteBytes bytes => exact absurd rfl (quiet bytes)
  | attachConnection connection localIsListener =>
      exact ⟨{ stands with }, by simp [ContentTransferController.step], rfl⟩
  | acceptOffer offered =>
      obtain rfl : offered = decl := allowed
      obtain ⟨phase, answer⟩ := stands.phase.acceptOffer declares
      exact ⟨stands.delegate phase, answer, rfl⟩
  | approveSend =>
      obtain ⟨phase, answer⟩ := stands.phase.approve (Or.inl rfl)
      obtain ⟨consented, same⟩ := consent .approveSend stands phase
      refine ⟨consented, ?_, rfl⟩
      rw [ContentTransferController.step, approveSend, same]
      exact answer
  | approveReceive =>
      obtain ⟨phase, answer⟩ := stands.phase.approve (Or.inr rfl)
      obtain ⟨consented, same⟩ := consent .approveReceive stands phase
      refine ⟨consented, ?_, rfl⟩
      rw [ContentTransferController.step, approveReceive, same]
      exact answer
  | noteFriendSaved =>
      exact ⟨stands.delegate stands.phase, by simp [
        ContentTransferController.step,
        ContentTransferController.noteFriendSaved,
        ContentTransferController.delegate, ContentOfferScheduler.step,
        ContentOfferScheduler.noteFriendSaved], rfl⟩
  | onClock continuousNs =>
      have answer : (controller.scheduler.onClock continuousNs).1 = .ok := allowed
      refine ⟨stands.delegate (stands.phase.onClock answer), ?_, rfl⟩
      change (controller.scheduler.onClock continuousNs).1 ≠ _
      simp [answer]
  | pollEffect =>
      exact ⟨stands.pollEffect, by simp [ContentTransferController.step], rfl⟩
  | onStreamOpen send recv =>
      obtain ⟨opened, answer⟩ := stands.onStreamOpen send recv
      exact ⟨opened, answer, rfl⟩
  | _ => exact absurd allowed id

/-- One call of an undisturbed transfer. -/
theorem step
    (declares : Declares decl payload)
    {later : Bytes}
    (stands :
      ReceiverStands decl payload (takenBy call ++ later) accepted index controller)
    (allowed :
      ReceiverEntry decl
        (Logbook.entry ContentTransferController.step controller call)) :
    (controller.step call).1 ≠ .protocolViolation ∧
      ∃ next,
        ReceiverStands decl payload later
          (accepted ++
            acceptedChunks
              (Logbook.log ContentOfferScheduler.step controller.scheduler
                (controller.offerCalls call)))
          next (controller.step call).2 := by
  by_cases quiet : ∀ bytes, call ≠ .ingestRemoteBytes bytes
  case pos =>
    have none : takenBy call = [] := by
      cases call <;> first | rfl | exact absurd rfl (quiet _)
    rw [none, List.nil_append] at stands
    obtain ⟨next, answer, nothing⟩ := stands.silent declares allowed quiet
    refine ⟨answer, index, ?_⟩
    rw [nothing, List.append_nil]
    exact next
  case neg =>
    simp only [ne_eq, not_forall, not_not] at quiet
    obtain ⟨bytes, rfl⟩ := quiet
    have reads :
        ReceiverStands decl payload (bytes ++ later) accepted index controller :=
      stands
    obtain ⟨answer, next⟩ := reads.ingest declares allowed.1 allowed.2
    refine ⟨?_, next⟩
    change (controller.ingestRemoteBytes bytes).1 ≠ _
    simp [answer]

/-- The receiver of an undisturbed transfer takes the records out of its reads. -/
theorem run
    (declares : Declares decl payload)
    (controller : ContentTransferController)
    (calls : List ContentCall) :
    (∀ entry ∈ Logbook.log ContentTransferController.step
        (controller.reset .receiver) calls,
      ReceiverEntry decl entry) →
    ∀ rest,
      ingested (Logbook.log ContentTransferController.step
          (controller.reset .receiver) calls) ++ rest =
        romStream decl payload →
      (∀ entry ∈ Logbook.log ContentTransferController.step
          (controller.reset .receiver) calls,
        entry.answer ≠ .protocolViolation) ∧
        ∃ index,
          ReceiverStands decl payload rest
            (acceptedIn (Logbook.log ContentTransferController.step
              (controller.reset .receiver) calls))
            index
            (Logbook.after ContentTransferController.step
              (controller.reset .receiver) calls) := by
  refine Logbook.run_keeps ContentTransferController.step
    (fun log now =>
      (∀ entry ∈ log, ReceiverEntry decl entry) →
      ∀ rest,
        ingested log ++ rest = romStream decl payload →
        (∀ entry ∈ log, entry.answer ≠ .protocolViolation) ∧
          ∃ index,
            ReceiverStands decl payload rest (acceptedIn log) index now)
    ?_ ?_ calls
  · intro _ rest whole
    refine ⟨by simp, 0, rfl, Nat.zero_le _, ⟨rfl, Or.inl rfl⟩, whole,
      fun _ => romRecord_pos 0, rfl, fun claimed => ?_⟩
    simp [reset] at claimed
  · intro log now call kept allowed rest whole
    have earlier :
        ingested log ++ (takenBy call ++ rest) = romStream decl payload := by
      rw [← whole]
      simp [ingested, Logbook.entry]
    obtain ⟨answers, index, stands⟩ :=
      kept (fun entry member => allowed entry (List.mem_append_left _ member)) _
        earlier
    obtain ⟨answer, next, moved⟩ :=
      stands.step declares
        (allowed (Logbook.entry ContentTransferController.step now call) (by simp))
    refine ⟨fun entry member => ?_, next, by simpa [acceptedIn, Logbook.entry] using moved⟩
    rcases List.mem_append.1 member with old | new
    · exact answers entry old
    · obtain rfl := List.mem_singleton.1 new
      exact answer

end ReceiverStands

end Receiver

end FlyNes.Content
