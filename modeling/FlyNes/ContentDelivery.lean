import FlyNes.ContentReceiver

namespace FlyNes.Content

open ByteString FlyNes.Wire

/-!
# Delivering a ROM

The offerer and the receiver of an undisturbed transfer, over a stream that delivers
the bytes written in order.
-/

section Transfer

variable {decl : ContentOfferDecl} {payload : Bytes}

open ContentTransferController

variable {accepted : List (Nat × Bytes)} {index : Nat} {controller : ContentTransferController}

/-- After the last record the payload has arrived. -/
theorem ReceiverStands.arrived
    {rest : Bytes}
    (stands : ReceiverStands decl payload rest accepted index controller)
    (done : ¬ index ≤ chunkCount payload) :
    Arrived decl payload controller.scheduler ∧
      accepted = payloadChunks payload 0 (chunkCount payload) := by
  obtain rfl : index = chunkCount payload + 1 := by
    have bound := stands.bound
    omega
  have receiving := stands.phase.2
  rw [Receiving, if_neg (Nat.lt_irrefl _)] at receiving
  exact ⟨receiving, stands.accepted⟩

/-- When nothing is left of the stream the receiver has taken all of its records. -/
theorem ReceiverStands.done
    (stands : ReceiverStands decl payload [] accepted index controller) :
    ¬ index ≤ chunkCount payload := by
  intro inside
  have short := stands.short inside
  have remaining := stands.remaining
  rw [List.append_nil, recordsFrom_cons decl inside, List.flatten_cons]
    at remaining
  rw [remaining, List.length_append] at short
  omega

/-- What an offerer has written is the beginning of the stream. -/
theorem OffererStands.written_le
    {sent : Bytes}
    (stands : OffererStands decl payload sent controller) :
    sent <+: romStream decl payload := by
  cases queued : controller.framesQueued with
  | true => exact ⟨_, stands.queued queued⟩
  | false =>
      rw [(stands.waiting queued).1]
      exact List.nil_prefix

/--
In every undisturbed transfer over a stream that delivers bytes in order: the
offerer writes a part of the stream of its payload, and has a way to its end once
the stream is open and both consents are given; the receiver accepts the first
chunks of the payload, each once and at its offset; neither reports a violation;
and once everything has been written and read the payload waits for its import.
-/
theorem content_delivered
    (declares : Declares decl payload)
    (offerer receiver : ContentTransferController)
    (offererCalls receiverCalls : List ContentCall)
    (offering :
      ∀ entry ∈ Logbook.log step (offerer.reset .offerer) offererCalls,
        OffererEntry decl payload entry)
    (receiving :
      ∀ entry ∈ Logbook.log step (receiver.reset .receiver) receiverCalls,
        ReceiverEntry decl entry)
    (delivered :
      ingested (Logbook.log step (receiver.reset .receiver) receiverCalls) <+:
        written (Logbook.log step (offerer.reset .offerer) offererCalls)) :
    written (Logbook.log step (offerer.reset .offerer) offererCalls) <+:
        romStream decl payload ∧
      (∀ entry ∈ Logbook.log step (offerer.reset .offerer) offererCalls,
        entry.answer ≠ .protocolViolation) ∧
      (∀ entry ∈ Logbook.log step (receiver.reset .receiver) receiverCalls,
        entry.answer ≠ .protocolViolation) ∧
      ((Logbook.after step (offerer.reset .offerer) offererCalls).streamOpen =
          true →
        (Logbook.after step (offerer.reset .offerer)
            offererCalls).scheduler.mayOpenRomStream = true →
        ∃ more,
          (∀ entry ∈ Logbook.log step (offerer.reset .offerer)
              (offererCalls ++ more),
            OffererEntry decl payload entry) ∧
            Drained (Logbook.after step (offerer.reset .offerer)
              (offererCalls ++ more))) ∧
      (∃ count ≤ chunkCount payload,
        acceptedIn (Logbook.log step (receiver.reset .receiver) receiverCalls) =
          payloadChunks payload 0 count) ∧
      ((Logbook.after step (receiver.reset .receiver) receiverCalls).streamOpen =
          true →
        (Logbook.after step (receiver.reset .receiver)
            receiverCalls).scheduler.state ≠ .waitingImport →
        (Logbook.after step (receiver.reset .receiver) receiverCalls).wantRead =
          true) ∧
      (Drained (Logbook.after step (offerer.reset .offerer) offererCalls) →
        ingested (Logbook.log step (receiver.reset .receiver) receiverCalls) =
          written (Logbook.log step (offerer.reset .offerer) offererCalls) →
        (Logbook.after step (receiver.reset .receiver)
            receiverCalls).scheduler.state = .waitingImport ∧
          (Logbook.after step (receiver.reset .receiver)
              receiverCalls).scheduler.staging = payload ∧
          acceptedIn (Logbook.log step (receiver.reset .receiver) receiverCalls) =
            payloadChunks payload 0 (chunkCount payload)) := by
  obtain ⟨writes, offererAnswers⟩ :=
    OffererStands.run declares offerer offererCalls offering
  obtain ⟨rest, whole⟩ := delivered.trans writes.written_le
  obtain ⟨receiverAnswers, index, reads⟩ :=
    ReceiverStands.run declares receiver receiverCalls receiving rest whole
  refine ⟨writes.written_le, offererAnswers, receiverAnswers, ?_, ?_, ?_, ?_⟩
  · intro opened mayOpen
    obtain ⟨more, allowed, drained⟩ := writes.drains opened mayOpen
    refine ⟨more, fun entry member => ?_, by rwa [Logbook.after_append]⟩
    rw [Logbook.log_append] at member
    rcases List.mem_append.1 member with old | new
    · exact offering entry old
    · exact allowed entry new
  · refine ⟨index - 1, ?_, reads.accepted⟩
    have bound := reads.bound
    omega
  · intro opened unfinished
    refine reads.reading opened ?_
    by_contra done
    exact unfinished (reads.arrived done).1.state
  · intro drained all
    have wrote := writes.queued drained.1
    rw [drained.2, List.flatten_nil, List.append_nil] at wrote
    have nothing : rest = [] := by
      rw [all, wrote] at whole
      exact List.append_right_eq_self.1 whole
    subst nothing
    obtain ⟨arrived, accepted⟩ := reads.arrived reads.done
    exact ⟨arrived.state, arrived.staging, accepted⟩

instance
    (decl : ContentOfferDecl)
    (payload : Bytes) :
    (entry : ContentEntry) → Decidable (OffererEntry decl payload entry)
  | ⟨_, .offer _ _, _⟩ => inferInstanceAs (Decidable (_ ∧ _))
  | ⟨_, .onWriteComplete, _⟩ => inferInstanceAs (Decidable (_ = true))
  | ⟨_, .attachConnection _ _, _⟩ | ⟨_, .approveSend, _⟩
  | ⟨_, .approveReceive, _⟩ | ⟨_, .noteFriendSaved, _⟩ | ⟨_, .onClock _, _⟩
  | ⟨_, .pollEffect, _⟩ | ⟨_, .onStreamOpen _ _, _⟩ => .isTrue trivial
  | ⟨_, .acceptOffer _, _⟩ | ⟨_, .approveImport, _⟩ | ⟨_, .cancel, _⟩
  | ⟨_, .ingestRemoteBytes _, _⟩ | ⟨_, .scheduler _, _⟩ => .isFalse id

instance
    (decl : ContentOfferDecl) :
    (entry : ContentEntry) → Decidable (ReceiverEntry decl entry)
  | ⟨_, .acceptOffer _, _⟩ => inferInstanceAs (Decidable (_ = _))
  | ⟨_, .onClock _, _⟩ => inferInstanceAs (Decidable (_ = _))
  | ⟨_, .ingestRemoteBytes _, _⟩ => inferInstanceAs (Decidable (_ ∧ _))
  | ⟨_, .attachConnection _ _, _⟩ | ⟨_, .approveSend, _⟩
  | ⟨_, .approveReceive, _⟩ | ⟨_, .noteFriendSaved, _⟩ | ⟨_, .pollEffect, _⟩
  | ⟨_, .onStreamOpen _ _, _⟩ => .isTrue trivial
  | ⟨_, .offer _ _, _⟩ | ⟨_, .approveImport, _⟩ | ⟨_, .cancel, _⟩
  | ⟨_, .onWriteComplete, _⟩ | ⟨_, .scheduler _, _⟩ => .isFalse id

/-- An offerer sends the two bytes of the sample offer. -/
def sendingCalls : List ContentCall :=
  [.attachConnection 1 true, .offer ContentOfferScheduler.sampleDecl [7, 9],
    .approveReceive, .approveSend, .pollEffect, .onStreamOpen 2 3, .pollEffect,
    .onWriteComplete, .pollEffect, .onWriteComplete]

/-- A receiver reads the stream in two parts that cut through the declaration. -/
def splitReads : List ContentCall :=
  [.approveSend, .approveReceive, .onStreamOpen 4 5,
    .ingestRemoteBytes
      ((romStream ContentOfferScheduler.sampleDecl [7, 9]).take 50),
    .ingestRemoteBytes
      ((romStream ContentOfferScheduler.sampleDecl [7, 9]).drop 50)]

theorem sample_delivered :
    (Logbook.after step (reset {} .receiver) splitReads).scheduler.state =
        .waitingImport ∧
      (Logbook.after step (reset {} .receiver) splitReads).scheduler.staging =
        [7, 9] := by
  have declares : Declares ContentOfferScheduler.sampleDecl [7, 9] :=
    ⟨by decide, by decide, by decide, rfl, rfl⟩
  have all :
      ingested (Logbook.log step (reset {} .receiver) splitReads) =
        written (Logbook.log step (reset {} .offerer) sendingCalls) := by
    decide +kernel
  have delivered :=
    content_delivered declares {} {} sendingCalls splitReads
      (by decide +kernel) (by decide +kernel) (all ▸ List.prefix_refl _)
  have drained :
      Drained (Logbook.after step (reset {} .offerer) sendingCalls) :=
    ⟨by decide, by decide⟩
  obtain ⟨state, staging, _⟩ := delivered.2.2.2.2.2.2 drained all
  exact ⟨state, staging⟩

end Transfer

end FlyNes.Content
