import FlyNes.ContentTransfer

namespace FlyNes.Content

open ByteString FlyNes.Dual FlyNes.Wire

/-!
# The received ROM

The scheduler checks the hash of the staged bytes once, when the last of them has
arrived.  Whatever a peer sends, the bytes wait for their import as they were
checked, provided that no append rewrites them while they wait.
-/

/-! ## Calls of a controller and of its scheduler -/

inductive ContentCall where
  | attachConnection (connection : Nat) (localIsListener : Bool)
  | offer (decl : ContentOfferDecl) (payload : Bytes)
  | acceptOffer (decl : ContentOfferDecl)
  | approveSend
  | approveReceive
  | approveImport
  | cancel
  | noteFriendSaved
  | onClock (continuousNs : Nat)
  | pollEffect
  | onStreamOpen (send recv : Nat)
  | onWriteComplete
  | ingestRemoteBytes (bytes : Bytes)
  -- a call made on the scheduler itself
  | scheduler (call : OfferCall)
deriving DecidableEq

namespace ContentTransferController

def step
    (controller : ContentTransferController) :
    ContentCall → SessionResult × ContentTransferController
  | .attachConnection connection localIsListener =>
      (.ok, controller.attachConnection connection localIsListener)
  | .offer decl payload => controller.offer decl payload
  | .acceptOffer decl => controller.acceptOffer decl
  | .approveSend => controller.approveSend
  | .approveReceive => controller.approveReceive
  | .approveImport => controller.approveImport
  | .cancel => controller.cancel
  | .noteFriendSaved => controller.noteFriendSaved
  | .onClock continuousNs => controller.onClock continuousNs
  | .pollEffect => (.ok, controller.pollEffect.2)
  | .onStreamOpen send recv => controller.onStreamOpen send recv
  | .onWriteComplete => controller.onWriteComplete
  | .ingestRemoteBytes bytes => controller.ingestRemoteBytes bytes
  | .scheduler call => controller.delegate call

/-- The calls on the scheduler that a record asks for. -/
def recordCalls
    (controller : ContentTransferController)
    (type : UInt8)
    (body : Bytes) : List OfferCall :=
  match controller.recordCall type body with
  | .ok (some call) => [call]
  | _ => []

/-- The calls of the loop over the records on the scheduler. -/
def consumedCalls : Nat → ContentTransferController → List OfferCall
  | 0, _ => []
  | fuel + 1, controller =>
      match recordFront controller.readAccumulator with
      | .whole type body total =>
          let handled := controller.handleRecord type body total
          if handled.1 = .ok then
            controller.recordCalls type body ++ consumedCalls fuel handled.2
          else
            controller.recordCalls type body
      | _ => []

/-- The calls on the scheduler that a call of the controller makes. -/
def offerCalls (controller : ContentTransferController) :
    ContentCall → List OfferCall
  | .offer decl payload =>
      if payload.length ≠ decl.declaredLength then [] else [.offer decl]
  | .acceptOffer decl => [.acceptOffer decl]
  | .approveSend => [.approveSend]
  | .approveReceive => [.approveReceive]
  | .approveImport => [.approveImport]
  | .cancel => [.cancel]
  | .noteFriendSaved => [.noteFriendSaved]
  | .onClock continuousNs => [.onClock continuousNs]
  | .ingestRemoteBytes bytes =>
      consumedCalls (controller.readAccumulator ++ bytes).length
        { controller with
          readOutstanding := false
          wantRead := false
          readAccumulator := controller.readAccumulator ++ bytes }
  | .scheduler call => [call]
  | _ => []

/-- All calls on the scheduler that a run of the controller makes. -/
def runCalls : ContentTransferController → List ContentCall → List OfferCall
  | _, [] => []
  | controller, call :: rest =>
      controller.offerCalls call ++ runCalls (controller.step call).2 rest

end ContentTransferController

/-! ## Staged bytes -/

namespace ContentOfferScheduler

/-- Bytes that wait for their import are those that were declared. -/
def Verified (scheduler : ContentOfferScheduler) : Prop :=
  scheduler.state = .waitingImport →
  scheduler.staging.length = scheduler.decl.declaredLength ∧
    sha256 scheduler.staging = scheduler.decl.payloadSha256

/-- A call that moves from waiting to waiting leaves the staged bytes alone. -/
def StagingKept (earlier later : ContentOfferScheduler) : Prop :=
  earlier.state = .waitingImport →
  later.state = .waitingImport →
  later.staging = earlier.staging ∧ later.decl = earlier.decl

/-- An append that finds the bytes waiting writes what is staged already. -/
def WritesStaged (scheduler : ContentOfferScheduler) : OfferCall → Prop
  | .appendBytes offset data =>
      scheduler.state = .waitingImport →
      scheduler.mayOpenRomStream = true →
      scheduler.InRange offset data →
      (scheduler.staging.drop offset).take data.length = data
  | _ => True

instance (scheduler : ContentOfferScheduler) : Decidable scheduler.Verified :=
  inferInstanceAs (Decidable (_ → _ ∧ _))

instance
    (scheduler : ContentOfferScheduler) :
    (call : OfferCall) → Decidable (scheduler.WritesStaged call)
  | .appendBytes _ _ => inferInstanceAs (Decidable (_ → _ → _ → _))
  | .offer _ | .acceptOffer _ | .approveSend | .approveReceive | .approveImport
  | .cancel | .noteFriendSaved | .onClock _ | .noteDiskFull | .noteMultiPayload
  | .noteFormatInvalid => .isTrue trivial

section Staging

variable {scheduler : ContentOfferScheduler} {data : Bytes} {offset : Nat}

theorem overwrite_same_iff
    {target : Bytes} :
    overwrite target offset data = target ↔
      (target.drop offset).take data.length = data := by
  have split :
      target =
        target.take offset ++ (target.drop offset).take data.length ++
          target.drop (offset + data.length) := by
    rw [List.append_assoc, ← List.drop_drop, List.take_append_drop,
      List.take_append_drop]
  constructor
  · intro same
    rw [overwrite] at same
    have both := same.trans split
    rw [List.append_assoc, List.append_assoc] at both
    have tails := List.append_cancel_left both
    exact (List.append_cancel_right tails).symm
  · intro same
    rw [overwrite]
    conv_rhs => rw [split, same]

variable {call : OfferCall}

/-- Every call but an append keeps what waits, or leaves the waiting state. -/
theorem step_waiting
    (quiet : ∀ offset data, call ≠ .appendBytes offset data)
    (waiting : (scheduler.step call).2.state = .waitingImport) :
    scheduler.state = .waitingImport ∧
      (scheduler.step call).2.staging = scheduler.staging ∧
      (scheduler.step call).2.decl = scheduler.decl := by
  cases call with
  | appendBytes offset data => exact absurd rfl (quiet offset data)
  | acceptOffer decl =>
      simp only [step, acceptOffer, bindDecl, maybeEnterTransfer, fail,
        discardStaging] at waiting ⊢
      grind
  | offer decl =>
      simp only [step, offer, bindDecl, fail, discardStaging] at waiting ⊢
      grind
  | approveSend | approveReceive =>
      simp only [step, approveSend, approveReceive, approve, maybeEnterTransfer]
        at waiting ⊢
      grind
  | approveImport =>
      simp only [step, approveImport, discardStaging] at waiting ⊢
      grind
  | cancel =>
      simp only [step, cancel, discardStaging] at waiting ⊢
      grind
  | noteFriendSaved => exact ⟨waiting, rfl, rfl⟩
  | onClock continuousNs =>
      simp only [step, onClock, fail, discardStaging] at waiting ⊢
      grind
  | noteDiskFull | noteMultiPayload | noteFormatInvalid =>
      simp only [step, noteDiskFull, noteMultiPayload, noteFormatInvalid, note,
        fail, discardStaging] at waiting ⊢
      grind

/-- The check lets only bytes wait that have the declared hash. -/
theorem Verified.maybeFinishCheck
    (verified : scheduler.Verified)
    (sized : scheduler.staging.length = scheduler.decl.declaredLength) :
    scheduler.maybeFinishCheck.Verified := by
  unfold ContentOfferScheduler.maybeFinishCheck
  split
  case isTrue => exact verified
  case isFalse =>
    split
    case isTrue => exact verified
    case isFalse =>
      simp only
      split
      case isTrue => simp [Verified, fail, discardStaging]
      case isFalse same =>
        intro _
        refine ⟨sized, ?_⟩
        simpa [← sized] using same

/-- While bytes wait an append in range only overwrites them. -/
theorem appendBytes_waiting
    (opened : scheduler.mayOpenRomStream = true)
    (inRange : scheduler.InRange offset data)
    (waiting : scheduler.state = .waitingImport)
    (verified : scheduler.Verified) :
    (scheduler.appendBytes offset data).2 =
      { scheduler with
        staging := overwrite scheduler.staging offset data
        transferred := max scheduler.transferred (offset + data.length)
        stagingLive := true } := by
  have sized : scheduler.sizedStaging = scheduler.staging := by
    simp [sizedStaging, (verified waiting).1]
  rw [appendBytes_outside opened inRange (by simp [waiting]), sized]

theorem Verified.appendBytes
    (verified : scheduler.Verified)
    (staged : scheduler.WritesStaged (.appendBytes offset data)) :
    (scheduler.appendBytes offset data).2.Verified ∧
      StagingKept scheduler (scheduler.appendBytes offset data).2 := by
  by_cases opened : scheduler.mayOpenRomStream = true
  case neg =>
    simp only [ContentOfferScheduler.appendBytes, opened, Bool.not_false,
      ↓reduceIte]
    exact ⟨verified, fun _ _ => ⟨rfl, rfl⟩⟩
  case pos =>
    by_cases inRange : scheduler.InRange offset data
    case neg =>
      have failed : (scheduler.appendBytes offset data).2.state = .failed := by
        simp only [InRange, not_and_or, Nat.not_le] at inRange
        simp only [ContentOfferScheduler.appendBytes, opened, fail,
          discardStaging]
        grind
      exact ⟨fun waiting => by simp [failed] at waiting,
        fun _ waiting => by simp [failed] at waiting⟩
    case pos =>
      by_cases waiting : scheduler.state = .waitingImport
      case pos =>
        have same := overwrite_same_iff.2 (staged waiting opened inRange)
        rw [appendBytes_waiting opened inRange waiting verified, same]
        exact ⟨verified, fun _ _ => ⟨rfl, rfl⟩⟩
      case neg =>
        refine ⟨?_, fun claimed => absurd claimed waiting⟩
        have length := length_sizedStaging scheduler
        have written :
            Verified
              (ContentOfferScheduler.maybeFinishCheck
                { scheduler with
                  staging := overwrite scheduler.sizedStaging offset data
                  transferred := max scheduler.transferred (offset + data.length)
                  stagingLive := true }) :=
          Verified.maybeFinishCheck (fun claimed => absurd claimed waiting)
            (by rw [length_overwrite (by rw [length]; exact inRange.2), length])
        simp only [ContentOfferScheduler.appendBytes, opened,
          Nat.not_lt.2 inRange.1, Nat.not_lt.2 inRange.2]
        simp only [Bool.not_true, Bool.false_eq_true, ↓reduceIte]
        split <;> exact written

/-- A call that writes only what is staged keeps the bytes as they were checked. -/
theorem Verified.step
    (verified : scheduler.Verified)
    (staged : scheduler.WritesStaged call) :
    (scheduler.step call).2.Verified ∧
      StagingKept scheduler (scheduler.step call).2 := by
  by_cases quiet : ∀ offset data, call ≠ .appendBytes offset data
  case pos =>
    refine ⟨fun waiting => ?_, fun _ waiting => (step_waiting quiet waiting).2⟩
    obtain ⟨before, staging, decl⟩ := step_waiting quiet waiting
    rw [staging, decl]
    exact verified before
  case neg =>
    simp only [ne_eq, not_forall, not_not] at quiet
    obtain ⟨offset, data, rfl⟩ := quiet
    exact verified.appendBytes staged

/-- Exactly the calls that write what is staged keep the waiting bytes. -/
theorem stagingKept_step_iff
    (verified : scheduler.Verified) :
    StagingKept scheduler (scheduler.step call).2 ↔
      scheduler.WritesStaged call := by
  refine ⟨fun kept => ?_, fun staged => (verified.step staged).2⟩
  cases call with
  | appendBytes offset data =>
      intro waiting opened inRange
      have written := appendBytes_waiting opened inRange waiting verified
      rw [ContentOfferScheduler.step, written] at kept
      exact overwrite_same_iff.1 (kept waiting waiting).1
  | _ => trivial

/-- An offer of two bytes that waits for its import. -/
def waitingOffer (role : ContentOfferRole) : ContentOfferScheduler where
  role := role
  state := .waitingImport
  decl := sampleDecl
  sendOk := true
  receiveOk := true
  stagingLive := true
  transferred := 2
  staging := [7, 9]

/-- Writing the same byte is harmless, another one replaces what was checked, in either
role. -/
theorem sample_staging_kept :
    StagingKept (waitingOffer .receiver)
        ((waitingOffer .receiver).step (.appendBytes 1 [9])).2 ∧
      ¬ StagingKept (waitingOffer .receiver)
        ((waitingOffer .receiver).step (.appendBytes 0 [8])).2 ∧
      ¬ StagingKept (waitingOffer .offerer)
        ((waitingOffer .offerer).step (.appendBytes 0 [8])).2 := by
  have rule (role : ContentOfferRole) (call : OfferCall) :=
    @stagingKept_step_iff (waitingOffer role) call fun _ => ⟨rfl, rfl⟩
  refine ⟨(rule _ _).2 (by decide), ?_, ?_⟩
  · exact fun kept => absurd ((rule _ _).1 kept) (by decide)
  · exact fun kept => absurd ((rule _ _).1 kept) (by decide)

end Staging

end ContentOfferScheduler

/-! ## The scheduler of a controller -/

namespace ContentTransferController

theorem handleRecord_scheduler
    (controller : ContentTransferController)
    (type : UInt8)
    (body : Bytes)
    (total : Nat) :
    (controller.handleRecord type body total).2.scheduler =
      Logbook.after ContentOfferScheduler.step controller.scheduler
        (controller.recordCalls type body) := by
  unfold handleRecord recordCalls
  cases controller.recordCall type body with
  | error refused => rfl
  | ok asked =>
      cases asked with
      | none => rfl
      | some call =>
          simp only
          split <;> rfl

/-- The loop over the records moves the scheduler only by the calls it makes. -/
theorem consumeLoop_scheduler
    (fuel : Nat)
    (controller : ContentTransferController) :
    (consumeLoop fuel controller).2.scheduler =
      Logbook.after ContentOfferScheduler.step controller.scheduler
        (consumedCalls fuel controller) := by
  induction fuel generalizing controller with
  | zero => rfl
  | succ fuel inductionHypothesis =>
      rw [consumeLoop, consumedCalls]
      cases recordFront controller.readAccumulator with
      | incomplete => rfl
      | violation => rfl
      | whole type body total =>
          have handled := handleRecord_scheduler controller type body total
          simp only
          split
          case isTrue =>
            rw [inductionHypothesis, Logbook.after_append, ← handled]
          case isFalse => exact handled

/-- Every call of the controller moves its scheduler by the calls it makes. -/
theorem step_scheduler
    (controller : ContentTransferController)
    (call : ContentCall) :
    (controller.step call).2.scheduler =
      Logbook.after ContentOfferScheduler.step controller.scheduler
        (controller.offerCalls call) := by
  cases call with
  | offer decl payload =>
      simp only [step, offer, offerCalls, delegate]
      grind [Logbook.after]
  | approveSend | approveReceive =>
      simp only [step, approveSend, approveReceive, consent, delegate, offerCalls]
      grind [Logbook.after]
  | pollEffect =>
      simp only [step, pollEffect, queuePayloadFrames, offerCalls]
      grind [Logbook.after]
  | onStreamOpen send recv =>
      simp only [step, onStreamOpen, offerCalls]
      grind [Logbook.after]
  | ingestRemoteBytes bytes =>
      simp only [step, ingestRemoteBytes, offerCalls]
      have consumed :=
        consumeLoop_scheduler (controller.readAccumulator ++ bytes).length
          { controller with
            readOutstanding := false
            wantRead := false
            readAccumulator := controller.readAccumulator ++ bytes }
      split
      case isTrue => exact consumed
      case isFalse =>
        split <;> exact consumed
  | _ => rfl

/-- A run of the controller is a run of its scheduler. -/
theorem after_scheduler
    (controller : ContentTransferController)
    (calls : List ContentCall) :
    (Logbook.after step controller calls).scheduler =
      Logbook.after ContentOfferScheduler.step controller.scheduler
        (controller.runCalls calls) := by
  induction calls generalizing controller with
  | nil => rfl
  | cons call rest inductionHypothesis =>
      change (Logbook.after step (controller.step call).2 rest).scheduler = _
      rw [inductionHypothesis, runCalls, Logbook.after_append, step_scheduler]

end ContentTransferController

/-! ## The received bytes over a whole run -/

namespace ContentOfferScheduler

/-- The bytes that wait are those checked, and no call has changed them. -/
theorem verified_run
    (role : ContentOfferRole)
    (calls : List OfferCall) :
    (∀ entry ∈ Logbook.log step (reset role) calls,
      entry.before.WritesStaged entry.call) →
    Verified (Logbook.after step (reset role) calls) ∧
      ∀ entry ∈ Logbook.log step (reset role) calls,
        entry.before.Verified ∧
          StagingKept entry.before (entry.before.step entry.call).2 := by
  refine Logbook.run_keeps step
    (fun log scheduler =>
      (∀ entry ∈ log, entry.before.WritesStaged entry.call) →
      Verified scheduler ∧
        ∀ entry ∈ log,
          entry.before.Verified ∧
            StagingKept entry.before (entry.before.step entry.call).2)
    (fun _ => ⟨fun waiting => by simp [reset] at waiting, by simp⟩) ?_ calls
  intro log scheduler call kept staged
  obtain ⟨verified, before⟩ := kept fun entry member =>
    staged entry (List.mem_append_left _ member)
  have next :=
    verified.step (staged (Logbook.entry step scheduler call) (by simp))
  refine ⟨next.1, fun entry member => ?_⟩
  rcases List.mem_append.1 member with old | new
  · exact before entry old
  · obtain rfl := List.mem_singleton.1 new
    exact ⟨verified, next.2⟩

end ContentOfferScheduler

namespace ContentTransferController

/--
Whatever calls are made on a receiver, as long as every append that finds bytes
waiting for their import writes what is staged already: the bytes that wait have
the declared length and hash, also in the state in which the import is approved,
and no call changes them while they wait.
-/
theorem received_rom_intact
    (controller : ContentTransferController)
    (calls : List ContentCall)
    (staged :
      ∀ entry ∈ Logbook.log ContentOfferScheduler.step
          (ContentOfferScheduler.reset .receiver)
          ((controller.reset .receiver).runCalls calls),
        entry.before.WritesStaged entry.call) :
    (Logbook.after step (controller.reset .receiver) calls).scheduler.Verified ∧
      ∀ entry ∈ Logbook.log ContentOfferScheduler.step
          (ContentOfferScheduler.reset .receiver)
          ((controller.reset .receiver).runCalls calls),
        entry.before.Verified ∧
          ContentOfferScheduler.StagingKept entry.before
            (entry.before.step entry.call).2 := by
  rw [after_scheduler]
  exact ContentOfferScheduler.verified_run .receiver _ staged

/-- The chunk record of two bytes of the sample offer. -/
def sampleChunk (data : Bytes) : Bytes :=
  wrapRecord kContentChunkType (contentChunkBody
    ContentOfferScheduler.sampleDecl.offerId 0 data)

/-- A receiver reads the sample offer and its only chunk. -/
def receivingCalls : List ContentCall :=
  [.approveSend, .approveReceive,
    .ingestRemoteBytes (encodeContentOffer ContentOfferScheduler.sampleDecl),
    .ingestRemoteBytes (sampleChunk [7, 9])]

theorem sample_rom_intact :
    (Logbook.after step (reset {} .receiver) receivingCalls).scheduler.staging =
        [7, 9] ∧
      (Logbook.after step (reset {} .receiver) receivingCalls).scheduler.Verified :=
  ⟨by decide +kernel,
    (received_rom_intact {} receivingCalls (by decide +kernel)).1⟩

/-- A chunk that arrives after the check replaces a byte that was checked. -/
theorem late_chunk_rewrites :
    ¬ (Logbook.after step (reset {} .receiver)
        (receivingCalls ++ [.ingestRemoteBytes (sampleChunk [8])])).scheduler.Verified := by
  decide +kernel

end ContentTransferController

end FlyNes.Content
