import Mathlib.Data.Fintype.Pigeonhole
import FlyNes.DualWindow

namespace FlyNes.Dual

/-!
# Safety of the dual input window

The ring never checks what it overwrites.  The prediction depth keeps the step
frontier at most ten frames ahead of the commit frontier, the guest lead keeps
deliveries at most four frames ahead of the step frontier, and so all frames
that still matter lie within fifteen of each other and never share a slot.
-/

/-- A sample the window has taken in. -/
structure Acceptance where
  frame : UInt64
  port : Port
  key : DualInputKey
  owner : KeyId
  sample : DualPortSample
deriving DecidableEq

/-- The acceptance of one port of a bundle. -/
def Acceptance.ofBundle
    (bundle : DualInputBundle)
    (port : Port) : Acceptance :=
  { frame := bundle.key.frameIndex
    port := port
    key := bundle.key
    owner := bundle.ownerSigningKeyId
    sample := bundle.ports port }

/-- The record still has the accepted sample, unchanged. -/
def FrameRecord.Keeps
    (record : FrameRecord)
    (acceptance : Acceptance) : Prop :=
  record.frameIndex = acceptance.frame ∧
    record.provided acceptance.port = true ∧
    record.keys acceptance.port = acceptance.key ∧
    record.ownerKeys acceptance.port = acceptance.owner ∧
    record.masks acceptance.port = acceptance.sample.mask ∧
    record.sequences acceptance.port = acceptance.sample.inputSequence

/-- Frames less than a ring apart have slots of their own. -/
theorem slotOf_injective_near
    {first second : UInt64}
    (sameSlot : slotOf first = slotOf second)
    (firstNear : first.toNat < second.toNat + 20)
    (secondNear : second.toNat < first.toNat + 20) :
    first = second := by
  have sameRemainder : first.toNat % 20 = second.toNat % 20 :=
    Fin.mk.inj_iff.mp sameSlot
  apply UInt64.toNat_inj.mp
  omega

namespace PortSet

theorem add_true
    (ports : PortSet)
    (added port : Port) :
    ports.add added port = true ↔ port = added ∨ ports port = true := by
  unfold add
  by_cases same : port = added
  · subst same
    simp
  · simp [same]

end PortSet

namespace DualInputWindow

variable {window : DualInputWindow} {frame : UInt64}

theorem findRecord_eq_some
    {record : FrameRecord} :
    window.findRecord frame = some record ↔
      window.ring (slotOf frame) = record ∧
        record.used = true ∧ record.frameIndex = frame := by
  simp only [findRecord]
  constructor
  · intro found
    split at found
    · cases found
    next live =>
      cases found
      simp only [Bool.or_eq_true, decide_eq_true_eq, not_or] at live
      refine ⟨rfl, ?_, ?_⟩
      · simpa using live.1
      · simpa using live.2
  · rintro ⟨rfl, used, sameFrame⟩
    simp [used, sameFrame]

variable {record : FrameRecord}

theorem findRecord_frameIndex
    (found : window.findRecord frame = some record) :
    record.frameIndex = frame :=
  (findRecord_eq_some.mp found).2.2

/-- The record a frame gets is its own, or a fresh one. -/
theorem ensureRecord_cases
    (window : DualInputWindow)
    (frame : UInt64) :
    window.findRecord frame = some (window.ensureRecord frame) ∨
      (window.findRecord frame = none ∧
        window.ensureRecord frame =
          { used := true, frameIndex := frame }) := by
  unfold ensureRecord
  cases window.findRecord frame with
  | none => exact Or.inr ⟨rfl, rfl⟩
  | some record => exact Or.inl rfl

@[simp]
theorem ensureRecord_used
    (window : DualInputWindow)
    (frame : UInt64) :
    (window.ensureRecord frame).used = true := by
  obtain found | ⟨_, fresh⟩ := window.ensureRecord_cases frame
  · exact (findRecord_eq_some.mp found).2.1
  · rw [fresh]

@[simp]
theorem ensureRecord_frameIndex
    (window : DualInputWindow)
    (frame : UInt64) :
    (window.ensureRecord frame).frameIndex = frame := by
  obtain found | ⟨_, fresh⟩ := window.ensureRecord_cases frame
  · exact findRecord_frameIndex found
  · rw [fresh]

@[simp]
theorem store_ring_same
    (record : FrameRecord) :
    (window.store record).ring (slotOf record.frameIndex) = record := by
  simp [store]

theorem store_ring_other
    {slot : Fin kRingSlots}
    (other : slot ≠ slotOf record.frameIndex) :
    (window.store record).ring slot = window.ring slot := by
  simp [store, other]

theorem store_findRecord_same
    (used : record.used = true) :
    (window.store record).findRecord record.frameIndex = some record := by
  rw [findRecord_eq_some]
  exact ⟨store_ring_same record, used, rfl⟩

/-- What holds of the new record and of all others holds of every slot. -/
theorem store_forall
    (Holds : Fin kRingSlots → FrameRecord → Prop)
    (new : Holds (slotOf record.frameIndex) record)
    (old : ∀ slot, Holds slot (window.ring slot))
    (slot : Fin kRingSlots) :
    Holds slot ((window.store record).ring slot) := by
  by_cases same : slot = slotOf record.frameIndex
  · subst same
    rw [store_ring_same]
    exact new
  · rw [store_ring_other same]
    exact old slot

/-! ### The commit loop -/

theorem commitRecord_findRecord
    (record : FrameRecord)
    (frame : UInt64) :
    (commitRecord record window).findRecord frame = window.findRecord frame :=
  rfl

/-- The commit frontier may pass over one more frame. -/
def Ready (window : DualInputWindow) : Prop :=
  ∃ record,
    window.findRecord window.commitFrontier = some record ∧
      window.Committable record

/-- A loop that is still ready has passed over as many frames as it had fuel. -/
theorem advanceLoop_ready
    (fuel : Nat)
    (window : DualInputWindow)
    (ready : (advanceLoop fuel window).Ready) :
    ∀ index ≤ fuel,
      ∃ record,
        window.findRecord (window.commitFrontier + UInt64.ofNat index) =
          some record := by
  induction fuel generalizing window with
  | zero =>
      intro index bound
      obtain ⟨record, found, _⟩ := ready
      have first : index = 0 := by omega
      subst first
      exact ⟨record, by simpa [advanceLoop] using found⟩
  | succ fuel inductionHypothesis =>
      intro index bound
      unfold advanceLoop at ready
      cases found : window.findRecord window.commitFrontier with
      | none =>
          simp only [found] at ready
          obtain ⟨record, foundAgain, _⟩ := ready
          rw [found] at foundAgain
          cases foundAgain
      | some record =>
          simp only [found] at ready
          split at ready
          next committable =>
            cases index with
            | zero => exact ⟨record, by simpa using found⟩
            | succ index =>
                obtain ⟨later, foundLater⟩ :=
                  inductionHypothesis _ ready index (by omega)
                refine ⟨later, ?_⟩
                rw [commitRecord_findRecord] at foundLater
                rw [← foundLater]
                congr 1
                simp only [commitRecord]
                apply UInt64.toNat_inj.mp
                simp [UInt64.toNat_add]
                omega
          next blocked =>
            obtain ⟨other, foundOther, committable⟩ := ready
            rw [found] at foundOther
            cases foundOther
            exact absurd committable blocked

/-- Twenty rounds are enough: the ring has no record of a further frame. -/
theorem advanceCommitFrontier_settled
    (window : DualInputWindow) :
    ¬ window.advanceCommitFrontier.Ready := by
  intro ready
  have records := advanceLoop_ready kRingSlots window ready
  let slotAt : Fin (kRingSlots + 1) → Fin kRingSlots := fun index =>
    slotOf (window.commitFrontier + UInt64.ofNat index)
  obtain ⟨first, second, different, sameSlot⟩ :=
    Fintype.exists_ne_map_eq_of_card_lt slotAt (by simp)
  obtain ⟨firstRecord, foundFirst⟩ := records first (by omega)
  obtain ⟨secondRecord, foundSecond⟩ := records second (by omega)
  obtain ⟨firstSlot, _, firstFrame⟩ := findRecord_eq_some.mp foundFirst
  obtain ⟨secondSlot, _, secondFrame⟩ := findRecord_eq_some.mp foundSecond
  have sameRecord : firstRecord = secondRecord := by
    rw [← firstSlot, ← secondSlot]
    exact congrArg window.ring sameSlot
  have sameFrame := firstFrame.symm.trans (sameRecord ▸ secondFrame)
  have sameNat := congrArg UInt64.toNat sameFrame
  simp only [UInt64.toNat_add, UInt64.toNat_ofNat'] at sameNat
  have firstBound : first.val < 21 := first.isLt
  have secondBound : second.val < 21 := second.isLt
  apply different
  apply Fin.ext
  omega

/-- What a commit keeps, the whole loop keeps. -/
theorem advanceLoop_induction
    (Holds : DualInputWindow → Prop)
    (commits : ∀ window record,
      Holds window →
        window.findRecord window.commitFrontier = some record →
          window.Committable record → Holds (commitRecord record window))
    (fuel : Nat)
    (window : DualInputWindow)
    (holds : Holds window) :
    Holds (advanceLoop fuel window) := by
  induction fuel generalizing window with
  | zero => exact holds
  | succ fuel inductionHypothesis =>
      unfold advanceLoop
      cases found : window.findRecord window.commitFrontier with
      | none => exact holds
      | some record =>
          simp only
          split
          next committable =>
            exact inductionHypothesis _ (commits window record holds found committable)
          next => exact holds

/-- The commit loop leaves the owners alone. -/
theorem advanceCommitFrontier_ownedPortMask
    (window : DualInputWindow) :
    window.advanceCommitFrontier.ownedPortMask = window.ownedPortMask :=
  advanceLoop_induction
    (fun later => later.ownedPortMask = window.ownedPortMask)
    (fun _ _ same _ _ => same) kRingSlots window rfl

/-! ### The invariant -/

/--
What holds of every window in use: `accepted` are the samples it has ever taken
in and `planned` the frames it was told were executed.
-/
structure Sound
    (accepted : List Acceptance)
    (planned : List UInt64)
    (window : DualInputWindow) : Prop where
  behind : window.commitFrontier.toNat ≤ window.stepFrontier.toNat
  depth : window.stepFrontier.toNat ≤ window.commitFrontier.toNat + 10
  home : ∀ slot, (window.ring slot).used = true →
    slotOf (window.ring slot).frameIndex = slot
  reach : ∀ slot, (window.ring slot).used = true →
    (window.ring slot).frameIndex.toNat ≤ window.stepFrontier.toNat + 4
  executed : ∀ slot, (window.ring slot).used = true →
    (window.ring slot).planned = true →
      (window.ring slot).frameIndex.toNat < window.stepFrontier.toNat ∧
        (window.ring slot).frameIndex ∈ planned
  real : ∀ slot, (window.ring slot).realPortMask = (window.ring slot).provided
  sampled : ∀ slot port, (window.ring slot).used = true →
    (window.ring slot).provided port = true →
      ∃ acceptance ∈ accepted,
        acceptance.port = port ∧ (window.ring slot).Keeps acceptance
  kept : ∀ acceptance ∈ accepted,
    window.commitFrontier ≤ acceptance.frame →
      ∃ record,
        window.findRecord acceptance.frame = some record ∧
          record.Keeps acceptance
  unique : ∀ first ∈ accepted, ∀ second ∈ accepted,
    first.frame = second.frame → first.port = second.port → first = second
  history : ∀ frame < window.commitFrontier,
    frame ∈ planned ∧
      ∀ port, window.ownedPortMask port = true →
        ∃ acceptance ∈ accepted,
          acceptance.frame = frame ∧ acceptance.port = port

namespace Sound

variable {accepted : List Acceptance}
variable {planned : List UInt64}

/-- A frame that shares its slot with a live frame is below the watermark. -/
theorem evicted_below
    (sound : window.Sound accepted planned)
    {frame : UInt64}
    (fromFrontier : window.commitFrontier ≤ frame)
    (withinLead : frame.toNat ≤ window.stepFrontier.toNat + 4)
    (used : (window.ring (slotOf frame)).used = true)
    (other : (window.ring (slotOf frame)).frameIndex ≠ frame) :
    (window.ring (slotOf frame)).frameIndex < window.commitFrontier := by
  have reach := sound.reach _ used
  have depth := sound.depth
  have sameSlot := sound.home _ used
  by_contra live
  simp only [UInt64.not_lt, UInt64.le_iff_toNat_le] at live fromFrontier
  apply other
  apply slotOf_injective_near sameSlot <;> omega

variable {record : FrameRecord}

/-- Passing over a frame keeps the invariant. -/
theorem commit
    (sound : window.Sound accepted planned)
    (found : window.findRecord window.commitFrontier = some record)
    (committable : window.Committable record) :
    (commitRecord record window).Sound accepted planned := by
  obtain ⟨inSlot, used, sameFrame⟩ := findRecord_eq_some.mp found
  obtain ⟨isPlanned, allReal⟩ := committable
  subst inSlot
  obtain ⟨below, isExecuted⟩ := sound.executed _ used isPlanned
  rw [sameFrame] at below isExecuted
  have advanced :
      (commitRecord (window.ring (slotOf window.commitFrontier)) window).commitFrontier.toNat =
        window.commitFrontier.toNat + 1 := by
    have wide := window.stepFrontier.toNat_lt
    simp only [commitRecord, UInt64.toNat_add, UInt64.toNat_one]
    omega
  refine
    { behind := ?_
      depth := ?_
      home := sound.home
      reach := sound.reach
      executed := sound.executed
      real := sound.real
      sampled := sound.sampled
      kept := ?_
      unique := sound.unique
      history := ?_ }
  · rw [advanced]
    exact below
  · rw [advanced]
    have depth := sound.depth
    simp only [commitRecord]
    omega
  · intro acceptance member fromFrontier
    apply sound.kept acceptance member
    rw [UInt64.le_iff_toNat_le, advanced] at fromFrontier
    rw [UInt64.le_iff_toNat_le]
    omega
  · intro frame passed
    by_cases isNew : frame = window.commitFrontier
    · subst isNew
      refine ⟨isExecuted, ?_⟩
      intro port ownedPort
      have provided := allReal port ownedPort
      rw [sound.real] at provided
      obtain ⟨acceptance, member, samePort, keeps⟩ :=
        sound.sampled _ port used provided
      exact ⟨acceptance, member, keeps.1.symm.trans sameFrame, samePort⟩
    · apply sound.history
      rw [UInt64.lt_iff_toNat_lt, advanced] at passed
      rw [UInt64.lt_iff_toNat_lt]
      have different : frame.toNat ≠ window.commitFrontier.toNat :=
        fun same => isNew (UInt64.toNat_inj.mp same)
      omega

/-- Moving the commit frontier as far as it goes keeps the invariant. -/
theorem advance
    (sound : window.Sound accepted planned) :
    window.advanceCommitFrontier.Sound accepted planned :=
  advanceLoop_induction (Sound accepted planned)
    (fun _ _ holds found committable => holds.commit found committable)
    kRingSlots window sound

/-- The invariant is about the ring, the ports and the frontiers only. -/
theorem transfer
    (sound : window.Sound accepted planned)
    {other : DualInputWindow}
    (ring : other.ring = window.ring)
    (ports : other.ownedPortMask = window.ownedPortMask)
    (step : other.stepFrontier = window.stepFrontier)
    (commit : other.commitFrontier = window.commitFrontier) :
    other.Sound accepted planned := by
  have sameRecord : ∀ frame, other.findRecord frame = window.findRecord frame := by
    intro frame
    simp only [findRecord, ring]
  constructor
  · rw [commit, step]
    exact sound.behind
  · rw [commit, step]
    exact sound.depth
  · rw [ring]
    exact sound.home
  · rw [ring, step]
    exact sound.reach
  · rw [ring, step]
    exact sound.executed
  · rw [ring]
    exact sound.real
  · rw [ring]
    exact sound.sampled
  · intro acceptance member fromFrontier
    rw [commit] at fromFrontier
    rw [sameRecord]
    exact sound.kept acceptance member fromFrontier
  · exact sound.unique
  · rw [commit, ports]
    exact sound.history

/--
Writing the record of a frame keeps the invariant when the slot was free for it
and the record agrees with the samples of its frame.
-/
theorem store
    (sound : window.Sound accepted planned)
    {grown : List Acceptance}
    (used : record.used = true)
    (evicts : (window.ring (slotOf record.frameIndex)).used = true →
      (window.ring (slotOf record.frameIndex)).frameIndex ≠ record.frameIndex →
        (window.ring (slotOf record.frameIndex)).frameIndex < window.commitFrontier)
    (reach : record.frameIndex.toNat ≤ window.stepFrontier.toNat + 4)
    (executed : record.planned = true →
      record.frameIndex.toNat < window.stepFrontier.toNat ∧
        record.frameIndex ∈ planned)
    (real : record.realPortMask = record.provided)
    (sampled : ∀ port, record.provided port = true →
      ∃ acceptance ∈ grown,
        acceptance.port = port ∧ record.Keeps acceptance)
    (grows : ∀ acceptance ∈ accepted, acceptance ∈ grown)
    (others : ∀ acceptance ∈ grown,
      acceptance.frame ≠ record.frameIndex → acceptance ∈ accepted)
    (kept : ∀ acceptance ∈ grown,
      window.commitFrontier ≤ acceptance.frame →
        acceptance.frame = record.frameIndex → record.Keeps acceptance)
    (unique : ∀ first ∈ grown, ∀ second ∈ grown,
      first.frame = second.frame → first.port = second.port → first = second) :
    (window.store record).Sound grown planned := by
  refine
    { behind := sound.behind
      depth := sound.depth
      home := ?_
      reach := ?_
      executed := ?_
      real := ?_
      sampled := ?_
      kept := ?_
      unique := unique
      history := ?_ }
  · exact store_forall
      (fun slot record => record.used = true → slotOf record.frameIndex = slot)
      (fun _ => rfl) sound.home
  · exact store_forall
      (fun _ record => record.used = true →
        record.frameIndex.toNat ≤ window.stepFrontier.toNat + 4)
      (fun _ => reach) sound.reach
  · exact store_forall
      (fun _ record => record.used = true → record.planned = true →
        record.frameIndex.toNat < window.stepFrontier.toNat ∧
          record.frameIndex ∈ planned)
      (fun _ => executed) sound.executed
  · exact store_forall
      (fun _ record => record.realPortMask = record.provided) real sound.real
  · apply store_forall
      (fun _ record => ∀ port, record.used = true →
        record.provided port = true →
          ∃ acceptance ∈ grown,
            acceptance.port = port ∧ record.Keeps acceptance)
    · intro port _ provided
      exact sampled port provided
    · intro slot port slotUsed provided
      obtain ⟨acceptance, member, rest⟩ := sound.sampled slot port slotUsed provided
      exact ⟨acceptance, grows acceptance member, rest⟩
  · intro acceptance member fromFrontier
    by_cases same : acceptance.frame = record.frameIndex
    · refine ⟨record, ?_, kept acceptance member fromFrontier same⟩
      rw [same]
      exact store_findRecord_same used
    · obtain ⟨old, found, keeps⟩ :=
        sound.kept acceptance (others acceptance member same) fromFrontier
      obtain ⟨inSlot, oldUsed, oldFrame⟩ := findRecord_eq_some.mp found
      refine ⟨old, ?_, keeps⟩
      -- a live record of another frame is in another slot
      have otherSlot : slotOf acceptance.frame ≠ slotOf record.frameIndex := by
        intro sameSlot
        rw [sameSlot] at inSlot
        have below := evicts (by rw [inSlot]; exact oldUsed)
          (by rw [inSlot, oldFrame]; exact same)
        rw [inSlot, oldFrame] at below
        exact absurd below (UInt64.not_lt.mpr fromFrontier)
      rw [findRecord_eq_some, store_ring_other otherSlot]
      exact ⟨inSlot, oldUsed, oldFrame⟩
  · intro frame passed
    obtain ⟨isPlanned, samples⟩ := sound.history frame passed
    refine ⟨isPlanned, ?_⟩
    intro port ownedPort
    obtain ⟨acceptance, member, rest⟩ := samples port ownedPort
    exact ⟨acceptance, grows acceptance member, rest⟩

end Sound

/-! ### Deliveries -/

/-- The window with one more sample. -/
def take
    (bundle : DualInputBundle)
    (port : Port)
    (window : DualInputWindow) : DualInputWindow :=
  { window.store
      (provide bundle port (window.ensureRecord bundle.key.frameIndex)) with
    minAcceptRevision :=
      if bundle.key.seatRevision > window.minAcceptRevision then
        bundle.key.seatRevision
      else
        window.minAcceptRevision }

/-- The window has room for a sample of this frame and port. -/
structure HasRoom
    (frame : UInt64)
    (port : Port)
    (window : DualInputWindow) : Prop where
  fromFrontier : window.commitFrontier ≤ frame
  withinLead : frame ≤ window.stepFrontier + kDualGuestLeadFrames
  missing : ∀ record, window.findRecord frame = some record →
    record.provided port = false

theorem admit_cases
    (bundle : DualInputBundle)
    (port : Port)
    (window : DualInputWindow) :
    ((window.admitSample bundle port).1 ≠ .accepted ∧
        (window.admitSample bundle port).2 = window) ∨
      (window.HasRoom bundle.key.frameIndex port ∧
        window.admitSample bundle port =
          (.accepted, (window.take bundle port).advanceCommitFrontier)) := by
  simp only [admitSample]
  split
  · split <;> exact Or.inl ⟨by simp, rfl⟩
  next notProvided =>
    split
    · exact Or.inl ⟨by simp, rfl⟩
    next fromFrontier =>
      split
      · exact Or.inl ⟨by simp, rfl⟩
      next withinLead =>
        refine Or.inr ⟨⟨?_, ?_, ?_⟩, rfl⟩
        · exact UInt64.not_lt.mp fromFrontier
        · exact UInt64.not_lt.mp withinLead
        · intro record found
          simpa [found] using notProvided

/-- The window takes this bundle as the sample of this port. -/
structure Admits
    (bundle : DualInputBundle)
    (port : Port)
    (window : DualInputWindow) : Prop where
  bound : window.bound = true
  canonical : canonicalInputIsCanonical bundle = true
  session : bundle.key.sessionId = window.context.sessionId
  branch : bundle.key.branchId = window.context.branchId
  timeline : bundle.key.timelineEpoch = window.context.timelineEpoch
  revision : window.minAcceptRevision ≤ bundle.key.seatRevision
  seat : window.ownedSeat bundle.logicalSeat = some port
  inPlay : allZero (window.owners port).signingKeyId = false
  signed : (window.owners port).signingKeyId = bundle.ownerSigningKeyId

/-- A bundle that is not refused for its sender goes on to its slot. -/
theorem deliverInput_of_admits
    {bundle : DualInputBundle}
    {port : Port}
    (admits : window.Admits bundle port) :
    window.deliverInput bundle = window.admitSample bundle port := by
  have inPlay := admits.inPlay
  rw [admits.signed] at inPlay
  unfold deliverInput
  simp [admits.bound, admits.canonical, admits.session, admits.branch,
    admits.timeline, admits.seat, inPlay, admits.signed,
    UInt64.not_lt.mpr admits.revision]

/-- Everything a delivery can do. -/
theorem deliverInput_cases
    (bundle : DualInputBundle)
    (window : DualInputWindow) :
    ((window.deliverInput bundle).1 ≠ .accepted ∧
        (window.deliverInput bundle).2 = window) ∨
      ∃ port,
        window.Admits bundle port ∧
          window.HasRoom bundle.key.frameIndex port ∧
            window.deliverInput bundle =
              (.accepted, (window.take bundle port).advanceCommitFrontier) := by
  by_cases admitted : ∃ port, window.Admits bundle port
  · obtain ⟨port, admits⟩ := admitted
    rw [deliverInput_of_admits admits]
    obtain refused | ⟨room, accepts⟩ := admit_cases bundle port window
    · exact Or.inl refused
    · exact Or.inr ⟨port, admits, room, accepts⟩
  · left
    unfold deliverInput
    split
    · exact ⟨by simp, rfl⟩
    next bound =>
    split
    · exact ⟨by simp, rfl⟩
    next canonical =>
    split
    · exact ⟨by simp, rfl⟩
    next session =>
    split
    · exact ⟨by simp, rfl⟩
    next branch =>
    split
    · exact ⟨by simp, rfl⟩
    next timeline =>
    split
    · exact ⟨by simp, rfl⟩
    next revision =>
    split
    · exact ⟨by simp, rfl⟩
    next port seat =>
    split
    · exact ⟨by simp, rfl⟩
    next inPlay =>
    split
    · exact ⟨by simp, rfl⟩
    next signed =>
    refine absurd ⟨port, ?_⟩ admitted
    exact
      { bound := by simpa using bound
        canonical := by simpa using canonical
        session := by simpa using session
        branch := by simpa using branch
        timeline := by simpa using timeline
        revision := UInt64.not_lt.mp revision
        seat := seat
        inPlay := by simpa using inPlay
        signed := by simpa using signed }

theorem deliverInput_ownedPortMask
    (bundle : DualInputBundle)
    (window : DualInputWindow) :
    (window.deliverInput bundle).2.ownedPortMask = window.ownedPortMask := by
  obtain ⟨_, unchanged⟩ | ⟨port, _, _, accepts⟩ :=
    deliverInput_cases bundle window
  · rw [unchanged]
  · rw [accepts]
    exact advanceCommitFrontier_ownedPortMask _

theorem deliverLocalInput_ownedPortMask
    (samples : DualPortInputArray)
    (logicalSeat : UInt8)
    (window : DualInputWindow) :
    (window.deliverLocalInput samples logicalSeat).2.ownedPortMask =
      window.ownedPortMask := by
  unfold deliverLocalInput
  cases window.localBundle samples logicalSeat with
  | error status => rfl
  | ok bundle => exact deliverInput_ownedPortMask bundle window

/-- The samples a delivery adds to those taken in. -/
def acceptedFrom
    (bundle : DualInputBundle)
    (window : DualInputWindow) : List Acceptance :=
  if (window.deliverInput bundle).1 = .accepted then
    (window.ownedSeat bundle.logicalSeat).toList.map (Acceptance.ofBundle bundle)
  else
    []

/-- The samples this engine's own input adds to those taken in. -/
def acceptedFromLocal
    (samples : DualPortInputArray)
    (logicalSeat : UInt8)
    (window : DualInputWindow) : List Acceptance :=
  match window.localBundle samples logicalSeat with
  | .error _ => []
  | .ok bundle => window.acceptedFrom bundle

namespace Sound

variable {accepted : List Acceptance}
variable {planned : List UInt64} {port : Port} {frame : UInt64} {acceptance : Acceptance}

/-- Nothing has been taken in where there is room. -/
theorem room_unseen
    (sound : window.Sound accepted planned)
    (room : window.HasRoom frame port)
    (member : acceptance ∈ accepted)
    (sameFrame : acceptance.frame = frame) :
    acceptance.port ≠ port := by
  rintro rfl
  subst sameFrame
  obtain ⟨record, found, keeps⟩ :=
    sound.kept acceptance member room.fromFrontier
  have missing := room.missing record found
  rw [keeps.2.1] at missing
  cases missing

/-- The record that a frame in flight gets agrees with its samples. -/
theorem ensured
    (sound : window.Sound accepted planned)
    (fromFrontier : window.commitFrontier ≤ frame) :
    (window.ensureRecord frame).realPortMask =
        (window.ensureRecord frame).provided ∧
      ((window.ensureRecord frame).planned = true →
        frame.toNat < window.stepFrontier.toNat ∧ frame ∈ planned) ∧
      (∀ port, (window.ensureRecord frame).provided port = true →
        ∃ acceptance ∈ accepted,
          acceptance.port = port ∧
            (window.ensureRecord frame).Keeps acceptance) ∧
      (∀ acceptance ∈ accepted, acceptance.frame = frame →
        (window.ensureRecord frame).Keeps acceptance) := by
  obtain found | ⟨absent, fresh⟩ := window.ensureRecord_cases frame
  · obtain ⟨inSlot, used, sameFrame⟩ := findRecord_eq_some.mp found
    refine ⟨?_, ?_, ?_, ?_⟩
    · rw [← inSlot]
      exact sound.real _
    · intro isPlanned
      rw [← inSlot] at used isPlanned sameFrame
      have executed := sound.executed _ used isPlanned
      rwa [sameFrame] at executed
    · rw [← inSlot] at used ⊢
      exact fun port provided => sound.sampled _ port used provided
    · intro acceptance member ofFrame
      subst ofFrame
      obtain ⟨record, foundAgain, keeps⟩ :=
        sound.kept acceptance member fromFrontier
      rw [found] at foundAgain
      cases foundAgain
      exact keeps
  · rw [fresh]
    refine ⟨rfl, by simp, by simp [PortSet.none], ?_⟩
    intro acceptance member ofFrame
    subst ofFrame
    obtain ⟨record, foundAgain, _⟩ :=
      sound.kept acceptance member fromFrontier
    rw [absent] at foundAgain
    cases foundAgain

variable {bundle : DualInputBundle} {record : FrameRecord}

/-- A record with one more sample agrees with the samples of its frame. -/
theorem provide_keeps
    (otherPort : acceptance.port ≠ port)
    (keeps : record.Keeps acceptance) :
    (provide bundle port record).Keeps acceptance := by
  obtain ⟨sameFrame, provided, key, owner, mask, sequence⟩ := keeps
  refine ⟨sameFrame, ?_, ?_, ?_, ?_, ?_⟩
  · simp [provide, PortSet.add, otherPort, provided]
  · simp [provide, otherPort, key]
  · simp [provide, otherPort, owner]
  · simp [provide, otherPort, mask]
  · simp [provide, otherPort, sequence]

theorem provide_keeps_new
    (sameFrame : record.frameIndex = bundle.key.frameIndex) :
    (provide bundle port record).Keeps (Acceptance.ofBundle bundle port) := by
  refine ⟨sameFrame, ?_, ?_, ?_, ?_, ?_⟩ <;>
    simp [provide, PortSet.add, Acceptance.ofBundle]

/-- Taking in a sample keeps the invariant. -/
theorem take
    (sound : window.Sound accepted planned)
    (room : window.HasRoom bundle.key.frameIndex port) :
    (window.take bundle port).Sound
      (accepted ++ [Acceptance.ofBundle bundle port]) planned := by
  obtain ⟨real, executed, sampled, agrees⟩ := sound.ensured room.fromFrontier
  have withinLead :
      bundle.key.frameIndex.toNat ≤ window.stepFrontier.toNat + 4 := by
    have lead := room.withinLead
    simp only [UInt64.le_iff_toNat_le, kDualGuestLeadFrames,
      UInt64.toNat_add] at lead
    have small : (4 : UInt64).toNat = 4 := rfl
    omega
  have sameFrame := window.ensureRecord_frameIndex bundle.key.frameIndex
  have unseen : ∀ acceptance ∈ accepted,
      acceptance.frame = bundle.key.frameIndex → acceptance.port ≠ port :=
    fun acceptance member ofFrame => sound.room_unseen room member ofFrame
  suffices stored :
      (window.store
        (provide bundle port
          (window.ensureRecord bundle.key.frameIndex))).Sound
        (accepted ++ [Acceptance.ofBundle bundle port]) planned from
    stored.transfer rfl rfl rfl rfl
  apply Sound.store sound
  · exact window.ensureRecord_used _
  · simp only [provide, sameFrame]
    exact sound.evicted_below room.fromFrontier withinLead
  · simpa only [provide, sameFrame] using withinLead
  · simpa only [provide, sameFrame] using executed
  · simp only [provide, real]
  · intro other provided
    rw [provide, PortSet.add_true] at provided
    by_cases isNew : other = port
    · subst isNew
      exact ⟨_, by simp, rfl, provide_keeps_new sameFrame⟩
    · obtain ⟨acceptance, member, samePort, keeps⟩ :=
        sampled other (provided.resolve_left isNew)
      subst samePort
      exact ⟨acceptance, by simp [member], rfl, provide_keeps isNew keeps⟩
  · intro acceptance member
    simp [member]
  · intro acceptance member otherFrame
    rcases List.mem_append.mp member with old | new
    · exact old
    · rw [List.mem_singleton] at new
      subst new
      simp [provide, Acceptance.ofBundle] at otherFrame
  · intro acceptance member _ ofFrame
    simp only [provide, sameFrame] at ofFrame
    rcases List.mem_append.mp member with old | new
    · exact provide_keeps (unseen acceptance old ofFrame)
        (agrees acceptance old ofFrame)
    · rw [List.mem_singleton] at new
      subst new
      exact provide_keeps_new sameFrame
  · intro first firstMember second secondMember sameFrames samePorts
    rcases List.mem_append.mp firstMember with firstOld | firstNew <;>
      rcases List.mem_append.mp secondMember with secondOld | secondNew
    · exact sound.unique first firstOld second secondOld sameFrames samePorts
    · rw [List.mem_singleton] at secondNew
      subst secondNew
      exact absurd samePorts (unseen first firstOld sameFrames)
    · rw [List.mem_singleton] at firstNew
      subst firstNew
      exact absurd samePorts.symm (unseen second secondOld sameFrames.symm)
    · rw [List.mem_singleton] at firstNew secondNew
      rw [firstNew, secondNew]

/-- A delivery keeps the invariant. -/
theorem deliver
    (sound : window.Sound accepted planned)
    (bundle : DualInputBundle) :
    (window.deliverInput bundle).2.Sound
      (accepted ++ window.acceptedFrom bundle) planned := by
  obtain ⟨refused, unchanged⟩ | ⟨port, admits, room, accepts⟩ :=
    deliverInput_cases bundle window
  · rw [unchanged, acceptedFrom, if_neg refused, List.append_nil]
    exact sound
  · rw [acceptedFrom, accepts, admits.seat]
    exact (sound.take room).advance

/-- This engine's own input keeps the invariant. -/
theorem deliverLocal
    (sound : window.Sound accepted planned)
    (samples : DualPortInputArray)
    (logicalSeat : UInt8) :
    (window.deliverLocalInput samples logicalSeat).2.Sound
      (accepted ++ window.acceptedFromLocal samples logicalSeat) planned := by
  unfold deliverLocalInput acceptedFromLocal
  cases window.localBundle samples logicalSeat with
  | error status =>
      simp only [List.append_nil]
      exact sound
  | ok bundle => exact sound.deliver bundle

end Sound

/-! ### Plans -/

/-- The window with a record for the next frame. -/
def materialize (window : DualInputWindow) : DualInputWindow :=
  { window.store (window.ensureRecord window.stepFrontier) with
    materializedThrough :=
      if window.stepFrontier + 1 > window.materializedThrough then
        window.stepFrontier + 1
      else
        window.materializedThrough }

/-- The window after the runtime has executed the frame of a record. -/
def execute
    (record : FrameRecord)
    (predicted : PortSet)
    (window : DualInputWindow) : DualInputWindow :=
  { window with stepFrontier := record.frameIndex + 1 }.store
    { record with
      planned := true
      plannedPredictedMask := fun port =>
        predicted port && !record.realPortMask port }

@[simp]
theorem execute_stepFrontier
    (record : FrameRecord)
    (predicted : PortSet)
    (window : DualInputWindow) :
    (window.execute record predicted).stepFrontier = record.frameIndex + 1 :=
  rfl

/-- Everything `markPlanned` can do. -/
theorem markPlanned_cases
    (frame : UInt64)
    (predicted : PortSet)
    (window : DualInputWindow) :
    ((window.markPlanned frame predicted).1 ≠ .ok ∧
        (window.markPlanned frame predicted).2 = window) ∨
      ∃ record,
        window.bound = true ∧
        window.findRecord frame = some record ∧
          frame < window.materializedThrough ∧
            window.markPlanned frame predicted =
              (.ok, (window.execute record predicted).advanceCommitFrontier) := by
  unfold markPlanned
  split
  · exact Or.inl ⟨by simp, rfl⟩
  next bound =>
    split
    · exact Or.inl ⟨by simp, rfl⟩
    next materialized =>
      split
      · exact Or.inl ⟨by simp, rfl⟩
      next record found =>
        refine Or.inr ⟨record, by simpa using bound, found,
          UInt64.not_le.mp materialized, ?_⟩
        rw [← findRecord_frameIndex found]
        rfl

/-- The frame is the next one, or the last one executed. -/
structure Fits
    (frame : UInt64)
    (window : DualInputWindow) : Prop where
  current : frame.toNat ≤ window.stepFrontier.toNat
  recent : window.stepFrontier.toNat ≤ frame.toNat + 1
  depth : frame.toNat < window.commitFrontier.toNat + 10

namespace Sound

variable {accepted : List Acceptance}
variable {planned : List UInt64}

/-- Everything `planNext` can do. -/
theorem planNext_cases
    (sound : window.Sound accepted planned) :
    (window.planNext.1.status ≠ .ok ∧ window.planNext.2 = window ∧
        (window.bound = true →
          10 ≤ window.stepFrontier.toNat - window.commitFrontier.toNat)) ∨
      (window.Fits window.stepFrontier ∧
        window.planNext =
          (window.planRecord window.stepFrontier
              (window.stepFrontier - window.commitFrontier)
              (window.ensureRecord window.stepFrontier),
            window.materialize)) := by
  have behind := sound.behind
  have distance :
      (window.stepFrontier - window.commitFrontier).toNat =
        window.stepFrontier.toNat - window.commitFrontier.toNat :=
    UInt64.toNat_sub_of_le _ _ (UInt64.le_iff_toNat_le.mpr behind)
  have frame :
      (if window.stepFrontier < window.commitFrontier then
        window.commitFrontier
      else
        window.stepFrontier) = window.stepFrontier :=
    if_neg (by rw [UInt64.lt_iff_toNat_lt]; omega)
  have depth :
      (if window.stepFrontier > window.commitFrontier then
        window.stepFrontier - window.commitFrontier
      else
        0) = window.stepFrontier - window.commitFrontier := by
    split
    · rfl
    next atFrontier =>
      apply UInt64.toNat_inj.mp
      rw [distance, UInt64.toNat_zero]
      rw [gt_iff_lt, UInt64.lt_iff_toNat_lt] at atFrontier
      omega
  unfold planNext
  simp only [frame, depth]
  split
  next unbound =>
    refine Or.inl ⟨by simp, rfl, ?_⟩
    intro bound
    simp [bound] at unbound
  next =>
    split
    next far =>
      refine Or.inl ⟨by simp [frozenPlan], rfl, fun _ => ?_⟩
      have far : 12 ≤ (window.stepFrontier - window.commitFrontier).toNat := far
      omega
    next =>
      split
      next deep =>
        refine Or.inl ⟨by simp [frozenPlan], rfl, fun _ => ?_⟩
        have deep : 10 ≤ (window.stepFrontier - window.commitFrontier).toNat :=
          deep
        omega
      next shallow =>
        have shallow :
            ¬ 10 ≤ (window.stepFrontier - window.commitFrontier).toNat :=
          shallow
        refine Or.inr ⟨⟨le_rfl, by omega, by omega⟩, rfl⟩

/-- A record for the next frame keeps the invariant. -/
theorem materialize
    (sound : window.Sound accepted planned) :
    window.materialize.Sound accepted planned := by
  have fromFrontier : window.commitFrontier ≤ window.stepFrontier :=
    UInt64.le_iff_toNat_le.mpr sound.behind
  obtain ⟨real, executed, sampled, agrees⟩ := sound.ensured fromFrontier
  have sameFrame := window.ensureRecord_frameIndex window.stepFrontier
  suffices stored :
      (window.store (window.ensureRecord window.stepFrontier)).Sound
        accepted planned from
    stored.transfer rfl rfl rfl rfl
  apply Sound.store sound
  · exact window.ensureRecord_used _
  · rw [sameFrame]
    exact sound.evicted_below fromFrontier (by omega)
  · rw [sameFrame]
    omega
  · rwa [sameFrame]
  · exact real
  · exact sampled
  · exact fun _ member => member
  · exact fun _ member _ => member
  · rw [sameFrame]
    exact fun acceptance member _ ofFrame => agrees acceptance member ofFrame
  · exact sound.unique

/-- Executing a frame that fits keeps the invariant. -/
theorem execute
    (sound : window.Sound accepted planned)
    {frame : UInt64}
    {record : FrameRecord}
    (fits : window.Fits frame)
    (found : window.findRecord frame = some record)
    (narrow : frame.toNat + 1 < 2 ^ 64)
    (predicted : PortSet) :
    (window.execute record predicted).Sound accepted (planned ++ [frame]) := by
  obtain ⟨inSlot, used, rfl⟩ := findRecord_eq_some.mp found
  have step : (record.frameIndex + 1).toNat = record.frameIndex.toNat + 1 := by
    simp only [UInt64.toNat_add, UInt64.toNat_one]
    omega
  have real := sound.real (slotOf record.frameIndex)
  have sampled := sound.sampled (slotOf record.frameIndex)
  rw [inSlot] at real sampled
  have current := fits.current
  have recent := fits.recent
  have depth := fits.depth
  have raised :
      ({ window with stepFrontier := record.frameIndex + 1 }).Sound
        accepted (planned ++ [record.frameIndex]) :=
    { behind := by
        have behind := sound.behind
        simp only [step]
        omega
      depth := by
        simp only [step]
        omega
      home := sound.home
      reach := by
        intro slot slotUsed
        have reach := sound.reach slot slotUsed
        simp only [step]
        omega
      executed := by
        intro slot slotUsed slotPlanned
        obtain ⟨below, member⟩ := sound.executed slot slotUsed slotPlanned
        refine ⟨?_, by simp [member]⟩
        simp only [step]
        omega
      real := sound.real
      sampled := sound.sampled
      kept := sound.kept
      unique := sound.unique
      history := by
        intro passed below
        obtain ⟨member, samples⟩ := sound.history passed below
        exact ⟨by simp [member], samples⟩ }
  apply Sound.store raised
  · exact used
  · intro _ otherFrame
    refine absurd ?_ otherFrame
    simp only [inSlot]
  · simp only [step]
    omega
  · intro _
    simp only [step]
    exact ⟨by omega, by simp⟩
  · exact real
  · exact fun port provided => sampled port used provided
  · exact fun _ member => member
  · exact fun _ member _ => member
  · intro acceptance member fromFrontier ofFrame
    obtain ⟨other, foundAgain, keeps⟩ :=
      sound.kept acceptance member fromFrontier
    rw [ofFrame, found] at foundAgain
    cases foundAgain
    exact keeps
  · exact sound.unique

end Sound

end DualInputWindow

end FlyNes.Dual
