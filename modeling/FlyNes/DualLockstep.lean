import FlyNes.DualNet
import FlyNes.DualSchedulerHistory

namespace FlyNes.Dual

/-!
# A window in lockstep

Each device sends one bundle for every frame.  A window that has taken in the
first bundles of both devices steps a frame as soon as it has both of them, with
an input that depends on the two bundles only.
-/

namespace Side

theorem seat_injective
    {first second : Side}
    (same : first.seat = second.seat) :
    first = second := by
  cases first <;> cases second <;> first | rfl | (revert same; decide)

theorem seat_lt (side : Side) : side.seat.val < 2 := by
  cases side <;> decide

@[simp]
theorem other_other (side : Side) : side.other.other = side := by
  cases side <;> rfl

theorem other_ne (side : Side) : side.other ≠ side := by
  cases side <;> decide

theorem eq_or_other (side observer : Side) :
    side = observer ∨ side = observer.other := by
  cases side <;> cases observer <;> decide

end Side

/-- The seats of a session of two devices. -/
def seating (keys : Side → KeyId) : Port → DualOwnerKey :=
  ![⟨0, keys .initiator⟩, ⟨1, keys .responder⟩, ⟨2, default⟩, ⟨3, default⟩]

theorem seating_seat
    (keys : Side → KeyId)
    (side : Side) :
    seating keys side.seat = ⟨UInt8.ofNat side.seat, keys side⟩ := by
  cases side <;> rfl

variable {port : Port}

theorem empty_cases
    (empty : 2 ≤ port.val) :
    port = 2 ∨ port = 3 := by
  revert port
  decide

theorem seating_empty
    (keys : Side → KeyId)
    (empty : 2 ≤ port.val) :
    allZero (seating keys port).signingKeyId = true := by
  obtain rfl | rfl := empty_cases empty
  · rfl
  · rfl

/-- A port has the seat of a device or is empty. -/
theorem port_cases (port : Port) :
    (∃ side : Side, port = side.seat) ∨ 2 ≤ port.val := by
  match port with
  | 0 => exact Or.inl ⟨.initiator, rfl⟩
  | 1 => exact Or.inl ⟨.responder, rfl⟩
  | 2 => exact Or.inr (by decide)
  | 3 => exact Or.inr (by decide)

/-- The bundle is a device's own input for a frame. -/
structure Sample
    (context : DualInputKey)
    (keys : Side → KeyId)
    (side : Side)
    (frame : Nat)
    (bundle : DualInputBundle) : Prop where
  key : bundle.key = { context with frameIndex := UInt64.ofNat frame }
  seat : bundle.logicalSeat = UInt8.ofNat side.seat
  owner : bundle.ownerSigningKeyId = keys side
  canonical : canonicalInputIsCanonical bundle = true
  real : bundle.predictedPortMask = 0

/-- What each device has sent: one bundle for every frame, from the first on. -/
structure Genuine
    (context : DualInputKey)
    (keys : Side → KeyId)
    (sent : Side → List DualInputBundle) : Prop where
  sample : ∀ side frame bundle,
    (sent side)[frame]? = some bundle → Sample context keys side frame bundle
  narrow : ∀ side, (sent side).length < 2 ^ 62

/-- The sample is one of the first that a device has sent. -/
def Taken
    (sent : Side → List DualInputBundle)
    (taken : Side → Nat)
    (acceptance : Acceptance) : Prop :=
  ∃ side index bundle,
    index < taken side ∧ (sent side)[index]? = some bundle ∧
      acceptance = Acceptance.ofBundle bundle side.seat

/-- The samples of both devices for one frame. -/
def jointSamples (samples : Side → DualInputBundle) : Port → DualPortSample :=
  ![(samples .initiator).ports 0, (samples .responder).ports 1, ⟨0, 1⟩, ⟨0, 1⟩]

/-- The input of one frame, from the bundles of both devices. -/
def jointBundle
    (context : DualInputKey)
    (keys : Side → KeyId)
    (frame : Nat)
    (samples : Side → DualInputBundle) : DualInputBundle :=
  { key := { context with frameIndex := UInt64.ofNat frame }
    ports := fun port =>
      ⟨(jointSamples samples port).mask,
        DualInputWindow.raisedSequences
          (fun port => (jointSamples samples port).inputSequence) port⟩
    ownerSigningKeyId := keys .initiator }

namespace DualInputWindow

variable {context : DualInputKey}
variable {keys : Side → KeyId}
variable {window : DualInputWindow}

/-- The window is bound to a session of two devices. -/
structure Seated
    (context : DualInputKey)
    (keys : Side → KeyId)
    (window : DualInputWindow) : Prop where
  bound : window.bound = true
  binding : window.context = context
  owners : window.owners = seating keys
  owned : ∀ port,
    window.ownedPortMask port = !allZero (seating keys port).signingKeyId
  revision : window.minAcceptRevision = context.seatRevision
  blank : ∀ port, 2 ≤ port.val →
    window.lastCompleteMask port = 0 ∧ window.lastCompleteSequence port = 0

theorem Seated.owned_seat
    (seated : window.Seated context keys)
    (side : Side) :
    window.ownedPortMask side.seat = !allZero (keys side) := by
  rw [seated.owned, seating_seat]

variable {port : Port}

theorem Seated.not_owned
    (seated : window.Seated context keys)
    (empty : 2 ≤ port.val) :
    window.ownedPortMask port = false := by
  rw [seated.owned, seating_empty keys empty]
  rfl

theorem Seated.ownedSeat
    (seated : window.Seated context keys)
    (side : Side) :
    window.ownedSeat (UInt8.ofNat side.seat) = some side.seat := by
  rw [DualInputWindow.ownedSeat, seated.owners]
  cases side <;> rfl

/-- The commit loop leaves the seats alone. -/
theorem Seated.advance
    (seated : window.Seated context keys) :
    window.advanceCommitFrontier.Seated context keys := by
  refine advanceLoop_induction (Seated context keys) ?_ kRingSlots window seated
  intro later record holds _ _
  refine ⟨holds.bound, holds.binding, holds.owners, holds.owned, holds.revision,
    ?_⟩
  intro port empty
  have notOwned := holds.not_owned empty
  simpa [commitRecord, notOwned] using holds.blank port empty

theorem advanceCommitFrontier_ring
    (window : DualInputWindow) :
    window.advanceCommitFrontier.ring = window.ring :=
  advanceLoop_induction (fun later => later.ring = window.ring)
    (fun _ _ same _ _ => same) kRingSlots window rfl

/-- There is room: the sample is taken in. -/
theorem admit_of_room
    {bundle : DualInputBundle}
    (room : window.HasRoom bundle.key.frameIndex port) :
    window.admitSample bundle port =
      (.accepted, (window.take bundle port).advanceCommitFrontier) := by
  have missing :
      (window.findRecord bundle.key.frameIndex).filter (·.provided port) =
        none := by
    cases found : window.findRecord bundle.key.frameIndex with
    | none => rfl
    | some record => simp [Option.filter, room.missing record found]
  simp only [admitSample, missing]
  rw [if_neg (UInt64.not_lt.mpr room.fromFrontier),
    if_neg (UInt64.not_lt.mpr room.withinLead)]
  rfl

/-- A window that has stepped `frame` frames and has taken in the first samples. -/
structure Lockstep
    (context : DualInputKey)
    (keys : Side → KeyId)
    (sent : Side → List DualInputBundle)
    (taken : Side → Nat)
    (frame : Nat)
    (window : DualInputWindow) : Prop where
  seated : window.Seated context keys
  step : window.stepFrontier = UInt64.ofNat frame
  commit : window.commitFrontier = UInt64.ofNat frame
  sound : ∃ accepted planned,
    window.Sound accepted planned ∧
      ∀ acceptance, acceptance ∈ accepted ↔ Taken sent taken acceptance

section Moves

variable {sent : Side → List DualInputBundle}
variable {taken : Side → Nat}
variable {frame : Nat}

theorem Lockstep.stepFrontier_toNat
    (lockstep : window.Lockstep context keys sent taken frame)
    (narrow : frame < 2 ^ 64) :
    window.stepFrontier.toNat = frame := by
  rw [lockstep.step, UInt64.toNat_ofNat']
  omega

theorem Lockstep.commitFrontier_toNat
    (lockstep : window.Lockstep context keys sent taken frame)
    (narrow : frame < 2 ^ 64) :
    window.commitFrontier.toNat = frame := by
  rw [lockstep.commit, UInt64.toNat_ofNat']
  omega

variable {side : Side} {index : Nat}

/-- Two samples of a port are for the same frame only if they are the same. -/
theorem taken_index
    (genuine : Genuine context keys sent)
    {acceptance : Acceptance}
    (isTaken : Taken sent taken acceptance)
    (narrow : index < 2 ^ 64)
    (samePort : acceptance.port = side.seat)
    (sameFrame : acceptance.frame = UInt64.ofNat index) :
    index < taken side ∧
      ∃ bundle, (sent side)[index]? = some bundle ∧
        acceptance = Acceptance.ofBundle bundle side.seat := by
  obtain ⟨sender, position, bundle, below, sentThere, rfl⟩ := isTaken
  have sameSide : sender = side := Side.seat_injective samePort
  subst sameSide
  have key := (genuine.sample sender position bundle sentThere).key
  have positionNarrow : position < 2 ^ 62 :=
    Nat.lt_trans (List.getElem?_eq_some_iff.mp sentThere).1
      (genuine.narrow sender)
  have sameIndex : position = index := by
    simp only [Acceptance.ofBundle, key] at sameFrame
    have sameNat := congrArg UInt64.toNat sameFrame
    simp only [UInt64.toNat_ofNat'] at sameNat
    omega
  subst sameIndex
  exact ⟨below, bundle, sentThere, rfl⟩

variable {bundle : DualInputBundle}

/-- One more sample of a device. -/
theorem taken_update
    (next : (sent side)[taken side]? = some bundle)
    (acceptance : Acceptance) :
    Taken sent (Function.update taken side (taken side + 1)) acceptance ↔
      Taken sent taken acceptance ∨
        acceptance = Acceptance.ofBundle bundle side.seat := by
  constructor
  · rintro ⟨sender, index, found, below, sentThere, rfl⟩
    by_cases same : sender = side
    · subst same
      rw [Function.update_self] at below
      by_cases last : index = taken sender
      · subst last
        rw [next] at sentThere
        cases sentThere
        exact Or.inr rfl
      · exact Or.inl ⟨sender, index, found, by omega, sentThere, rfl⟩
    · rw [Function.update_of_ne same] at below
      exact Or.inl ⟨sender, index, found, below, sentThere, rfl⟩
  · rintro (⟨sender, index, found, below, sentThere, rfl⟩ | rfl)
    · refine ⟨sender, index, found, ?_, sentThere, rfl⟩
      by_cases same : sender = side
      · subst same
        rw [Function.update_self]
        omega
      · rwa [Function.update_of_ne same]
    · exact ⟨side, taken side, bundle, by simp, next, rfl⟩

/-- The window knows the sender of a device's bundle. -/
theorem Seated.admits
    (seated : window.Seated context keys)
    (sample : Sample context keys side index bundle)
    (keyed : allZero (keys side) = false) :
    window.Admits bundle side.seat := by
  have owner : (window.owners side.seat).signingKeyId = keys side := by
    rw [seated.owners, seating_seat]
  exact
    { bound := seated.bound
      canonical := sample.canonical
      session := by rw [sample.key, seated.binding]
      branch := by rw [sample.key, seated.binding]
      timeline := by rw [sample.key, seated.binding]
      revision := by
        rw [sample.key, seated.revision]
        exact UInt64.le_refl _
      seat := by
        rw [sample.seat]
        exact seated.ownedSeat side
      inPlay := by rw [owner, keyed]
      signed := by rw [owner, sample.owner] }

/-- There is room for the next bundle of a device. -/
theorem Lockstep.room
    (lockstep : window.Lockstep context keys sent taken frame)
    (genuine : Genuine context keys sent)
    (low : frame ≤ taken side)
    (high : taken side ≤ frame + 4)
    (narrow : taken side < 2 ^ 62) :
    window.HasRoom (UInt64.ofNat (taken side)) side.seat := by
  have step := lockstep.stepFrontier_toNat (by omega)
  have commit := lockstep.commitFrontier_toNat (by omega)
  obtain ⟨accepted, planned, sound, members⟩ := lockstep.sound
  have index : (UInt64.ofNat (taken side)).toNat = taken side := by
    rw [UInt64.toNat_ofNat']
    omega
  refine ⟨?_, ?_, ?_⟩
  · rw [UInt64.le_iff_toNat_le, commit, index]
    exact low
  · have four : kDualGuestLeadFrames.toNat = 4 := rfl
    rw [UInt64.le_iff_toNat_le, UInt64.toNat_add, step, index, four]
    omega
  · intro record found
    by_contra isProvided
    obtain ⟨inSlot, used, sameFrame⟩ := findRecord_eq_some.mp found
    subst inSlot
    obtain ⟨acceptance, member, samePort, keeps⟩ :=
      sound.sampled _ side.seat used (by simpa using isProvided)
    have below := (taken_index genuine ((members acceptance).mp member)
      (by omega) samePort (keeps.1.symm.trans sameFrame)).1
    omega

/-- The next bundle of a device is taken in. -/
theorem Lockstep.deliver
    (lockstep : window.Lockstep context keys sent taken frame)
    (genuine : Genuine context keys sent)
    (next : (sent side)[taken side]? = some bundle)
    (keyed : allZero (keys side) = false)
    (low : frame ≤ taken side)
    (high : taken side ≤ frame + 4) :
    ∃ after,
      window.deliverInput bundle = (.accepted, after) ∧
        after.Lockstep context keys sent
          (Function.update taken side (taken side + 1)) frame := by
  have sample := genuine.sample side _ bundle next
  have narrow : taken side < 2 ^ 62 :=
    Nat.lt_trans (List.getElem?_eq_some_iff.mp next).1 (genuine.narrow side)
  have frameIndex : bundle.key.frameIndex = UInt64.ofNat (taken side) := by
    rw [sample.key]
  have room : window.HasRoom bundle.key.frameIndex side.seat := by
    rw [frameIndex]
    exact lockstep.room genuine low high narrow
  obtain ⟨accepted, planned, sound, members⟩ := lockstep.sound
  have grown := sound.take room
  have step := lockstep.stepFrontier_toNat (by omega)
  have commit := lockstep.commitFrontier_toNat (by omega)
  obtain ⟨ahead, sameStep⟩ := grown.advance_frontiers
  refine ⟨_, ?_, ?_, ?_, ?_, _, planned, grown.advance, ?_⟩
  · rw [deliverInput_of_admits (lockstep.seated.admits sample keyed),
      admit_of_room room]
  · apply Seated.advance
    have seated := lockstep.seated
    refine ⟨seated.bound, seated.binding, seated.owners, seated.owned, ?_,
      seated.blank⟩
    simp [DualInputWindow.take, seated.revision, sample.key]
  · rw [sameStep]
    exact lockstep.step
  · have behind := grown.advance.behind
    rw [sameStep] at behind
    rw [UInt64.le_iff_toNat_le] at ahead
    apply UInt64.toNat_inj.mp
    rw [← lockstep.commit]
    change window.commitFrontier.toNat ≤ _ at ahead
    change _ ≤ window.stepFrontier.toNat at behind
    omega
  · intro acceptance
    rw [List.mem_append, List.mem_singleton, members, taken_update next]

/-- What is known of the record of the next frame. -/
structure Pending
    (sent : Side → List DualInputBundle)
    (taken : Side → Nat)
    (frame : Nat)
    (record : FrameRecord) : Prop where
  real : record.realPortMask = record.provided
  keeps : ∀ side bundle,
    frame < taken side → (sent side)[frame]? = some bundle →
      record.Keeps (Acceptance.ofBundle bundle side.seat)
  taken : ∀ side, record.provided side.seat = true → frame < taken side
  empty : ∀ port, 2 ≤ port.val → record.provided port = false

theorem Lockstep.pending
    (lockstep : window.Lockstep context keys sent taken frame)
    (genuine : Genuine context keys sent)
    (narrow : frame < 2 ^ 64) :
    Pending sent taken frame (window.ensureRecord window.stepFrontier) := by
  obtain ⟨accepted, planned, sound, members⟩ := lockstep.sound
  have fromFrontier : window.commitFrontier ≤ window.stepFrontier :=
    UInt64.le_iff_toNat_le.mpr sound.behind
  obtain ⟨real, _, sampled, agrees⟩ := sound.ensured fromFrontier
  refine ⟨real, ?_, ?_, ?_⟩
  · intro side bundle isTaken sentThere
    apply agrees
    · exact (members _).mpr ⟨side, frame, bundle, isTaken, sentThere, rfl⟩
    · simp only [Acceptance.ofBundle,
        (genuine.sample side frame bundle sentThere).key, lockstep.step]
  · intro side provided
    obtain ⟨acceptance, member, samePort, keeps⟩ := sampled side.seat provided
    have sameFrame := keeps.1
    rw [ensureRecord_frameIndex, lockstep.step] at sameFrame
    exact (taken_index genuine ((members acceptance).mp member) narrow samePort
      sameFrame.symm).1
  · intro port empty
    by_contra isProvided
    obtain ⟨acceptance, member, samePort, _⟩ :=
      sampled port (by simpa using isProvided)
    obtain ⟨side, _, _, _, _, rfl⟩ := (members acceptance).mp member
    have seat := side.seat_lt
    rw [← samePort] at empty
    simp only [Acceptance.ofBundle] at empty
    omega

/-- Whether all samples are in depends on the record of the frame only. -/
theorem frameAllReal_eq
    (window : DualInputWindow)
    (frame : UInt64) :
    window.frameAllReal frame = true ↔
      window.ownedPortMask ≠ PortSet.none ∧
        PortSet.Within window.ownedPortMask
          (window.ensureRecord frame).realPortMask := by
  unfold frameAllReal ensureRecord
  cases window.findRecord frame with
  | some record => simp
  | none =>
      simp only [Bool.false_eq_true, Option.getD_none, false_iff, not_and]
      intro owned within
      apply owned
      funext port
      by_contra isOwned
      have real := within port (by simpa [PortSet.none] using isOwned)
      simp [PortSet.none] at real

/-- All samples are in once both devices have sent theirs. -/
theorem Lockstep.frameAllReal_iff
    (lockstep : window.Lockstep context keys sent taken frame)
    (genuine : Genuine context keys sent)
    (keyed : ∀ side, allZero (keys side) = false)
    (reach : ∀ side, taken side ≤ (sent side).length)
    (narrow : frame < 2 ^ 64) :
    window.frameAllReal window.stepFrontier = true ↔
      ∀ side, frame < taken side := by
  have pending := lockstep.pending genuine narrow
  have owned : ∀ side : Side, window.ownedPortMask side.seat = true := by
    intro side
    rw [lockstep.seated.owned_seat, keyed side]
    rfl
  rw [frameAllReal_eq, pending.real]
  constructor
  · rintro ⟨_, within⟩ side
    exact pending.taken side (within side.seat (owned side))
  · intro both
    refine ⟨?_, ?_⟩
    · intro none
      have seat := owned .initiator
      rw [none] at seat
      cases seat
    · intro port isOwned
      obtain ⟨side, rfl⟩ | empty := port_cases port
      · have within : frame < (sent side).length :=
          Nat.lt_of_lt_of_le (both side) (reach side)
        exact (pending.keeps side _ (both side)
          (List.getElem?_eq_getElem within)).2.1
      · rw [lockstep.seated.not_owned empty] at isOwned
        cases isOwned

variable {samples : Side → DualInputBundle}

/-- The input that a frame with both samples is stepped with. -/
theorem Pending.planRecord
    (seated : window.Seated context keys)
    (genuine : Genuine context keys sent)
    {record : FrameRecord}
    (pending : Pending sent taken frame record)
    (both : ∀ side, frame < taken side)
    (sentThere : ∀ side, (sent side)[frame]? = some (samples side))
    (distance : UInt64) :
    (window.planRecord (UInt64.ofNat frame) distance record).bundle =
        jointBundle context keys frame samples ∧
      (window.planRecord (UInt64.ofNat frame) distance
        record).predictedPortMask = PortSet.none := by
  have keeps : ∀ side : Side,
      record.Keeps (Acceptance.ofBundle (samples side) side.seat) :=
    fun side => pending.keeps side _ (both side) (sentThere side)
  have effective : ∀ port,
      window.effectiveSample record port = jointSamples samples port := by
    intro port
    obtain ⟨side, rfl⟩ | empty := port_cases port
    · obtain ⟨_, provided, _, _, mask, sequence⟩ := keeps side
      simp only [Acceptance.ofBundle] at provided mask sequence
      simp only [effectiveSample, provided, if_true, mask, sequence]
      cases side <;> rfl
    · obtain ⟨mask, sequence⟩ := seated.blank port empty
      simp only [effectiveSample, pending.empty port empty, mask, sequence,
        Bool.false_eq_true, if_false, if_true]
      obtain rfl | rfl := empty_cases empty
      · rfl
      · rfl
  have predicted :
      (fun port => !record.provided port && window.ownedPortMask port) =
        PortSet.none := by
    funext port
    obtain ⟨side, rfl⟩ | empty := port_cases port
    · have provided := (keeps side).2.1
      simp only [Acceptance.ofBundle] at provided
      simp [provided, PortSet.none]
    · simp [seated.not_owned empty, PortSet.none]
  have revision : window.plannedRevision record = context.seatRevision := by
    have ports : List.finRange kDualPortCount = [0, 1, 2, 3] := by
      decide
    have sampled : ∀ side : Side,
        record.provided side.seat = true ∧
          (record.keys side.seat).seatRevision = context.seatRevision := by
      intro side
      obtain ⟨_, provided, key, _⟩ := keeps side
      refine ⟨provided, ?_⟩
      simp only [Acceptance.ofBundle] at key
      rw [key, (genuine.sample side frame _ (sentThere side)).key]
    have first := sampled .initiator
    have second := sampled .responder
    simp only [Side.seat] at first second
    simp [plannedRevision, ports, first, second, pending.empty 2 (by decide),
      pending.empty 3 (by decide)]
  simp only [DualInputWindow.planRecord, predicted, revision, seated.binding,
    seated.owners, effective, PortSet.toMask_none, jointBundle]
  exact ⟨rfl, trivial⟩

theorem materialize_findRecord
    (window : DualInputWindow) :
    window.materialize.findRecord window.stepFrontier =
      some (window.ensureRecord window.stepFrontier) := by
  have found : (window.store
      (window.ensureRecord window.stepFrontier)).findRecord
        (window.ensureRecord window.stepFrontier).frameIndex =
      some (window.ensureRecord window.stepFrontier) :=
    store_findRecord_same (ensureRecord_used window window.stepFrontier)
  rw [ensureRecord_frameIndex] at found
  exact found

/-- The plan just made can be marked. -/
theorem markPlanned_materialize
    (bound : window.bound = true)
    (narrow : window.stepFrontier.toNat + 1 < 2 ^ 64)
    (predicted : PortSet) :
    window.materialize.markPlanned window.stepFrontier predicted =
      (.ok, (window.materialize.execute
        (window.ensureRecord window.stepFrontier)
        predicted).advanceCommitFrontier) := by
  have materialized :
      window.stepFrontier < window.materialize.materializedThrough := by
    have next : (window.stepFrontier + 1).toNat =
        window.stepFrontier.toNat + 1 := by
      rw [UInt64.toNat_add, UInt64.toNat_one]
      omega
    simp only [materialize]
    split
    next raised =>
      rw [UInt64.lt_iff_toNat_lt]
      omega
    next reached =>
      rw [gt_iff_lt, UInt64.lt_iff_toNat_lt] at reached
      rw [UInt64.lt_iff_toNat_lt]
      omega
  have stillBound : window.materialize.bound = true := bound
  have isMarked :
      (window.materialize.markPlanned window.stepFrontier predicted).1 =
        .ok := by
    simp only [markPlanned, stillBound, Bool.not_true, Bool.false_eq_true,
      if_false, UInt64.not_le.mpr materialized, materialize_findRecord]
  obtain ⟨refused, _⟩ | ⟨record, _, found, _, marked⟩ :=
    markPlanned_cases window.stepFrontier predicted window.materialize
  · exact absurd isMarked refused
  · rw [materialize_findRecord] at found
    cases found
    exact marked

/-- The commit frontier passes over a frame with both samples. -/
theorem Lockstep.committed
    (lockstep : window.Lockstep context keys sent taken frame)
    (both : ∀ side, frame < taken side)
    (sentThere : ∀ side, (sent side)[frame]? = some (samples side))
    (pending : Pending sent taken frame
      (window.ensureRecord window.stepFrontier))
    {after : DualInputWindow}
    {accepted : List Acceptance}
    {planned : List UInt64}
    (isAfter : after = window.materialize.execute
      (window.ensureRecord window.stepFrontier) PortSet.none)
    (sound : after.Sound accepted planned)
    (stepped : after.stepFrontier = UInt64.ofNat (frame + 1))
    (narrow : frame + 1 < 2 ^ 64) :
    after.advanceCommitFrontier.commitFrontier = UInt64.ofNat (frame + 1) := by
  have commit := lockstep.commitFrontier_toNat (by omega)
  obtain ⟨ahead, sameStep⟩ := sound.advance_frontiers
  have behind := sound.advance.behind
  have next : (UInt64.ofNat (frame + 1)).toNat = frame + 1 := by
    rw [UInt64.toNat_ofNat']
    omega
  rw [sameStep, stepped, next] at behind
  have sameCommit : after.commitFrontier = window.commitFrontier := by
    rw [isAfter]
    rfl
  rw [sameCommit, UInt64.le_iff_toNat_le, commit] at ahead
  by_contra notYet
  -- the frontier has stayed at a frame that is planned and has its samples
  have stays : after.advanceCommitFrontier.commitFrontier.toNat = frame := by
    have other : after.advanceCommitFrontier.commitFrontier.toNat ≠
        frame + 1 := by
      intro same
      apply notYet
      apply UInt64.toNat_inj.mp
      rw [same, next]
    omega
  have atFrame :
      after.advanceCommitFrontier.commitFrontier = window.stepFrontier := by
    apply UInt64.toNat_inj.mp
    rw [stays, lockstep.stepFrontier_toNat (by omega)]
  have found : after.advanceCommitFrontier.findRecord
      after.advanceCommitFrontier.commitFrontier =
        some { window.ensureRecord window.stepFrontier with
          planned := true
          plannedPredictedMask := fun port =>
            PortSet.none port &&
              !(window.ensureRecord window.stepFrontier).realPortMask port } := by
    rw [atFrame, findRecord_eq_some, advanceCommitFrontier_ring]
    refine ⟨?_, ensureRecord_used _ _, ensureRecord_frameIndex _ _⟩
    rw [isAfter, execute]
    simp only [store, ensureRecord_frameIndex, Function.update_self]
  refine advanceCommitFrontier_settled after ⟨_, found, rfl, ?_⟩
  intro port isOwned
  rw [advanceCommitFrontier_ownedPortMask, isAfter] at isOwned
  change window.ownedPortMask port = true at isOwned
  change (window.ensureRecord window.stepFrontier).realPortMask port = true
  rw [pending.real]
  obtain ⟨side, rfl⟩ | empty := port_cases port
  · exact (pending.keeps side _ (both side) (sentThere side)).2.1
  · rw [lockstep.seated.not_owned empty] at isOwned
    cases isOwned

/-- A frame with both samples is stepped and committed. -/
theorem Lockstep.execute
    (lockstep : window.Lockstep context keys sent taken frame)
    (genuine : Genuine context keys sent)
    (both : ∀ side, frame < taken side)
    (sentThere : ∀ side, (sent side)[frame]? = some (samples side)) :
    ∃ plan after,
      window.planNext = (plan, window.materialize) ∧
        plan.status = .ok ∧
        plan.frameIndex = UInt64.ofNat frame ∧
        plan.bundle = jointBundle context keys frame samples ∧
        plan.predictedPortMask = PortSet.none ∧
        window.materialize.markPlanned plan.frameIndex
          plan.predictedPortMask = (.ok, after) ∧
        after.Lockstep context keys sent taken (frame + 1) := by
  have narrow : frame < 2 ^ 62 :=
    Nat.lt_trans (List.getElem?_eq_some_iff.mp (sentThere .initiator)).1
      (genuine.narrow .initiator)
  have step := lockstep.stepFrontier_toNat (by omega)
  have commit := lockstep.commitFrontier_toNat (by omega)
  have pending := lockstep.pending genuine (by omega)
  have seated := lockstep.seated
  obtain ⟨accepted, planned, sound, members⟩ := lockstep.sound
  obtain ⟨_, _, deep⟩ | ⟨fits, plan⟩ := sound.planNext_cases
  · have tooDeep := deep seated.bound
    omega
  obtain ⟨bundle, predicted⟩ := pending.planRecord seated genuine both sentThere
    (window.stepFrontier - window.commitFrontier)
  rw [← lockstep.step] at bundle predicted
  have marked := markPlanned_materialize seated.bound (by omega) PortSet.none
  have executed : (window.materialize.execute
      (window.ensureRecord window.stepFrontier) PortSet.none).Sound accepted
        (planned ++ [window.stepFrontier]) := by
    refine sound.materialize.execute ?_ (materialize_findRecord window)
      (by omega) PortSet.none
    exact ⟨fits.current, fits.recent, fits.depth⟩
  have sameStep := executed.advance_frontiers.2
  have stepped :
      (window.materialize.execute (window.ensureRecord window.stepFrontier)
        PortSet.none).stepFrontier = UInt64.ofNat (frame + 1) := by
    rw [execute_stepFrontier, ensureRecord_frameIndex, lockstep.step]
    apply UInt64.toNat_inj.mp
    simp only [UInt64.toNat_add, UInt64.toNat_ofNat', UInt64.toNat_one]
    omega
  refine ⟨_, _, plan, rfl, lockstep.step, bundle, predicted, ?_, ?_, ?_, ?_, _,
    _, executed.advance, members⟩
  · rw [predicted]
    exact marked
  · apply Seated.advance
    exact ⟨seated.bound, seated.binding, seated.owners, seated.owned,
      seated.revision, seated.blank⟩
  · rw [sameStep, stepped]
  · exact lockstep.committed both sentThere pending rfl executed stepped
      (by omega)

/-- A device cannot send another sample for the same frame. -/
theorem Lockstep.resubmit
    (lockstep : window.Lockstep context keys sent taken frame)
    (genuine : Genuine context keys sent)
    {first second : DualInputBundle}
    (sentThere : (sent side)[frame]? = some first)
    (isTaken : frame < taken side)
    (sample : Sample context keys side frame second)
    (keyed : allZero (keys side) = false)
    (differs : (first.ports side.seat).inputSequence ≠
      (second.ports side.seat).inputSequence) :
    window.deliverInput second = (.rejectedCommittedHistory, window) := by
  obtain ⟨accepted, planned, sound, members⟩ := lockstep.sound
  have frameIndex : second.key.frameIndex = first.key.frameIndex := by
    rw [sample.key, (genuine.sample side frame first sentThere).key]
  obtain ⟨record, found, keeps⟩ := sound.kept
    (Acceptance.ofBundle first side.seat)
    ((members _).mpr ⟨side, frame, first, isTaken, sentThere, rfl⟩) (by
      simp only [Acceptance.ofBundle,
        (genuine.sample side frame first sentThere).key, lockstep.commit]
      exact UInt64.le_refl _)
  obtain ⟨_, provided, _, _, _, sequence⟩ := keeps
  simp only [Acceptance.ofBundle] at found provided sequence
  rw [← frameIndex] at found
  have notRepeated : ¬ Repeats second side.seat record := by
    rintro ⟨_, _, sameSequence⟩
    exact differs (sequence.symm.trans sameSequence)
  rw [deliverInput_of_admits (lockstep.seated.admits sample keyed)]
  simp only [admitSample, found, Option.filter, provided, notRepeated, if_true,
    if_false]

/-- The own input is delivered like any other bundle. -/
theorem Seated.deliverLocalInput
    (seated : window.Seated context keys)
    {samples : DualPortInputArray}
    (built : canonicalInputBuild
      { context with frameIndex := window.stepFrontier }
      (UInt8.ofNat side.seat) (keys side) samples = .ok bundle)
    (keyed : allZero (keys side) = false) :
    window.deliverLocalInput samples (UInt8.ofNat side.seat) =
      window.deliverInput bundle := by
  have owner : (window.owners side.seat).signingKeyId = keys side := by
    rw [seated.owners, seating_seat]
  simp [DualInputWindow.deliverLocalInput, localBundle, seated.bound,
    seated.ownedSeat, owner, keyed, seated.binding, built]

/-- More bundles of a device do not matter to what was taken in. -/
theorem Lockstep.append
    (lockstep : window.Lockstep context keys sent taken frame)
    {more : Side → List DualInputBundle}
    (reach : ∀ side, taken side ≤ (sent side).length)
    (grows : ∀ side, sent side <+: more side) :
    window.Lockstep context keys more taken frame := by
  refine ⟨lockstep.seated, lockstep.step, lockstep.commit, ?_⟩
  obtain ⟨accepted, planned, sound, members⟩ := lockstep.sound
  refine ⟨accepted, planned, sound, ?_⟩
  intro acceptance
  rw [members]
  have same : ∀ side index, index < taken side →
      (more side)[index]? = (sent side)[index]? := by
    intro side index below
    obtain ⟨rest, grown⟩ := grows side
    rw [← grown, List.getElem?_append_left
      (Nat.lt_of_lt_of_le below (reach side))]
  constructor
  · rintro ⟨side, index, bundle, below, sentThere, rfl⟩
    exact ⟨side, index, bundle, below, by rw [same side index below, sentThere],
      rfl⟩
  · rintro ⟨side, index, bundle, below, sentThere, rfl⟩
    exact ⟨side, index, bundle, below,
      by rw [← same side index below, sentThere], rfl⟩

end Moves

/-- A window that was just bound is in lockstep. -/
theorem lockstep_begin
    {context : DualInputKey}
    {keys : Side → KeyId}
    {before window : DualInputWindow}
    (begun : before.begin_ context (seating keys) = (.ok, window)) :
    window.Lockstep context keys (fun _ => []) (fun _ => 0) 0 := by
  have sound := Sound.begin begun
  have shape : window =
      { context := context
        owners := seating keys
        ownedPortMask := fun port => !allZero (seating keys port).signingKeyId
        minAcceptRevision := context.seatRevision
        bound := true } := by
    unfold begin_ at begun
    split at begun
    · cases begun
    split at begun
    · cases begun
    · cases begun
      rfl
  refine ⟨?_, ?_, ?_, [], [], sound, ?_⟩
  · rw [shape]
    exact ⟨rfl, rfl, rfl, fun _ => rfl, rfl, fun _ _ => ⟨rfl, rfl⟩⟩
  · rw [shape]
    rfl
  · rw [shape]
    rfl
  · intro acceptance
    constructor
    · intro member
      cases member
    · rintro ⟨side, index, _, below, _⟩
      exact absurd below (Nat.not_lt_zero index)

end DualInputWindow

end FlyNes.Dual
