import FlyNes.DualLockstep

namespace FlyNes.Dual

/-!
# One device in lockstep

What the calls of the controller do to a device whose window is in lockstep: the
own input goes into the window and into the queue, the peer's bundles go into
the window, and a frame is stepped as soon as it has both.
-/

/-! ### Bundles that are built -/

theorem normalize_idempotent_of_small :
    ∀ value < 256,
      normalizeDualPortMask
          (normalizeDualPortMask (UInt32.ofNat value)) =
        normalizeDualPortMask (UInt32.ofNat value) := by
  decide +kernel

theorem small_has_no_high_bits :
    ∀ value < 256, UInt32.ofNat value &&& ~~~kDualFullPortMask = 0 := by
  decide +kernel

variable {mask : UInt32}

theorem small_of_no_high_bits
    (small : mask &&& ~~~kDualFullPortMask = 0) :
    mask.toNat < 256 := by
  have bound := mask.toNat_lt
  have masked : mask.toNat &&& 0xFFFFFF00 = 0 := by
    have same := congrArg UInt32.toNat small
    rwa [UInt32.toNat_and] at same
  have shifted : (mask.toNat >>> 8) &&& (2 ^ 24 - 1) = 0 := by
    have same := congrArg (· >>> 8) masked
    simpa [Nat.shiftRight_and_distrib] using same
  rw [Nat.and_two_pow_sub_one_eq_mod, Nat.shiftRight_eq_div_pow] at shifted
  omega

theorem normalize_idempotent
    (small : mask &&& ~~~kDualFullPortMask = 0) :
    normalizeDualPortMask (normalizeDualPortMask mask) =
      normalizeDualPortMask mask := by
  have checked :=
    normalize_idempotent_of_small mask.toNat (small_of_no_high_bits small)
  rwa [UInt32.ofNat_toNat] at checked

theorem normalize_lt
    (mask : UInt32) :
    (normalizeDualPortMask mask).toNat < 256 := by
  rw [normalizeDualPortMask]
  simp only [UInt32.toNat_and]
  exact Nat.lt_of_le_of_lt Nat.and_le_right (by decide)

theorem normalize_high_bits
    (mask : UInt32) :
    normalizeDualPortMask mask &&& ~~~kDualFullPortMask = 0 := by
  have checked := small_has_no_high_bits _ (normalize_lt mask)
  rwa [UInt32.ofNat_toNat] at checked

variable {samples : DualPortInputArray} {bundle : DualInputBundle}

/-- Everything a bundle needs in order to be built. -/
theorem canonicalInputBuild_ok
    {key : DualInputKey}
    {seat : UInt8}
    {owner : KeyId}
    (built : canonicalInputBuild key seat owner samples = .ok bundle) :
    bundle.key = key ∧ bundle.logicalSeat = seat ∧
      bundle.ownerSigningKeyId = owner ∧ bundle.predictedPortMask = 0 ∧
        allZero owner = false ∧
        (∀ port, (bundle.ports port).inputSequence = (samples port).sequence) ∧
          canonicalInputIsCanonical bundle = true := by
  unfold canonicalInputBuild at built
  split at built
  · cases built
  next seated =>
  split at built
  · cases built
  next valid =>
  split at built
  · cases built
  next keyed =>
  split at built
  · cases built
  next increasing =>
  split at built
  · cases built
  next small =>
  cases built
  refine ⟨rfl, rfl, rfl, rfl, by simpa using keyed, fun _ => rfl, ?_⟩
  have ports : ∀ port,
      normalizeDualPortMask (samples port).mask &&& ~~~kDualFullPortMask = 0 ∧
        normalizeDualPortMask (samples port).mask =
          normalizeDualPortMask
            (normalizeDualPortMask (samples port).mask) := by
    intro port
    refine ⟨normalize_high_bits _, ?_⟩
    rw [normalize_idempotent]
    by_contra high
    exact small ⟨port, high⟩
  have seat : seat.toNat < kDualPortCount := Nat.not_le.mp seated
  simp only [Bool.not_eq_true', Bool.not_eq_false] at valid increasing
  simp [canonicalInputIsCanonical, valid, seat, increasing, keyed]
  exact ⟨by decide, ports⟩

/-- A bundle built for a device's seat is a sample of that device. -/
theorem sample_of_build
    {context : DualInputKey}
    {keys : Side → KeyId}
    {side : Side}
    {frame : Nat}
    (built : canonicalInputBuild
      { context with frameIndex := UInt64.ofNat frame }
      (UInt8.ofNat side.seat) (keys side) samples = .ok bundle) :
    Sample context keys side frame bundle := by
  obtain ⟨key, seat, owner, real, _, _, canonical⟩ :=
    canonicalInputBuild_ok built
  exact ⟨key, seat, owner, canonical, real⟩

/-! ### The scheduler -/

/-- The inputs of the first frames. -/
def jointInputs
    (context : DualInputKey)
    (keys : Side → KeyId)
    (sent : Side → List DualInputBundle)
    (count : Nat) : List DualInputBundle :=
  (List.range count).map fun frame =>
    jointBundle context keys frame fun side => ((sent side)[frame]?).getD {}

/-- More bundles of the devices do not change the first frames. -/
theorem jointInputs_append
    (context : DualInputKey)
    (keys : Side → KeyId)
    {sent more : Side → List DualInputBundle}
    {count : Nat}
    (reach : ∀ side, count ≤ (sent side).length)
    (grows : ∀ side, sent side <+: more side) :
    jointInputs context keys more count =
      jointInputs context keys sent count := by
  apply List.map_congr_left
  intro frame member
  have below := List.mem_range.mp member
  congr 1
  funext side
  obtain ⟨rest, grown⟩ := grows side
  rw [← grown, List.getElem?_append_left
    (Nat.lt_of_lt_of_le below (reach side))]

namespace DualRunScheduler

variable {Core : Type}
variable {context : DualInputKey}
variable {keys : Side → KeyId}
variable {sent : Side → List DualInputBundle}
variable {taken : Side → Nat}
variable {frame : Nat}
variable {scheduler : DualRunScheduler (Core × List DualInputBundle)}

/-- A scheduler whose window is in lockstep, with everything it has stepped. -/
structure Lockstep
    (context : DualInputKey)
    (keys : Side → KeyId)
    (sent : Side → List DualInputBundle)
    (taken : Side → Nat)
    (frame : Nat)
    (scheduler : DualRunScheduler (Core × List DualInputBundle)) : Prop where
  window : scheduler.window.Lockstep context keys sent taken frame
  next : scheduler.nextFrame = UInt64.ofNat frame
  inUse : scheduler.shutdown = false
  stepped : scheduler.core.2 = jointInputs context keys sent frame

/-- A change of the lifecycle does not matter. -/
theorem Lockstep.transfer
    (lockstep : scheduler.Lockstep context keys sent taken frame)
    {after : DualRunScheduler (Core × List DualInputBundle)}
    (window : after.window = scheduler.window)
    (next : after.nextFrame = scheduler.nextFrame)
    (inUse : after.shutdown = scheduler.shutdown)
    (core : after.core = scheduler.core) :
    after.Lockstep context keys sent taken frame := by
  refine ⟨?_, ?_, ?_, ?_⟩
  · rw [window]
    exact lockstep.window
  · rw [next]
    exact lockstep.next
  · rw [inUse]
    exact lockstep.inUse
  · rw [core]
    exact lockstep.stepped

theorem Lockstep.append
    (lockstep : scheduler.Lockstep context keys sent taken frame)
    {more : Side → List DualInputBundle}
    (reach : ∀ side, taken side ≤ (sent side).length)
    (below : ∀ side, frame ≤ (sent side).length)
    (grows : ∀ side, sent side <+: more side) :
    scheduler.Lockstep context keys more taken frame := by
  refine ⟨lockstep.window.append reach grows, lockstep.next, lockstep.inUse, ?_⟩
  rw [lockstep.stepped, jointInputs_append context keys below grows]

theorem requireRunning_eq
    (inUse : scheduler.shutdown = false) :
    scheduler.requireRunning =
      if scheduler.state = .running then .ok else .invalidState := by
  unfold requireRunning
  rw [inUse]
  cases scheduler.state <;> rfl

/-- A scheduler that does not run takes nothing in. -/
theorem acceptRemoteInput_halted
    (inUse : scheduler.shutdown = false)
    (halted : scheduler.state ≠ .running)
    (bundle : DualInputBundle) :
    scheduler.acceptRemoteInput bundle =
      (.invalidState, .rejectedFrozen, scheduler) := by
  simp [acceptRemoteInput, requireRunning_eq inUse, halted]

theorem acceptLocalInput_halted
    (inUse : scheduler.shutdown = false)
    (halted : scheduler.state ≠ .running)
    (samples : DualPortInputArray)
    (seat : UInt8) :
    scheduler.acceptLocalInput samples seat =
      (.invalidState, .rejectedFrozen, scheduler) := by
  simp [acceptLocalInput, requireRunning_eq inUse, halted]

variable {bundle : DualInputBundle}

/-- The next bundle of the peer is taken in. -/
theorem Lockstep.acceptRemoteInput
    (lockstep : scheduler.Lockstep context keys sent taken frame)
    (genuine : Genuine context keys sent)
    (running : scheduler.state = .running)
    (side : Side)
    (next : (sent side)[taken side]? = some bundle)
    (keyed : allZero (keys side) = false)
    (low : frame ≤ taken side)
    (high : taken side ≤ frame + 4) :
    ∃ after,
      scheduler.acceptRemoteInput bundle = (.accepted, .accepted, after) ∧
        after.state = .running ∧
        after.Lockstep context keys sent
          (Function.update taken side (taken side + 1)) frame := by
  obtain ⟨window, delivered, inStep⟩ :=
    lockstep.window.deliver genuine next keyed low high
  refine ⟨{ scheduler with window := window }, ?_, running, ?_⟩
  · simp [DualRunScheduler.acceptRemoteInput, requireRunning_eq lockstep.inUse,
      running, delivered, handleWindowStatus, admitForWindowStatus]
  · exact ⟨inStep, lockstep.next, lockstep.inUse, lockstep.stepped⟩

variable {side : Side}

/-- The own input for the next frame is delivered as the bundle it makes. -/
theorem Lockstep.acceptLocalInput
    (lockstep : scheduler.Lockstep context keys sent taken frame)
    (running : scheduler.state = .running)
    {samples : DualPortInputArray}
    (built : canonicalInputBuild
      { context with frameIndex := UInt64.ofNat frame }
      (UInt8.ofNat side.seat) (keys side) samples = .ok bundle) :
    scheduler.acceptLocalInput samples (UInt8.ofNat side.seat) =
      scheduler.acceptRemoteInput bundle := by
  have keyed := (canonicalInputBuild_ok built).2.2.2.2.1
  rw [← lockstep.window.step] at built
  have delivered := lockstep.window.seated.deliverLocalInput built keyed
  simp [DualRunScheduler.acceptLocalInput, DualRunScheduler.acceptRemoteInput,
    requireRunning_eq lockstep.inUse, running, delivered]

/-- Another sample for the same frame freezes the scheduler. -/
theorem Lockstep.resubmit
    (lockstep : scheduler.Lockstep context keys sent taken frame)
    (genuine : Genuine context keys sent)
    (running : scheduler.state = .running)
    {first second : DualInputBundle}
    (sentThere : (sent side)[frame]? = some first)
    (isTaken : frame < taken side)
    (sample : Sample context keys side frame second)
    (keyed : allZero (keys side) = false)
    (differs : (first.ports side.seat).inputSequence ≠
      (second.ports side.seat).inputSequence) :
    ∃ after,
      scheduler.acceptRemoteInput second =
          (.invalidState, .rejectedEquivocation, after) ∧
        after.state = .frozen ∧
        after.Lockstep context keys sent taken frame := by
  have refused := lockstep.window.resubmit genuine sentThere isTaken sample
    keyed differs
  refine ⟨(scheduler.freeze .committedHistoryRewrite).2, ?_, rfl, ?_⟩
  · simp [DualRunScheduler.acceptRemoteInput, requireRunning_eq lockstep.inUse,
      running, refused, handleWindowStatus, admitForWindowStatus, freeze]
  · exact lockstep.transfer rfl rfl rfl rfl

variable {port : DualRuntimePort Core}

/-- What executing a plan leaves behind when nothing fails. -/
theorem executePlan_recording
    (succeeds : port.Succeeds)
    {plan : DualWindowPlan}
    {window : DualInputWindow}
    (scheduler : DualRunScheduler (Core × List DualInputBundle))
    (marked : scheduler.window.markPlanned plan.frameIndex
      plan.predictedPortMask = (.ok, window)) :
    ∃ after,
      executePlan port.recording plan scheduler = (.ok, after) ∧
        after.window = window ∧
        after.nextFrame = plan.frameIndex + 1 ∧
        after.state = scheduler.state ∧
        after.shutdown = scheduler.shutdown ∧
        after.core.2 = scheduler.core.2 ++ [plan.bundle] := by
  have stepOk := succeeds.step plan.bundle scheduler.core.1
  have digestOk := succeeds.stateDigest plan.frameIndex
    (port.step plan.bundle scheduler.core.1).2.2
  simp only [executePlan, DualRuntimePort.recording, stepOk, digestOk, ne_eq,
    not_true_eq_false, if_false, retire, recordDigest, marked]
  exact ⟨_, rfl, rfl, rfl, rfl, rfl, rfl⟩

/-- A frame with both samples is stepped. -/
theorem Lockstep.stepNextFrame
    (succeeds : port.Succeeds)
    (lockstep : scheduler.Lockstep context keys sent taken frame)
    (genuine : Genuine context keys sent)
    (running : scheduler.state = .running)
    (both : ∀ side, frame < taken side)
    (reach : ∀ side, taken side ≤ (sent side).length) :
    ∃ after,
      scheduler.stepNextFrame port.recording = (.ok, after) ∧
        after.state = .running ∧
        after.Lockstep context keys sent taken (frame + 1) := by
  have sentThere : ∀ side,
      (sent side)[frame]? = some (((sent side)[frame]?).getD {}) := by
    intro side
    have below : frame < (sent side).length :=
      Nat.lt_of_lt_of_le (both side) (reach side)
    rw [List.getElem?_eq_getElem below]
    rfl
  obtain ⟨plan, window, planned, isOk, ofFrame, bundle, predicted, marked,
    inStep⟩ := lockstep.window.execute genuine both sentThere
  have narrow : frame < 2 ^ 62 :=
    Nat.lt_of_lt_of_le (both .initiator)
      (Nat.le_trans (reach .initiator) (Nat.le_of_lt (genuine.narrow _)))
  have nextFrame : plan.frameIndex + 1 = UInt64.ofNat (frame + 1) := by
    rw [ofFrame]
    apply UInt64.toNat_inj.mp
    simp only [UInt64.toNat_add, UInt64.toNat_ofNat', UInt64.toNat_one]
    omega
  have executed : scheduler.stepNextFrame port.recording =
      executePlan port.recording plan
        { scheduler with window := scheduler.window.materialize } := by
    simp [DualRunScheduler.stepNextFrame, requireRunning_eq lockstep.inUse,
      running, planned, isOk]
  obtain ⟨after, isAfter, sameWindow, next, state, shutdown, stepped⟩ :=
    executePlan_recording succeeds
      { scheduler with window := scheduler.window.materialize } marked
  refine ⟨after, executed.trans isAfter, state.trans running, ?_⟩
  refine ⟨?_, next.trans nextFrame, shutdown.trans lockstep.inUse, ?_⟩
  · rw [sameWindow]
    exact inStep
  · rw [stepped, jointInputs, List.range_succ, List.map_append, ← jointInputs,
      ← lockstep.stepped, List.map_singleton, ← bundle]

end DualRunScheduler

end FlyNes.Dual
