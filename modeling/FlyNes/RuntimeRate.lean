import FlyNes.RuntimeCalls

namespace FlyNes.Emulation

open ByteString

/-!
# The rate of a runtime

A runtime has its rate from its configuration.  No call changes it: what a slot keeps
was captured at that rate, and a checkpoint at another one is refused.
-/

namespace Runtime

variable {State : Type} {core : NesCore State}
variable {runtime : Runtime State}

/-- A runtime has a rate, and so have the snapshots that it keeps. -/
structure Rated (rate : UInt32) (runtime : Runtime State) : Prop where
  sampleRate : runtime.sampleRate = rate
  slots :
    ∀ slot, (runtime.rollback slot).valid = true → (runtime.rollback slot).sampleRate = rate

variable {rate : UInt32}

theorem stepFrame_keeps
    (input : FrameInput)
    (resultHeader : StructHeader)
    (nowNs : UInt64) :
    (runtime.stepFrame core input resultHeader nowNs).2.rollback = runtime.rollback ∧
      (runtime.stepFrame core input resultHeader nowNs).2.sampleRate =
        runtime.sampleRate := by
  have stepped := @stepFrame_cases State core runtime input resultHeader nowNs
  generalize runtime.stepFrame core input resultHeader nowNs = outcome at stepped ⊢
  cases stepped with
  | refused => exact ⟨rfl, rfl⟩
  | ran => exact ⟨rfl, rfl⟩
  | @uncopied samples nes =>
      obtain ⟨_, _, _, _, pushed⟩ :=
        @pushPcm_frame State { runtime.latched input with nes := some nes } samples
      rw [pushed]
      exact ⟨rfl, rfl⟩
  | @done samples nes =>
      obtain ⟨_, _, _, _, pushed⟩ :=
        @pushPcm_frame State { runtime.latched input with nes := some nes } samples
      rw [pushed]
      exact ⟨rfl, rfl⟩

section Keeping

variable (rated : runtime.Rated rate)

include rated

theorem Rated.loadRom
    (bytes : Bytes)
    (expected : Option (Block 32)) :
    (runtime.loadRom core bytes expected).2.Rated rate := by
  rcases @loadRom_cases State core runtime bytes expected with
    ⟨-, same⟩ | ⟨-, nes, romLoaded, reset⟩
  · rw [same]
    exact rated
  · rw [reset]
    exact ⟨rated.sampleRate, fun _ valid => by cases valid⟩

theorem Rated.loadRomFresh
    (bytes : Bytes)
    (expected : Option (Block 32)) :
    (runtime.loadRomFresh core bytes expected).2.Rated rate := by
  rcases @loadRomFresh_cases State core runtime bytes expected with
    ⟨-, same⟩ | ⟨-, nes, romLoaded, reset⟩
  · rw [same]
    exact rated
  · rw [reset]
    exact ⟨rated.sampleRate, fun _ valid => by cases valid⟩

theorem Rated.stepFrame
    (input : FrameInput)
    (resultHeader : StructHeader)
    (nowNs : UInt64) :
    (runtime.stepFrame core input resultHeader nowNs).2.Rated rate := by
  obtain ⟨rollback, sampleRate⟩ :=
    @stepFrame_keeps State core runtime input resultHeader nowNs
  refine ⟨sampleRate.trans rated.sampleRate, ?_⟩
  rw [rollback]
  exact rated.slots

theorem Rated.clearInputPorts
    (portMask reason : UInt32) :
    (runtime.clearInputPorts core portMask reason).2.Rated rate := by
  unfold Runtime.clearInputPorts
  split
  · exact rated
  · exact ⟨rated.sampleRate, rated.slots⟩

theorem Rated.pullPcm
    (sampleCapacity : Nat)
    (header : StructHeader)
    (ownsLock : Bool) :
    (runtime.pullPcm sampleCapacity header ownsLock).2.Rated rate := by
  unfold Runtime.pullPcm
  split
  · exact rated
  · split
    · exact rated
    · split
      · exact rated
      · exact ⟨rated.sampleRate, rated.slots⟩

/-- A snapshot is applied only with the rate of the runtime. -/
theorem Rated.applySnapshot
    {snapshot : Snapshot}
    (same : snapshot.sampleRate = rate)
    (clearRollback : Bool) :
    (runtime.applySnapshot core snapshot clearRollback).2.Rated rate := by
  have restored (runtime : Runtime State) (rated : runtime.Rated rate) :
      (runtime.restored snapshot clearRollback).Rated rate := by
    refine ⟨same, ?_⟩
    cases clearRollback with
    | true => exact fun _ valid => by cases valid
    | false => exact rated.slots
  have cases := @applySnapshot_cases State core runtime snapshot clearRollback
  generalize runtime.applySnapshot core snapshot clearRollback = outcome at cases ⊢
  cases cases with
  | refused => exact rated
  | unloaded => exact restored _ ⟨rated.sampleRate, rated.slots⟩
  | failed => exact ⟨rated.sampleRate, rated.slots⟩
  | loaded => exact restored _ ⟨rated.sampleRate, rated.slots⟩

theorem Rated.restoreRollback
    (slot : Nat) :
    (runtime.restoreRollback core slot).2.Rated rate := by
  unfold Runtime.restoreRollback
  split
  · dsimp only
    split
    · exact rated
    · next valid => exact rated.applySnapshot (rated.slots _ (by simpa using valid)) false
  · exact rated

theorem Rated.captureSnapshot
    (memory : Memory)
    {old : Snapshot}
    (before : old.valid = true → old.sampleRate = rate)
    (valid : (runtime.captureSnapshot core memory old).2.valid = true) :
    (runtime.captureSnapshot core memory old).2.sampleRate = rate := by
  unfold Runtime.captureSnapshot at valid ⊢
  dsimp only at valid ⊢
  split
  · next absent =>
    rw [absent] at valid
    exact before valid
  · split
    · exact rated.sampleRate
    · split
      · exact rated.sampleRate
      · split
        · exact rated.sampleRate
        · exact rated.sampleRate

theorem Rated.captureRollback
    (slot : Nat)
    (memory : Memory) :
    (runtime.captureRollback core slot memory).2.Rated rate := by
  unfold Runtime.captureRollback
  split
  · next within =>
    refine ⟨rated.sampleRate, ?_⟩
    intro other
    by_cases same : other = ⟨slot, within⟩
    · subst same
      dsimp only
      rw [Function.update_self]
      exact rated.captureSnapshot memory (rated.slots _)
    · dsimp only
      rw [Function.update_of_ne same]
      exact rated.slots other
  · exact rated

theorem Rated.loadCheckpointFor
    (bytes : Bytes)
    (expectedTimelineEpoch : UInt64)
    (memory : Memory) :
    (runtime.loadCheckpointFor core bytes expectedTimelineEpoch memory).2.Rated rate := by
  unfold Runtime.loadCheckpointFor
  split
  · exact rated
  · split
    · exact rated
    · split
      · exact rated
      · split
        · exact rated
        · split
          · exact rated
          · next same =>
            exact rated.applySnapshot ((not_not.mp same).trans rated.sampleRate) true

theorem Rated.loadCheckpointForEpoch
    (bytes : Bytes)
    (expectedTimelineEpoch : UInt64)
    (memory : Memory) :
    (runtime.loadCheckpointForEpoch core bytes expectedTimelineEpoch memory).2.Rated rate := by
  unfold Runtime.loadCheckpointForEpoch
  split
  · exact rated
  · exact rated.loadCheckpointFor _ _ _

end Keeping

theorem Rated.perform (rated : runtime.Rated rate) (call : RuntimeCall) :
    (runtime.perform core call).2.Rated rate := by
  cases call with
  | loadRom bytes expected => exact rated.loadRom bytes expected
  | loadRomFresh bytes expected => exact rated.loadRomFresh bytes expected
  | stepFrame input resultHeader nowNs => exact rated.stepFrame input resultHeader nowNs
  | copyFrameDigest => exact rated
  | getSourceTiming => exact rated
  | clearInputPorts portMask reason => exact rated.clearInputPorts portMask reason
  | copyLatestFrame => exact rated
  | pullPcm sampleCapacity header ownsLock =>
      exact rated.pullPcm sampleCapacity header ownsLock
  | captureRollback slot memory => exact rated.captureRollback slot memory
  | restoreRollback slot => exact rated.restoreRollback slot
  | saveCheckpoint => exact rated
  | loadCheckpoint bytes memory => exact rated.loadCheckpointFor bytes 0 memory
  | loadCheckpointForEpoch bytes expectedTimelineEpoch memory =>
      exact rated.loadCheckpointForEpoch bytes expectedTimelineEpoch memory

theorem Rated.after (rated : runtime.Rated rate) (calls : List RuntimeCall) :
    (runtime.after core calls).Rated rate := by
  induction calls generalizing runtime with
  | nil => exact rated
  | cons call rest inductionHypothesis => exact inductionHypothesis (rated.perform call)

/-- The rate of a runtime that is created is one that a checkpoint may have. -/
theorem rated_create
    {config : RuntimeConfig}
    (created : Runtime.create core config = .ok runtime) :
    runtime.Rated runtime.sampleRate ∧ 44100 ≤ runtime.sampleRate ∧
      runtime.sampleRate ≤ 96000 := by
  unfold Runtime.create at created
  split at created
  · simp at created
  · next valid =>
    dsimp only at created
    split at created
    · simp at created
    · obtain rfl := Except.ok.inj created
      refine ⟨⟨rfl, fun _ valid => by cases valid⟩, ?_⟩
      dsimp only
      split
      · decide
      · next positive =>
        have checked := not_not.mp valid
        unfold validateConfig at checked
        split at checked
        · next failed => exact absurd checked failed
        · split at checked
          · cases checked
          · split at checked
            · cases checked
            · next range =>
              have range := not_or.mp fun out => range ⟨positive, out⟩
              exact ⟨UInt32.not_lt.mp range.1, UInt32.not_lt.mp range.2⟩

end Runtime

end FlyNes.Emulation
