import FlyNes.RuntimeCalls

namespace FlyNes.Emulation

open ByteString
open FlyNes.Wire (sha256)

/-!
# The digest of a frame

A digest is computed on demand from the core as it is.  The runtime remembers only
that the last change of the core was a step that went through, and of which frame.
-/

/-- A core that refuses the state of another ROM has not touched its own. -/
def NesCore.RefusesUntouched {State : Type} (core : NesCore State) : Prop :=
  ∀ nes bytes,
    (core.loadState nes bytes).1 = .returned nesErrStateRomMismatch →
      (core.loadState nes bytes).2 = nes

namespace Runtime

variable {State : Type} {core : NesCore State}
variable {runtime : Runtime State}

/-- Two runtimes would give the same digest. -/
structure SameDigest (runtime later : Runtime State) : Prop where
  nes : later.nes = runtime.nes
  hasFrameDigest : later.hasFrameDigest = runtime.hasFrameDigest
  timelineEpoch : later.timelineEpoch = runtime.timelineEpoch
  nextFrameIndex : later.nextFrameIndex = runtime.nextFrameIndex
  predictedPortMask : later.predictedPortMask = runtime.predictedPortMask
  framePcmSha256 : later.framePcmSha256 = runtime.framePcmSha256
  completePixels : later.completePixels = runtime.completePixels

theorem SameDigest.refl (runtime : Runtime State) : runtime.SameDigest runtime :=
  ⟨rfl, rfl, rfl, rfl, rfl, rfl, rfl⟩

theorem SameDigest.trans
    {first second third : Runtime State}
    (left : first.SameDigest second)
    (right : second.SameDigest third) :
    first.SameDigest third where
  nes := right.nes.trans left.nes
  hasFrameDigest := right.hasFrameDigest.trans left.hasFrameDigest
  timelineEpoch := right.timelineEpoch.trans left.timelineEpoch
  nextFrameIndex := right.nextFrameIndex.trans left.nextFrameIndex
  predictedPortMask := right.predictedPortMask.trans left.predictedPortMask
  framePcmSha256 := right.framePcmSha256.trans left.framePcmSha256
  completePixels := right.completePixels.trans left.completePixels

/-- A call either leaves the digest as it is, or there is none afterwards. -/
def Forgets (runtime later : Runtime State) : Prop :=
  later.hasFrameDigest = false ∨ runtime.SameDigest later

theorem Forgets.refl (runtime : Runtime State) : runtime.Forgets runtime :=
  .inr (.refl runtime)

theorem forgets_loadRom (bytes : Bytes) (expected : Option (Block 32)) :
    runtime.Forgets (runtime.loadRom core bytes expected).2 := by
  rcases @loadRom_cases State core runtime bytes expected with
    ⟨-, same⟩ | ⟨-, nes, romLoaded, reset⟩
  · rw [same]
    exact .refl runtime
  · rw [reset]
    exact .inl rfl

theorem forgets_loadRomFresh (bytes : Bytes) (expected : Option (Block 32)) :
    runtime.Forgets (runtime.loadRomFresh core bytes expected).2 := by
  rcases @loadRomFresh_cases State core runtime bytes expected with
    ⟨-, same⟩ | ⟨-, nes, romLoaded, reset⟩
  · rw [same]
    exact .refl runtime
  · rw [reset]
    exact .inl rfl

/-- Only a refusal that has not touched the core keeps a digest. -/
theorem forgets_applySnapshot
    (untouched : core.RefusesUntouched)
    (snapshot : Snapshot)
    (clearRollback : Bool) :
    runtime.Forgets (runtime.applySnapshot core snapshot clearRollback).2 := by
  have applied := @applySnapshot_cases State core runtime snapshot clearRollback
  generalize runtime.applySnapshot core snapshot clearRollback = outcome at applied ⊢
  cases applied with
  | refused => exact .refl runtime
  | unloaded => exact .inl rfl
  | loaded => exact .inl rfl
  | @failed nes result kept owned failure mismatch =>
      cases kept with
      | false => exact .inl rfl
      | true =>
          have same := untouched nes snapshot.core (mismatch rfl)
          exact .inr
            ⟨by rw [same, owned], rfl, rfl, rfl, rfl, rfl, rfl⟩

theorem forgets_restoreRollback
    (untouched : core.RefusesUntouched)
    (slot : Nat) :
    runtime.Forgets (runtime.restoreRollback core slot).2 := by
  unfold restoreRollback
  split
  · dsimp only
    split
    · exact .refl runtime
    · exact forgets_applySnapshot untouched _ _
  · exact .refl runtime

theorem forgets_loadCheckpointFor
    (untouched : core.RefusesUntouched)
    (bytes : Bytes)
    (expectedTimelineEpoch : UInt64)
    (memory : Memory) :
    runtime.Forgets
      (runtime.loadCheckpointFor core bytes expectedTimelineEpoch memory).2 := by
  unfold loadCheckpointFor
  split
  · exact .refl runtime
  · split
    · exact .refl runtime
    · split
      · exact .refl runtime
      · split
        · exact .refl runtime
        · split
          · exact .refl runtime
          · exact forgets_applySnapshot untouched _ _

theorem forgets_loadCheckpointForEpoch
    (untouched : core.RefusesUntouched)
    (bytes : Bytes)
    (expectedTimelineEpoch : UInt64)
    (memory : Memory) :
    runtime.Forgets
      (runtime.loadCheckpointForEpoch core bytes expectedTimelineEpoch memory).2 := by
  unfold loadCheckpointForEpoch
  split
  · exact .refl runtime
  · exact forgets_loadCheckpointFor untouched _ _ _

theorem forgets_clearInputPorts (portMask reason : UInt32) :
    runtime.Forgets (runtime.clearInputPorts core portMask reason).2 := by
  unfold clearInputPorts
  split
  · exact .refl runtime
  · exact .inl rfl

theorem forgets_pullPcm
    (sampleCapacity : Nat)
    (header : StructHeader)
    (ownsLock : Bool) :
    runtime.Forgets (runtime.pullPcm sampleCapacity header ownsLock).2 := by
  unfold pullPcm
  split
  · exact .refl runtime
  · split
    · exact .refl runtime
    · split
      · exact .refl runtime
      · exact .inr ⟨rfl, rfl, rfl, rfl, rfl, rfl, rfl⟩

theorem forgets_captureRollback (slot : Nat) (memory : Memory) :
    runtime.Forgets (runtime.captureRollback core slot memory).2 := by
  unfold captureRollback
  split
  · exact .inr ⟨rfl, rfl, rfl, rfl, rfl, rfl, rfl⟩
  · exact .refl runtime

variable {input : FrameInput} {resultHeader : StructHeader} {nowNs : UInt64}

/-- A step that does not go through leaves no digest, unless it was refused outright. -/
theorem forgets_stepFrame
    (failure : (runtime.stepFrame core input resultHeader nowNs).1.result ≠ .ok) :
    runtime.Forgets (runtime.stepFrame core input resultHeader nowNs).2 := by
  have stepped := @stepFrame_cases State core runtime input resultHeader nowNs
  generalize runtime.stepFrame core input resultHeader nowNs = outcome at stepped failure ⊢
  cases stepped with
  | refused => exact .refl runtime
  | ran => exact .inl rfl
  | @uncopied samples nes pixels =>
      obtain ⟨_, _, _, _, pushed⟩ :=
        @pushPcm_frame State { runtime.latched input with nes := some nes } samples
      rw [pushed]
      exact .inl rfl
  | done => exact absurd rfl failure

/-- The frame that a step has gone through for. -/
structure Digests
    (runtime : Runtime State)
    (input : FrameInput)
    (produced : List Int16) : Prop where
  timelineEpoch : runtime.timelineEpoch = input.timelineEpoch
  nextFrameIndex : runtime.nextFrameIndex = input.frameIndex + 1
  predictedPortMask : runtime.predictedPortMask = input.predictedPortMask
  framePcmSha256 : runtime.framePcmSha256 = sha256 (pcmBytes produced)

theorem digests_stepFrame
    (success : (runtime.stepFrame core input resultHeader nowNs).1.result = .ok) :
    (runtime.stepFrame core input resultHeader nowNs).2.Digests input
      (runtime.stepFrame core input resultHeader nowNs).1.produced := by
  have stepped := @stepFrame_cases State core runtime input resultHeader nowNs
  generalize runtime.stepFrame core input resultHeader nowNs = outcome at stepped success ⊢
  cases stepped with
  | refused failure => exact absurd success failure
  | ran failure => exact absurd success failure
  | uncopied => simp at success
  | done => exact ⟨rfl, rfl, rfl, rfl⟩

theorem SameDigest.digests
    {later : Runtime State}
    {produced : List Int16}
    (same : runtime.SameDigest later)
    (digests : runtime.Digests input produced) :
    later.Digests input produced where
  timelineEpoch := same.timelineEpoch.trans digests.timelineEpoch
  nextFrameIndex := same.nextFrameIndex.trans digests.nextFrameIndex
  predictedPortMask := same.predictedPortMask.trans digests.predictedPortMask
  framePcmSha256 := same.framePcmSha256.trans digests.framePcmSha256

/-- Every call is a step that goes through, or it forgets the digest or leaves it alone. -/
theorem forgets_perform
    (untouched : core.RefusesUntouched)
    (runtime : Runtime State)
    (call : RuntimeCall) :
    (∃ input resultHeader nowNs,
        call = .stepFrame input resultHeader nowNs ∧
          (runtime.stepFrame core input resultHeader nowNs).1.result = .ok) ∨
      runtime.Forgets (runtime.perform core call).2 := by
  cases call with
  | loadRom bytes expected => exact .inr (forgets_loadRom bytes expected)
  | loadRomFresh bytes expected => exact .inr (forgets_loadRomFresh bytes expected)
  | stepFrame input resultHeader nowNs =>
      by_cases success : (runtime.stepFrame core input resultHeader nowNs).1.result = .ok
      · exact .inl ⟨input, resultHeader, nowNs, rfl, success⟩
      · exact .inr (forgets_stepFrame success)
  | copyFrameDigest => exact .inr (.refl runtime)
  | getSourceTiming => exact .inr (.refl runtime)
  | clearInputPorts portMask reason => exact .inr (forgets_clearInputPorts portMask reason)
  | copyLatestFrame => exact .inr (.refl runtime)
  | pullPcm sampleCapacity header ownsLock =>
      exact .inr (forgets_pullPcm sampleCapacity header ownsLock)
  | captureRollback slot memory => exact .inr (forgets_captureRollback slot memory)
  | restoreRollback slot => exact .inr (forgets_restoreRollback untouched slot)
  | saveCheckpoint => exact .inr (.refl runtime)
  | loadCheckpoint bytes memory =>
      exact .inr (forgets_loadCheckpointFor untouched bytes 0 memory)
  | loadCheckpointForEpoch bytes expectedTimelineEpoch memory =>
      exact .inr (forgets_loadCheckpointForEpoch untouched bytes expectedTimelineEpoch memory)

/-- What a digest is made of. -/
theorem copyFrameDigest_ok
    {timelineEpoch frameIndex : UInt64}
    {header : StructHeader}
    {memory : Memory}
    {digest : FrameDigest}
    (copied :
      runtime.copyFrameDigest core timelineEpoch frameIndex header memory = .ok digest) :
    runtime.hasFrameDigest = true ∧ runtime.timelineEpoch = timelineEpoch ∧
      runtime.nextFrameIndex - 1 = frameIndex ∧
      ∃ nes state,
        runtime.nes = some nes ∧
          readState (core.copyCanonicalState nes) memory = .ok state ∧
          digest =
            { timelineEpoch := timelineEpoch
              frameIndex := frameIndex
              predictedPortMask := runtime.predictedPortMask
              stateSha256 := sha256 state
              frameSha256 := sha256 runtime.completePixels.bytes
              pcmSha256 := runtime.framePcmSha256 } := by
  unfold copyFrameDigest at copied
  split at copied
  · cases copied
  · split at copied
    · cases copied
    · next present =>
      simp only [Bool.or_eq_true, Bool.not_eq_true', bne_iff_ne, not_or, Bool.not_eq_false,
        not_not] at present
      obtain ⟨⟨⟨⟨digests, -⟩, -⟩, epoch⟩, frame⟩ := present
      refine ⟨digests, epoch, frame, ?_⟩
      split at copied
      · cases copied
      · next nes owned =>
        split at copied
        · cases copied
        · next state read =>
          split at copied
          · cases copied
          · exact ⟨nes, state, owned, read, (Except.ok.inj copied).symm⟩

section Published

variable (input : FrameInput) (ran : RanFrames) (later : State)
variable (pixels : Block kRgb565Bytes) (nowNs : UInt64)

@[simp] theorem published_nes :
    (runtime.published input ran later pixels nowNs).nes = some later := by
  obtain ⟨_, _, _, _, pushed⟩ :=
    @pushPcm_frame State { runtime.latched input with nes := some later } ran.samples
  unfold published
  rw [pushed]
  rfl

theorem published_hasFrameDigest :
    (runtime.published input ran later pixels nowNs).hasFrameDigest = true :=
  rfl

theorem published_hasCompleteFrame :
    (runtime.published input ran later pixels nowNs).hasCompleteFrame = true :=
  rfl

theorem published_timelineSet :
    (runtime.published input ran later pixels nowNs).timelineSet = true :=
  rfl

theorem published_timelineEpoch :
    (runtime.published input ran later pixels nowNs).timelineEpoch = input.timelineEpoch :=
  rfl

theorem published_nextFrameIndex :
    (runtime.published input ran later pixels nowNs).nextFrameIndex = input.frameIndex + 1 :=
  rfl

/-- A frame that has been published can be digested. -/
theorem copyFrameDigest_published
    {header : StructHeader}
    {memory : Memory}
    {state : Bytes}
    (sized : checkHeader header kFrameDigestSize = .ok)
    (read : readState (core.copyCanonicalState later) memory = .ok state)
    (enough : memory kRgb565Bytes = true) :
    ∃ digest,
      (runtime.published input ran later pixels nowNs).copyFrameDigest core
          input.timelineEpoch input.frameIndex header memory =
        .ok digest := by
  unfold copyFrameDigest
  rw [if_neg (not_not.mpr sized), published_nes]
  simp [published_hasFrameDigest, published_hasCompleteFrame, published_timelineSet,
    published_timelineEpoch, published_nextFrameIndex, read, enough]

end Published

end Runtime

namespace RuntimeLog

variable {State : Type} {core : NesCore State}
variable {runtime : Runtime State}

/-- The core is the same after a call as before it. -/
def KeepsCore (core : NesCore State) (entry : RuntimeEntry State) : Prop :=
  (entry.before.perform core entry.call).2.nes = entry.before.nes

/-- A step of a frame that went through was the last call that changed the core. -/
structure LastStep
    (core : NesCore State)
    (entries : RuntimeLog State)
    (before : Runtime State)
    (input : FrameInput)
    (resultHeader : StructHeader)
    (nowNs : UInt64) : Prop where
  split :
    ∃ earlier later,
      entries =
          earlier ++
            Logbook.entry (Runtime.perform core) before
              (.stepFrame input resultHeader nowNs) :: later ∧
        ∀ other ∈ later, KeepsCore core other
  success : (before.stepFrame core input resultHeader nowNs).1.result = .ok

/-- A digest that is there belongs to the last step, and the core is as that step left it. -/
def Fresh
    (core : NesCore State)
    (entries : RuntimeLog State)
    (later : Runtime State) : Prop :=
  later.hasFrameDigest = true →
    ∃ before input resultHeader nowNs,
      LastStep core entries before input resultHeader nowNs ∧
        (before.stepFrame core input resultHeader nowNs).2.SameDigest later

variable {entries : RuntimeLog State}

theorem LastStep.later
    {before : Runtime State}
    {input : FrameInput}
    {resultHeader : StructHeader}
    {nowNs : UInt64}
    {entry : RuntimeEntry State}
    (last : LastStep core entries before input resultHeader nowNs)
    (keeps : KeepsCore core entry) :
    LastStep core (entries ++ [entry]) before input resultHeader nowNs := by
  obtain ⟨⟨earlier, later, rfl, kept⟩, success⟩ := last
  refine ⟨⟨earlier, later ++ [entry], by simp, ?_⟩, success⟩
  intro other member
  rcases List.mem_append.mp member with old | new
  · exact kept other old
  · obtain rfl := List.mem_singleton.mp new
    exact keeps

theorem Fresh.step
    (untouched : core.RefusesUntouched)
    (fresh : Fresh core entries runtime)
    (call : RuntimeCall) :
    Fresh core (entries ++ [Logbook.entry (Runtime.perform core) runtime call])
      (runtime.perform core call).2 := by
  intro present
  rcases Runtime.forgets_perform untouched runtime call with
    ⟨input, resultHeader, nowNs, rfl, success⟩ | none | same
  · exact ⟨runtime, input, resultHeader, nowNs, ⟨⟨entries, [], rfl, by simp⟩, success⟩,
      .refl _⟩
  · rw [none] at present
    cases present
  · obtain ⟨before, input, resultHeader, nowNs, last, held⟩ :=
      fresh (same.hasFrameDigest ▸ present)
    exact ⟨before, input, resultHeader, nowNs, last.later same.nes, held.trans same⟩

variable {config : RuntimeConfig}

theorem fresh_create
    (created : Runtime.create core config = .ok runtime) :
    Fresh core [] runtime := by
  unfold Runtime.create at created
  split at created
  · simp at created
  · dsimp only at created
    split at created
    · simp at created
    · obtain rfl := Except.ok.inj created
      intro present
      cases present

theorem fresh_run
    (untouched : core.RefusesUntouched)
    (created : Runtime.create core config = .ok runtime)
    (calls : List RuntimeCall) :
    Fresh core (RuntimeLog.ofCalls core runtime calls) (runtime.after core calls) :=
  Logbook.run_keeps (Runtime.perform core) (Fresh core) (fresh_create created)
    (fun _ _ call fresh => fresh.step untouched call) calls

/-- A digest is the one of the last call that changed the core, which was a step of its
frame, and it describes the core as it is. -/
theorem digest_of_last_step
    {config : RuntimeConfig}
    (untouched : core.RefusesUntouched)
    (created : Runtime.create core config = .ok runtime)
    (calls : List RuntimeCall)
    {timelineEpoch frameIndex : UInt64}
    {header : StructHeader}
    {memory : Memory}
    {digest : FrameDigest}
    (copied :
      (runtime.after core calls).copyFrameDigest core timelineEpoch frameIndex header memory =
        .ok digest) :
    ∃ before input resultHeader nowNs nes state,
      LastStep core (RuntimeLog.ofCalls core runtime calls) before input resultHeader nowNs ∧
        input.timelineEpoch = timelineEpoch ∧
        input.frameIndex = frameIndex ∧
        (before.stepFrame core input resultHeader nowNs).2.nes = some nes ∧
        (runtime.after core calls).nes = some nes ∧
        readState (core.copyCanonicalState nes) memory = .ok state ∧
        digest =
          { timelineEpoch := timelineEpoch
            frameIndex := frameIndex
            predictedPortMask := input.predictedPortMask
            stateSha256 := sha256 state
            frameSha256 :=
              sha256
                (before.stepFrame core input resultHeader nowNs).2.completePixels.bytes
            pcmSha256 :=
              sha256
                (pcmBytes (before.stepFrame core input resultHeader nowNs).1.produced) } := by
  obtain ⟨present, epoch, frame, nes, state, owned, read, rfl⟩ :=
    Runtime.copyFrameDigest_ok copied
  obtain ⟨before, input, resultHeader, nowNs, last, same⟩ :=
    fresh_run untouched created calls present
  have digests := same.digests (Runtime.digests_stepFrame last.success)
  refine ⟨before, input, resultHeader, nowNs, nes, state, last, ?_, ?_, ?_, owned, read, ?_⟩
  · rw [← epoch, digests.timelineEpoch]
  · rw [← frame, digests.nextFrameIndex, UInt64.add_sub_cancel]
  · rw [← same.nes, owned]
  · rw [digests.predictedPortMask, digests.framePcmSha256, same.completePixels]

def digestCalls : List RuntimeCall :=
  [.loadRom [1] none, .stepFrame sampleInput (sampleHeader kFrameResultSize) 0]

theorem metronome_refusesUntouched : metronome.RefusesUntouched := by
  intro nes bytes
  simp only [metronome]
  split
  · intro mismatch
    cases mismatch
  · intro _
    rfl

theorem load_digestCalls :
    ∃ loaded : Runtime Metronome,
      (sampleRuntime.loadRom metronome [1] none).2 = loaded ∧ loaded.romLoaded = true ∧
        loaded.timelineSet = false ∧ loaded.nes = some { held := 0, beat := 0 } :=
  ⟨_, rfl, rfl, rfl, rfl⟩

theorem digest_digestCalls :
    ∃ digest,
      (sampleRuntime.after metronome digestCalls).copyFrameDigest metronome 1 0
          (sampleHeader kFrameDigestSize) (fun _ => true) =
        .ok digest := by
  obtain ⟨loaded, load, rom, fresh, owned⟩ := load_digestCalls
  have next : loaded.expectsFrame sampleInput = true := by
    unfold Runtime.expectsFrame
    rw [fresh]
    rfl
  rw [digestCalls, Runtime.after_cons, Runtime.perform_loadRom, load, Runtime.after_cons,
    Runtime.perform_stepFrame,
    Runtime.stepFrame_runs 0 (by decide) (by decide) rom next owned,
    Runtime.runStep_whole 0 rfl rfl (Int.le_refl 0) rfl (metronome_videoFrame _)]
  exact Runtime.copyFrameDigest_published _ _ _ _ _ (by decide) rfl rfl

theorem sample_digest :
    metronome.RefusesUntouched ∧
      Runtime.create metronome sampleConfig = .ok sampleRuntime ∧
      ∃ digest before input resultHeader nowNs,
        (sampleRuntime.after metronome digestCalls).copyFrameDigest metronome 1 0
            (sampleHeader kFrameDigestSize) (fun _ => true) =
          .ok digest ∧
        LastStep metronome (RuntimeLog.ofCalls metronome sampleRuntime digestCalls) before input
          resultHeader nowNs ∧
        input.timelineEpoch = 1 ∧ input.frameIndex = 0 := by
  obtain ⟨digest, copied⟩ := digest_digestCalls
  obtain ⟨before, input, resultHeader, nowNs, nes, state, last, epoch, frame, -⟩ :=
    digest_of_last_step metronome_refusesUntouched sampleRuntime_created digestCalls copied
  exact ⟨metronome_refusesUntouched, sampleRuntime_created, digest, before, input,
    resultHeader, nowNs, copied, last, epoch, frame⟩

end RuntimeLog

end FlyNes.Emulation
