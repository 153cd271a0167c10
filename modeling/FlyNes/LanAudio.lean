import FlyNes.LanSilence
import FlyNes.RuntimeRing

namespace FlyNes.LanMvp

open ByteString
open Emulation (NesCore StructHeader kAudioScratchSamples kPcmCapacity)
open Lockstep (wrap64)

/-!
# The samples of a session

A session counts the samples that its runtime has produced and those it has pulled, next
to the runtime's own ring, which drops the oldest samples when it is full.  The runtime of
a session is the one of `Emulation`, loaded for one round and used by the session alone.
Both counters are positions of one sequence of samples, modulo 2^64.
-/

/-! ## The runtime of a session -/

/--
A runtime with the number of samples that its frames have pushed since its ROM was
loaded.  The number is for the statements only: no call reads it.
-/
structure Played (State : Type) where
  runtime : Emulation.Runtime State
  produced : Nat := 0

/-- What the outside decides about the calls of a runtime. -/
structure Outside (State : Type) where
  nowNs : Emulation.Runtime State → UInt64
  memory : Emulation.Runtime State → Emulation.Memory

/-- A struct as the session hands it over: of the right size and version. -/
def header (size : UInt32) : StructHeader where
  structSize := size
  version := 1

/-- The input of a frame, with everything the session does not set at zero. -/
def FrameInput.toRuntime (input : FrameInput) : Emulation.FrameInput where
  header := header Emulation.kFrameInputSize
  timelineEpoch := UInt64.ofNat input.timelineEpoch
  frameIndex := UInt64.ofNat input.frameIndex
  buttons port :=
    if port = 0 then input.buttons.1 else if port = 1 then input.buttons.2 else 0
  inputSequence port :=
    if port = 0 then UInt64.ofNat input.inputSequence.1
    else if port = 1 then UInt64.ofNat input.inputSequence.2
    else 0
  predictedPortMask := 0
  reserved0 := 0
  batchSequence := UInt64.ofNat input.batchSequence
  captureTimeNs := 0

/-- The part of a frame's result that the session reads. -/
def FrameResult.ofRuntime (frame : Emulation.FrameResult) : FrameResult where
  audioLastSampleSequence := frame.audioLastSampleSequence.toNat
  pcmPublished := frame.pcmPublished

/-- The part of a block that the session reads. -/
def PcmBlock.ofRuntime (block : Emulation.PcmBlock) : PcmBlock where
  sampleCount := block.samples.length
  firstSampleSequence := block.firstSampleSequence.toNat
  mediaTimeNs := block.mediaTimeNs.toNat

/-- The timing of a region, with the frame rate of its consoles. -/
def SourceTiming.ofRuntime (timing : Emulation.SourceTiming) : SourceTiming where
  sourceRegion := if timing.ntsc then 1 else 2
  frameRateNumerator := if timing.ntsc then 150247 else 50007
  frameRateDenominator := if timing.ntsc then 2500 else 1000
  sampleRate := timing.sampleRate

namespace Played

variable {State : Type} (core : NesCore State) (outside : Outside State)

def create : Option (Played State) :=
  match Emulation.Runtime.create core
      { header := header Emulation.kRuntimeConfigSize, sampleRate := 0, reserved := 0 } with
  | .ok runtime => some { runtime := runtime }
  | .error _ => none

def loadRomFresh
    (played : Played State)
    (rom : Bytes)
    (romHash : Hash) : Option (Played State) :=
  let (result, runtime) := played.runtime.loadRomFresh core rom (some romHash)
  if result = .ok then some { runtime := runtime } else none

def getSourceTiming (played : Played State) : Option SourceTiming :=
  match played.runtime.getSourceTiming core (header Emulation.kSourceTimingSize) with
  | .ok timing => some (.ofRuntime timing)
  | .error _ => none

def stepFrame
    (played : Played State)
    (input : FrameInput) : Option (Played State × FrameResult) :=
  let (answer, runtime) :=
    played.runtime.stepFrame core input.toRuntime (header Emulation.kFrameResultSize)
      (outside.nowNs played.runtime)
  if answer.result ≠ .ok then
    none
  else
    answer.frame.map fun frame =>
      ({ runtime := runtime, produced := played.produced + answer.produced.length },
        .ofRuntime frame)

def copyFrameDigest
    (played : Played State)
    (timelineEpoch frame : Nat) : Option Hash :=
  match played.runtime.copyFrameDigest core (UInt64.ofNat timelineEpoch)
      (UInt64.ofNat frame) (header Emulation.kFrameDigestSize)
      (outside.memory played.runtime) with
  | .ok digest => some digest.stateSha256
  | .error _ => none

def copyLatestFrame (played : Played State) (capacity : Nat) : Bool :=
  match played.runtime.copyLatestFrame capacity (header Emulation.kLatestFrameSize) with
  | .ok _ => true
  | .error _ => false

/-- Nobody else calls the runtime of a session, so a pull never finds it busy. -/
def pullPcm
    (played : Played State)
    (sampleCapacity : Nat) : Option (Played State × PcmBlock) :=
  let (answer, runtime) :=
    played.runtime.pullPcm sampleCapacity (header Emulation.kPcmBlockSize) true
  match answer with
  | .ok block => some ({ played with runtime := runtime }, .ofRuntime block)
  | .error _ => none

end Played

/-- The runtime of the repository, as the session calls it. -/
def playback
    {State : Type}
    (core : NesCore State)
    (outside : Outside State) : Runtime (Played State) where
  create := Played.create core
  loadRomFresh := Played.loadRomFresh core
  getSourceTiming := Played.getSourceTiming core
  stepFrame := Played.stepFrame core outside
  copyFrameDigest := Played.copyFrameDigest core outside
  copyLatestFrame := Played.copyLatestFrame
  pullPcm := Played.pullPcm

/-! ## The account of a round -/

/-- How many samples a round has produced, and up to which of them it has pulled. -/
structure AudioAccount where
  produced : Nat
  consumed : Nat
  ordered : consumed ≤ produced

namespace AudioAccount

/-- A round that has not produced anything. -/
def opened : AudioAccount where
  produced := 0
  consumed := 0
  ordered := Nat.le_refl 0

/-- More samples have been produced. -/
def produce (account : AudioAccount) (count : Nat) : AudioAccount where
  produced := account.produced + count
  consumed := account.consumed
  ordered := Nat.le_add_right_of_le account.ordered

/-- All samples up to a position have been pulled or given up. -/
def consume
    (account : AudioAccount)
    (position : Nat)
    (within : position ≤ account.produced) : AudioAccount where
  produced := account.produced
  consumed := position
  ordered := within

end AudioAccount

/-- The ring of a runtime holds the newest samples of a round, and some if any is due. -/
structure Played.Fits
    {State : Type}
    (played : Played State)
    (account : AudioAccount) : Prop where
  produced : played.produced = account.produced
  flowing : ∃ pushed, pushed.length = played.produced ∧ played.runtime.Flowing 0 pushed
  unread : account.consumed + played.runtime.pcmCount ≤ account.produced
  due : account.consumed < account.produced → 0 < played.runtime.pcmCount

namespace Played

variable {State : Type} {core : NesCore State} {outside : Outside State}
variable {played : Played State} {account : AudioAccount}

/-- The position of the oldest sample in the ring. -/
def oldest (played : Played State) : Nat :=
  played.produced - played.runtime.pcmCount

theorem Fits.count_le
    (fits : played.Fits account) :
    played.runtime.pcmCount ≤ played.produced := by
  obtain ⟨pushed, sized, flowing⟩ := fits.flowing
  rw [← sized]
  exact flowing.within

/-- What has been pulled lies before the oldest sample. -/
theorem Fits.consumed_le
    (fits : played.Fits account) :
    account.consumed ≤ played.oldest := by
  have unread := fits.unread
  have produced := fits.produced
  unfold oldest
  omega

/-- The read sequence of the ring is the position of its oldest sample. -/
theorem Fits.readSequence
    (fits : played.Fits account) :
    played.runtime.pcmReadSequence = UInt64.ofNat played.oldest := by
  obtain ⟨pushed, sized, flowing⟩ := fits.flowing
  have split : played.oldest + played.runtime.pcmCount = pushed.length := by
    have within := fits.count_le
    unfold oldest
    omega
  have sequence := flowing.level.sequence
  rw [flowing.produced, ← split, UInt64.zero_add, UInt64.ofNat_add] at sequence
  exact (UInt64.add_left_inj _).mp sequence

/-- The sequence behind the last of some samples is the producer's. -/
theorem toNat_last_succ (sequence : UInt64) :
    wrap64 ((sequence - 1).toNat + 1) = sequence.toNat := by
  have back : sequence - 1 + 1 = sequence := UInt64.sub_add_cancel sequence 1
  have sum := congrArg UInt64.toNat back
  rwa [UInt64.toNat_add] at sum

variable {later : Emulation.Runtime State}

/-- Newly pushed samples are counted, as far as the ring has room for them. -/
theorem Fits.produce
    (fits : played.Fits account)
    (count : Nat)
    (flowing :
      ∃ pushed, pushed.length = played.produced + count ∧ later.Flowing 0 pushed)
    (counted : later.pcmCount = min (played.runtime.pcmCount + count) kPcmCapacity) :
    ({ runtime := later, produced := played.produced + count } : Played State).Fits
      (account.produce count) where
  produced := congrArg (· + count) fits.produced
  flowing := flowing
  unread := by
    have unread := fits.unread
    change account.consumed + later.pcmCount ≤ account.produced + count
    omega
  due := by
    intro due
    change account.consumed < account.produced + count at due
    have capacity : 0 < kPcmCapacity := by decide
    have before := fits.due
    change 0 < later.pcmCount
    omega

/-- A ROM that has been loaded opens a new account. -/
theorem fits_loaded
    {rom : Bytes}
    {romHash : Hash}
    {loaded : Played State}
    (load : played.loadRomFresh core rom romHash = some loaded) :
    loaded.Fits AudioAccount.opened := by
  have reset := @Emulation.Runtime.loadRomFresh_cases State core played.runtime rom (some romHash)
  unfold loadRomFresh at load
  rcases reset with ⟨refused, _⟩ | ⟨_, nes, romLoaded, reset⟩
  · have failed : (played.runtime.loadRomFresh core rom (some romHash)).1 = .invalidArgument := by
      unfold Emulation.Runtime.loadRomFresh
      rw [Emulation.Runtime.refusesRom, refused]
      rfl
    simp [failed] at load
  · simp only [reset] at load
    split at load
    · rw [← Option.some.inj load]
      exact
        { produced := rfl
          flowing := ⟨[], rfl, Emulation.Runtime.Emptied.flowing ⟨rfl, rfl, rfl⟩⟩
          unread := Nat.le_refl 0
          due := fun due => absurd due (Nat.lt_irrefl 0) }
    · cases load

/-- A frame adds its samples to the account. -/
theorem Fits.step
    {input : FrameInput}
    {stepped : Played State}
    {result : FrameResult}
    (fits : played.Fits account)
    (step : played.stepFrame core outside input = some (stepped, result)) :
    ∃ count ≤ kAudioScratchSamples,
      stepped.Fits (account.produce count) ∧
        (if result.pcmPublished then
            wrap64 (result.audioLastSampleSequence + 1)
          else
            wrap64 account.produced) =
          wrap64 (account.produced + count) := by
  obtain ⟨pushed, sized, flowing⟩ := fits.flowing
  have few :=
    @Emulation.RuntimeLog.length_produced_stepFrame State core played.runtime input.toRuntime
      (header Emulation.kFrameResultSize) (outside.nowNs played.runtime)
  have pushes :=
    @Emulation.RuntimeLog.pushes_stepFrame State core played.runtime input.toRuntime
      (header Emulation.kFrameResultSize) (outside.nowNs played.runtime)
  have cases :=
    @Emulation.Runtime.stepFrame_cases State core played.runtime input.toRuntime
      (header Emulation.kFrameResultSize) (outside.nowNs played.runtime)
  unfold stepFrame at step
  generalize played.runtime.stepFrame core input.toRuntime (header Emulation.kFrameResultSize)
    (outside.nowNs played.runtime) = outcome at step few pushes cases
  cases cases with
  | refused failure => simp [failure] at step
  | ran failure => simp [failure] at step
  | uncopied => simp at step
  | @done samples nes pixels =>
      simp only [ne_eq, not_true_eq_false, if_false, Option.map_some, Option.some.injEq,
        Prod.mk.injEq] at step
      obtain ⟨rfl, rfl⟩ := step
      have later := pushes.flowing (flowing.pushPcm samples)
      have counted := (congrArg RingBuffer.Ring.count pushes.ring).trans
        (flowing.level.count_pushPcm samples)
      refine ⟨samples.length, few, ?_, ?_⟩
      · exact fits.produce samples.length ⟨_, by simp [sized], later⟩ counted
      · have sequence := later.produced
        rw [UInt64.zero_add, List.length_append, sized, fits.produced] at sequence
        cases samples with
        | nil => rfl
        | cons sample rest =>
            change wrap64
                ((Emulation.Runtime.pcmProducerSequence _ - 1).toNat + 1) = _
            rw [toNat_last_succ, sequence, UInt64.toNat_ofNat']
            rfl

/-- What has been taken out of the ring is pulled. -/
theorem Fits.take
    {count : Nat}
    (fits : played.Fits account)
    (enough : count ≤ played.runtime.pcmCount)
    (takes : played.runtime.Taken later count)
    (within : played.oldest + count ≤ account.produced) :
    ({ played with runtime := later } : Played State).Fits
      (account.consume (played.oldest + count) within) := by
  obtain ⟨pushed, sized, flowing⟩ := fits.flowing
  have left : later.pcmCount = played.runtime.pcmCount - count :=
    congrArg RingBuffer.Ring.count takes.ring
  have produced := fits.produced
  have below := fits.count_le
  unfold oldest at within
  refine ⟨produced, ⟨pushed, sized, takes.flowing enough flowing⟩, ?_, ?_⟩
  · change played.produced - played.runtime.pcmCount + count + later.pcmCount ≤
      account.produced
    omega
  · intro due
    change played.produced - played.runtime.pcmCount + count < account.produced at due
    change 0 < later.pcmCount
    omega

/-- A pull that is due takes samples from the oldest one in the ring on. -/
theorem Fits.pull
    {capacity : Nat}
    (fits : played.Fits account)
    (due : account.consumed < account.produced)
    (asked : capacity ≠ 0) :
    ∃ pulled block,
      ∃ within : played.oldest + block.sampleCount ≤ account.produced,
        played.pullPcm capacity = some (pulled, block) ∧
          0 < block.sampleCount ∧
          block.firstSampleSequence = wrap64 played.oldest ∧
          pulled.Fits (account.consume (played.oldest + block.sampleCount) within) := by
  obtain ⟨block, taken, sequence, positive, enough, takes⟩ :=
    @Emulation.RuntimeLog.pullPcm_takes State played.runtime capacity
      (header Emulation.kPcmBlockSize) rfl asked (fits.due due)
  have within : played.oldest + block.samples.length ≤ account.produced := by
    have produced := fits.produced
    have below := fits.count_le
    unfold oldest
    omega
  refine ⟨{ played with runtime := _ }, .ofRuntime block, within, ?_, positive, ?_,
    fits.take enough takes within⟩
  · simp only [pullPcm, taken]
  · change block.firstSampleSequence.toNat = wrap64 played.oldest
    rw [sequence, fits.readSequence, UInt64.toNat_ofNat']
    rfl

end Played

end FlyNes.LanMvp
