import FlyNes.RingBuffer
import FlyNes.WireSha256

namespace FlyNes.Emulation

open ByteString
open FlyNes.Wire (sha256)
open RingBuffer (Ring)

/-!
# The runtime of a core

A runtime owns an emulator core, steps it frame by frame and keeps what the frame
produced: the picture, the samples in a ring, and the identity of the frame for its
digest.  The core itself is a parameter; a call into it may fail or throw, and an
allocation may fail.
-/

/-- What a call of the interface returns. -/
inductive FlyResult where
  | ok
  | invalidArgument
  | structTooSmall
  | unsupportedVersion
  | outOfRange
  | bufferTooSmall
  | outOfMemory
  | internalError
  | invalidState
deriving DecidableEq

def kPcmCapacity : Nat := 16384

instance : NeZero kPcmCapacity :=
  ⟨by decide⟩

def kAudioScratchSamples : Nat := 4096

def kFrameWidth : Nat := 256

def kFrameHeight : Nat := 240

def kRgb565Bytes : Nat := kFrameWidth * kFrameHeight * 2

def kRollbackSlots : Nat := 12

def kDefaultSampleRate : UInt32 := 48000

/-! ### The core -/

/-- How a call into the core ends. -/
inductive CoreCall where
  | returned (code : Int)
  | outOfMemory
  | threw
deriving DecidableEq

def nesErrBufferTooSmall : Int := -100

def nesErrStateRomMismatch : Int := -202

/-- A copy of a state into a buffer of some capacity. -/
structure StateCopy (capacity : Nat) where
  call : CoreCall
  written : Nat
  needed : Nat
  buffer : Block capacity

/-- The answer to a request for one frame, whose samples fit the scratch buffer. -/
structure RanFrames where
  call : CoreCall
  framesRun : Nat
  samples : List Int16
  fits : samples.length ≤ kAudioScratchSamples

/-- The frame that a core has published. -/
structure VideoFrame where
  width : Nat
  height : Nat
  pixels : Bytes

/-- A core, as the runtime uses it.  A state is saved and copied without a change to what
the runtime sees, although the core is not `const` there. -/
structure NesCore (State : Type) where
  create : UInt32 → Option State
  loadRom : State → Bytes → CoreCall × State
  setInput : State → Fin 4 → UInt32 → State
  runFrames : State → RanFrames × State
  videoFrame : State → VideoFrame
  saveState : State → (capacity : Nat) → StateCopy capacity
  copyCanonicalState : State → (capacity : Nat) → StateCopy capacity
  loadState : State → Bytes → CoreCall × State
  regionNtsc : State → Option Bool

/-- The allocations that succeed, by their size. -/
abbrev Memory := Nat → Bool

/-- Ask for the size of a state, then for the state. -/
def readState
    (copy : (capacity : Nat) → StateCopy capacity)
    (memory : Memory) : Except FlyResult Bytes :=
  let query := copy 0
  match query.call with
  | .outOfMemory => .error .outOfMemory
  | .threw => .error .internalError
  | .returned code =>
      if code ≠ nesErrBufferTooSmall ∨ query.needed = 0 then
        .error .internalError
      else if !memory query.needed then
        .error .outOfMemory
      else
        let saved := copy query.needed
        match saved.call with
        | .outOfMemory => .error .outOfMemory
        | .threw => .error .internalError
        | .returned code =>
            if code < 0 ∨ saved.written ≠ query.needed then .error .internalError
            else .ok saved.buffer.bytes

/-! ### State -/

structure Snapshot where
  valid : Bool := false
  timelineSet : Bool := false
  romLoaded : Bool := false
  hasCompleteFrame : Bool := false
  sampleRate : UInt32 := kDefaultSampleRate
  predictedPortMask : UInt32 := 0
  buttons : Fin 4 → UInt32 := fun _ => 0
  timelineEpoch : UInt64 := 0
  nextFrameIndex : UInt64 := 0
  inputSequence : Fin 4 → UInt64 := fun _ => 0
  frameSequence : UInt64 := 0
  pcmProducerSequence : UInt64 := 0
  lastBatchSequence : UInt64 := 0
  lastSourceTimeNs : UInt64 := 0
  lastProducedTimeNs : UInt64 := 0
  core : Bytes := []
  pixels : Bytes := []

structure Runtime (State : Type) where
  nes : Option State
  romLoaded : Bool := false
  timelineSet : Bool := false
  hasCompleteFrame : Bool := false
  sampleRate : UInt32
  predictedPortMask : UInt32 := 0
  buttons : Fin 4 → UInt32 := fun _ => 0
  timelineEpoch : UInt64 := 0
  nextFrameIndex : UInt64 := 0
  inputSequence : Fin 4 → UInt64 := fun _ => 0
  frameSequence : UInt64 := 0
  pcmProducerSequence : UInt64 := 0
  lastBatchSequence : UInt64 := 0
  lastSourceTimeNs : UInt64 := 0
  lastProducedTimeNs : UInt64 := 0
  hasFrameDigest : Bool := false
  framePcmSha256 : Block 32 := Block.zero 32
  pcm : Vector Int16 kPcmCapacity := Vector.replicate kPcmCapacity 0
  pcmRead : Nat := 0
  pcmCount : Nat := 0
  pcmReadSequence : UInt64 := 0
  completePixels : Block kRgb565Bytes := Block.zero kRgb565Bytes
  rollback : Fin kRollbackSlots → Snapshot := fun _ => {}

/-- The size and the version that a caller writes at the front of a struct. -/
structure StructHeader where
  structSize : UInt32
  version : UInt32

structure RuntimeConfig where
  header : StructHeader
  sampleRate : UInt32
  reserved : UInt32

structure FrameInput where
  header : StructHeader
  timelineEpoch : UInt64
  frameIndex : UInt64
  buttons : Fin 4 → UInt32
  inputSequence : Fin 4 → UInt64
  predictedPortMask : UInt32
  reserved0 : UInt32
  batchSequence : UInt64
  captureTimeNs : UInt64

structure FrameResult where
  timelineEpoch : UInt64
  frameIndex : UInt64
  postStateFrame : UInt64
  frameSequence : UInt64
  audioFirstSampleSequence : UInt64
  audioLastSampleSequence : UInt64
  appliedInputSequence : Fin 4 → UInt64
  sourceTimeNs : UInt64
  producedTimeNs : UInt64
  videoPublished : Bool
  pcmPublished : Bool
  usedPredictedPorts : Bool

/-- The answer to a step, with the samples that it pushed into the ring. -/
structure StepAnswer where
  result : FlyResult
  frame : Option FrameResult := none
  produced : List Int16 := []

structure FrameDigest where
  timelineEpoch : UInt64
  frameIndex : UInt64
  predictedPortMask : UInt32
  stateSha256 : Block 32
  frameSha256 : Block 32
  pcmSha256 : Block 32

/-- A block of samples; a silent one was not taken from the ring. -/
structure PcmBlock where
  firstSampleSequence : UInt64
  mediaTimeNs : UInt64
  samples : List Int16
  silent : Bool

structure LatestFrame where
  pixels : Block kRgb565Bytes
  timelineEpoch : UInt64
  frameIndex : UInt64
  frameSequence : UInt64
  appliedInputSequence : Fin 4 → UInt64
  sourceTimeNs : UInt64
  producedTimeNs : UInt64

structure SourceTiming where
  ntsc : Bool
  sampleRate : UInt32

/-! ### Checks of the arguments -/

def checkHeader (header : StructHeader) (size : UInt32) : FlyResult :=
  if header.structSize < size then
    .structTooSmall
  else if header.version ≠ 1 then
    .unsupportedVersion
  else
    .ok

def kRuntimeConfigSize : UInt32 := 16

def kFrameInputSize : UInt32 := 104

def kFrameResultSize : UInt32 := 120

def kLatestFrameSize : UInt32 := 104

def kPcmBlockSize : UInt32 := 32

def kFrameDigestSize : UInt32 := 128

def kSourceTimingSize : UInt32 := 24

def validateConfig (config : RuntimeConfig) : FlyResult :=
  if checkHeader config.header kRuntimeConfigSize ≠ .ok then
    checkHeader config.header kRuntimeConfigSize
  else if config.reserved ≠ 0 then
    .invalidArgument
  else if config.sampleRate ≠ 0 ∧
      (config.sampleRate < 44100 ∨ config.sampleRate > 96000) then
    .invalidArgument
  else
    .ok

def validateInput (input : FrameInput) : FlyResult :=
  if checkHeader input.header kFrameInputSize ≠ .ok then
    checkHeader input.header kFrameInputSize
  else if input.reserved0 ≠ 0 ∨ input.predictedPortMask > 0xF then
    .invalidArgument
  else
    .ok

def isClearReason (reason : UInt32) : Bool :=
  reason == 1 || reason == 2 || reason == 3 || reason == 4

/-- A digest that the caller expects has to be the one of the bytes. -/
def expectedRom (bytes : Bytes) (expected : Option (Block 32)) : Bool :=
  match expected with
  | none => true
  | some digest => sha256 bytes == digest

/-- The samples of a frame, every one with its low octet first. -/
def pcmBytes (samples : List Int16) : Bytes :=
  samples.flatMap fun sample =>
    [sample.toUInt16.toUInt8, (sample.toUInt16 >>> (8 : UInt16)).toUInt8]

namespace Runtime

variable {State : Type}

/-! ### The ring of samples -/

def resetSimulation (runtime : Runtime State) : Runtime State where
  nes := runtime.nes
  sampleRate := runtime.sampleRate
  framePcmSha256 := runtime.framePcmSha256

def clearPcm (runtime : Runtime State) : Runtime State :=
  { runtime with
    pcmRead := 0
    pcmCount := 0
    pcmReadSequence := runtime.pcmProducerSequence
    pcm := Vector.replicate kPcmCapacity 0 }

/-- A full ring forgets its oldest sample. -/
def dropOldest (runtime : Runtime State) : Runtime State :=
  if runtime.pcmCount = kPcmCapacity then
    { runtime with
      pcmRead := (runtime.pcmRead + 1) % kPcmCapacity
      pcmReadSequence := runtime.pcmReadSequence + 1
      pcmCount := runtime.pcmCount - 1 }
  else
    runtime

def pushSample (runtime : Runtime State) (sample : Int16) : Runtime State :=
  let runtime := runtime.dropOldest
  let write := Fin.ofNat kPcmCapacity (runtime.pcmRead + runtime.pcmCount)
  { runtime with
    pcm := runtime.pcm.set write sample write.isLt
    pcmCount := runtime.pcmCount + 1 }

def pushPcm (runtime : Runtime State) (samples : List Int16) : Runtime State :=
  let runtime := samples.foldl pushSample runtime
  { runtime with
    pcmProducerSequence := runtime.pcmProducerSequence + UInt64.ofNat samples.length }

section Calls

variable (core : NesCore State)

/-- Latch the buttons of all four ports. -/
def setInputs (nes : State) (buttons : Fin 4 → UInt32) : State :=
  (List.finRange 4).foldl (fun nes port => core.setInput nes port (buttons port)) nes

/-! ### Snapshots -/

/-- The fields of a snapshot that is being taken; it is not valid yet. -/
def snapshotFields (runtime : Runtime State) : Snapshot where
  timelineSet := runtime.timelineSet
  romLoaded := runtime.romLoaded
  hasCompleteFrame := runtime.hasCompleteFrame
  sampleRate := runtime.sampleRate
  predictedPortMask := runtime.predictedPortMask
  buttons := runtime.buttons
  timelineEpoch := runtime.timelineEpoch
  nextFrameIndex := runtime.nextFrameIndex
  inputSequence := runtime.inputSequence
  frameSequence := runtime.frameSequence
  pcmProducerSequence := runtime.pcmProducerSequence
  lastBatchSequence := runtime.lastBatchSequence
  lastSourceTimeNs := runtime.lastSourceTimeNs
  lastProducedTimeNs := runtime.lastProducedTimeNs

/-- Take a snapshot.  One that could not be taken whole is not valid. -/
def captureSnapshot
    (runtime : Runtime State)
    (memory : Memory)
    (snapshot : Snapshot) : FlyResult × Snapshot :=
  match runtime.nes with
  | none => (.invalidState, snapshot)
  | some nes =>
      if runtime.hasCompleteFrame && !memory kRgb565Bytes then
        (.outOfMemory, runtime.snapshotFields)
      else
        let taken :=
          { runtime.snapshotFields with
            pixels := if runtime.hasCompleteFrame then runtime.completePixels.bytes else [] }
        if !runtime.romLoaded then
          (.ok, { taken with valid := true })
        else
          match readState (core.saveState nes) memory with
          | .error result => (result, taken)
          | .ok bytes => (.ok, { taken with core := bytes, valid := true })

/-- Everything but the core and the digest, as a snapshot has it. -/
def restored
    (runtime : Runtime State)
    (snapshot : Snapshot)
    (clearRollback : Bool) : Runtime State :=
  clearPcm
    { runtime with
      romLoaded := snapshot.romLoaded
      timelineSet := snapshot.timelineSet
      hasCompleteFrame := snapshot.hasCompleteFrame
      sampleRate := snapshot.sampleRate
      predictedPortMask := snapshot.predictedPortMask
      timelineEpoch := snapshot.timelineEpoch
      nextFrameIndex := snapshot.nextFrameIndex
      frameSequence := snapshot.frameSequence
      pcmProducerSequence := snapshot.pcmProducerSequence
      lastBatchSequence := snapshot.lastBatchSequence
      lastSourceTimeNs := snapshot.lastSourceTimeNs
      lastProducedTimeNs := snapshot.lastProducedTimeNs
      buttons := snapshot.buttons
      inputSequence := snapshot.inputSequence
      completePixels :=
        if snapshot.hasCompleteFrame then Block.copy kRgb565Bytes snapshot.pixels
        else Block.zero kRgb565Bytes
      rollback := if clearRollback then fun _ => {} else runtime.rollback }

def applySnapshot
    (runtime : Runtime State)
    (snapshot : Snapshot)
    (clearRollback : Bool) : FlyResult × Runtime State :=
  match runtime.nes with
  | none => (.invalidArgument, runtime)
  | some nes =>
      if !snapshot.valid || (snapshot.romLoaded && snapshot.core.isEmpty) then
        (.invalidArgument, runtime)
      else
        let hadFrameDigest := runtime.hasFrameDigest
        let runtime := { runtime with hasFrameDigest := false }
        if !snapshot.romLoaded then
          (.ok, runtime.restored snapshot clearRollback)
        else
          let (call, nes) := core.loadState nes snapshot.core
          let runtime := { runtime with nes := some nes }
          match call with
          | .outOfMemory => (.outOfMemory, runtime)
          | .threw => (.internalError, runtime)
          | .returned code =>
              if code < 0 then
                -- Only this refusal comes before the machine is touched.
                (.internalError,
                  { runtime with
                    hasFrameDigest :=
                      if code = nesErrStateRomMismatch then hadFrameDigest else false })
              else
                (.ok,
                  { runtime with nes := some (setInputs core nes snapshot.buttons) }.restored
                    snapshot clearRollback)

/-! ### The interface -/

def create (config : RuntimeConfig) : Except FlyResult (Runtime State) :=
  if validateConfig config ≠ .ok then
    .error (validateConfig config)
  else
    let sampleRate :=
      if config.sampleRate = 0 then kDefaultSampleRate else config.sampleRate
    match core.create sampleRate with
    | none => .error .internalError
    | some nes => .ok { nes := some nes, sampleRate := sampleRate }

def loadRom
    (runtime : Runtime State)
    (bytes : Bytes)
    (expected : Option (Block 32)) : FlyResult × Runtime State :=
  if bytes.isEmpty || !expectedRom bytes expected then
    (.invalidArgument, runtime)
  else
    match runtime.nes with
    | none => (.invalidState, runtime)
    | some nes =>
        let (call, nes) := core.loadRom nes bytes
        let runtime := { runtime.resetSimulation with nes := some nes }
        match call with
        | .outOfMemory => (.outOfMemory, runtime)
        | .threw => (.internalError, runtime)
        | .returned code =>
            if code < 0 then (.invalidArgument, runtime)
            else (.ok, { runtime with romLoaded := true })

/-- Load into a new core; the old one is given up first. -/
def loadRomFresh
    (runtime : Runtime State)
    (bytes : Bytes)
    (expected : Option (Block 32)) : FlyResult × Runtime State :=
  if bytes.isEmpty || !expectedRom bytes expected then
    (.invalidArgument, runtime)
  else
    let runtime := { runtime.resetSimulation with nes := none }
    match core.create runtime.sampleRate with
    | none => (.internalError, runtime)
    | some nes =>
        let (call, nes) := core.loadRom nes bytes
        match call with
        | .outOfMemory => (.outOfMemory, runtime)
        | .threw => (.internalError, runtime)
        | .returned code =>
            if code < 0 then (.invalidArgument, runtime)
            else (.ok, { runtime with nes := some nes, romLoaded := true })

/-- Copy the published frame.  A frame that does not fit is not copied. -/
def copyPublishedFrame
    (runtime : Runtime State)
    (nes : State) : FlyResult × Runtime State :=
  let frame := core.videoFrame nes
  if frame.pixels.length > kRgb565Bytes then
    (.internalError, runtime)
  else
    let runtime :=
      { runtime with
        completePixels :=
          Block.copy kRgb565Bytes
            (frame.pixels ++ runtime.completePixels.bytes.drop frame.pixels.length) }
    if frame.width ≠ kFrameWidth ∨ frame.height ≠ kFrameHeight ∨
        frame.pixels.length ≠ kRgb565Bytes then
      (.internalError, runtime)
    else
      (.ok, { runtime with hasCompleteFrame := true })

/-- The frame that may be stepped next. -/
def expectsFrame (runtime : Runtime State) (input : FrameInput) : Bool :=
  if runtime.timelineSet then
    input.timelineEpoch == runtime.timelineEpoch &&
      input.frameIndex == runtime.nextFrameIndex
  else
    input.frameIndex == 0

/-- The input of a step is latched before it runs. -/
def latched (runtime : Runtime State) (input : FrameInput) : Runtime State :=
  { runtime with
    hasFrameDigest := false
    buttons := input.buttons
    inputSequence := input.inputSequence }

/-- What a step that went through leaves behind. -/
def stepped
    (runtime : Runtime State)
    (input : FrameInput)
    (samples : List Int16)
    (nowNs : UInt64) : Runtime State :=
  { runtime with
    timelineSet := true
    timelineEpoch := input.timelineEpoch
    nextFrameIndex := input.frameIndex + 1
    predictedPortMask := input.predictedPortMask
    lastBatchSequence := input.batchSequence
    lastSourceTimeNs := input.captureTimeNs
    lastProducedTimeNs := nowNs
    frameSequence := runtime.frameSequence + 1
    framePcmSha256 := sha256 (pcmBytes samples)
    hasFrameDigest := true }

/-- The result of a step, from the state that it left. -/
def frameResult
    (runtime : Runtime State)
    (input : FrameInput)
    (audioFirst : UInt64)
    (samples : List Int16) : FrameResult where
  timelineEpoch := runtime.timelineEpoch
  frameIndex := input.frameIndex
  postStateFrame := input.frameIndex
  frameSequence := runtime.frameSequence
  audioFirstSampleSequence := audioFirst
  audioLastSampleSequence :=
    if samples.isEmpty then audioFirst else runtime.pcmProducerSequence - 1
  appliedInputSequence := runtime.inputSequence
  sourceTimeNs := runtime.lastSourceTimeNs
  producedTimeNs := runtime.lastProducedTimeNs
  videoPublished := true
  pcmPublished := !samples.isEmpty
  usedPredictedPorts := input.predictedPortMask != 0

/-- Push the samples of a frame that has run, and copy its picture. -/
def publish
    (runtime : Runtime State)
    (nes : State)
    (input : FrameInput)
    (samples : List Int16)
    (nowNs : UInt64) : StepAnswer × Runtime State :=
  let audioFirst := runtime.pcmProducerSequence
  let (copied, runtime) := (runtime.pushPcm samples).copyPublishedFrame core nes
  if copied ≠ .ok then
    ({ result := copied, produced := samples }, runtime)
  else
    let runtime := runtime.stepped input samples nowNs
    ({ result := .ok
       frame := some (runtime.frameResult input audioFirst samples)
       produced := samples },
      runtime)

/-- Run the core for the frame of an input that is the next one. -/
def runStep
    (runtime : Runtime State)
    (nes : State)
    (input : FrameInput)
    (nowNs : UInt64) : StepAnswer × Runtime State :=
  let (ran, nes) := core.runFrames (setInputs core nes input.buttons)
  let runtime := { runtime.latched input with nes := some nes }
  match ran.call with
  | .outOfMemory => ({ result := .outOfMemory }, runtime)
  | .threw => ({ result := .internalError }, runtime)
  | .returned code =>
      if code < 0 ∨ ran.framesRun ≠ 1 then
        ({ result := .internalError }, runtime)
      else
        runtime.publish core nes input ran.samples nowNs

def stepFrame
    (runtime : Runtime State)
    (input : FrameInput)
    (resultHeader : StructHeader)
    (nowNs : UInt64) : StepAnswer × Runtime State :=
  if validateInput input ≠ .ok then
    ({ result := validateInput input }, runtime)
  else if checkHeader resultHeader kFrameResultSize ≠ .ok then
    ({ result := checkHeader resultHeader kFrameResultSize }, runtime)
  else if !runtime.romLoaded then
    ({ result := .invalidState }, runtime)
  else if !runtime.expectsFrame input then
    ({ result := .invalidArgument }, runtime)
  else
    match runtime.nes with
    | none => ({ result := .internalError }, runtime.latched input)
    | some nes => runtime.runStep core nes input nowNs

def copyFrameDigest
    (runtime : Runtime State)
    (timelineEpoch frameIndex : UInt64)
    (header : StructHeader)
    (memory : Memory) : Except FlyResult FrameDigest :=
  if checkHeader header kFrameDigestSize ≠ .ok then
    .error .invalidArgument
  else if !runtime.hasFrameDigest || !runtime.hasCompleteFrame || !runtime.timelineSet ||
      runtime.timelineEpoch != timelineEpoch ||
      runtime.nextFrameIndex - 1 != frameIndex then
    .error .invalidState
  else
    match runtime.nes with
    | none => .error .internalError
    | some nes =>
        match readState (core.copyCanonicalState nes) memory with
        | .error result => .error result
        | .ok state =>
            if !memory kRgb565Bytes then
              .error .outOfMemory
            else
              .ok
                { timelineEpoch := timelineEpoch
                  frameIndex := frameIndex
                  predictedPortMask := runtime.predictedPortMask
                  stateSha256 := sha256 state
                  frameSha256 := sha256 runtime.completePixels.bytes
                  pcmSha256 := runtime.framePcmSha256 }

def getSourceTiming
    (runtime : Runtime State)
    (header : StructHeader) : Except FlyResult SourceTiming :=
  if checkHeader header kSourceTimingSize ≠ .ok then
    .error .invalidArgument
  else
    match runtime.nes with
    | none => .error .invalidState
    | some nes =>
        if !runtime.romLoaded then
          .error .invalidState
        else
          match core.regionNtsc nes with
          | none => .error .invalidState
          | some ntsc => .ok { ntsc := ntsc, sampleRate := runtime.sampleRate }

/-- A port is cleared if its bit is set. -/
def clearsPort (portMask : UInt32) (port : Fin 4) : Bool :=
  portMask &&& (1 <<< UInt32.ofNat port.val) != 0

def clearInputPorts
    (runtime : Runtime State)
    (portMask reason : UInt32) : FlyResult × Runtime State :=
  if !isClearReason reason then
    (.invalidArgument, runtime)
  else
    (.ok,
      { runtime with
        hasFrameDigest := false
        buttons := fun port => if clearsPort portMask port then 0 else runtime.buttons port
        nes :=
          runtime.nes.map fun nes =>
            ((List.finRange 4).filter (clearsPort portMask)).foldl
              (fun nes port => core.setInput nes port 0) nes })

end Calls

def copyLatestFrame
    (runtime : Runtime State)
    (capacity : Nat)
    (header : StructHeader) : Except FlyResult LatestFrame :=
  if checkHeader header kLatestFrameSize ≠ .ok then
    .error (checkHeader header kLatestFrameSize)
  else if !runtime.hasCompleteFrame then
    .error .invalidState
  else if capacity < kRgb565Bytes then
    .error .bufferTooSmall
  else
    .ok
      { pixels := runtime.completePixels
        timelineEpoch := runtime.timelineEpoch
        frameIndex :=
          if runtime.nextFrameIndex = 0 then 0 else runtime.nextFrameIndex - 1
        frameSequence := runtime.frameSequence
        appliedInputSequence := runtime.inputSequence
        sourceTimeNs := runtime.lastSourceTimeNs
        producedTimeNs := runtime.lastProducedTimeNs }

/-- Silence, for a caller that finds the runtime busy or the ring empty. -/
def silence (sampleCapacity : Nat) : PcmBlock where
  firstSampleSequence := 0
  mediaTimeNs := 0
  samples := List.replicate sampleCapacity 0
  silent := true

def pullPcm
    (runtime : Runtime State)
    (sampleCapacity : Nat)
    (header : StructHeader)
    (ownsLock : Bool) : Except FlyResult PcmBlock × Runtime State :=
  if checkHeader header kPcmBlockSize ≠ .ok then
    (.error (checkHeader header kPcmBlockSize), runtime)
  else if sampleCapacity = 0 then
    (.error .invalidArgument, runtime)
  else if !ownsLock || runtime.pcmCount == 0 then
    (.ok (silence sampleCapacity), runtime)
  else
    let copied := min sampleCapacity runtime.pcmCount
    (.ok
        { firstSampleSequence := runtime.pcmReadSequence
          mediaTimeNs :=
            runtime.pcmReadSequence * 1000000000 / runtime.sampleRate.toUInt64
          samples :=
            (List.range copied).map fun index =>
              runtime.pcm[Fin.ofNat kPcmCapacity (runtime.pcmRead + index)]
          silent := false },
      { runtime with
        pcmRead := (runtime.pcmRead + copied) % kPcmCapacity
        pcmCount := runtime.pcmCount - copied
        pcmReadSequence := runtime.pcmReadSequence + UInt64.ofNat copied })

section Rollback

variable (core : NesCore State)

def captureRollback
    (runtime : Runtime State)
    (slot : Nat)
    (memory : Memory) : FlyResult × Runtime State :=
  if within : slot < kRollbackSlots then
    let slot : Fin kRollbackSlots := ⟨slot, within⟩
    let (result, snapshot) := runtime.captureSnapshot core memory (runtime.rollback slot)
    (result, { runtime with rollback := Function.update runtime.rollback slot snapshot })
  else
    (.outOfRange, runtime)

def restoreRollback
    (runtime : Runtime State)
    (slot : Nat) : FlyResult × Runtime State :=
  if within : slot < kRollbackSlots then
    let snapshot := runtime.rollback ⟨slot, within⟩
    if !snapshot.valid then (.invalidState, runtime)
    else runtime.applySnapshot core snapshot false
  else
    (.outOfRange, runtime)

end Rollback

end Runtime

end FlyNes.Emulation
