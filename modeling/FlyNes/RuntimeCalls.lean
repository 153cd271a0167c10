import FlyNes.Logbook
import FlyNes.RuntimeCheckpoint

namespace FlyNes.Emulation

open ByteString

/-!
# Calls of a runtime

A run is any sequence of calls of the interface, with everything that the outside
decides about a call among its arguments: which allocations succeed, the time, and
whether a pull finds the runtime busy.
-/

inductive RuntimeCall where
  | loadRom (bytes : Bytes) (expected : Option (Block 32))
  | loadRomFresh (bytes : Bytes) (expected : Option (Block 32))
  | stepFrame (input : FrameInput) (resultHeader : StructHeader) (nowNs : UInt64)
  | copyFrameDigest
      (timelineEpoch frameIndex : UInt64) (header : StructHeader) (memory : Memory)
  | getSourceTiming (header : StructHeader)
  | clearInputPorts (portMask reason : UInt32)
  | copyLatestFrame (capacity : Nat) (header : StructHeader)
  | pullPcm (sampleCapacity : Nat) (header : StructHeader) (ownsLock : Bool)
  | captureRollback (slot : Nat) (memory : Memory)
  | restoreRollback (slot : Nat)
  | saveCheckpoint (capacity : Nat) (memory : Memory)
  | loadCheckpoint (bytes : Bytes) (memory : Memory)
  | loadCheckpointForEpoch
      (bytes : Bytes) (expectedTimelineEpoch : UInt64) (memory : Memory)

inductive RuntimeAnswer where
  | result (result : FlyResult)
  | stepped (answer : StepAnswer)
  | digest (digest : Except FlyResult FrameDigest)
  | timing (timing : Except FlyResult SourceTiming)
  | latest (frame : Except FlyResult LatestFrame)
  | pulled (block : Except FlyResult PcmBlock)
  | saved (saved : Runtime.SavedCheckpoint)

namespace Runtime

variable {State : Type} (core : NesCore State)

def perform
    (runtime : Runtime State) : RuntimeCall → RuntimeAnswer × Runtime State
  | .loadRom bytes expected =>
      let (result, runtime) := runtime.loadRom core bytes expected
      (.result result, runtime)
  | .loadRomFresh bytes expected =>
      let (result, runtime) := runtime.loadRomFresh core bytes expected
      (.result result, runtime)
  | .stepFrame input resultHeader nowNs =>
      let (answer, runtime) := runtime.stepFrame core input resultHeader nowNs
      (.stepped answer, runtime)
  | .copyFrameDigest timelineEpoch frameIndex header memory =>
      (.digest (runtime.copyFrameDigest core timelineEpoch frameIndex header memory), runtime)
  | .getSourceTiming header => (.timing (runtime.getSourceTiming core header), runtime)
  | .clearInputPorts portMask reason =>
      let (result, runtime) := runtime.clearInputPorts core portMask reason
      (.result result, runtime)
  | .copyLatestFrame capacity header =>
      (.latest (runtime.copyLatestFrame capacity header), runtime)
  | .pullPcm sampleCapacity header ownsLock =>
      let (block, runtime) := runtime.pullPcm sampleCapacity header ownsLock
      (.pulled block, runtime)
  | .captureRollback slot memory =>
      let (result, runtime) := runtime.captureRollback core slot memory
      (.result result, runtime)
  | .restoreRollback slot =>
      let (result, runtime) := runtime.restoreRollback core slot
      (.result result, runtime)
  | .saveCheckpoint capacity memory =>
      (.saved (runtime.saveCheckpoint core capacity memory), runtime)
  | .loadCheckpoint bytes memory =>
      let (result, runtime) := runtime.loadCheckpoint core bytes memory
      (.result result, runtime)
  | .loadCheckpointForEpoch bytes expectedTimelineEpoch memory =>
      let (result, runtime) :=
        runtime.loadCheckpointForEpoch core bytes expectedTimelineEpoch memory
      (.result result, runtime)

def after (runtime : Runtime State) (calls : List RuntimeCall) : Runtime State :=
  Logbook.after (perform core) runtime calls

end Runtime

abbrev RuntimeEntry (State : Type) :=
  Logbook.Entry (Runtime State) RuntimeCall RuntimeAnswer

abbrev RuntimeLog (State : Type) :=
  List (RuntimeEntry State)

def RuntimeLog.ofCalls
    {State : Type}
    (core : NesCore State)
    (runtime : Runtime State)
    (calls : List RuntimeCall) : RuntimeLog State :=
  Logbook.log (Runtime.perform core) runtime calls

theorem RuntimeLog.ofCalls_cons
    {State : Type}
    {core : NesCore State}
    (runtime : Runtime State)
    (call : RuntimeCall)
    (calls : List RuntimeCall) :
    RuntimeLog.ofCalls core runtime (call :: calls) =
      Logbook.entry (Runtime.perform core) runtime call ::
        RuntimeLog.ofCalls core (runtime.perform core call).2 calls :=
  rfl

/-! ### What a call can do -/

namespace Runtime

variable {State : Type} {core : NesCore State}
variable {runtime : Runtime State}

theorem after_cons (call : RuntimeCall) (calls : List RuntimeCall) :
    runtime.after core (call :: calls) = (runtime.perform core call).2.after core calls :=
  rfl

theorem perform_loadRom (bytes : Bytes) (expected : Option (Block 32)) :
    (runtime.perform core (.loadRom bytes expected)).2 =
      (runtime.loadRom core bytes expected).2 :=
  rfl

theorem perform_loadCheckpoint (bytes : Bytes) (memory : Memory) :
    (runtime.perform core (.loadCheckpoint bytes memory)).2 =
      (runtime.loadCheckpoint core bytes memory).2 :=
  rfl

theorem perform_stepFrame
    (input : FrameInput)
    (resultHeader : StructHeader)
    (nowNs : UInt64) :
    (runtime.perform core (.stepFrame input resultHeader nowNs)).2 =
      (runtime.stepFrame core input resultHeader nowNs).2 :=
  rfl

/-- A load goes on if there are bytes, and the ones that are expected. -/
def acceptsRom (bytes : Bytes) (expected : Option (Block 32)) : Bool :=
  !bytes.isEmpty && expectedRom bytes expected

theorem refusesRom (bytes : Bytes) (expected : Option (Block 32)) :
    (bytes.isEmpty || !expectedRom bytes expected) = !acceptsRom bytes expected := by
  simp [acceptsRom]

/-- A load is refused, or it resets everything but the rate and puts in a core. -/
theorem loadRom_cases (bytes : Bytes) (expected : Option (Block 32)) :
    (acceptsRom bytes expected && runtime.nes.isSome) = false ∧
        (runtime.loadRom core bytes expected).2 = runtime ∨
      (acceptsRom bytes expected && runtime.nes.isSome) = true ∧
        ∃ nes romLoaded,
          (runtime.loadRom core bytes expected).2 =
            { runtime.resetSimulation with nes := some nes, romLoaded := romLoaded } := by
  unfold loadRom
  rw [refusesRom]
  cases acceptsRom bytes expected with
  | false => exact .inl ⟨rfl, rfl⟩
  | true =>
      cases runtime.nes with
      | none => exact .inl ⟨rfl, rfl⟩
      | some nes =>
          refine .inr ⟨rfl, ?_⟩
          simp only [Bool.not_true, Bool.false_eq_true, if_false]
          split
          · exact ⟨_, _, rfl⟩
          · exact ⟨_, _, rfl⟩
          · split
            · exact ⟨_, _, rfl⟩
            · exact ⟨_, _, rfl⟩

theorem loadRomFresh_cases (bytes : Bytes) (expected : Option (Block 32)) :
    acceptsRom bytes expected = false ∧
        (runtime.loadRomFresh core bytes expected).2 = runtime ∨
      acceptsRom bytes expected = true ∧
        ∃ nes romLoaded,
          (runtime.loadRomFresh core bytes expected).2 =
            { runtime.resetSimulation with nes := nes, romLoaded := romLoaded } := by
  unfold loadRomFresh
  rw [refusesRom]
  cases acceptsRom bytes expected with
  | false => exact .inl ⟨rfl, rfl⟩
  | true =>
      refine .inr ⟨rfl, ?_⟩
      simp only [Bool.not_true, Bool.false_eq_true, if_false]
      split
      · exact ⟨_, _, rfl⟩
      · split
        · exact ⟨_, _, rfl⟩
        · exact ⟨_, _, rfl⟩
        · split
          · exact ⟨_, _, rfl⟩
          · exact ⟨_, _, rfl⟩

/-- What a snapshot that is applied does. -/
inductive Applied
    (core : NesCore State)
    (runtime : Runtime State)
    (snapshot : Snapshot)
    (clearRollback : Bool) : FlyResult × Runtime State → Prop where
  | refused : Applied core runtime snapshot clearRollback (.invalidArgument, runtime)
  | unloaded
      (valid : snapshot.valid = true)
      (unloaded : snapshot.romLoaded = false) :
      Applied core runtime snapshot clearRollback
        (.ok, { runtime with hasFrameDigest := false }.restored snapshot clearRollback)
  | failed
      {nes : State}
      {result : FlyResult}
      (kept : Bool)
      (owned : runtime.nes = some nes)
      (failure : result ≠ .ok)
      (mismatch :
        kept = true →
          (core.loadState nes snapshot.core).1 = .returned nesErrStateRomMismatch) :
      Applied core runtime snapshot clearRollback
        (result,
          { runtime with
            nes := some (core.loadState nes snapshot.core).2
            hasFrameDigest := kept && runtime.hasFrameDigest })
  | loaded
      {nes : State}
      {code : Int}
      (owned : runtime.nes = some nes)
      (valid : snapshot.valid = true)
      (loaded : snapshot.romLoaded = true)
      (stored : snapshot.core ≠ [])
      (call : (core.loadState nes snapshot.core).1 = .returned code)
      (success : 0 ≤ code) :
      Applied core runtime snapshot clearRollback
        (.ok,
          { runtime with
            nes := some (setInputs core (core.loadState nes snapshot.core).2 snapshot.buttons)
            hasFrameDigest := false }.restored snapshot clearRollback)

theorem applySnapshot_cases (snapshot : Snapshot) (clearRollback : Bool) :
    Applied core runtime snapshot clearRollback
      (runtime.applySnapshot core snapshot clearRollback) := by
  unfold applySnapshot
  cases owned : runtime.nes with
  | none => exact .refused
  | some nes =>
      dsimp only
      split
      · exact .refused
      · next whole =>
        simp only [Bool.or_eq_true, Bool.and_eq_true, Bool.not_eq_true', not_or,
          Bool.not_eq_false, not_and, List.isEmpty_iff] at whole
        split
        · next unloaded =>
          have applied :=
            @Applied.unloaded State core runtime snapshot clearRollback whole.1
              (by simpa using unloaded)
          simpa only [owned] using applied
        · next loaded =>
          simp only [Bool.not_eq_true', Bool.not_eq_false] at loaded
          split
          · next call =>
            exact .failed false owned (by simp) (by simp)
          · next call =>
            exact .failed false owned (by simp) (by simp)
          · next code call =>
            split
            · by_cases mismatch : code = nesErrStateRomMismatch
              · rw [if_pos mismatch]
                exact .failed true owned (by simp) fun _ => mismatch ▸ call
              · rw [if_neg mismatch]
                exact .failed false owned (by simp) (by simp)
            · next success =>
              exact .loaded owned whole.1 loaded (whole.2 loaded) call (by omega)

/-- A push changes only the ring and its sequences. -/
theorem pushPcm_frame (samples : List Int16) :
    ∃ pcm pcmRead pcmCount pcmReadSequence,
      runtime.pushPcm samples =
        { runtime with
          pcm := pcm
          pcmRead := pcmRead
          pcmCount := pcmCount
          pcmReadSequence := pcmReadSequence
          pcmProducerSequence :=
            runtime.pcmProducerSequence + UInt64.ofNat samples.length } := by
  have pushed :
      ∃ pcm pcmRead pcmCount pcmReadSequence,
        samples.foldl pushSample runtime =
          { runtime with
            pcm := pcm
            pcmRead := pcmRead
            pcmCount := pcmCount
            pcmReadSequence := pcmReadSequence } := by
    induction samples generalizing runtime with
    | nil => exact ⟨_, _, _, _, rfl⟩
    | cons sample rest inductionHypothesis =>
        obtain ⟨pcm, pcmRead, pcmCount, pcmReadSequence, same⟩ :=
          @inductionHypothesis (runtime.pushSample sample)
        rw [List.foldl_cons, same]
        unfold pushSample dropOldest
        split
        · exact ⟨_, _, _, _, rfl⟩
        · exact ⟨_, _, _, _, rfl⟩
  obtain ⟨pcm, pcmRead, pcmCount, pcmReadSequence, same⟩ := pushed
  unfold pushPcm
  rw [same]
  exact ⟨_, _, _, _, rfl⟩

/-- What a step does. -/
inductive Stepped
    (core : NesCore State)
    (runtime : Runtime State)
    (input : FrameInput)
    (nowNs : UInt64) : StepAnswer × Runtime State → Prop where
  | refused
      {result : FlyResult}
      (failure : result ≠ .ok) :
      Stepped core runtime input nowNs ({ result := result }, runtime)
  | ran
      {result : FlyResult}
      {nes : Option State}
      (failure : result ≠ .ok) :
      Stepped core runtime input nowNs
        ({ result := result }, { runtime.latched input with nes := nes })
  | uncopied
      {samples : List Int16}
      {nes : State}
      {pixels : Block kRgb565Bytes} :
      Stepped core runtime input nowNs
        ({ result := .internalError, produced := samples },
          { { runtime.latched input with nes := some nes }.pushPcm samples with
            completePixels := pixels })
  | done
      {samples : List Int16}
      {nes : State}
      {pixels : Block kRgb565Bytes} :
      Stepped core runtime input nowNs
        ({ result := .ok
           frame :=
            some
              (({ { runtime.latched input with nes := some nes }.pushPcm samples with
                  completePixels := pixels
                  hasCompleteFrame := true }.stepped input samples nowNs).frameResult input
                runtime.pcmProducerSequence samples)
           produced := samples },
          { { runtime.latched input with nes := some nes }.pushPcm samples with
            completePixels := pixels
            hasCompleteFrame := true }.stepped input samples nowNs)

theorem runStep_cases
    (nes : State)
    (input : FrameInput)
    (nowNs : UInt64) :
    Stepped core runtime input nowNs (runtime.runStep core nes input nowNs) := by
  unfold runStep
  dsimp only
  split
  · exact .ran (by simp)
  · exact .ran (by simp)
  · split
    · exact .ran (by simp)
    · unfold publish copyPublishedFrame
      dsimp only
      split
      · rw [if_pos (by simp)]
        exact .uncopied
      · split
        · rw [if_pos (by simp)]
          exact .uncopied
        · rw [if_neg (by simp)]
          exact .done

theorem stepFrame_cases
    (input : FrameInput)
    (resultHeader : StructHeader)
    (nowNs : UInt64) :
    Stepped core runtime input nowNs
      (runtime.stepFrame core input resultHeader nowNs) := by
  unfold stepFrame
  split
  · next refused => exact .refused refused
  · split
    · next refused => exact .refused refused
    · split
      · exact .refused (by simp)
      · split
        · exact .refused (by simp)
        · split
          · next absent =>
            have same : runtime.latched input = { runtime.latched input with nes := none } := by
              rw [← absent]
              rfl
            rw [same]
            exact .ran (by simp)
          · exact runStep_cases _ input nowNs

variable {input : FrameInput} {nes : State}

/-- A step whose arguments are right runs the core. -/
theorem stepFrame_runs
    {resultHeader : StructHeader}
    (nowNs : UInt64)
    (valid : validateInput input = .ok)
    (header : checkHeader resultHeader kFrameResultSize = .ok)
    (loaded : runtime.romLoaded = true)
    (next : runtime.expectsFrame input = true)
    (owned : runtime.nes = some nes) :
    runtime.stepFrame core input resultHeader nowNs =
      runtime.runStep core nes input nowNs := by
  unfold stepFrame
  rw [if_neg (not_not.mpr valid), if_neg (not_not.mpr header), loaded, next, owned]
  rfl

/-- A frame of the right size. -/
structure WholeFrame (frame : VideoFrame) (pixels : Block kRgb565Bytes) : Prop where
  width : frame.width = kFrameWidth
  height : frame.height = kFrameHeight
  pixels : frame.pixels = pixels.bytes

/-- The runtime behind a step that went through. -/
def published
    (runtime : Runtime State)
    (input : FrameInput)
    (ran : RanFrames)
    (later : State)
    (pixels : Block kRgb565Bytes)
    (nowNs : UInt64) : Runtime State :=
  { { runtime.latched input with nes := some later }.pushPcm ran.samples with
    completePixels := pixels
    hasCompleteFrame := true }.stepped input ran.samples nowNs

/-- A core that runs one frame and publishes it whole lets the step go through. -/
theorem runStep_whole
    {later : State}
    {ran : RanFrames}
    {code : Int}
    {pixels : Block kRgb565Bytes}
    (nowNs : UInt64)
    (runs : core.runFrames (setInputs core nes input.buttons) = (ran, later))
    (call : ran.call = .returned code)
    (success : 0 ≤ code)
    (one : ran.framesRun = 1)
    (whole : WholeFrame (core.videoFrame later) pixels) :
    runtime.runStep core nes input nowNs =
      ({ result := .ok
         frame :=
           some
             ((runtime.published input ran later pixels nowNs).frameResult input
               runtime.pcmProducerSequence ran.samples)
         produced := ran.samples },
        runtime.published input ran later pixels nowNs) := by
  have sized : (core.videoFrame later).pixels.length = kRgb565Bytes := by
    rw [whole.pixels, pixels.sized]
  have ran' : ¬ (code < 0 ∨ ran.framesRun ≠ 1) := by
    omega
  have fits : ¬ (core.videoFrame later).pixels.length > kRgb565Bytes := by
    omega
  have right :
      ¬ ((core.videoFrame later).width ≠ kFrameWidth ∨
          (core.videoFrame later).height ≠ kFrameHeight ∨
          (core.videoFrame later).pixels.length ≠ kRgb565Bytes) := by
    simp [whole.width, whole.height, sized]
  have copied (rest : Bytes) :
      Block.copy kRgb565Bytes ((core.videoFrame later).pixels ++ rest) = pixels := by
    rw [whole.pixels, Block.copy_append]
  unfold runStep publish copyPublishedFrame
  simp only [runs, call, if_neg ran', if_neg fits, if_neg right, copied]
  rfl

end Runtime

/-! ### A core that counts -/

/-- The buttons that are held and how often they changed, a beat that they hurry, and the
beat that is shown. -/
structure Metronome where
  held : UInt32
  beat : UInt8
  generation : Nat := 0
  shown : UInt8 := 0
deriving DecidableEq

def Metronome.picture (metronome : Metronome) : Block kRgb565Bytes :=
  ⟨List.replicate kRgb565Bytes metronome.shown, List.length_replicate⟩

/-- A state as bytes, for a buffer that may be too small. -/
def Metronome.copy (metronome : Metronome) (capacity : Nat) : StateCopy capacity where
  call := .returned (if capacity = 0 then nesErrBufferTooSmall else 0)
  written := if capacity = 0 then 0 else 1
  needed := 1
  buffer := Block.copy capacity [metronome.beat]

/-- A core with two samples in every frame.  Only the beat is saved and loaded. -/
def metronome : NesCore Metronome where
  create _ := some { held := 0, beat := 0 }
  loadRom _ _ := (.returned 0, { held := 0, beat := 0 })
  setInput state port buttons :=
    if port = 0 ∧ state.held ≠ buttons then
      { state with held := buttons, generation := state.generation + 1 }
    else
      state
  runFrames state :=
    let beat := state.beat + 1 + state.held.toUInt8
    ({ call := .returned 0
       framesRun := 1
       samples := [7, 8]
       fits := by decide },
      { state with beat := beat, shown := beat })
  videoFrame state :=
    { width := kFrameWidth, height := kFrameHeight, pixels := state.picture.bytes }
  saveState := Metronome.copy
  copyCanonicalState := Metronome.copy
  loadState state bytes :=
    match bytes with
    | [beat] => (.returned 0, { state with beat := beat })
    | _ => (.returned nesErrStateRomMismatch, state)
  regionNtsc _ := some true

theorem metronome_videoFrame (state : Metronome) :
    Runtime.WholeFrame (metronome.videoFrame state) state.picture :=
  ⟨rfl, rfl, rfl⟩

def sampleConfig : RuntimeConfig where
  header := { structSize := kRuntimeConfigSize, version := 1 }
  sampleRate := 0
  reserved := 0

def sampleRuntime : Runtime Metronome where
  nes := some { held := 0, beat := 0 }
  sampleRate := kDefaultSampleRate

theorem sampleRuntime_created :
    Runtime.create metronome sampleConfig = .ok sampleRuntime :=
  rfl

def sampleInput : FrameInput where
  header := { structSize := kFrameInputSize, version := 1 }
  timelineEpoch := 1
  frameIndex := 0
  buttons _ := 0
  inputSequence _ := 0
  predictedPortMask := 0
  reserved0 := 0
  batchSequence := 1
  captureTimeNs := 0

def sampleHeader (size : UInt32) : StructHeader where
  structSize := size
  version := 1

end FlyNes.Emulation
