import FlyNes.RuntimeDigest
import FlyNes.RuntimeRing

namespace FlyNes.Emulation

open ByteString
open RingBuffer (Ring newest)

/-!
# Replay

What is restored from a snapshot is a twin of the runtime that was captured: all that
a later step reads is the same.  Twins that take the same inputs stay twins and answer
the same, but for the time at which a frame was produced.  The cores of twins are alike:
a load restores neither the published picture nor the buttons, which the next frame
replaces.
-/

/-- Two frames that were run alike. -/
structure NesCore.SameRun
    {State : Type}
    (core : NesCore State)
    (alike : State → State → Prop)
    (run other : RanFrames × State) : Prop where
  answer : other.1 = run.1
  alike : alike run.2 other.2
  /-- A frame that has run is published. -/
  shows :
    ∀ code, run.1.call = .returned code → 0 ≤ code → run.1.framesRun = 1 →
      core.videoFrame other.2 = core.videoFrame run.2 ∧
        core.copyCanonicalState other.2 = core.copyCanonicalState run.2

/-- A core that loads what it has saved.  A saved state belongs to a ROM, which only a
load of another ROM changes.  States are alike if the frames that are run from them show
no difference; they may have published other pictures before. -/
structure NesCore.Lossless
    {State Rom : Type}
    (core : NesCore State)
    (rom : State → Rom)
    (alike : State → State → Prop) : Prop where
  /-- What is latched does not count before a frame is run. -/
  latches :
    ∀ nes twin port buttons, alike nes twin → alike nes (core.setInput twin port buttons)
  runs :
    ∀ nes twin buttons, alike nes twin →
      core.SameRun alike (core.runFrames (Runtime.setInputs core nes buttons))
        (core.runFrames (Runtime.setInputs core twin buttons))
  /-- Under the same ROM a saved state is loaded. -/
  loads :
    ∀ nes current memory bytes,
      readState (core.saveState nes) memory = .ok bytes →
      rom current = rom nes →
        ∃ code loaded, core.loadState current bytes = (.returned code, loaded) ∧ 0 ≤ code ∧
          alike nes loaded
  /-- A saved state is counted by 32 bits. -/
  sized :
    ∀ nes memory bytes,
      readState (core.saveState nes) memory = .ok bytes → bytes.length < 2 ^ 32
  setInput : ∀ nes port buttons, rom (core.setInput nes port buttons) = rom nes
  runFrames : ∀ nes, rom (core.runFrames nes).2 = rom nes
  loadState : ∀ nes bytes, rom (core.loadState nes bytes).2 = rom nes

/-- Latching buttons, of whichever ports, does not count either. -/
theorem NesCore.Lossless.latch
    {State Rom : Type}
    {core : NesCore State}
    {rom : State → Rom}
    {alike : State → State → Prop}
    (lossless : core.Lossless rom alike)
    (buttons : Fin 4 → UInt32)
    (ports : List (Fin 4))
    {nes twin : State}
    (same : alike nes twin) :
    alike nes (ports.foldl (fun nes port => core.setInput nes port (buttons port)) twin) := by
  induction ports generalizing twin with
  | nil => exact same
  | cons port rest inductionHypothesis =>
      exact inductionHypothesis (lossless.latches nes twin port (buttons port) same)

namespace FrameResult

/-- A result without the time at which its frame was produced. -/
def untimed (result : FrameResult) : FrameResult :=
  { result with producedTimeNs := 0 }

end FrameResult

/-- Two answers that differ at most in the time. -/
structure StepAnswer.Same (answer other : StepAnswer) : Prop where
  result : other.result = answer.result
  frame : other.frame.map FrameResult.untimed = answer.frame.map FrameResult.untimed
  produced : other.produced = answer.produced

theorem StepAnswer.Same.refl (answer : StepAnswer) : answer.Same answer :=
  ⟨rfl, rfl, rfl⟩

namespace Runtime

variable {State Rom : Type} {core : NesCore State}
variable {rom : State → Rom} {alike : State → State → Prop}
variable {runtime other : Runtime State}

/-- Both cores are there, and alike. -/
def SameCore (alike : State → State → Prop) (first second : Option State) : Prop :=
  ∃ nes twin, first = some nes ∧ second = some twin ∧ alike nes twin

/-- The cores are alike, have the same canonical state and show the same picture. -/
def SameShown
    (core : NesCore State)
    (alike : State → State → Prop)
    (first second : Option State) : Prop :=
  ∃ nes twin, first = some nes ∧ second = some twin ∧ alike nes twin ∧
    core.copyCanonicalState twin = core.copyCanonicalState nes ∧
    core.videoFrame twin = core.videoFrame nes

/-- All that a later step reads is the same. -/
structure Twin (alike : State → State → Prop) (runtime other : Runtime State) : Prop where
  romLoaded : other.romLoaded = runtime.romLoaded
  timelineSet : other.timelineSet = runtime.timelineSet
  hasCompleteFrame : other.hasCompleteFrame = runtime.hasCompleteFrame
  sampleRate : other.sampleRate = runtime.sampleRate
  predictedPortMask : other.predictedPortMask = runtime.predictedPortMask
  buttons : other.buttons = runtime.buttons
  timelineEpoch : other.timelineEpoch = runtime.timelineEpoch
  nextFrameIndex : other.nextFrameIndex = runtime.nextFrameIndex
  inputSequence : other.inputSequence = runtime.inputSequence
  frameSequence : other.frameSequence = runtime.frameSequence
  pcmProducerSequence : other.pcmProducerSequence = runtime.pcmProducerSequence
  lastBatchSequence : other.lastBatchSequence = runtime.lastBatchSequence
  lastSourceTimeNs : other.lastSourceTimeNs = runtime.lastSourceTimeNs
  completePixels :
    runtime.hasCompleteFrame = true → other.completePixels = runtime.completePixels
  core : runtime.romLoaded = true → SameCore alike runtime.nes other.nes

/-- What twins have in common after a step that went through. -/
structure Stepping
    (core : NesCore State)
    (alike : State → State → Prop)
    (runtime other : Runtime State) : Prop where
  nes : SameShown core alike runtime.nes other.nes
  present : runtime.hasFrameDigest = true
  present' : other.hasFrameDigest = true
  framePcmSha256 : other.framePcmSha256 = runtime.framePcmSha256
  complete : runtime.hasCompleteFrame = true

theorem Twin.latched
    (twin : Twin alike runtime other)
    (input : FrameInput)
    {nes nes' : State}
    (same : alike nes nes') :
    Twin alike { runtime.latched input with nes := some nes }
      { other.latched input with nes := some nes' } :=
  { twin with
    buttons := rfl
    inputSequence := rfl
    core := fun _ => ⟨nes, nes', rfl, rfl, same⟩ }

/-- The samples that are pushed are numbered alike. -/
theorem Twin.pushPcm
    (twin : Twin alike runtime other)
    (samples : List Int16) :
    Twin alike (runtime.pushPcm samples) (other.pushPcm samples) := by
  obtain ⟨_, _, _, _, pushed⟩ := @pushPcm_frame State runtime samples
  obtain ⟨_, _, _, _, pushed'⟩ := @pushPcm_frame State other samples
  rw [pushed, pushed']
  exact
    { twin with
      pcmProducerSequence :=
        congrArg (· + UInt64.ofNat samples.length) twin.pcmProducerSequence }

theorem Twin.copyPublishedFrame
    (twin : Twin alike runtime other)
    {nes nes' : State}
    (same : core.videoFrame nes' = core.videoFrame nes) :
    (other.copyPublishedFrame core nes').1 = (runtime.copyPublishedFrame core nes).1 ∧
      Twin alike (runtime.copyPublishedFrame core nes).2
        (other.copyPublishedFrame core nes').2 := by
  unfold Runtime.copyPublishedFrame
  rw [same]
  dsimp only
  split
  · exact ⟨rfl, twin⟩
  · split
    · refine ⟨rfl, { twin with completePixels := ?_ }⟩
      intro complete
      dsimp only
      rw [twin.completePixels complete]
    · next whole =>
      -- A whole frame leaves nothing of the old one, which may differ.
      have sized : (core.videoFrame nes).pixels.length = kRgb565Bytes := by
        simpa using (not_or.mp (not_or.mp whole).2).2
      refine ⟨rfl, { twin with completePixels := fun _ => ?_, hasCompleteFrame := rfl }⟩
      have whole (rest : Bytes) :
          Block.copy kRgb565Bytes ((core.videoFrame nes).pixels ++ rest) =
            ⟨(core.videoFrame nes).pixels, sized⟩ :=
        Block.copy_append ⟨_, sized⟩ rest
      exact (whole _).trans (whole _).symm

theorem Twin.stepped
    (twin : Twin alike runtime other)
    (input : FrameInput)
    (samples : List Int16)
    (nowNs nowNs' : UInt64) :
    Twin alike (runtime.stepped input samples nowNs) (other.stepped input samples nowNs') :=
  { twin with
    timelineSet := rfl
    timelineEpoch := rfl
    nextFrameIndex := rfl
    predictedPortMask := rfl
    lastBatchSequence := rfl
    lastSourceTimeNs := rfl
    frameSequence := congrArg (· + 1) twin.frameSequence }

/-- The results of twins differ at most in the time. -/
theorem Twin.frameResult
    (twin : Twin alike runtime other)
    (input : FrameInput)
    (audioFirst : UInt64)
    (samples : List Int16) :
    (other.frameResult input audioFirst samples).untimed =
      (runtime.frameResult input audioFirst samples).untimed := by
  simp only [Runtime.frameResult, FrameResult.untimed, twin.timelineEpoch, twin.frameSequence,
    twin.pcmProducerSequence, twin.inputSequence, twin.lastSourceTimeNs]

/-- What a step does to twins. -/
structure SameStep
    (core : NesCore State)
    (alike : State → State → Prop)
    (outcome outcome' : StepAnswer × Runtime State) : Prop where
  answer : outcome.1.Same outcome'.1
  twin : Twin alike outcome.2 outcome'.2
  stepping : outcome.1.result = .ok → Stepping core alike outcome.2 outcome'.2

variable {result : FlyResult}

theorem SameStep.refused
    (twin : Twin alike runtime other)
    (failure : result ≠ .ok) :
    SameStep core alike ({ result := result }, runtime) ({ result := result }, other) :=
  ⟨.refl _, twin, fun success => absurd success failure⟩

theorem copyPublishedFrame_nes (nes : State) :
    (runtime.copyPublishedFrame core nes).2.nes = runtime.nes := by
  unfold Runtime.copyPublishedFrame
  dsimp only
  split
  · rfl
  · split
    · rfl
    · rfl

variable {nes : State}

/-- Only a whole frame is copied. -/
theorem copyPublishedFrame_ok
    (copied : (runtime.copyPublishedFrame core nes).1 = .ok) :
    (runtime.copyPublishedFrame core nes).2.hasCompleteFrame = true := by
  unfold Runtime.copyPublishedFrame at copied ⊢
  dsimp only at copied ⊢
  split at copied
  · cases copied
  · split at copied
    · cases copied
    · next fits whole =>
      rw [if_neg fits, if_neg whole]

theorem pushPcm_nes (samples : List Int16) : (runtime.pushPcm samples).nes = runtime.nes := by
  obtain ⟨_, _, _, _, pushed⟩ := @pushPcm_frame State runtime samples
  rw [pushed]

theorem Twin.publish
    (twin : Twin alike runtime other)
    {nes nes' : State}
    (owned : runtime.nes = some nes)
    (owned' : other.nes = some nes')
    (same : alike nes nes')
    (canonical : core.copyCanonicalState nes' = core.copyCanonicalState nes)
    (picture : core.videoFrame nes' = core.videoFrame nes)
    (input : FrameInput)
    (samples : List Int16)
    (nowNs nowNs' : UInt64) :
    SameStep core alike (runtime.publish core nes input samples nowNs)
      (other.publish core nes' input samples nowNs') := by
  obtain ⟨copied, published⟩ := (twin.pushPcm samples).copyPublishedFrame picture
  unfold Runtime.publish
  dsimp only
  rw [copied, twin.pcmProducerSequence]
  split
  · next failed => exact ⟨.refl _, published, fun success => absurd success failed⟩
  · next passed =>
    have stepped := published.stepped input samples nowNs nowNs'
    refine ⟨⟨rfl, ?_, rfl⟩, stepped, fun _ => ⟨?_, rfl, rfl, rfl, ?_⟩⟩
    · exact congrArg some (stepped.frameResult input _ samples)
    · refine ⟨nes, nes', ?_, ?_, same, canonical, picture⟩
      · exact (copyPublishedFrame_nes nes).trans ((pushPcm_nes samples).trans owned)
      · exact (copyPublishedFrame_nes nes').trans ((pushPcm_nes samples).trans owned')
    · exact copyPublishedFrame_ok (not_not.mp passed)

theorem Twin.runStep
    (twin : Twin alike runtime other)
    (lossless : core.Lossless rom alike)
    {nes nes' : State}
    (same : alike nes nes')
    (input : FrameInput)
    (nowNs nowNs' : UInt64) :
    SameStep core alike (runtime.runStep core nes input nowNs)
      (other.runStep core nes' input nowNs') := by
  obtain ⟨answer, same, shows⟩ := lossless.runs nes nes' input.buttons same
  unfold Runtime.runStep
  generalize core.runFrames (setInputs core nes input.buttons) = run at answer same shows ⊢
  generalize core.runFrames (setInputs core nes' input.buttons) = run' at answer same shows ⊢
  obtain ⟨⟨call, framesRun, samples, fits⟩, later⟩ := run
  obtain ⟨ran, later'⟩ := run'
  obtain rfl := answer
  have latched := twin.latched input same
  cases call with
  | outOfMemory => exact .refused latched (by simp)
  | threw => exact .refused latched (by simp)
  | returned code =>
      dsimp only at shows ⊢
      split
      · exact .refused latched (by simp)
      · next passed =>
        obtain ⟨picture, canonical⟩ := shows code rfl (by omega) (by omega)
        exact latched.publish rfl rfl same canonical picture input samples nowNs nowNs'

theorem Twin.expectsFrame (twin : Twin alike runtime other) (input : FrameInput) :
    other.expectsFrame input = runtime.expectsFrame input := by
  unfold Runtime.expectsFrame
  rw [twin.timelineSet, twin.timelineEpoch, twin.nextFrameIndex]

theorem Twin.stepFrame
    (twin : Twin alike runtime other)
    (lossless : core.Lossless rom alike)
    (input : FrameInput)
    (resultHeader : StructHeader)
    (nowNs nowNs' : UInt64) :
    SameStep core alike (runtime.stepFrame core input resultHeader nowNs)
      (other.stepFrame core input resultHeader nowNs') := by
  unfold Runtime.stepFrame
  rw [twin.romLoaded, twin.expectsFrame input]
  split
  · next invalid => exact .refused twin invalid
  · split
    · next invalid => exact .refused twin invalid
    · split
      · exact .refused twin (by simp)
      · next loaded =>
        split
        · exact .refused twin (by simp)
        · obtain ⟨nes, nes', owned, owned', same⟩ := twin.core (by simpa using loaded)
          rw [owned, owned']
          exact twin.runStep lossless same input nowNs nowNs'

/-! ### Stepping many inputs -/

/-- Step one input after another, with the time of every step. -/
def stepAll
    (core : NesCore State)
    (resultHeader : StructHeader) :
    Runtime State → List FrameInput → (Nat → UInt64) → List StepAnswer × Runtime State
  | runtime, [], _ => ([], runtime)
  | runtime, input :: rest, clock =>
      let (answer, runtime) := runtime.stepFrame core input resultHeader (clock 0)
      let (answers, runtime) := stepAll core resultHeader runtime rest fun step => clock (step + 1)
      (answer :: answers, runtime)

/-- Every step went through. -/
def AllPassed (answers : List StepAnswer) : Prop :=
  ∀ answer ∈ answers, answer.result = .ok

theorem Twin.stepAll
    (twin : Twin alike runtime other)
    (lossless : core.Lossless rom alike)
    (resultHeader : StructHeader)
    (inputs : List FrameInput)
    (clock clock' : Nat → UInt64) :
    List.Forall₂ StepAnswer.Same (stepAll core resultHeader runtime inputs clock).1
        (stepAll core resultHeader other inputs clock').1 ∧
      Twin alike (stepAll core resultHeader runtime inputs clock).2
        (stepAll core resultHeader other inputs clock').2 ∧
      (inputs ≠ [] → AllPassed (stepAll core resultHeader runtime inputs clock).1 →
        Stepping core alike (stepAll core resultHeader runtime inputs clock).2
          (stepAll core resultHeader other inputs clock').2) := by
  induction inputs generalizing runtime other clock clock' with
  | nil => exact ⟨.nil, twin, fun some => absurd rfl some⟩
  | cons input rest inductionHypothesis =>
      obtain ⟨answer, next, stepping⟩ :=
        twin.stepFrame lossless input resultHeader (clock 0) (clock' 0)
      obtain ⟨answers, last, ends⟩ :=
        inductionHypothesis next (fun step => clock (step + 1)) fun step => clock' (step + 1)
      refine ⟨.cons answer answers, last, fun _ passed => ?_⟩
      obtain ⟨first, others⟩ := List.forall_mem_cons.mp passed
      cases rest with
      | nil => exact stepping first
      | cons second rest => exact ends (by simp) others

/-- Twins that have stepped have the same digest. -/
theorem Twin.copyFrameDigest
    (twin : Twin alike runtime other)
    (stepping : Stepping core alike runtime other)
    (timelineEpoch frameIndex : UInt64)
    (header : StructHeader)
    (memory : Memory) :
    other.copyFrameDigest core timelineEpoch frameIndex header memory =
      runtime.copyFrameDigest core timelineEpoch frameIndex header memory := by
  obtain ⟨nes, nes', owned, owned', -, canonical, -⟩ := stepping.nes
  unfold Runtime.copyFrameDigest
  rw [twin.timelineSet, twin.timelineEpoch, twin.nextFrameIndex, twin.hasCompleteFrame,
    twin.predictedPortMask, twin.completePixels stepping.complete, owned, owned',
    stepping.present, stepping.present', stepping.framePcmSha256]
  dsimp only
  rw [canonical]

/-- The samples of the answers, in order. -/
def producedBy (answers : List StepAnswer) : List Int16 :=
  answers.flatMap StepAnswer.produced

/-- Steps push the samples that they produce behind what the ring contains. -/
theorem Level.stepAll
    (level : runtime.Level)
    (resultHeader : StructHeader)
    (inputs : List FrameInput)
    (clock : Nat → UInt64) :
    (stepAll core resultHeader runtime inputs clock).2.Level ∧
      (stepAll core resultHeader runtime inputs clock).2.ring.contents =
        newest kPcmCapacity
          (runtime.ring.contents ++
            producedBy (stepAll core resultHeader runtime inputs clock).1) := by
  induction inputs generalizing runtime clock with
  | nil =>
      refine ⟨level, ?_⟩
      have few : runtime.ring.contents.length ≤ kPcmCapacity := by
        rw [Ring.length_contents]
        exact level.sound.count
      change runtime.ring.contents = newest kPcmCapacity (runtime.ring.contents ++ [])
      rw [List.append_nil, RingBuffer.newest_of_le few]
  | cons input rest inductionHypothesis =>
      have same := @RuntimeLog.pushes_stepFrame State core runtime input resultHeader (clock 0)
      obtain ⟨last, contents⟩ :=
        inductionHypothesis (same.level (level.pushPcm _)) fun step => clock (step + 1)
      refine ⟨last, ?_⟩
      rw [same.ring, level.contents_pushPcm, RingBuffer.newest_newest,
        List.append_assoc] at contents
      exact contents

/-! ### Snapshots of a runtime -/

variable {copy : (capacity : Nat) → StateCopy capacity} {memory : Memory}

/-- A state that has been read is not empty. -/
theorem readState_ne_nil
    {bytes : Bytes}
    (read : readState copy memory = .ok bytes) :
    bytes ≠ [] := by
  unfold readState at read
  dsimp only at read
  split at read
  · cases read
  · cases read
  · split at read
    · cases read
    · next some =>
      split at read
      · cases read
      · split at read
        · cases read
        · cases read
        · split at read
          · cases read
          · rintro rfl
            have sized := (copy (copy 0).needed).buffer.sized
            rw [Except.ok.inj read] at sized
            exact some (.inr sized.symm)

theorem readState_error
    (failed : readState copy memory = .error result) :
    result ≠ .ok := by
  unfold readState at failed
  dsimp only at failed
  rintro rfl
  split at failed
  · cases failed
  · cases failed
  · split at failed
    · cases failed
    · split at failed
      · cases failed
      · split at failed
        · cases failed
        · cases failed
        · split at failed
          · cases failed
          · cases failed

/-- A snapshot that holds all of a runtime. -/
structure Captures
    (core : NesCore State)
    (runtime : Runtime State)
    (nes : State)
    (snapshot : Snapshot) : Prop where
  owned : runtime.nes = some nes
  fields :
    ∃ bytes,
      snapshot =
          { runtime.snapshotFields with
            pixels := if runtime.hasCompleteFrame then runtime.completePixels.bytes else []
            core := bytes
            valid := true } ∧
        (runtime.romLoaded = false ∧ bytes = [] ∨
          runtime.romLoaded = true ∧
            ∃ memory, readState (core.saveState nes) memory = .ok bytes)

theorem Captures.valid
    {snapshot : Snapshot}
    (captures : Captures core runtime nes snapshot) :
    snapshot.valid = true := by
  obtain ⟨-, bytes, rfl, -⟩ := captures
  rfl

theorem captureSnapshot_ok
    {old snapshot : Snapshot}
    (captured : runtime.captureSnapshot core memory old = (.ok, snapshot)) :
    ∃ nes, Captures core runtime nes snapshot := by
  unfold captureSnapshot at captured
  split at captured
  · cases captured
  · next nes owned =>
    split at captured
    · cases captured
    · dsimp only at captured
      refine ⟨nes, owned, ?_⟩
      split at captured
      · next unloaded =>
        obtain rfl := (Prod.mk.inj captured).2
        exact ⟨[], rfl, .inl ⟨by simpa using unloaded, rfl⟩⟩
      · next loaded =>
        split at captured
        · next result failed =>
          exact absurd (Prod.mk.inj captured).1 (readState_error failed)
        · next bytes read =>
          obtain rfl := (Prod.mk.inj captured).2
          exact ⟨bytes, rfl, .inr ⟨by simpa using loaded, memory, read⟩⟩

section Restoring

variable {nes : State} {snapshot : Snapshot}

/-- The picture of a snapshot is the one that was captured. -/
theorem restored_completePixels
    (captures : Captures core runtime nes snapshot)
    (clearRollback : Bool)
    (complete : runtime.hasCompleteFrame = true) :
    (other.restored snapshot clearRollback).completePixels = runtime.completePixels := by
  obtain ⟨-, bytes, rfl, -⟩ := captures
  change
    (if runtime.hasCompleteFrame then
        Block.copy kRgb565Bytes
          (if runtime.hasCompleteFrame then runtime.completePixels.bytes else [])
      else Block.zero kRgb565Bytes) =
      runtime.completePixels
  rw [if_pos complete, if_pos complete, Block.copy_bytes]

/-- What is restored is a twin, if its core is. -/
theorem Captures.twin
    (captures : Captures core runtime nes snapshot)
    (clearRollback : Bool)
    (same : runtime.romLoaded = true → SameCore alike runtime.nes other.nes) :
    Twin alike runtime (other.restored snapshot clearRollback) := by
  have pixels := @restored_completePixels State core runtime other nes snapshot captures
    clearRollback
  obtain ⟨-, bytes, rfl, -⟩ := captures
  exact
    { romLoaded := rfl
      timelineSet := rfl
      hasCompleteFrame := rfl
      sampleRate := rfl
      predictedPortMask := rfl
      buttons := rfl
      timelineEpoch := rfl
      nextFrameIndex := rfl
      inputSequence := rfl
      frameSequence := rfl
      pcmProducerSequence := rfl
      lastBatchSequence := rfl
      lastSourceTimeNs := rfl
      completePixels := pixels
      core := same }

/-- A snapshot is restored wherever the ROM is the one of its core. -/
theorem Captures.restores
    {nes current : State}
    (captures : Captures core runtime nes snapshot)
    (lossless : core.Lossless rom alike)
    (owned : other.nes = some current)
    (inserted : runtime.romLoaded = true → rom current = rom nes)
    (clearRollback : Bool) :
    ∃ restored, other.applySnapshot core snapshot clearRollback = (.ok, restored) ∧
      restored.Emptied ∧ Twin alike runtime restored := by
  have captured := captures
  obtain ⟨-, bytes, fields, core⟩ := captures
  have valid : snapshot.valid = true := by rw [fields]
  have stored : snapshot.core = bytes := by rw [fields]
  have loaded : snapshot.romLoaded = runtime.romLoaded := by rw [fields]; rfl
  unfold applySnapshot
  rw [owned, valid, stored, loaded]
  rcases core with ⟨unloaded, rfl⟩ | ⟨loaded, memory, read⟩
  · rw [unloaded]
    refine ⟨_, rfl, RuntimeLog.emptied_restored _ _, captured.twin clearRollback ?_⟩
    intro loaded
    rw [unloaded] at loaded
    cases loaded
  · obtain ⟨code, state, call, success, same⟩ :=
      lossless.loads nes current memory bytes read (inserted loaded)
    have some : bytes.isEmpty = false := by
      simpa using readState_ne_nil read
    have passed : ¬ code < 0 := by omega
    simp only [loaded, some, call, Bool.not_true, Bool.and_false, Bool.or_false,
      Bool.false_eq_true, if_false, if_neg passed]
    refine ⟨_, rfl, RuntimeLog.emptied_restored _ _, captured.twin clearRollback ?_⟩
    intro _
    exact ⟨nes, _, captured.owned, rfl, lossless.latch _ _ same⟩

end Restoring

end Runtime

end FlyNes.Emulation
