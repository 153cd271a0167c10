import FlyNes.RuntimeReplay
import FlyNes.RuntimeRate

namespace FlyNes.Emulation

open ByteString
open RingBuffer (Ring newest)

/-!
# How a state travels

A slot keeps its snapshot through all calls but a load and another capture, and none
of them changes the ROM of the core or the rate.  So the slot can be restored, and a
checkpoint can be loaded elsewhere; what is stepped then is what would have been
stepped.
-/

namespace Runtime

variable {State : Type} {core : NesCore State}
variable {runtime other : Runtime State}

section Remembering

variable {Rom : Type} {rom : State → Rom} {alike : State → State → Prop}

/-! ### What lies between a capture and its restore -/

/-- The ROM of a core stays, and so does a slot. -/
structure Remembers
    (rom : State → Rom)
    (slot : Fin kRollbackSlots)
    (runtime later : Runtime State) : Prop where
  rollback : later.rollback slot = runtime.rollback slot
  core :
    ∀ nes, runtime.nes = some nes → ∃ current, later.nes = some current ∧ rom current = rom nes

theorem Remembers.refl (slot : Fin kRollbackSlots) (runtime : Runtime State) :
    Remembers rom slot runtime runtime :=
  ⟨rfl, fun nes owned => ⟨nes, owned, rfl⟩⟩

variable {slot : Fin kRollbackSlots}

theorem Remembers.trans
    {first second third : Runtime State}
    (left : Remembers rom slot first second)
    (right : Remembers rom slot second third) :
    Remembers rom slot first third := by
  refine ⟨right.rollback.trans left.rollback, ?_⟩
  intro nes owned
  obtain ⟨current, between, same⟩ := left.core nes owned
  obtain ⟨last, ends, same'⟩ := right.core current between
  exact ⟨last, ends, same'.trans same⟩

/-- Latching buttons, of whichever ports, keeps the ROM. -/
theorem rom_latch
    (lossless : core.Lossless rom alike)
    (buttons : Fin 4 → UInt32)
    (ports : List (Fin 4))
    (nes : State) :
    rom (ports.foldl (fun nes port => core.setInput nes port (buttons port)) nes) = rom nes := by
  induction ports generalizing nes with
  | nil => rfl
  | cons port rest inductionHypothesis =>
      rw [List.foldl_cons, inductionHypothesis, lossless.setInput]

theorem publish_nes
    (nes : State)
    (input : FrameInput)
    (samples : List Int16)
    (nowNs : UInt64) :
    (runtime.publish core nes input samples nowNs).2.nes = runtime.nes := by
  have copied := @copyPublishedFrame_nes State core (runtime.pushPcm samples) nes
  rw [pushPcm_nes] at copied
  unfold publish
  dsimp only
  split
  · exact copied
  · exact copied

/-- The core after a step is the one that ran. -/
theorem runStep_nes
    (nes : State)
    (input : FrameInput)
    (nowNs : UInt64) :
    (runtime.runStep core nes input nowNs).2.nes =
      some (core.runFrames (setInputs core nes input.buttons)).2 := by
  unfold runStep
  dsimp only
  split
  · rfl
  · rfl
  · split
    · rfl
    · exact publish_nes _ _ _ _

/-- A step leaves the slots and the rate alone. -/
theorem remembers_stepFrame
    (lossless : core.Lossless rom alike)
    (slot : Fin kRollbackSlots)
    (input : FrameInput)
    (resultHeader : StructHeader)
    (nowNs : UInt64) :
    Remembers rom slot runtime (runtime.stepFrame core input resultHeader nowNs).2 := by
  refine ⟨congrFun (stepFrame_keeps input resultHeader nowNs).1 slot, ?_⟩
  intro nes owned
  unfold Runtime.stepFrame
  split
  · exact ⟨nes, owned, rfl⟩
  · split
    · exact ⟨nes, owned, rfl⟩
    · split
      · exact ⟨nes, owned, rfl⟩
      · split
        · exact ⟨nes, owned, rfl⟩
        · rw [owned]
          refine ⟨_, runStep_nes nes input nowNs, ?_⟩
          rw [lossless.runFrames]
          exact rom_latch lossless input.buttons _ nes

theorem remembers_restoreRollback
    (lossless : core.Lossless rom alike)
    (slot : Fin kRollbackSlots)
    (chosen : Nat) :
    Remembers rom slot runtime (runtime.restoreRollback core chosen).2 := by
  have applied (snapshot : Snapshot) :
      Remembers rom slot runtime (runtime.applySnapshot core snapshot false).2 := by
    have cases := @applySnapshot_cases State core runtime snapshot false
    generalize runtime.applySnapshot core snapshot false = outcome at cases ⊢
    cases cases with
    | refused => exact .refl slot runtime
    | unloaded => exact ⟨rfl, fun nes owned => ⟨nes, owned, rfl⟩⟩
    | @failed nes result kept owned =>
        refine ⟨rfl, fun other owns => ?_⟩
        obtain rfl := Option.some.inj (owned.symm.trans owns)
        exact ⟨_, rfl, lossless.loadState _ _⟩
    | @loaded nes code owned =>
        refine ⟨rfl, fun other owns => ?_⟩
        obtain rfl := Option.some.inj (owned.symm.trans owns)
        refine ⟨_, rfl, ?_⟩
        exact (rom_latch lossless _ _ _).trans (lossless.loadState _ _)
  unfold restoreRollback
  split
  · dsimp only
    split
    · exact .refl slot runtime
    · exact applied _
  · exact .refl slot runtime

theorem remembers_clearInputPorts
    (lossless : core.Lossless rom alike)
    (slot : Fin kRollbackSlots)
    (portMask reason : UInt32) :
    Remembers rom slot runtime (runtime.clearInputPorts core portMask reason).2 := by
  unfold clearInputPorts
  split
  · exact .refl slot runtime
  · refine ⟨rfl, fun nes owned => ?_⟩
    rw [owned]
    exact ⟨_, rfl, rom_latch lossless (fun _ => 0) _ nes⟩

theorem remembers_captureRollback
    {chosen : Nat}
    (different : chosen ≠ slot.val)
    (memory : Memory) :
    Remembers rom slot runtime (runtime.captureRollback core chosen memory).2 := by
  unfold captureRollback
  split
  · refine ⟨Function.update_of_ne ?_ _ _, fun nes owned => ⟨nes, owned, rfl⟩⟩
    rintro rfl
    exact different rfl
  · exact .refl slot runtime

theorem remembers_pullPcm
    (slot : Fin kRollbackSlots)
    (sampleCapacity : Nat)
    (header : StructHeader)
    (ownsLock : Bool) :
    Remembers rom slot runtime (runtime.pullPcm sampleCapacity header ownsLock).2 := by
  unfold pullPcm
  split
  · exact .refl slot runtime
  · split
    · exact .refl slot runtime
    · split
      · exact .refl slot runtime
      · exact ⟨rfl, fun nes owned => ⟨nes, owned, rfl⟩⟩

/-- The calls that load no ROM and no checkpoint, and leave a slot alone. -/
def keepsSlot (slot : Nat) : RuntimeCall → Bool
  | .loadRom _ _ => false
  | .loadRomFresh _ _ => false
  | .loadCheckpoint _ _ => false
  | .loadCheckpointForEpoch _ _ _ => false
  | .captureRollback chosen _ => chosen != slot
  | _ => true

theorem remembers_perform
    (lossless : core.Lossless rom alike)
    {call : RuntimeCall}
    (keeps : keepsSlot slot call = true)
    (runtime : Runtime State) :
    Remembers rom slot runtime (runtime.perform core call).2 := by
  cases call with
  | loadRom => cases keeps
  | loadRomFresh => cases keeps
  | stepFrame input resultHeader nowNs =>
      exact remembers_stepFrame lossless slot input resultHeader nowNs
  | copyFrameDigest => exact .refl slot runtime
  | getSourceTiming => exact .refl slot runtime
  | clearInputPorts portMask reason =>
      exact remembers_clearInputPorts lossless slot portMask reason
  | copyLatestFrame => exact .refl slot runtime
  | pullPcm sampleCapacity header ownsLock =>
      exact remembers_pullPcm slot sampleCapacity header ownsLock
  | captureRollback chosen memory =>
      exact remembers_captureRollback (by simpa [keepsSlot] using keeps) memory
  | restoreRollback chosen => exact remembers_restoreRollback lossless slot chosen
  | saveCheckpoint => exact .refl slot runtime
  | loadCheckpoint => cases keeps
  | loadCheckpointForEpoch => cases keeps

theorem remembers_after
    (lossless : core.Lossless rom alike)
    (calls : List RuntimeCall)
    (keeps : ∀ call ∈ calls, keepsSlot slot call = true)
    (runtime : Runtime State) :
    Remembers rom slot runtime (runtime.after core calls) := by
  induction calls generalizing runtime with
  | nil => exact .refl slot runtime
  | cons call rest inductionHypothesis =>
      obtain ⟨first, others⟩ := List.forall_mem_cons.mp keeps
      exact (remembers_perform lossless first runtime).trans
        (inductionHypothesis others (runtime.perform core call).2)

end Remembering

/-! ### Stepping again -/

variable {Rom : Type} {rom : State → Rom} {alike : State → State → Prop}
variable {answers others : List StepAnswer}

theorem Forall₂.passes
    (same : List.Forall₂ StepAnswer.Same answers others) :
    AllPassed answers ↔ AllPassed others := by
  unfold AllPassed
  induction same with
  | nil => simp
  | cons first _ inductionHypothesis =>
      rw [List.forall_mem_cons, List.forall_mem_cons, inductionHypothesis, first.result]

/-- Two runs of the same inputs come to the same, but for the time of a frame and the
samples that the first one had before. -/
structure Replays
    (core : NesCore State)
    (alike : State → State → Prop)
    (before : List Int16)
    (run other : List StepAnswer × Runtime State) : Prop where
  answers : List.Forall₂ StepAnswer.Same run.1 other.1
  passes : AllPassed run.1 ↔ AllPassed other.1
  twin : Twin alike run.2 other.2
  nes : AllPassed run.1 → SameShown core alike run.2.nes other.2.nes
  pixels : AllPassed run.1 → other.2.completePixels = run.2.completePixels
  digests :
    AllPassed run.1 →
      ∀ timelineEpoch frameIndex header memory,
        other.2.copyFrameDigest core timelineEpoch frameIndex header memory =
          run.2.copyFrameDigest core timelineEpoch frameIndex header memory
  level : run.2.Level
  level' : other.2.Level
  samples : run.2.ring.contents = newest kPcmCapacity (before ++ producedBy run.1)
  samples' : other.2.ring.contents = newest kPcmCapacity (producedBy run.1)

theorem producedBy_same
    (same : List.Forall₂ StepAnswer.Same answers others) :
    producedBy others = producedBy answers := by
  unfold producedBy
  induction same with
  | nil => rfl
  | cons first _ inductionHypothesis =>
      rw [List.flatMap_cons, List.flatMap_cons, inductionHypothesis, first.produced]

theorem Twin.replays
    (twin : Twin alike runtime other)
    (lossless : core.Lossless rom alike)
    (level : runtime.Level)
    (emptied : other.Emptied)
    (resultHeader : StructHeader)
    {inputs : List FrameInput}
    (some : inputs ≠ [])
    (clock clock' : Nat → UInt64) :
    Replays core alike runtime.ring.contents
      (Runtime.stepAll core resultHeader runtime inputs clock)
      (Runtime.stepAll core resultHeader other inputs clock') := by
  obtain ⟨answers, last, stepping⟩ := twin.stepAll lossless resultHeader inputs clock clock'
  obtain ⟨levels, samples⟩ :=
    @Level.stepAll State core runtime level resultHeader inputs clock
  obtain ⟨levels', samples'⟩ :=
    @Level.stepAll State core other emptied.flowing.level resultHeader inputs clock'
  have none : other.ring.contents = [] := Ring.contents_empty emptied.count
  rw [none, List.nil_append, producedBy_same answers] at samples'
  exact
    { answers := answers
      passes := Forall₂.passes answers
      twin := last
      nes := fun passed => (stepping some passed).nes
      pixels := fun passed => last.completePixels (stepping some passed).complete
      digests := fun passed => last.copyFrameDigest (stepping some passed)
      level := levels
      level' := levels'
      samples := samples
      samples' := samples' }

section Travels

/-- A slot that was captured is restored after any calls that leave it alone, and what
follows is what would have followed. -/
def RollbackReplays
    (core : NesCore State)
    (alike : State → State → Prop)
    (runtime : Runtime State) : Prop :=
  ∀ slot memory further,
    (runtime.captureRollback core slot memory).1 = .ok →
    (∀ call ∈ further, keepsSlot slot call = true) →
      ∃ restored,
        ((runtime.captureRollback core slot memory).2.after core further).restoreRollback core
            slot =
          (.ok, restored) ∧
        ∀ resultHeader inputs clock clock',
          inputs ≠ [] →
            Replays core alike runtime.ring.contents
              (stepAll core resultHeader (runtime.captureRollback core slot memory).2 inputs
                clock)
              (stepAll core resultHeader restored inputs clock')

/-- A checkpoint that was saved is loaded into any runtime of the same ROM and the same
rate that has the memory, and what follows is what would have followed. -/
def CheckpointReplays
    (core : NesCore State)
    (rom : State → Rom)
    (alike : State → State → Prop)
    (runtime : Runtime State) : Prop :=
  ∀ capacity memory nes,
    (runtime.saveCheckpoint core capacity memory).result = .ok →
    runtime.nes = some nes →
      ∀ (other : Runtime State) current memory',
        other.nes = some current →
        rom current = rom nes →
        other.sampleRate = runtime.sampleRate →
          ((∀ size, memory' size = true) →
            (other.loadCheckpoint core (runtime.saveCheckpoint core capacity memory).written
              memory').1 = .ok) ∧
          ((other.loadCheckpoint core (runtime.saveCheckpoint core capacity memory).written
              memory').1 = .ok →
            ∀ resultHeader inputs clock clock',
              inputs ≠ [] →
                Replays core alike runtime.ring.contents
                  (stepAll core resultHeader runtime inputs clock)
                  (stepAll core resultHeader
                    (other.loadCheckpoint core
                      (runtime.saveCheckpoint core capacity memory).written memory').2
                    inputs clock'))

variable {memory : Memory}

/-- What a capture leaves behind is still what was captured. -/
theorem captureRollback_ok
    {slot : Nat}
    (captured : (runtime.captureRollback core slot memory).1 = .ok) :
    ∃ within nes snapshot,
      Captures core (runtime.captureRollback core slot memory).2 nes snapshot ∧
        (runtime.captureRollback core slot memory).2.rollback ⟨slot, within⟩ = snapshot ∧
        runtime.SameSamples (runtime.captureRollback core slot memory).2 := by
  unfold captureRollback at captured ⊢
  split at captured
  · next within =>
    rw [dif_pos within]
    obtain ⟨nes, owned, fields⟩ :=
      captureSnapshot_ok (Prod.ext captured rfl :
        runtime.captureSnapshot core memory (runtime.rollback ⟨slot, within⟩) =
          (.ok, (runtime.captureSnapshot core memory (runtime.rollback ⟨slot, within⟩)).2))
    exact ⟨within, nes, _, ⟨owned, fields⟩, Function.update_self _ _ _, rfl, rfl, rfl⟩
  · cases captured

theorem rollbackReplays
    (lossless : core.Lossless rom alike)
    (level : runtime.Level) :
    RollbackReplays core alike runtime := by
  intro slot memory further captured keeps
  obtain ⟨within, nes, snapshot, captures, held, same⟩ := captureRollback_ok captured
  have level := same.level level
  generalize (runtime.captureRollback core slot memory).2 = saved at captures held level same
  obtain ⟨kept, core'⟩ :=
    @remembers_after State core Rom rom alike ⟨slot, within⟩ lossless further keeps saved
  obtain ⟨current, owned, inserted⟩ := core' nes captures.owned
  obtain ⟨restored, applied, emptied, twin⟩ :=
    captures.restores lossless owned (fun _ => inserted) false
  refine ⟨restored, ?_, ?_⟩
  · unfold restoreRollback
    rw [dif_pos within]
    dsimp only
    rw [kept, held, captures.valid]
    exact applied
  · intro resultHeader inputs clock clock' some
    rw [← same.ring]
    exact twin.replays lossless level emptied resultHeader some clock clock'

variable {snapshot : Snapshot}

/-- A snapshot of a core that saves few bytes can be written and read. -/
theorem Captures.whole
    {nes : State}
    (captures : Captures core runtime nes snapshot)
    (lossless : core.Lossless rom alike)
    (rate : 44100 ≤ runtime.sampleRate ∧ runtime.sampleRate ≤ 96000) :
    snapshot.Whole := by
  obtain ⟨-, bytes, rfl, saved⟩ := captures
  refine
    { valid := rfl
      sampleRate := rate
      core := ?_
      coreFits := ?_
      pixels := ?_ }
  · rcases saved with ⟨unloaded, rfl⟩ | ⟨loaded, memory, read⟩
    · simp [snapshotFields, unloaded]
    · simpa [snapshotFields, loaded] using readState_ne_nil read
  · rcases saved with ⟨unloaded, rfl⟩ | ⟨loaded, memory, read⟩
    · exact Nat.two_pow_pos 32
    · exact lossless.sized nes memory bytes read
  · cases complete : runtime.hasCompleteFrame with
    | false => simp [snapshotFields, complete]
    | true => simpa [snapshotFields, complete] using runtime.completePixels.sized

theorem saveCheckpoint_ok
    {capacity : Nat}
    (saved : (runtime.saveCheckpoint core capacity memory).result = .ok) :
    ∃ nes snapshot, Captures core runtime nes snapshot ∧
      (runtime.saveCheckpoint core capacity memory).written = serializeSnapshot snapshot := by
  unfold saveCheckpoint at saved ⊢
  generalize taken : runtime.captureSnapshot core memory {} = outcome at saved ⊢
  split at saved
  · next snapshot =>
    obtain ⟨nes, captures⟩ := captureSnapshot_ok taken
    dsimp only at saved ⊢
    split at saved
    · cases saved
    · next fits =>
      split at saved
      · cases saved
      · next enough =>
        rw [if_neg fits, if_neg enough]
        exact ⟨nes, snapshot, captures, rfl⟩
  · next failed =>
    obtain rfl := saved
    exact (failed rfl).elim

/-- Only memory keeps a checkpoint from being loaded. -/
theorem loadCheckpoint_short
    (whole : snapshot.Whole)
    (short : fitsMemory memory snapshot = false) :
    (runtime.loadCheckpoint core (serializeSnapshot snapshot) memory).1 = .outOfMemory := by
  unfold loadCheckpoint loadCheckpointFor
  rw [checkpointPayloadLengthValid_serialize whole, deserialize_serialize whole]
  simp [short]

theorem fitsMemory_all
    (enough : ∀ size, memory size = true)
    (snapshot : Snapshot) :
    fitsMemory memory snapshot = true := by
  simp [fitsMemory, enough]

theorem checkpointReplays
    (lossless : core.Lossless rom alike)
    (level : runtime.Level)
    (rate : 44100 ≤ runtime.sampleRate ∧ runtime.sampleRate ≤ 96000) :
    CheckpointReplays core rom alike runtime := by
  intro capacity memory nes saved owned other current memory' owned' same rates
  obtain ⟨captured, snapshot, captures, written⟩ := saveCheckpoint_ok saved
  obtain rfl := Option.some.inj (captures.owned.symm.trans owned)
  have whole := captures.whole lossless rate
  have sampled : snapshot.sampleRate = other.sampleRate := by
    obtain ⟨-, bytes, rfl, -⟩ := captures
    exact rates.symm
  obtain ⟨restored, applied, emptied, twin⟩ :=
    captures.restores lossless owned' (fun _ => same) true
  rw [written]
  cases fits : fitsMemory memory' snapshot with
  | false =>
      have short := @loadCheckpoint_short State core other memory' snapshot whole fits
      refine ⟨fun enough => ?_, fun success => ?_⟩
      · rw [fitsMemory_all enough] at fits
        cases fits
      · rw [short] at success
        cases success
  | true =>
      rw [loadCheckpoint_serialize whole fits sampled, applied]
      refine ⟨fun _ => rfl, fun _ resultHeader inputs clock clock' some => ?_⟩
      exact twin.replays lossless level emptied resultHeader some clock clock'

/-- What was captured in any state that a runtime reaches goes on as it would have gone
on, from a slot and from a checkpoint. -/
theorem captured_state_replays
    {config : RuntimeConfig}
    (lossless : core.Lossless rom alike)
    (created : Runtime.create core config = .ok runtime)
    (calls : List RuntimeCall) :
    RollbackReplays core alike (runtime.after core calls) ∧
      CheckpointReplays core rom alike (runtime.after core calls) := by
  have sounding :=
    @RuntimeLog.sounding_run State core runtime (RuntimeLog.emptied_create created) calls
  obtain ⟨rated, range⟩ := rated_create created
  have rate := (@Rated.after State core runtime runtime.sampleRate rated calls).sampleRate
  refine ⟨rollbackReplays lossless sounding.level,
    checkpointReplays lossless sounding.level ?_⟩
  rw [rate]
  exact range

end Travels

/-! ### The core that counts -/

theorem readState_metronome
    {state : Metronome}
    {memory : Memory}
    {bytes : Bytes}
    (read : readState (metronome.saveState state) memory = .ok bytes) :
    bytes = [state.beat] := by
  have copied :
      readState (metronome.saveState state) memory =
        if !memory 1 then .error .outOfMemory else .ok [state.beat] :=
    rfl
  rw [copied] at read
  split at read
  · cases read
  · exact (Except.ok.inj read).symm

/-- Latching leaves the beat alone, and its buttons are those of the first port. -/
theorem setInputs_metronome (state : Metronome) (buttons : Fin 4 → UInt32) :
    (setInputs metronome state buttons).held = buttons 0 ∧
      (setInputs metronome state buttons).beat = state.beat := by
  change
    (metronome.setInput state 0 (buttons 0)).held = buttons 0 ∧
      (metronome.setInput state 0 (buttons 0)).beat = state.beat
  simp only [metronome, true_and]
  split
  · exact ⟨rfl, rfl⟩
  · next same => exact ⟨not_not.mp same, rfl⟩

/-- A load gives the beat back, while the picture and the buttons stay. -/
theorem metronome_lossless :
    metronome.Lossless (fun _ => ()) fun state twin => twin.beat = state.beat where
  latches state twin port buttons := by
    intro same
    simp only [metronome]
    split
    · exact same
    · exact same
  runs state twin buttons := by
    intro same
    obtain ⟨held, beat⟩ := setInputs_metronome state buttons
    obtain ⟨held', beat'⟩ := setInputs_metronome twin buttons
    generalize setInputs metronome state buttons = run at held beat ⊢
    generalize setInputs metronome twin buttons = run' at held' beat' ⊢
    have next : run'.beat + 1 + run'.held.toUInt8 = run.beat + 1 + run.held.toUInt8 := by
      rw [beat, beat', held, held', same]
    refine ⟨rfl, next, fun _ _ _ _ => ⟨?_, ?_⟩⟩
    · simp only [metronome, Metronome.picture, next]
    · refine funext fun capacity => ?_
      simp only [metronome, Metronome.copy, next]
  loads state current memory bytes := by
    intro read _
    rw [readState_metronome read]
    exact ⟨0, { current with beat := state.beat }, rfl, Int.le_refl 0, rfl⟩
  sized state memory bytes := by
    intro read
    rw [readState_metronome read]
    exact (by decide : 1 < 2 ^ 32)
  setInput _ _ _ := rfl
  runFrames _ := rfl
  loadState _ _ := rfl

/-- A core that counts can be captured. -/
theorem captureRollback_metronome
    {played : Runtime Metronome}
    {state : Metronome}
    (owned : played.nes = some state)
    {slot : Nat}
    (within : slot < kRollbackSlots) :
    (played.captureRollback metronome slot fun _ => true).1 = .ok := by
  unfold captureRollback captureSnapshot
  rw [dif_pos within, owned]
  simp only [Bool.not_true, Bool.and_false, Bool.false_eq_true, if_false]
  split
  · rfl
  · rfl

theorem sample_replays :
    metronome.Lossless (fun _ => ()) (fun state twin => twin.beat = state.beat) ∧
      Runtime.create metronome sampleConfig = .ok sampleRuntime ∧
      ((sampleRuntime.after metronome RuntimeLog.digestCalls).captureRollback metronome 0
        fun _ => true).1 = .ok ∧
      RollbackReplays metronome (fun state twin => twin.beat = state.beat)
        (sampleRuntime.after metronome RuntimeLog.digestCalls) ∧
      CheckpointReplays metronome (fun _ => ()) (fun state twin => twin.beat = state.beat)
        (sampleRuntime.after metronome RuntimeLog.digestCalls) := by
  obtain ⟨loaded, load, -, -, owned⟩ := RuntimeLog.load_digestCalls
  have owned' :
      ∃ state, (sampleRuntime.after metronome RuntimeLog.digestCalls).nes = some state := by
    obtain ⟨state, later, -⟩ :=
      (remembers_stepFrame metronome_lossless ⟨0, by decide⟩ sampleInput
        (sampleHeader kFrameResultSize) 0).core _ owned
    refine ⟨state, ?_⟩
    rw [RuntimeLog.digestCalls, after_cons, perform_loadRom, load]
    exact later
  obtain ⟨state, owned'⟩ := owned'
  exact
    ⟨metronome_lossless, sampleRuntime_created, captureRollback_metronome owned' (by decide),
      captured_state_replays metronome_lossless sampleRuntime_created RuntimeLog.digestCalls⟩

end Runtime

end FlyNes.Emulation
