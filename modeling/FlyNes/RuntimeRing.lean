import FlyNes.RuntimeCalls
import Mathlib.Data.List.Pairwise

namespace FlyNes.Emulation

open ByteString
open RingBuffer (Ring newest)

/-!
# The samples of a runtime

Between two calls that empty the ring, the samples that steps push are one list.  The
ring contains its end, and what a pull takes is a part of it: the parts follow one
another, and what lies between them was overwritten in a full ring.
-/

namespace Runtime

variable {State : Type} {core : NesCore State}
variable {runtime : Runtime State}

/-- The ring as the library has it. -/
def ring (runtime : Runtime State) : Ring Int16 kPcmCapacity where
  slots := runtime.pcm
  read := runtime.pcmRead
  count := runtime.pcmCount

/-- Two runtimes have the same samples. -/
structure SameSamples (runtime later : Runtime State) : Prop where
  ring : later.ring = runtime.ring
  readSequence : later.pcmReadSequence = runtime.pcmReadSequence
  producerSequence : later.pcmProducerSequence = runtime.pcmProducerSequence

/-- The ring is sound, and its sequences are apart by what it contains. -/
structure Level (runtime : Runtime State) : Prop where
  sound : runtime.ring.Sound
  sequence :
    runtime.pcmReadSequence + UInt64.ofNat runtime.pcmCount = runtime.pcmProducerSequence

/-- How a runtime stands that has pushed some samples since its ring was empty. -/
structure Flowing
    (runtime : Runtime State)
    (base : UInt64)
    (pushed : List Int16) : Prop where
  level : runtime.Level
  produced : runtime.pcmProducerSequence = base + UInt64.ofNat pushed.length
  within : runtime.pcmCount ≤ pushed.length
  contents : runtime.ring.contents = pushed.drop (pushed.length - runtime.pcmCount)

theorem ring_pushSample (sample : Int16) :
    (runtime.pushSample sample).ring = runtime.ring.push sample := by
  unfold pushSample dropOldest Ring.push Ring.makeRoom
  by_cases full : runtime.pcmCount = kPcmCapacity
  · have ringFull : runtime.ring.count = kPcmCapacity := full
    rw [if_pos full, if_pos ringFull]
    rfl
  · have ringRoom : runtime.ring.count ≠ kPcmCapacity := full
    rw [if_neg full, if_neg ringRoom]
    rfl

/-- A sample moves the sequence that is pushed next, whether it overwrites or not. -/
theorem sequence_pushSample (sample : Int16) :
    (runtime.pushSample sample).pcmReadSequence +
        UInt64.ofNat (runtime.pushSample sample).pcmCount =
      runtime.pcmReadSequence + UInt64.ofNat runtime.pcmCount + 1 := by
  unfold pushSample dropOldest
  split
  · next full =>
    have positive : runtime.pcmCount - 1 + 1 = runtime.pcmCount := by
      rw [full]
      rfl
    change runtime.pcmReadSequence + 1 + UInt64.ofNat (runtime.pcmCount - 1 + 1) = _
    rw [positive, UInt64.add_assoc, UInt64.add_comm 1, ← UInt64.add_assoc]
  · change runtime.pcmReadSequence + UInt64.ofNat (runtime.pcmCount + 1) = _
    rw [UInt64.ofNat_add, UInt64.add_assoc]
    rfl

/-- The ring after a list of samples, and the sequence that is pushed next. -/
theorem foldl_pushSample (samples : List Int16) :
    (samples.foldl pushSample runtime).ring = samples.foldl Ring.push runtime.ring ∧
      (samples.foldl pushSample runtime).pcmReadSequence +
          UInt64.ofNat (samples.foldl pushSample runtime).pcmCount =
        runtime.pcmReadSequence + UInt64.ofNat runtime.pcmCount +
          UInt64.ofNat samples.length ∧
      (samples.foldl pushSample runtime).pcmProducerSequence =
        runtime.pcmProducerSequence := by
  induction samples generalizing runtime with
  | nil => simp
  | cons sample rest inductionHypothesis =>
      obtain ⟨pushed, sequence, produced⟩ :=
        @inductionHypothesis (runtime.pushSample sample)
      have same : (runtime.pushSample sample).pcmProducerSequence =
          runtime.pcmProducerSequence := by
        unfold pushSample dropOldest
        split <;> rfl
      refine ⟨?_, ?_, ?_⟩
      · rw [List.foldl_cons, pushed, ring_pushSample, List.foldl_cons]
      · rw [List.foldl_cons, sequence, sequence_pushSample, List.length_cons,
          UInt64.ofNat_add, UInt64.add_assoc _ 1, UInt64.add_comm 1]
        rfl
      · rw [List.foldl_cons, produced, same]

theorem Level.pushPcm
    (level : runtime.Level)
    (samples : List Int16) :
    (runtime.pushPcm samples).Level := by
  obtain ⟨pushed, sequence, produced⟩ := @foldl_pushSample State runtime samples
  refine ⟨?_, ?_⟩
  · change (samples.foldl pushSample runtime).ring.Sound
    rw [pushed]
    exact (level.sound.pushAll samples).1
  · change
      (samples.foldl pushSample runtime).pcmReadSequence +
          UInt64.ofNat (samples.foldl pushSample runtime).pcmCount =
        (samples.foldl pushSample runtime).pcmProducerSequence +
          UInt64.ofNat samples.length
    rw [sequence, produced, level.sequence]

/-- A push keeps the newest samples. -/
theorem Level.contents_pushPcm
    (level : runtime.Level)
    (samples : List Int16) :
    (runtime.pushPcm samples).ring.contents =
      newest kPcmCapacity (runtime.ring.contents ++ samples) := by
  change (samples.foldl pushSample runtime).ring.contents = _
  rw [(foldl_pushSample samples).1]
  exact (level.sound.pushAll samples).2

theorem Level.count_pushPcm
    (level : runtime.Level)
    (samples : List Int16) :
    (runtime.pushPcm samples).pcmCount =
      min (runtime.pcmCount + samples.length) kPcmCapacity := by
  have sized := congrArg List.length (level.contents_pushPcm samples)
  rw [Ring.length_contents, newest, List.length_drop, List.length_append,
    Ring.length_contents] at sized
  change (runtime.pushPcm samples).ring.count = _
  rw [sized]
  change runtime.pcmCount + samples.length -
    (runtime.pcmCount + samples.length - kPcmCapacity) = _
  omega

variable {base : UInt64} {pushed : List Int16}

/-- What is pushed goes behind what was pushed. -/
theorem Flowing.pushPcm
    (flowing : runtime.Flowing base pushed)
    (samples : List Int16) :
    (runtime.pushPcm samples).Flowing base (pushed ++ samples) := by
  have within := flowing.within
  have count := flowing.level.count_pushPcm samples
  refine ⟨flowing.level.pushPcm samples, ?_, ?_, ?_⟩
  · change (samples.foldl pushSample runtime).pcmProducerSequence +
        UInt64.ofNat samples.length = _
    rw [(foldl_pushSample samples).2.2, flowing.produced, List.length_append,
      UInt64.ofNat_add, UInt64.add_assoc]
  · simp only [count, List.length_append]
    omega
  · rw [flowing.level.contents_pushPcm, count, flowing.contents, newest,
      ← List.drop_append_of_le_length (by omega), List.drop_drop]
    refine congrArg (fun distance => (pushed ++ samples).drop distance) ?_
    simp only [List.length_append, List.length_drop]
    omega

theorem SameSamples.level
    {later : Runtime State}
    (same : SameSamples runtime later)
    (level : runtime.Level) :
    later.Level := by
  obtain ⟨ring, read, produced⟩ := same
  have count : later.pcmCount = runtime.pcmCount := congrArg Ring.count ring
  refine ⟨?_, ?_⟩
  · rw [ring]
    exact level.sound
  · rw [read, count, produced]
    exact level.sequence

theorem SameSamples.flowing
    {later : Runtime State}
    (same : SameSamples runtime later)
    (flowing : runtime.Flowing base pushed) :
    later.Flowing base pushed := by
  have count : later.pcmCount = runtime.pcmCount := congrArg Ring.count same.ring
  refine ⟨same.level flowing.level, ?_, ?_, ?_⟩
  · rw [same.producerSequence]
    exact flowing.produced
  · rw [count]
    exact flowing.within
  · rw [same.ring, count]
    exact flowing.contents

theorem SameSamples.pushSample
    {later : Runtime State}
    (same : SameSamples runtime later)
    (sample : Int16) :
    SameSamples (runtime.pushSample sample) (later.pushSample sample) := by
  obtain ⟨ring, read, produced⟩ := same
  have count : later.pcmCount = runtime.pcmCount := congrArg Ring.count ring
  refine ⟨?_, ?_, ?_⟩
  · rw [ring_pushSample, ring_pushSample, ring]
  · unfold Runtime.pushSample dropOldest
    rw [count]
    split
    · exact congrArg (· + 1) read
    · exact read
  · unfold Runtime.pushSample dropOldest
    rw [count]
    split
    · exact produced
    · exact produced

theorem SameSamples.pushPcm
    {later : Runtime State}
    (same : SameSamples runtime later)
    (samples : List Int16) :
    SameSamples (runtime.pushPcm samples) (later.pushPcm samples) := by
  have pushed :
      SameSamples
        (samples.foldl Runtime.pushSample runtime)
        (samples.foldl Runtime.pushSample later) := by
    induction samples generalizing runtime later with
    | nil => exact same
    | cons sample rest inductionHypothesis =>
        exact inductionHypothesis (same.pushSample sample)
  refine ⟨pushed.ring, pushed.readSequence, ?_⟩
  exact congrArg (· + UInt64.ofNat samples.length) pushed.producerSequence

/-- An empty ring, whose next sample is the first one of a new list. -/
structure Emptied (runtime : Runtime State) : Prop where
  read : runtime.pcmRead = 0
  count : runtime.pcmCount = 0
  sequence : runtime.pcmReadSequence = runtime.pcmProducerSequence

theorem Emptied.flowing
    (emptied : runtime.Emptied) :
    runtime.Flowing runtime.pcmProducerSequence [] where
  level :=
    { sound :=
        { read := by
            change runtime.pcmRead < kPcmCapacity
            rw [emptied.read]
            decide
          count := by
            change runtime.pcmCount ≤ kPcmCapacity
            rw [emptied.count]
            decide }
      sequence := by
        rw [emptied.count, emptied.sequence]
        exact UInt64.add_zero _ }
  produced := (UInt64.add_zero _).symm
  within := by rw [emptied.count]; exact Nat.le_refl 0
  contents := by
    rw [Ring.contents_empty emptied.count]
    exact List.drop_nil.symm

/-- Some of the oldest samples have been taken out. -/
structure Taken (runtime later : Runtime State) (taken : Nat) : Prop where
  ring : later.ring = runtime.ring.advance taken
  readSequence : later.pcmReadSequence = runtime.pcmReadSequence + UInt64.ofNat taken
  producerSequence : later.pcmProducerSequence = runtime.pcmProducerSequence

variable {taken : Nat}

theorem Taken.level
    {later : Runtime State}
    (takes : Taken runtime later taken)
    (enough : taken ≤ runtime.pcmCount)
    (level : runtime.Level) :
    later.Level := by
  have count : later.pcmCount = runtime.pcmCount - taken := congrArg Ring.count takes.ring
  refine ⟨?_, ?_⟩
  · rw [takes.ring]
    exact level.sound.advance taken
  · rw [takes.readSequence, count, takes.producerSequence, UInt64.add_assoc,
      ← UInt64.ofNat_add, Nat.add_sub_cancel' enough]
    exact level.sequence

theorem Taken.flowing
    {later : Runtime State}
    (takes : Taken runtime later taken)
    (enough : taken ≤ runtime.pcmCount)
    (flowing : runtime.Flowing base pushed) :
    later.Flowing base pushed := by
  have within := flowing.within
  have count : later.pcmCount = runtime.pcmCount - taken := congrArg Ring.count takes.ring
  refine ⟨takes.level enough flowing.level, ?_, ?_, ?_⟩
  · rw [takes.producerSequence]
    exact flowing.produced
  · omega
  · rw [takes.ring, Ring.contents_advance, flowing.contents, List.drop_drop, count]
    congr 1
    omega

end Runtime

/-! ### What a log shows of the samples -/

namespace RuntimeLog

variable {State : Type}

/-- The samples that a call pushed. -/
def produced (entry : RuntimeEntry State) : List Int16 :=
  match entry.answer with
  | .stepped answer => answer.produced
  | _ => []

/-- The block that a call took out of the ring. -/
def pulled (entry : RuntimeEntry State) : Option PcmBlock :=
  match entry.answer with
  | .pulled (.ok block) => if block.silent then none else some block
  | _ => none

/-- A load that was accepted, or a restore that went through. -/
def empties (entry : RuntimeEntry State) : Bool :=
  match entry.call, entry.answer with
  | .loadRom bytes expected, _ =>
      Runtime.acceptsRom bytes expected && entry.before.nes.isSome
  | .loadRomFresh bytes expected, _ => Runtime.acceptsRom bytes expected
  | .restoreRollback _, .result result => result == .ok
  | .loadCheckpoint _ _, .result result => result == .ok
  | .loadCheckpointForEpoch _ _ _, .result result => result == .ok
  | _, _ => false

/-- All samples that were pushed. -/
def pushedBy (entries : RuntimeLog State) : List Int16 :=
  entries.flatMap produced

/-- A block, with the position of its first sample in what was pushed. -/
structure Place where
  position : Nat
  block : PcmBlock

def Place.finish (place : Place) : Nat :=
  place.position + place.block.samples.length

/-- The blocks that were taken, behind some samples that had been pushed. -/
def places : Nat → RuntimeLog State → List Place
  | _, [] => []
  | count, entry :: rest =>
      ((pulled entry).toList.map fun block =>
          { position := count - entry.before.pcmCount, block := block }) ++
        places (count + (produced entry).length) rest

/-- A sample was the oldest of a full ring when the next one was pushed. -/
def Overwritten (entries : RuntimeLog State) (position : Nat) : Prop :=
  ∃ earlier entry later count,
    entries = earlier ++ entry :: later ∧ count < (produced entry).length ∧
      (entry.before.pushPcm ((produced entry).take count)).pcmCount = kPcmCapacity ∧
      position + kPcmCapacity = (pushedBy earlier).length + count

/-- The blocks carry what was pushed, in order and without a loss but in a full ring. -/
structure Streams
    (base : UInt64)
    (entries : RuntimeLog State)
    (later : Runtime State) : Prop where
  flowing : later.Flowing base (pushedBy entries)
  steps :
    ∀ earlier entry rest, entries = earlier ++ entry :: rest →
      entry.before.pcmProducerSequence = base + UInt64.ofNat (pushedBy earlier).length
  numbered :
    ∀ place ∈ places 0 entries,
      place.block.firstSampleSequence = base + UInt64.ofNat place.position
  exact :
    ∀ place ∈ places 0 entries,
      place.block.samples ≠ [] ∧
        place.block.samples =
          ((pushedBy entries).drop place.position).take place.block.samples.length
  ordered : (places 0 entries).Pairwise fun place next => place.finish ≤ next.position
  finished :
    ∀ place ∈ places 0 entries,
      place.finish ≤ (pushedBy entries).length - later.pcmCount
  missing :
    ∀ position < (pushedBy entries).length - later.pcmCount,
      (∃ place ∈ places 0 entries,
          place.position ≤ position ∧ position < place.finish) ∨
        Overwritten entries position

/-- What a call does to the samples. -/
inductive Turn (entry : RuntimeEntry State) (later : Runtime State) : Prop where
  | emptied
      (empties : empties entry = true)
      (emptied : later.Emptied)
  | pushed
      (keeps : empties entry = false)
      (pulled : pulled entry = none)
      (same : (entry.before.pushPcm (produced entry)).SameSamples later)
  | pulled
      {block : PcmBlock}
      (keeps : empties entry = false)
      (produced : produced entry = [])
      (pulled : RuntimeLog.pulled entry = some block)
      (sequence : block.firstSampleSequence = entry.before.pcmReadSequence)
      (samples :
        block.samples = entry.before.ring.contents.take block.samples.length)
      (some : block.samples ≠ [])
      (enough : block.samples.length ≤ entry.before.pcmCount)
      (takes : entry.before.Taken later block.samples.length)

variable {core : NesCore State} {runtime : Runtime State}

theorem pushPcm_nil : runtime.pushPcm [] = runtime := by
  unfold Runtime.pushPcm
  simp

variable {entry : RuntimeEntry State}

/-- A call that neither steps nor pulls leaves the samples alone. -/
theorem Turn.quiet
    {later : Runtime State}
    (keeps : empties entry = false)
    (silent : produced entry = [] ∧ RuntimeLog.pulled entry = none)
    (same : entry.before.SameSamples later) :
    Turn entry later := by
  refine .pushed keeps silent.2 ?_
  rw [silent.1, pushPcm_nil]
  exact same

theorem emptied_restored (snapshot : Snapshot) (clearRollback : Bool) :
    (runtime.restored snapshot clearRollback).Emptied :=
  ⟨rfl, rfl, rfl⟩

/-- A restore that goes through empties the ring; another one leaves the samples alone. -/
def Restores (runtime : Runtime State) (outcome : FlyResult × Runtime State) : Prop :=
  outcome.1 = .ok ∧ outcome.2.Emptied ∨ outcome.1 ≠ .ok ∧ runtime.SameSamples outcome.2

theorem Restores.refused
    {result : FlyResult}
    (failure : result ≠ .ok) :
    Restores runtime (result, runtime) :=
  .inr ⟨failure, rfl, rfl, rfl⟩

theorem restores_applySnapshot (snapshot : Snapshot) (clearRollback : Bool) :
    Restores runtime (runtime.applySnapshot core snapshot clearRollback) := by
  have applied :=
    @Runtime.applySnapshot_cases State core runtime snapshot clearRollback
  generalize runtime.applySnapshot core snapshot clearRollback = outcome at applied ⊢
  cases applied with
  | refused => exact .refused (by simp)
  | unloaded => exact .inl ⟨rfl, emptied_restored _ _⟩
  | failed _ _ failure => exact .inr ⟨failure, rfl, rfl, rfl⟩
  | loaded => exact .inl ⟨rfl, emptied_restored _ _⟩

theorem restores_restoreRollback (slot : Nat) :
    Restores runtime (runtime.restoreRollback core slot) := by
  unfold Runtime.restoreRollback
  split
  · dsimp only
    split
    · exact .refused (by simp)
    · exact restores_applySnapshot _ _
  · exact .refused (by simp)

theorem restores_loadCheckpointFor
    (bytes : Bytes)
    (expectedTimelineEpoch : UInt64)
    (memory : Memory) :
    Restores runtime
      (runtime.loadCheckpointFor core bytes expectedTimelineEpoch memory) := by
  unfold Runtime.loadCheckpointFor
  split
  · exact .refused (by simp)
  · split
    · exact .refused (by simp)
    · split
      · exact .refused (by simp)
      · split
        · exact .refused (by simp)
        · split
          · exact .refused (by simp)
          · exact restores_applySnapshot _ _

theorem restores_loadCheckpointForEpoch
    (bytes : Bytes)
    (expectedTimelineEpoch : UInt64)
    (memory : Memory) :
    Restores runtime
      (runtime.loadCheckpointForEpoch core bytes expectedTimelineEpoch memory) := by
  unfold Runtime.loadCheckpointForEpoch
  split
  · exact .refused (by simp)
  · exact restores_loadCheckpointFor _ _ _

/-- A restore or the load of a checkpoint. -/
theorem Restores.turn
    {outcome : FlyResult × Runtime State}
    (restores : Restores entry.before outcome)
    (empties : empties entry = (outcome.1 == .ok))
    (silent : produced entry = [] ∧ RuntimeLog.pulled entry = none) :
    Turn entry outcome.2 := by
  rcases restores with ⟨success, emptied⟩ | ⟨failure, same⟩
  · exact .emptied (by rw [empties, success]; rfl) emptied
  · exact .quiet (by rw [empties]; simpa using failure) silent same

theorem turn_loadRom
    (bytes : Bytes)
    (expected : Option (Block 32)) :
    Turn (Logbook.entry (Runtime.perform core) runtime (.loadRom bytes expected))
      (runtime.loadRom core bytes expected).2 := by
  rcases @Runtime.loadRom_cases State core runtime bytes expected with
    ⟨refused, same⟩ | ⟨accepted, nes, romLoaded, reset⟩
  · rw [same]
    exact .quiet refused ⟨rfl, rfl⟩ ⟨rfl, rfl, rfl⟩
  · rw [reset]
    exact .emptied accepted ⟨rfl, rfl, rfl⟩

theorem turn_loadRomFresh
    (bytes : Bytes)
    (expected : Option (Block 32)) :
    Turn (Logbook.entry (Runtime.perform core) runtime (.loadRomFresh bytes expected))
      (runtime.loadRomFresh core bytes expected).2 := by
  rcases @Runtime.loadRomFresh_cases State core runtime bytes expected with
    ⟨refused, same⟩ | ⟨accepted, nes, romLoaded, reset⟩
  · rw [same]
    exact .quiet refused ⟨rfl, rfl⟩ ⟨rfl, rfl, rfl⟩
  · rw [reset]
    exact .emptied accepted ⟨rfl, rfl, rfl⟩

theorem sameSamples_latched
    (runtime : Runtime State)
    (input : FrameInput)
    (nes : Option State) :
    runtime.SameSamples { runtime.latched input with nes := nes } :=
  ⟨rfl, rfl, rfl⟩

/-- A step pushes what it produced, and leaves the other samples alone. -/
theorem pushes_stepFrame
    (runtime : Runtime State)
    (input : FrameInput)
    (resultHeader : StructHeader)
    (nowNs : UInt64) :
    (runtime.pushPcm (runtime.stepFrame core input resultHeader nowNs).1.produced).SameSamples
      (runtime.stepFrame core input resultHeader nowNs).2 := by
  have stepped := @Runtime.stepFrame_cases State core runtime input resultHeader nowNs
  generalize runtime.stepFrame core input resultHeader nowNs = outcome at stepped ⊢
  cases stepped with
  | refused =>
      rw [pushPcm_nil]
      exact ⟨rfl, rfl, rfl⟩
  | ran =>
      rw [pushPcm_nil]
      exact ⟨rfl, rfl, rfl⟩
  | @uncopied samples nes =>
      have pushed := (sameSamples_latched runtime input (some nes)).pushPcm samples
      exact ⟨pushed.ring, pushed.readSequence, pushed.producerSequence⟩
  | @done samples nes =>
      have pushed := (sameSamples_latched runtime input (some nes)).pushPcm samples
      exact ⟨pushed.ring, pushed.readSequence, pushed.producerSequence⟩

/-- A frame has no more samples than the scratch buffer. -/
theorem length_produced_stepFrame
    (runtime : Runtime State)
    (input : FrameInput)
    (resultHeader : StructHeader)
    (nowNs : UInt64) :
    (runtime.stepFrame core input resultHeader nowNs).1.produced.length ≤
      kAudioScratchSamples := by
  unfold Runtime.stepFrame
  split
  · exact Nat.zero_le _
  · split
    · exact Nat.zero_le _
    · split
      · exact Nat.zero_le _
      · split
        · exact Nat.zero_le _
        · split
          · exact Nat.zero_le _
          · next nes _ =>
            unfold Runtime.runStep Runtime.publish
            dsimp only
            have fits := (core.runFrames (Runtime.setInputs core nes input.buttons)).1.fits
            split
            · exact Nat.zero_le _
            · exact Nat.zero_le _
            · split
              · exact Nat.zero_le _
              · split
                · exact fits
                · exact fits

theorem turn_stepFrame
    (input : FrameInput)
    (resultHeader : StructHeader)
    (nowNs : UInt64) :
    Turn
      (Logbook.entry (Runtime.perform core) runtime (.stepFrame input resultHeader nowNs))
      (runtime.stepFrame core input resultHeader nowNs).2 :=
  .pushed rfl rfl (pushes_stepFrame runtime input resultHeader nowNs)

/-- A pull takes the oldest samples, or nothing. -/
theorem pullPcm_cases
    (sampleCapacity : Nat)
    (header : StructHeader)
    (ownsLock : Bool) :
    ((runtime.pullPcm sampleCapacity header ownsLock).2 = runtime ∧
        ((∃ result, (runtime.pullPcm sampleCapacity header ownsLock).1 = .error result) ∨
          (runtime.pullPcm sampleCapacity header ownsLock).1 =
            .ok (Runtime.silence sampleCapacity))) ∨
      ∃ block,
        (runtime.pullPcm sampleCapacity header ownsLock).1 = .ok block ∧
          block.silent = false ∧
          block.firstSampleSequence = runtime.pcmReadSequence ∧
          block.samples = runtime.ring.contents.take block.samples.length ∧
          block.samples ≠ [] ∧
          block.samples.length ≤ runtime.pcmCount ∧
          runtime.Taken (runtime.pullPcm sampleCapacity header ownsLock).2
            block.samples.length := by
  unfold Runtime.pullPcm
  split
  · exact .inl ⟨rfl, .inl ⟨_, rfl⟩⟩
  · split
    · exact .inl ⟨rfl, .inl ⟨_, rfl⟩⟩
    · split
      · exact .inl ⟨rfl, .inr rfl⟩
      · next capacity held =>
        simp only [Bool.or_eq_true, Bool.not_eq_true', beq_iff_eq, not_or] at held
        refine .inr ⟨_, rfl, rfl, rfl, ?_, ?_, ?_, ?_⟩
        · have few :
              min (min sampleCapacity runtime.pcmCount) runtime.ring.count =
                min sampleCapacity runtime.pcmCount :=
            Nat.min_eq_left (Nat.min_le_right _ _)
          rw [List.length_map, List.length_range, Ring.contents, ← List.map_take,
            List.take_range, few]
          rfl
        · rw [Ne, List.map_eq_nil_iff, List.range_eq_nil]
          omega
        · rw [List.length_map, List.length_range]
          exact Nat.min_le_right _ _
        · rw [List.length_map, List.length_range]
          exact ⟨rfl, rfl, rfl⟩

/-- A pull that finds samples and is not turned away takes some. -/
theorem pullPcm_takes
    {sampleCapacity : Nat}
    {header : StructHeader}
    (valid : checkHeader header kPcmBlockSize = .ok)
    (asked : sampleCapacity ≠ 0)
    (filled : 0 < runtime.pcmCount) :
    ∃ block,
      (runtime.pullPcm sampleCapacity header true).1 = .ok block ∧
        block.firstSampleSequence = runtime.pcmReadSequence ∧
        0 < block.samples.length ∧
        block.samples.length ≤ runtime.pcmCount ∧
        runtime.Taken (runtime.pullPcm sampleCapacity header true).2 block.samples.length := by
  have refused :
      ¬ ((!true || runtime.pcmCount == 0) = true) := by
    simp only [Bool.not_true, Bool.false_or, beq_iff_eq]
    omega
  rcases @pullPcm_cases State runtime sampleCapacity header true with
    ⟨same, _⟩ | ⟨block, taken, _, sequence, _, some, enough, takes⟩
  · exfalso
    unfold Runtime.pullPcm at same
    rw [if_neg (not_not.mpr valid), if_neg asked, if_neg refused] at same
    have count := congrArg Runtime.pcmCount same
    simp only at count
    omega
  · exact ⟨block, taken, sequence, List.length_pos_iff.mpr some, enough, takes⟩

theorem turn_pullPcm
    (sampleCapacity : Nat)
    (header : StructHeader)
    (ownsLock : Bool) :
    Turn
      (Logbook.entry (Runtime.perform core) runtime
        (.pullPcm sampleCapacity header ownsLock))
      (runtime.pullPcm sampleCapacity header ownsLock).2 := by
  have shown :
      RuntimeLog.pulled
          (Logbook.entry (Runtime.perform core) runtime
            (.pullPcm sampleCapacity header ownsLock)) =
        RuntimeLog.pulled
          { before := runtime
            call := .pullPcm sampleCapacity header ownsLock
            answer := .pulled (runtime.pullPcm sampleCapacity header ownsLock).1 } := rfl
  rcases @pullPcm_cases State runtime sampleCapacity header ownsLock with
    ⟨same, ⟨result, refused⟩ | silent⟩ |
      ⟨block, taken, loud, sequence, samples, some, enough, takes⟩
  · rw [refused] at shown
    rw [same]
    exact .quiet rfl ⟨rfl, shown⟩ ⟨rfl, rfl, rfl⟩
  · rw [silent] at shown
    rw [same]
    exact .quiet rfl ⟨rfl, shown⟩ ⟨rfl, rfl, rfl⟩
  · refine .pulled rfl rfl ?_ sequence samples some enough takes
    rw [shown, taken]
    simp only [RuntimeLog.pulled, loud, Bool.false_eq_true, if_false]

/-- Every call is a turn of one of the three kinds. -/
theorem turn (runtime : Runtime State) (call : RuntimeCall) :
    Turn (Logbook.entry (Runtime.perform core) runtime call)
      (runtime.perform core call).2 := by
  cases call with
  | loadRom bytes expected => exact turn_loadRom bytes expected
  | loadRomFresh bytes expected => exact turn_loadRomFresh bytes expected
  | stepFrame input resultHeader nowNs => exact turn_stepFrame input resultHeader nowNs
  | copyFrameDigest => exact .quiet rfl ⟨rfl, rfl⟩ ⟨rfl, rfl, rfl⟩
  | getSourceTiming => exact .quiet rfl ⟨rfl, rfl⟩ ⟨rfl, rfl, rfl⟩
  | clearInputPorts portMask reason =>
      refine .quiet rfl ⟨rfl, rfl⟩ ?_
      change runtime.SameSamples (runtime.clearInputPorts core portMask reason).2
      unfold Runtime.clearInputPorts
      split
      · exact ⟨rfl, rfl, rfl⟩
      · exact ⟨rfl, rfl, rfl⟩
  | copyLatestFrame => exact .quiet rfl ⟨rfl, rfl⟩ ⟨rfl, rfl, rfl⟩
  | pullPcm sampleCapacity header ownsLock =>
      exact turn_pullPcm sampleCapacity header ownsLock
  | captureRollback slot memory =>
      refine .quiet rfl ⟨rfl, rfl⟩ ?_
      change runtime.SameSamples (runtime.captureRollback core slot memory).2
      unfold Runtime.captureRollback
      split
      · exact ⟨rfl, rfl, rfl⟩
      · exact ⟨rfl, rfl, rfl⟩
  | restoreRollback slot =>
      exact (restores_restoreRollback slot).turn rfl ⟨rfl, rfl⟩
  | saveCheckpoint => exact .quiet rfl ⟨rfl, rfl⟩ ⟨rfl, rfl, rfl⟩
  | loadCheckpoint bytes memory =>
      exact (restores_loadCheckpointFor bytes 0 memory).turn rfl ⟨rfl, rfl⟩
  | loadCheckpointForEpoch bytes expectedTimelineEpoch memory =>
      exact (restores_loadCheckpointForEpoch bytes expectedTimelineEpoch memory).turn rfl
        ⟨rfl, rfl⟩

/-! ### Runs -/

theorem pushedBy_concat (entries : RuntimeLog State) (entry : RuntimeEntry State) :
    pushedBy (entries ++ [entry]) = pushedBy entries ++ produced entry := by
  simp [pushedBy]

theorem places_concat
    (count : Nat)
    (entries : RuntimeLog State)
    (entry : RuntimeEntry State) :
    places count (entries ++ [entry]) =
      places count entries ++
        (pulled entry).toList.map fun block =>
          { position := count + (pushedBy entries).length - entry.before.pcmCount
            block := block } := by
  induction entries generalizing count with
  | nil => simp [places, pushedBy]
  | cons first rest inductionHypothesis =>
      have length : (pushedBy (first :: rest)).length =
          (produced first).length + (pushedBy rest).length := by
        simp [pushedBy]
      rw [List.cons_append, places, inductionHypothesis, places, List.append_assoc, length,
        ← Nat.add_assoc]

variable {entries : RuntimeLog State}

theorem Overwritten.later
    {position : Nat}
    (overwritten : Overwritten entries position)
    (more : RuntimeLog State) :
    Overwritten (entries ++ more) position := by
  obtain ⟨earlier, entry, rest, count, rfl, within, full, place⟩ := overwritten
  exact ⟨earlier, entry, rest ++ more, count, by simp, within, full, place⟩

theorem Streams.empty
    (emptied : runtime.Emptied) :
    Streams runtime.pcmProducerSequence [] runtime where
  flowing := emptied.flowing
  steps := by simp
  numbered := by simp [places]
  exact := by simp [places]
  ordered := .nil
  finished := by simp [places]
  missing := by simp [pushedBy]

variable {base : UInt64}

/-- The producer position of every entry, after one more. -/
theorem Streams.steps_concat
    (streams : Streams base entries entry.before) :
    ∀ earlier other rest, entries ++ [entry] = earlier ++ other :: rest →
      other.before.pcmProducerSequence = base + UInt64.ofNat (pushedBy earlier).length := by
  intro earlier other rest split
  rcases List.eq_nil_or_concat rest with rfl | ⟨front, last, rfl⟩
  · obtain ⟨rfl, same⟩ := List.append_inj' split rfl
    obtain rfl := List.singleton_inj.mp same
    exact streams.flowing.produced
  · rw [List.concat_eq_append, ← List.cons_append, ← List.append_assoc] at split
    exact streams.steps _ _ _ (List.append_inj' split rfl).1

/-- Samples that are pushed, whether or not they overwrite others. -/
theorem Streams.pushed
    {later : Runtime State}
    (streams : Streams base entries entry.before)
    (silent : RuntimeLog.pulled entry = none)
    (same : (entry.before.pushPcm (produced entry)).SameSamples later) :
    Streams base (entries ++ [entry]) later := by
  have held := streams.flowing.within
  have room : entry.before.pcmCount ≤ kPcmCapacity := streams.flowing.level.sound.count
  have count : later.pcmCount =
      min (entry.before.pcmCount + (produced entry).length) kPcmCapacity :=
    (congrArg Ring.count same.ring).trans
      (streams.flowing.level.count_pushPcm (produced entry))
  have placed : places 0 (entries ++ [entry]) = places 0 entries := by
    rw [places_concat, silent]
    simp
  have length : (pushedBy (entries ++ [entry])).length =
      (pushedBy entries).length + (produced entry).length := by
    rw [pushedBy_concat, List.length_append]
  refine
    { flowing := ?_
      steps := streams.steps_concat
      numbered := ?_
      exact := ?_
      ordered := ?_
      finished := ?_
      missing := ?_ }
  · rw [pushedBy_concat]
    exact same.flowing (streams.flowing.pushPcm _)
  · rw [placed]
    exact streams.numbered
  · intro place member
    rw [placed] at member
    obtain ⟨some, samples⟩ := streams.exact place member
    have finished := streams.finished place member
    unfold Place.finish at finished
    refine ⟨some, ?_⟩
    rw [pushedBy_concat, List.drop_append_of_le_length (by omega),
      List.take_append_of_le_length (by rw [List.length_drop]; omega)]
    exact samples
  · rw [placed]
    exact streams.ordered
  · intro place member
    rw [placed] at member
    have finished := streams.finished place member
    omega
  · intro position before
    rw [placed]
    by_cases old : position < (pushedBy entries).length - entry.before.pcmCount
    · exact (streams.missing position old).imp_right fun overwritten =>
        overwritten.later [entry]
    · have within : position + kPcmCapacity - (pushedBy entries).length <
          (produced entry).length := by
        omega
      refine .inr ⟨entries, entry, [], position + kPcmCapacity - (pushedBy entries).length,
        rfl, within, ?_, by omega⟩
      rw [streams.flowing.level.count_pushPcm, List.length_take]
      omega

/-- A block that is pulled goes on where the blocks before it and the losses end. -/
theorem Streams.pulled
    {later : Runtime State}
    {block : PcmBlock}
    (streams : Streams base entries entry.before)
    (nothing : produced entry = [])
    (pulled : RuntimeLog.pulled entry = some block)
    (sequence : block.firstSampleSequence = entry.before.pcmReadSequence)
    (samples : block.samples = entry.before.ring.contents.take block.samples.length)
    (some : block.samples ≠ [])
    (enough : block.samples.length ≤ entry.before.pcmCount)
    (takes : entry.before.Taken later block.samples.length) :
    Streams base (entries ++ [entry]) later := by
  have held := streams.flowing.within
  have count : later.pcmCount = entry.before.pcmCount - block.samples.length :=
    congrArg Ring.count takes.ring
  have pushed : pushedBy (entries ++ [entry]) = pushedBy entries := by
    rw [pushedBy_concat, nothing, List.append_nil]
  have placed : places 0 (entries ++ [entry]) =
      places 0 entries ++
        [{ position := (pushedBy entries).length - entry.before.pcmCount, block := block }] := by
    rw [places_concat, pulled, Nat.zero_add]
    rfl
  refine
    { flowing := ?_
      steps := streams.steps_concat
      numbered := ?_
      exact := ?_
      ordered := ?_
      finished := ?_
      missing := ?_ }
  · rw [pushed]
    exact takes.flowing enough streams.flowing
  · rw [placed]
    intro place member
    rcases List.mem_append.mp member with old | new
    · exact streams.numbered place old
    · obtain rfl := List.mem_singleton.mp new
      have level := streams.flowing.level.sequence
      rw [streams.flowing.produced] at level
      have split : UInt64.ofNat (pushedBy entries).length =
          UInt64.ofNat ((pushedBy entries).length - entry.before.pcmCount) +
            UInt64.ofNat entry.before.pcmCount := by
        rw [← UInt64.ofNat_add, Nat.sub_add_cancel held]
      rw [split, ← UInt64.add_assoc] at level
      exact sequence.trans ((UInt64.add_left_inj _).mp level)
  · rw [placed, pushed]
    intro place member
    rcases List.mem_append.mp member with old | new
    · exact streams.exact place old
    · obtain rfl := List.mem_singleton.mp new
      refine ⟨some, ?_⟩
      rw [← streams.flowing.contents]
      exact samples
  · rw [placed]
    refine List.pairwise_append.mpr ⟨streams.ordered, List.pairwise_singleton _ _, ?_⟩
    intro place old next new
    obtain rfl := List.mem_singleton.mp new
    exact streams.finished place old
  · rw [placed, pushed]
    intro place member
    rcases List.mem_append.mp member with old | new
    · have finished := streams.finished place old
      omega
    · obtain rfl := List.mem_singleton.mp new
      simp only [Place.finish]
      omega
  · rw [placed, pushed]
    intro position before
    by_cases old : position < (pushedBy entries).length - entry.before.pcmCount
    · rcases streams.missing position old with ⟨place, member, within⟩ | overwritten
      · exact .inl ⟨place, List.mem_append_left _ member, within⟩
      · exact .inr (overwritten.later [entry])
    · refine .inl ⟨_, List.mem_append_right _ (List.mem_singleton_self _), ?_⟩
      simp only [Place.finish]
      omega

/-- A part of a log that begins at the start, or behind a call that empties the ring. -/
structure Segment (entries earlier segment : RuntimeLog State) : Prop where
  split : entries = earlier ++ segment
  begins : earlier = [] ∨ ∃ front last, earlier = front ++ [last] ∧ empties last = true
  keeps : ∀ entry ∈ segment, empties entry = false

theorem segment_concat
    {entries earlier segment : RuntimeLog State}
    (stage : Segment (entries ++ [entry]) earlier segment) :
    (segment = [] ∧ earlier = entries ++ [entry] ∧ empties entry = true) ∨
      ∃ front, segment = front ++ [entry] ∧ Segment entries earlier front ∧
        empties entry = false := by
  obtain ⟨split, begins, keeps⟩ := stage
  rcases List.eq_nil_or_concat segment with rfl | ⟨front, last, rfl⟩
  · rw [List.append_nil] at split
    rcases begins with rfl | ⟨front, last, rfl, ends⟩
    · simp at split
    · obtain ⟨-, same⟩ := List.append_inj' split rfl
      obtain rfl := List.singleton_inj.mp same
      exact .inl ⟨rfl, split.symm, ends⟩
  · rw [List.concat_eq_append, ← List.append_assoc] at split
    obtain ⟨rfl, same⟩ := List.append_inj' split rfl
    obtain rfl := List.singleton_inj.mp same
    refine .inr ⟨front, List.concat_eq_append, ⟨rfl, begins, ?_⟩, ?_⟩
    · exact fun other member => keeps other (by simp [member])
    · exact keeps _ (by simp)

/-- The ring is level, and every part between two calls that empty it is a stream. -/
structure Sounding (entries : RuntimeLog State) (later : Runtime State) : Prop where
  level : later.Level
  streams :
    ∀ earlier segment, Segment entries earlier segment →
      ∃ base, Streams base segment later

theorem Turn.level
    {later : Runtime State}
    (turn : Turn entry later)
    (level : entry.before.Level) :
    later.Level := by
  cases turn with
  | emptied _ emptied => exact emptied.flowing.level
  | pushed _ _ same => exact same.level (level.pushPcm _)
  | pulled _ _ _ _ _ _ enough takes => exact takes.level enough level

theorem Turn.streams
    {later : Runtime State}
    (turn : Turn entry later)
    (keeps : empties entry = false)
    (streams : Streams base entries entry.before) :
    Streams base (entries ++ [entry]) later := by
  cases turn with
  | emptied empties => simp [keeps] at empties
  | pushed _ silent same => exact streams.pushed silent same
  | pulled _ nothing pulled sequence samples some enough takes =>
      exact streams.pulled nothing pulled sequence samples some enough takes

/-- A call that empties the ring is the end of a stream and the start of another one. -/
theorem Sounding.turn
    {later : Runtime State}
    (sounding : Sounding entries entry.before)
    (turn : Turn entry later) :
    Sounding (entries ++ [entry]) later where
  level := turn.level sounding.level
  streams := by
    intro earlier segment stage
    rcases segment_concat stage with ⟨rfl, -, ends⟩ | ⟨front, rfl, stage, keeps⟩
    · cases turn with
      | emptied _ emptied => exact ⟨_, .empty emptied⟩
      | pushed keeps => simp [keeps] at ends
      | pulled keeps => simp [keeps] at ends
    · obtain ⟨base, streams⟩ := sounding.streams _ _ stage
      exact ⟨base, turn.streams keeps streams⟩

/-- A runtime that has just been created has an empty ring. -/
theorem emptied_create
    {config : RuntimeConfig}
    (created : Runtime.create core config = .ok runtime) :
    runtime.Emptied := by
  unfold Runtime.create at created
  split at created
  · simp at created
  · dsimp only at created
    split at created
    · simp at created
    · obtain rfl := Except.ok.inj created
      exact ⟨rfl, rfl, rfl⟩

theorem Sounding.start (emptied : runtime.Emptied) : Sounding [] runtime where
  level := emptied.flowing.level
  streams := by
    intro earlier segment stage
    obtain ⟨rfl, rfl⟩ := List.nil_eq_append_iff.mp stage.split
    exact ⟨_, .empty emptied⟩

theorem sounding_run
    (emptied : runtime.Emptied)
    (calls : List RuntimeCall) :
    Sounding (RuntimeLog.ofCalls core runtime calls) (runtime.after core calls) :=
  Logbook.run_keeps (Runtime.perform core) Sounding (.start emptied)
    (fun _ before call sounding => sounding.turn (turn before call)) calls

/-- The ring of a runtime that has been created, after any calls. -/
theorem ring_streams
    (config : RuntimeConfig)
    (created : Runtime.create core config = .ok runtime)
    (calls : List RuntimeCall) :
    (runtime.after core calls).pcmRead < kPcmCapacity ∧
      (runtime.after core calls).pcmCount ≤ kPcmCapacity ∧
      (runtime.after core calls).pcmReadSequence +
          UInt64.ofNat (runtime.after core calls).pcmCount =
        (runtime.after core calls).pcmProducerSequence ∧
      ∀ earlier segment,
        Segment (RuntimeLog.ofCalls core runtime calls) earlier segment →
          ∃ base, Streams base segment (runtime.after core calls) := by
  obtain ⟨level, streams⟩ := @sounding_run State core runtime (emptied_create created) calls
  exact ⟨level.sound.read, level.sound.count, level.sequence, streams⟩

/-! ### A sequence that wraps around -/

/-- The blocks lie behind one another by their sequence numbers. -/
def Increasing (entries : RuntimeLog State) : Prop :=
  (entries.filterMap pulled).Pairwise fun block next =>
    block.firstSampleSequence.toNat + block.samples.length ≤
      next.firstSampleSequence.toNat

/-- The producer is one sample away from the end of its range. -/
def lastSnapshot : Snapshot where
  valid := true
  romLoaded := true
  pcmProducerSequence := 0xFFFFFFFFFFFFFFFF
  core := [1]

def wrappingCalls : List RuntimeCall :=
  [.loadCheckpoint (serializeSnapshot lastSnapshot) fun _ => true,
    .stepFrame sampleInput (sampleHeader kFrameResultSize) 0,
    .pullPcm 1 (sampleHeader kPcmBlockSize) true,
    .pullPcm 1 (sampleHeader kPcmBlockSize) true]

theorem lastSnapshot_whole : lastSnapshot.Whole where
  valid := rfl
  sampleRate := by decide
  core := rfl
  coreFits := by decide
  pixels := rfl

/-- The samples of one step, in a ring that was empty. -/
theorem published_ring
    (emptied : runtime.Emptied)
    (input : FrameInput)
    (ran : RanFrames)
    (nes : State)
    (pixels : Block kRgb565Bytes)
    (nowNs : UInt64) :
    (runtime.published input ran nes pixels nowNs).pcmCount = ran.samples.length ∧
      (runtime.published input ran nes pixels nowNs).pcmReadSequence =
        runtime.pcmProducerSequence := by
  have same :
      (runtime.pushPcm ran.samples).SameSamples
        (runtime.published input ran nes pixels nowNs) := by
    have pushed := (sameSamples_latched runtime input (some nes)).pushPcm ran.samples
    exact ⟨pushed.ring, pushed.readSequence, pushed.producerSequence⟩
  have flowing := same.flowing (emptied.flowing.pushPcm ran.samples)
  have count : (runtime.published input ran nes pixels nowNs).pcmCount =
      ran.samples.length := by
    have pushed := emptied.flowing.level.count_pushPcm ran.samples
    have few : ran.samples.length ≤ kAudioScratchSamples := ran.fits
    have small : kAudioScratchSamples ≤ kPcmCapacity := by decide
    rw [emptied.count, Nat.zero_add, Nat.min_eq_left (Nat.le_trans few small)] at pushed
    exact (congrArg Ring.count same.ring).trans pushed
  refine ⟨count, ?_⟩
  have level := flowing.level.sequence
  rw [count, flowing.produced] at level
  exact (UInt64.add_left_inj _).mp level

/-- Two samples are pulled one by one. -/
theorem pull_twice
    (two : runtime.pcmCount = 2) :
    ((RuntimeLog.ofCalls core runtime
        [.pullPcm 1 (sampleHeader kPcmBlockSize) true,
          .pullPcm 1 (sampleHeader kPcmBlockSize) true]).filterMap pulled).map
        (fun block => (block.firstSampleSequence, block.samples.length)) =
      [(runtime.pcmReadSequence, 1), (runtime.pcmReadSequence + 1, 1)] := by
  have pull (runtime : Runtime State) (some : runtime.pcmCount ≠ 0) :
      ∃ block,
        pulled (Logbook.entry (Runtime.perform core) runtime
          (.pullPcm 1 (sampleHeader kPcmBlockSize) true)) = .some block ∧
        block.firstSampleSequence = runtime.pcmReadSequence ∧
        block.samples.length = 1 ∧
        ((runtime.perform core (.pullPcm 1 (sampleHeader kPcmBlockSize) true)).2).pcmCount =
          runtime.pcmCount - 1 ∧
        ((runtime.perform core (.pullPcm 1 (sampleHeader kPcmBlockSize) true)).2).pcmReadSequence =
          runtime.pcmReadSequence + 1 := by
    have one : min 1 runtime.pcmCount = 1 := by omega
    simp [pulled, Logbook.entry, Runtime.perform, Runtime.pullPcm, one, some, checkHeader,
      sampleHeader]
  obtain ⟨first, pulled1, sequence1, length1, count1, read1⟩ := pull runtime (by omega)
  obtain ⟨second, pulled2, sequence2, length2, -, -⟩ :=
    pull (runtime.perform core (.pullPcm 1 (sampleHeader kPcmBlockSize) true)).2 (by omega)
  simp only [ofCalls_cons, List.filterMap_cons, pulled1, pulled2]
  simp [RuntimeLog.ofCalls, Logbook.log, sequence1, sequence2, read1, length1, length2]

theorem empties_loadCheckpoint (bytes : Bytes) (memory : Memory) :
    empties
        (Logbook.entry (Runtime.perform core) runtime (.loadCheckpoint bytes memory)) =
      ((runtime.loadCheckpoint core bytes memory).1 == .ok) :=
  rfl

theorem load_lastSnapshot :
    ∃ last : Runtime Metronome,
      sampleRuntime.loadCheckpoint metronome (serializeSnapshot lastSnapshot)
          (fun _ => true) =
        (.ok, last) ∧
      last.Emptied ∧ last.romLoaded = true ∧ last.timelineSet = false ∧
      last.nes = some { held := 0, beat := 1 } ∧
      last.pcmProducerSequence = 0xFFFFFFFFFFFFFFFF := by
  rw [Runtime.loadCheckpoint_serialize lastSnapshot_whole (by simp [Runtime.fitsMemory]) rfl]
  exact ⟨_, rfl, ⟨rfl, rfl, rfl⟩, rfl, rfl, rfl, rfl⟩

theorem step_sampleInput
    {last : Runtime Metronome}
    {nes : Metronome}
    (emptied : last.Emptied)
    (loaded : last.romLoaded = true)
    (fresh : last.timelineSet = false)
    (owned : last.nes = some nes) :
    ∃ later,
      (last.stepFrame metronome sampleInput (sampleHeader kFrameResultSize) 0).2 = later ∧
        later.pcmCount = 2 ∧ later.pcmReadSequence = last.pcmProducerSequence := by
  have next : last.expectsFrame sampleInput = true := by
    unfold Runtime.expectsFrame
    rw [fresh]
    rfl
  rw [Runtime.stepFrame_runs 0 (by decide) (by decide) loaded next owned,
    Runtime.runStep_whole 0 rfl rfl (Int.le_refl 0) rfl (metronome_videoFrame _)]
  exact ⟨_, rfl, published_ring emptied _ _ _ _ _⟩

/-- The first sample behind a checkpoint has the last sequence number, the next one the
first. -/
theorem wrapped_sequence_decreases :
    Runtime.create metronome sampleConfig = .ok sampleRuntime ∧
      ∃ earlier segment,
        Segment (RuntimeLog.ofCalls metronome sampleRuntime wrappingCalls) earlier segment ∧
          ¬ Increasing segment := by
  obtain ⟨last, load, emptied, loaded, fresh, owned, produced⟩ := load_lastSnapshot
  obtain ⟨later, step, two, sequence⟩ := step_sampleInput emptied loaded fresh owned
  refine ⟨sampleRuntime_created,
    [Logbook.entry (Runtime.perform metronome) sampleRuntime
      (.loadCheckpoint (serializeSnapshot lastSnapshot) fun _ => true)],
    Logbook.entry (Runtime.perform metronome) last
        (.stepFrame sampleInput (sampleHeader kFrameResultSize) 0) ::
      RuntimeLog.ofCalls metronome later (wrappingCalls.drop 2),
    ⟨?_, .inr ⟨[], _, rfl, ?_⟩, ?_⟩, ?_⟩
  · simp only [wrappingCalls, ofCalls_cons, Runtime.perform_loadCheckpoint, load,
      Runtime.perform_stepFrame, step, List.drop, List.singleton_append]
  · rw [empties_loadCheckpoint, load]
    rfl
  · intro entry member
    simp only [wrappingCalls, List.drop, ofCalls_cons, List.mem_cons] at member
    rcases member with rfl | rfl | rfl | none
    · rfl
    · rfl
    · rfl
    · exact absurd none List.not_mem_nil
  · intro increasing
    have blocks := @pull_twice _ metronome later two
    rw [sequence, produced] at blocks
    obtain ⟨first, rest, pulls, first', rest'⟩ := List.map_eq_cons_iff.mp blocks
    obtain ⟨second, none, rfl, second', -⟩ := List.map_eq_cons_iff.mp rest'
    have pair : Increasing
        (RuntimeLog.ofCalls metronome later (wrappingCalls.drop 2)) := increasing
    unfold Increasing at pair
    rw [wrappingCalls, List.drop, List.drop, List.drop, pulls] at pair
    have behind := (List.pairwise_cons.mp pair).1 second (by simp)
    obtain ⟨start, -⟩ := Prod.mk.inj first'
    obtain ⟨next, -⟩ := Prod.mk.inj second'
    rw [start, next] at behind
    exact absurd (Nat.le_of_add_right_le behind) (by decide)

theorem sample_streams :
    Runtime.create metronome sampleConfig = .ok sampleRuntime ∧
      ∀ earlier segment,
        Segment (RuntimeLog.ofCalls metronome sampleRuntime wrappingCalls) earlier segment →
          ∃ base, Streams base segment (sampleRuntime.after metronome wrappingCalls) :=
  ⟨sampleRuntime_created,
    (ring_streams sampleConfig sampleRuntime_created wrappingCalls).2.2.2⟩

end RuntimeLog

end FlyNes.Emulation
