import FlyNes.RuntimeRing
import FlyNes.RuntimeRate

namespace FlyNes.Emulation

/-!
# The media time of a block

The media time of a block is its first sequence number in nanoseconds at the rate
of the runtime, which no call changes.  The product with a thousand million is
made in 64 bits, so the time is exact up to a sequence number that a long run
passes, and that a checkpoint may start behind.
-/

theorem toNat_nanoseconds (sequence : UInt64) :
    (sequence * 1000000000).toNat = sequence.toNat * 1000000000 % 2 ^ 64 := by
  rw [UInt64.toNat_mul]
  rfl

/-- A product in 64 bits is divided exactly if and only if it does not wrap. -/
theorem media_time_exact_iff
    (sequence : UInt64)
    {rate : UInt32}
    (positive : rate ≠ 0) :
    (sequence * 1000000000 / rate.toUInt64).toNat =
        sequence.toNat * 1000000000 / rate.toNat ↔
      sequence.toNat * 1000000000 < 2 ^ 64 := by
  have wide : rate.toNat < 2 ^ 32 := rate.toNat_lt
  have some : 0 < rate.toNat := by
    rw [Nat.pos_iff_ne_zero]
    exact fun zero => positive (UInt32.toNat_inj.mp zero)
  rw [UInt64.toNat_div, toNat_nanoseconds, UInt32.toNat_toUInt64]
  generalize sequence.toNat * 1000000000 = exact
  constructor
  · intro same
    by_contra wraps
    have wraps : 2 ^ 64 ≤ exact := Nat.le_of_not_lt wraps
    have smaller : exact % 2 ^ 64 + rate.toNat ≤ exact := by
      omega
    have less := Nat.div_le_div_right (c := rate.toNat) smaller
    rw [Nat.add_div_right _ some] at less
    omega
  · intro fits
    rw [Nat.mod_eq_of_lt fits]

namespace RuntimeLog

variable {State : Type} {core : NesCore State}
variable {runtime : Runtime State}

/-- The block of a pull has the time of its first sample, rounded down. -/
def MediaExact (entry : RuntimeEntry State) : Prop :=
  ∀ block ∈ pulled entry,
    block.mediaTimeNs.toNat =
      block.firstSampleSequence.toNat * 1000000000 /
        entry.before.sampleRate.toNat

/-- A pull that takes samples begins at a number whose time fits into 64 bits. -/
def InRange (entry : RuntimeEntry State) : Prop :=
  ∀ _block ∈ pulled entry,
    entry.before.pcmReadSequence.toNat * 1000000000 < 2 ^ 64

/-- The samples that a call pushes do not take the sequence past 64 bits. -/
def Unwrapped (entry : RuntimeEntry State) : Prop :=
  entry.before.pcmProducerSequence.toNat + (produced entry).length < 2 ^ 64

/-- The media time does not go back from one block to a later one. -/
def Steady (entries : RuntimeLog State) : Prop :=
  (entries.filterMap pulled).Pairwise fun block next =>
    block.mediaTimeNs ≤ next.mediaTimeNs

/-- The first number and the time of the block that a call takes. -/
theorem pulled_media
    {call : RuntimeCall}
    {block : PcmBlock}
    (taken : pulled (Logbook.entry (Runtime.perform core) runtime call) =
      some block) :
    block.firstSampleSequence = runtime.pcmReadSequence ∧
      block.mediaTimeNs =
        runtime.pcmReadSequence * 1000000000 / runtime.sampleRate.toUInt64 := by
  cases call with
  | pullPcm sampleCapacity header ownsLock =>
      simp only [pulled, Logbook.entry, Runtime.perform, Runtime.pullPcm] at taken
      split at taken
      next answer =>
        split at answer
        · cases answer
        · split at answer
          · cases answer
          · split at answer
            · obtain rfl := Except.ok.inj (RuntimeAnswer.pulled.inj answer)
              simp [Runtime.silence] at taken
            · obtain rfl := Except.ok.inj (RuntimeAnswer.pulled.inj answer)
              obtain rfl := Option.some.inj taken
              exact ⟨rfl, rfl⟩
      · cases taken
  | _ => cases taken

theorem mediaExact_iff
    (call : RuntimeCall)
    (positive : runtime.sampleRate ≠ 0) :
    MediaExact (Logbook.entry (Runtime.perform core) runtime call) ↔
      InRange (Logbook.entry (Runtime.perform core) runtime call) := by
  refine forall₂_congr fun block taken => ?_
  obtain ⟨first, media⟩ := pulled_media taken
  rw [first, media]
  exact media_time_exact_iff runtime.pcmReadSequence positive

/-- The rate is that of the start in every state of a run. -/
theorem run_rated
    (rated : runtime.Rated runtime.sampleRate)
    (calls : List RuntimeCall) :
    (runtime.after core calls).Rated runtime.sampleRate ∧
      ∀ entry ∈ RuntimeLog.ofCalls core runtime calls,
        ∃ before call,
          before.Rated runtime.sampleRate ∧
            entry = Logbook.entry (Runtime.perform core) before call := by
  refine
    Logbook.run_keeps (Runtime.perform core)
      (fun entries later =>
        later.Rated runtime.sampleRate ∧
          ∀ entry ∈ entries,
            ∃ before call,
              before.Rated runtime.sampleRate ∧
                entry = Logbook.entry (Runtime.perform core) before call)
      ⟨rated, by simp⟩ ?_ calls
  rintro entries before call ⟨beforeRated, earlier⟩
  refine ⟨beforeRated.perform call, ?_⟩
  intro entry member
  obtain old | new := List.mem_append.mp member
  · exact earlier entry old
  · exact ⟨before, call, beforeRated, List.mem_singleton.mp new⟩

/-! ### The order of the blocks -/

theorem places_blocks
    (count : Nat)
    (entries : RuntimeLog State) :
    (places count entries).map Place.block = entries.filterMap pulled := by
  induction entries generalizing count with
  | nil => rfl
  | cons entry rest inductionHypothesis =>
      rw [places, List.map_append, inductionHypothesis]
      cases taken : pulled entry with
      | none => simp [taken]
      | some block => simp [taken]

variable {base : UInt64}

/-- While no push wraps, the sequence is the start and what was pushed. -/
theorem unwrapped_length
    {entries : RuntimeLog State}
    (steps :
      ∀ earlier entry rest, entries = earlier ++ entry :: rest →
        entry.before.pcmProducerSequence =
          base + UInt64.ofNat (pushedBy earlier).length)
    (unwrapped : ∀ entry ∈ entries, Unwrapped entry) :
    base.toNat + (pushedBy entries).length < 2 ^ 64 := by
  induction entries using List.reverseRecOn with
  | nil => simpa [pushedBy] using base.toNat_lt
  | append_singleton entries entry inductionHypothesis =>
      have before :=
        inductionHypothesis
          (fun earlier other rest split =>
            steps earlier other (rest ++ [entry]) (by simp [split]))
          (fun other member => unwrapped other (List.mem_append_left _ member))
      have here := steps entries entry [] rfl
      have fits := unwrapped entry (by simp)
      have number : entry.before.pcmProducerSequence.toNat =
          base.toNat + (pushedBy entries).length := by
        rw [here, UInt64.toNat_add, UInt64.toNat_ofNat']
        omega
      rw [Unwrapped, number] at fits
      rw [pushedBy_concat, List.length_append]
      omega

/-- A block with a smaller number does not have a later time. -/
theorem media_le
    {first next : UInt64}
    (rate : UInt32)
    (before : first.toNat ≤ next.toNat)
    (inRange : next.toNat * 1000000000 < 2 ^ 64) :
    first * 1000000000 / rate.toUInt64 ≤ next * 1000000000 / rate.toUInt64 := by
  have firstInRange : first.toNat * 1000000000 < 2 ^ 64 :=
    Nat.lt_of_le_of_lt (Nat.mul_le_mul_right _ before) inRange
  rw [UInt64.le_iff_toNat_le, UInt64.toNat_div, UInt64.toNat_div,
    toNat_nanoseconds, toNat_nanoseconds, Nat.mod_eq_of_lt inRange,
    Nat.mod_eq_of_lt firstInRange]
  exact Nat.div_le_div_right (Nat.mul_le_mul_right _ before)

/-- The blocks of a stream whose sequence does not wrap have steady times. -/
theorem Streams.steady
    {rate : UInt32}
    {segment : RuntimeLog State}
    {later : Runtime State}
    (streams : Streams base segment later)
    (media : ∀ entry ∈ segment, ∀ block ∈ RuntimeLog.pulled entry,
      block.firstSampleSequence.toNat * 1000000000 < 2 ^ 64 ∧
        block.mediaTimeNs =
          block.firstSampleSequence * 1000000000 / rate.toUInt64)
    (unwrapped : ∀ entry ∈ segment, Unwrapped entry) :
    Steady segment := by
  have narrow := unwrapped_length streams.steps unwrapped
  unfold Steady
  rw [← places_blocks 0, List.pairwise_map]
  refine List.Pairwise.imp_of_mem ?_ streams.ordered
  intro place next member nextMember apart
  have mediaOf (place : Place) (member : place ∈ places 0 segment) :
      place.block.firstSampleSequence.toNat * 1000000000 < 2 ^ 64 ∧
        place.block.mediaTimeNs =
          place.block.firstSampleSequence * 1000000000 / rate.toUInt64 := by
    have block : place.block ∈ segment.filterMap RuntimeLog.pulled := by
      rw [← places_blocks 0]
      exact List.mem_map_of_mem member
    obtain ⟨entry, entryMember, taken⟩ := List.mem_filterMap.mp block
    exact media entry entryMember place.block taken
  have number (place : Place) (member : place ∈ places 0 segment) :
      place.block.firstSampleSequence.toNat =
        base.toNat + place.position := by
    have finished := streams.finished place member
    rw [streams.numbered place member, UInt64.toNat_add, UInt64.toNat_ofNat']
    unfold Place.finish at finished
    omega
  have before : place.block.firstSampleSequence.toNat ≤
      next.block.firstSampleSequence.toNat := by
    rw [number place member, number next nextMember]
    unfold Place.finish at apart
    omega
  rw [(mediaOf place member).2, (mediaOf next nextMember).2]
  exact media_le rate before (mediaOf next nextMember).1

/--
The media times of a run are exact if and only if every pull that takes samples
begins at a number whose time fits into 64 bits.  They do not go back between two
calls that empty the ring, unless the sequence wraps.
-/
theorem media_time_exact
    (config : RuntimeConfig)
    (created : Runtime.create core config = .ok runtime)
    (calls : List RuntimeCall) :
    ((∀ entry ∈ RuntimeLog.ofCalls core runtime calls, MediaExact entry) ↔
        ∀ entry ∈ RuntimeLog.ofCalls core runtime calls, InRange entry) ∧
      ∀ earlier segment,
        Segment (RuntimeLog.ofCalls core runtime calls) earlier segment →
          (∀ entry ∈ segment, InRange entry) →
            (∀ entry ∈ segment, Unwrapped entry) →
              Steady segment := by
  obtain ⟨rated, range, -⟩ := Runtime.rated_create created
  have positive : runtime.sampleRate ≠ 0 := by
    intro zero
    rw [zero] at range
    exact absurd range (by decide)
  have entries := (@run_rated State core runtime rated calls).2
  refine ⟨forall₂_congr fun entry member => ?_, ?_⟩
  · obtain ⟨before, call, beforeRated, rfl⟩ := entries entry member
    refine mediaExact_iff call ?_
    rw [beforeRated.sampleRate]
    exact positive
  · intro earlier segment stage inRange unwrapped
    obtain ⟨base, streams⟩ :=
      (@sounding_run State core runtime (emptied_create created) calls).streams _ _
        stage
    refine @Streams.steady _ _ runtime.sampleRate _ _ streams ?_ unwrapped
    intro entry member block taken
    have inLog : entry ∈ RuntimeLog.ofCalls core runtime calls := by
      rw [stage.split]
      exact List.mem_append_right _ member
    obtain ⟨before, call, beforeRated, rfl⟩ := entries entry inLog
    obtain ⟨first, time⟩ := pulled_media taken
    refine ⟨?_, ?_⟩
    · have fits := inRange _ member block taken
      have start : (Logbook.entry (Runtime.perform core) before call).before =
          before := rfl
      rw [start, ← first] at fits
      exact fits
    · rw [time, first, beforeRated.sampleRate]

/-- A ring with two samples answers a pull with a block. -/
theorem pulls_from_two
    (two : runtime.pcmCount = 2) :
    ∃ block,
      block ∈ pulled (Logbook.entry (Runtime.perform core) runtime
        (.pullPcm 1 (sampleHeader kPcmBlockSize) true)) := by
  simp [pulled, Logbook.entry, Runtime.perform, Runtime.pullPcm, two,
    checkHeader, sampleHeader]

/-- A run that counts its samples from zero. -/
def fittingCalls : List RuntimeCall :=
  [.loadRom [1] none, .stepFrame sampleInput (sampleHeader kFrameResultSize) 0,
    .pullPcm 2 (sampleHeader kPcmBlockSize) true]

theorem load_fittingCalls :
    ∃ loaded : Runtime Metronome,
      (sampleRuntime.loadRom metronome [1] none).2 = loaded ∧ loaded.Emptied ∧
        loaded.romLoaded = true ∧ loaded.timelineSet = false ∧
        loaded.nes = some { held := 0, beat := 0 } ∧ loaded.pcmProducerSequence = 0 :=
  ⟨_, rfl, ⟨rfl, rfl, rfl⟩, rfl, rfl, rfl, rfl⟩

theorem inRange_fittingCalls :
    ∀ entry ∈ RuntimeLog.ofCalls metronome sampleRuntime fittingCalls, InRange entry := by
  obtain ⟨last, load, emptied, loaded, fresh, owned, produced⟩ := load_fittingCalls
  obtain ⟨later, step, -, sequence⟩ := step_sampleInput emptied loaded fresh owned
  intro entry member
  simp only [fittingCalls, ofCalls_cons, Runtime.perform_loadRom, load,
    Runtime.perform_stepFrame, step, List.mem_cons] at member
  rcases member with rfl | rfl | rfl | none
  · nofun
  · nofun
  · intro _ _
    change later.pcmReadSequence.toNat * 1000000000 < 2 ^ 64
    rw [sequence, produced]
    decide
  · exact absurd none List.not_mem_nil

/-- A run within the range, and one that begins behind a checkpoint with a large number. -/
theorem sample_media :
    Runtime.create metronome sampleConfig = .ok sampleRuntime ∧
      (∀ entry ∈ RuntimeLog.ofCalls metronome sampleRuntime fittingCalls,
        MediaExact entry) ∧
      ((∀ entry ∈ RuntimeLog.ofCalls metronome sampleRuntime wrappingCalls,
          MediaExact entry) ↔
        ∀ entry ∈ RuntimeLog.ofCalls metronome sampleRuntime wrappingCalls,
          InRange entry) :=
  ⟨sampleRuntime_created,
    (media_time_exact sampleConfig sampleRuntime_created fittingCalls).1.2
      inRange_fittingCalls,
    (media_time_exact sampleConfig sampleRuntime_created wrappingCalls).1⟩

/-- The time of a block behind a checkpoint with a large number wraps. -/
theorem media_time_wraps :
    Runtime.create metronome sampleConfig = .ok sampleRuntime ∧
      ¬ ∀ entry ∈ RuntimeLog.ofCalls metronome sampleRuntime wrappingCalls,
        MediaExact entry := by
  refine ⟨sampleRuntime_created, fun always => ?_⟩
  obtain ⟨last, load, emptied, loaded, fresh, owned, produced⟩ := load_lastSnapshot
  obtain ⟨later, step, two, sequence⟩ := step_sampleInput emptied loaded fresh owned
  have rated : later.Rated sampleRuntime.sampleRate := by
    have loading :
        (sampleRuntime.loadCheckpoint metronome (serializeSnapshot lastSnapshot)
          fun _ => true).2.Rated sampleRuntime.sampleRate :=
      (Runtime.rated_create sampleRuntime_created).1.loadCheckpointFor
        (serializeSnapshot lastSnapshot) 0 fun _ => true
    rw [load] at loading
    rw [← step]
    exact loading.stepFrame sampleInput (sampleHeader kFrameResultSize) 0
  have inLog :
      Logbook.entry (Runtime.perform metronome) later
          (.pullPcm 1 (sampleHeader kPcmBlockSize) true) ∈
        RuntimeLog.ofCalls metronome sampleRuntime wrappingCalls := by
    simp only [wrappingCalls, ofCalls_cons, Runtime.perform_loadCheckpoint, load,
      Runtime.perform_stepFrame, step]
    simp
  have positive : later.sampleRate ≠ 0 := by
    rw [rated.sampleRate]
    decide
  have inRange := (mediaExact_iff _ positive).mp (always _ inLog)
  obtain ⟨block, taken⟩ := @pulls_from_two _ metronome _ two
  have fits := inRange block taken
  have number : later.pcmReadSequence = 0xFFFFFFFFFFFFFFFF :=
    sequence.trans produced
  have start : (Logbook.entry (Runtime.perform metronome) later
      (.pullPcm 1 (sampleHeader kPcmBlockSize) true)).before = later := rfl
  rw [start, number] at fits
  exact absurd fits (by decide)

end RuntimeLog

end FlyNes.Emulation
