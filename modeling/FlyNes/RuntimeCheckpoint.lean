import FlyNes.ByteReader
import FlyNes.Runtime

namespace FlyNes.Emulation

open ByteString
open ByteReader

/-!
# Checkpoints

A checkpoint is a snapshot as bytes.  The header is of a fixed size and ends with the
sizes of the two payloads, which take up exactly the rest.
-/

/-- `FLYRT01` and a zero octet. -/
def kCheckpointMagic : Bytes :=
  [0x46, 0x4C, 0x59, 0x52, 0x54, 0x30, 0x31, 0x00]

def kCheckpointVersion : UInt32 := 1

/-- The size of the header. -/
def kCheckpointFixedBytes : Nat :=
  8 + 8 * 4 + 7 * 8 + 4 * (4 + 8) + 2 * 4

def putFlag (flag : Bool) : Bytes :=
  putU32 (if flag then 1 else 0)

def serializeSnapshot (snapshot : Snapshot) : Bytes :=
  kCheckpointMagic ++
    (putU32 kCheckpointVersion ++
      (putU32 0 ++
        (putU32 snapshot.sampleRate ++
          (putU32 snapshot.predictedPortMask ++
            (putFlag snapshot.timelineSet ++
              (putFlag snapshot.romLoaded ++
                (putFlag snapshot.hasCompleteFrame ++
                  (putU32 0 ++
                    (putU64 snapshot.timelineEpoch ++
                      (putU64 snapshot.nextFrameIndex ++
                        (putU64 snapshot.frameSequence ++
                          (putU64 snapshot.pcmProducerSequence ++
                            (putU64 snapshot.lastBatchSequence ++
                              (putU64 snapshot.lastSourceTimeNs ++
                                (putU64 snapshot.lastProducedTimeNs ++
                                  ((List.ofFn snapshot.buttons).flatMap putU32 ++
                                    ((List.ofFn snapshot.inputSequence).flatMap putU64 ++
                                      (putU32 (UInt32.ofNat snapshot.core.length) ++
                                        (putU32 (UInt32.ofNat snapshot.pixels.length) ++
                                          (snapshot.core ++
                                            snapshot.pixels))))))))))))))))))))

/-- The values of four ports. -/
def portsOf {Value : Type} [Inhabited Value] (values : List Value) (port : Fin 4) : Value :=
  values.getD port.val default

/-- The sizes of the payloads fit what they declare. -/
def payloadSizesValid
    (romLoaded hasFrame : Bool)
    (coreSize pixelSize : UInt32)
    (remaining : Nat) : Bool :=
  !((hasFrame && pixelSize.toNat != kRgb565Bytes) || (!hasFrame && pixelSize != 0) ||
      (romLoaded && coreSize == 0) || (!romLoaded && coreSize != 0)) &&
    !(coreSize.toNat > remaining || pixelSize.toNat != remaining - coreSize.toNat)

def takeSnapshot : Read Snapshot := do
  let magic ← takeBytes 8
  require (magic == kCheckpointMagic)
  let version ← takeU32
  require (version == kCheckpointVersion)
  let reserved ← takeU32
  require (reserved == 0)
  let sampleRate ← takeU32
  require (!(sampleRate < 44100 || sampleRate > 96000))
  let predictedPortMask ← takeU32
  let timelineSet ← takeU32
  let romLoaded ← takeU32
  let hasFrame ← takeU32
  let reserved1 ← takeU32
  require (reserved1 == 0)
  let timelineEpoch ← takeU64
  let nextFrameIndex ← takeU64
  let frameSequence ← takeU64
  let pcmProducerSequence ← takeU64
  let lastBatchSequence ← takeU64
  let lastSourceTimeNs ← takeU64
  let lastProducedTimeNs ← takeU64
  let buttons ← takeMany takeU32 4
  let inputSequence ← takeMany takeU64 4
  let coreSize ← takeU32
  let pixelSize ← takeU32
  let reader ← get
  require
    (payloadSizesValid (romLoaded != 0) (hasFrame != 0) coreSize pixelSize
      (reader.bytes.length - reader.offset))
  let core ← takeBytes coreSize.toNat
  let pixels ← takeBytes pixelSize.toNat
  let reader ← get
  require reader.atEnd
  return {
    valid := true
    timelineSet := timelineSet != 0
    romLoaded := romLoaded != 0
    hasCompleteFrame := hasFrame != 0
    sampleRate := sampleRate
    predictedPortMask := predictedPortMask
    buttons := portsOf buttons
    timelineEpoch := timelineEpoch
    nextFrameIndex := nextFrameIndex
    inputSequence := portsOf inputSequence
    frameSequence := frameSequence
    pcmProducerSequence := pcmProducerSequence
    lastBatchSequence := lastBatchSequence
    lastSourceTimeNs := lastSourceTimeNs
    lastProducedTimeNs := lastProducedTimeNs
    core := core
    pixels := pixels }

def deserializeSnapshot (bytes : Bytes) : Option Snapshot :=
  match takeSnapshot { bytes } with
  | .ok (snapshot, _) => some snapshot
  | .error _ => none

/-- The payload sizes are checked before anything else is. -/
def checkpointPayloadLengthValid (bytes : Bytes) : Bool :=
  if bytes.length < kCheckpointFixedBytes then
    false
  else
    let sizes := bytes.drop (kCheckpointFixedBytes - 8)
    let coreSize := fromLittleEndian (sizes.take 4)
    let pixelSize := fromLittleEndian ((sizes.drop 4).take 4)
    let remaining := bytes.length - kCheckpointFixedBytes
    decide (coreSize ≤ remaining) && pixelSize == remaining - coreSize

/-! ### What is saved is loaded -/

/-- A snapshot that can be saved. -/
structure Snapshot.Whole (snapshot : Snapshot) : Prop where
  valid : snapshot.valid = true
  sampleRate : 44100 ≤ snapshot.sampleRate ∧ snapshot.sampleRate ≤ 96000
  core : snapshot.core.isEmpty = !snapshot.romLoaded
  coreFits : snapshot.core.length < 2 ^ 32
  pixels :
    snapshot.pixels.length = if snapshot.hasCompleteFrame then kRgb565Bytes else 0

theorem portsOf_ofFn {Value : Type} [Inhabited Value] (values : Fin 4 → Value) :
    portsOf (List.ofFn values) = values := by
  funext port
  unfold portsOf
  rw [List.getD_eq_getElem?_getD, List.getElem?_ofFn, dif_pos port.isLt]
  rfl

variable {snapshot : Snapshot}

theorem Snapshot.Whole.pixelsFit
    (whole : snapshot.Whole) :
    snapshot.pixels.length < 2 ^ 32 := by
  rw [whole.pixels]
  split <;> decide

theorem Snapshot.Whole.payloadSizesValid
    (whole : snapshot.Whole) :
    payloadSizesValid snapshot.romLoaded snapshot.hasCompleteFrame
        (UInt32.ofNat snapshot.core.length) (UInt32.ofNat snapshot.pixels.length)
        (snapshot.core.length + snapshot.pixels.length) =
      true := by
  have coreSize : (UInt32.ofNat snapshot.core.length).toNat = snapshot.core.length :=
    UInt32.toNat_ofNat_of_lt' whole.coreFits
  have pixelSize : (UInt32.ofNat snapshot.pixels.length).toNat = snapshot.pixels.length :=
    UInt32.toNat_ofNat_of_lt' whole.pixelsFit
  have coreZero : (UInt32.ofNat snapshot.core.length == 0) = !snapshot.romLoaded := by
    rw [← whole.core, Bool.eq_iff_iff, beq_iff_eq, ← UInt32.toNat_inj, coreSize,
      List.isEmpty_iff_length_eq_zero]
    rfl
  have coreNone : snapshot.romLoaded = true ∨ UInt32.ofNat snapshot.core.length = 0 := by
    cases loaded : snapshot.romLoaded with
    | false => exact .inr (beq_iff_eq.mp (by rw [coreZero, loaded]; rfl))
    | true => exact .inl rfl
  have pixelZero : snapshot.hasCompleteFrame = false →
      UInt32.ofNat snapshot.pixels.length = 0 := by
    intro none
    rw [whole.pixels, none]
    rfl
  have pixelWhole : snapshot.hasCompleteFrame = true →
      snapshot.pixels.length = kRgb565Bytes := by
    intro some
    rw [whole.pixels, some]
    rfl
  unfold Emulation.payloadSizesValid
  rw [coreSize, pixelSize, bne, coreZero]
  cases complete : snapshot.hasCompleteFrame with
  | false => simp [pixelZero complete, coreNone]
  | true => simp [pixelWhole complete, coreNone]

theorem putFlag_ne_zero (flag : Bool) : ((if flag then 1 else 0 : UInt32) != 0) = flag := by
  cases flag <;> rfl

/-- What is written is taken back, value by value. -/
theorem finishes_takeSnapshot
    (whole : snapshot.Whole) :
    Finishes takeSnapshot (serializeSnapshot snapshot) snapshot := by
  unfold takeSnapshot serializeSnapshot
  refine (codes_takeBytes 8).finishes (rfl : kCheckpointMagic.length = 8) ?_
  refine finishes_require (by decide) ?_
  refine codes_takeU32.finishes trivial ?_
  refine finishes_require (by decide) ?_
  refine codes_takeU32.finishes trivial ?_
  refine finishes_require (by decide) ?_
  refine codes_takeU32.finishes trivial ?_
  refine finishes_require (by simpa using whole.sampleRate) ?_
  refine codes_takeU32.finishes trivial ?_
  refine codes_takeU32.finishes trivial ?_
  refine codes_takeU32.finishes trivial ?_
  refine codes_takeU32.finishes trivial ?_
  refine codes_takeU32.finishes trivial ?_
  refine finishes_require (by decide) ?_
  refine codes_takeU64.finishes trivial ?_
  refine codes_takeU64.finishes trivial ?_
  refine codes_takeU64.finishes trivial ?_
  refine codes_takeU64.finishes trivial ?_
  refine codes_takeU64.finishes trivial ?_
  refine codes_takeU64.finishes trivial ?_
  refine codes_takeU64.finishes trivial ?_
  refine (codes_takeU32.takeMany 4).finishes ⟨List.length_ofFn, by simp⟩ ?_
  refine (codes_takeU64.takeMany 4).finishes ⟨List.length_ofFn, by simp⟩ ?_
  refine codes_takeU32.finishes trivial ?_
  refine codes_takeU32.finishes trivial ?_
  refine finishes_get ?_
  intro reader ends
  rw [putFlag_ne_zero, putFlag_ne_zero, putFlag_ne_zero, ends.left, List.length_append,
    portsOf_ofFn, portsOf_ofFn]
  refine finishes_require whole.payloadSizesValid ?_
  refine (codes_takeBytes _).finishes (UInt32.toNat_ofNat_of_lt' whole.coreFits).symm ?_
  refine (codes_takeBytes _).finishes_last (UInt32.toNat_ofNat_of_lt' whole.pixelsFit).symm ?_
  refine finishes_get ?_
  intro reader ends
  refine finishes_require ends.atEnd ?_
  rw [← whole.valid]
  exact finishes_pure snapshot

theorem deserialize_serialize
    (whole : snapshot.Whole) :
    deserializeSnapshot (serializeSnapshot snapshot) = some snapshot := by
  obtain ⟨after, taken⟩ := finishes_takeSnapshot whole _ (Reader.ends_whole _)
  unfold deserializeSnapshot
  rw [taken]

@[simp] theorem length_putFlag (flag : Bool) : (putFlag flag).length = 4 :=
  length_putU32 _

@[simp] theorem length_putPorts32 (values : Fin 4 → UInt32) :
    ((List.ofFn values).flatMap putU32).length = 16 := by
  simp

@[simp] theorem length_putPorts64 (values : Fin 4 → UInt64) :
    ((List.ofFn values).flatMap putU64).length = 32 := by
  simp

/-- The sizes stand at the end of the header, whatever else it holds. -/
theorem serializeSnapshot_sizes (snapshot : Snapshot) :
    ∃ front : Bytes, front.length = kCheckpointFixedBytes - 8 ∧
      serializeSnapshot snapshot =
        front ++
          (putU32 (UInt32.ofNat snapshot.core.length) ++
            (putU32 (UInt32.ofNat snapshot.pixels.length) ++
              (snapshot.core ++ snapshot.pixels))) := by
  refine
    ⟨kCheckpointMagic ++ (putU32 kCheckpointVersion ++ (putU32 0 ++
        (putU32 snapshot.sampleRate ++ (putU32 snapshot.predictedPortMask ++
          (putFlag snapshot.timelineSet ++ (putFlag snapshot.romLoaded ++
            (putFlag snapshot.hasCompleteFrame ++ (putU32 0 ++
              (putU64 snapshot.timelineEpoch ++ (putU64 snapshot.nextFrameIndex ++
                (putU64 snapshot.frameSequence ++ (putU64 snapshot.pcmProducerSequence ++
                  (putU64 snapshot.lastBatchSequence ++ (putU64 snapshot.lastSourceTimeNs ++
                    (putU64 snapshot.lastProducedTimeNs ++
                      ((List.ofFn snapshot.buttons).flatMap putU32 ++
                        (List.ofFn snapshot.inputSequence).flatMap putU64)))))))))))))))),
      ?_, ?_⟩
  · simp only [List.length_append, length_putU32, length_putU64, length_putFlag,
      length_putPorts32, length_putPorts64]
    rfl
  · simp only [serializeSnapshot, List.append_assoc]

theorem length_serializeSnapshot (snapshot : Snapshot) :
    (serializeSnapshot snapshot).length =
      kCheckpointFixedBytes + (snapshot.core.length + snapshot.pixels.length) := by
  obtain ⟨front, sized, shape⟩ := serializeSnapshot_sizes snapshot
  simp only [shape, List.length_append, sized, length_putU32]
  unfold kCheckpointFixedBytes
  omega

theorem checkpointPayloadLengthValid_serialize
    (whole : snapshot.Whole) :
    checkpointPayloadLengthValid (serializeSnapshot snapshot) = true := by
  have length := length_serializeSnapshot snapshot
  obtain ⟨front, sized, shape⟩ := serializeSnapshot_sizes snapshot
  have sizes : (serializeSnapshot snapshot).drop (kCheckpointFixedBytes - 8) =
      putU32 (UInt32.ofNat snapshot.core.length) ++
        (putU32 (UInt32.ofNat snapshot.pixels.length) ++
          (snapshot.core ++ snapshot.pixels)) := by
    rw [shape, ← sized, List.drop_left]
  have coreSize : fromLittleEndian (putU32 (UInt32.ofNat snapshot.core.length)) =
      snapshot.core.length := by
    have fits := whole.coreFits
    rw [putU32, UInt32.toNat_ofNat_of_lt' fits, fromLittleEndian_littleEndian]
    exact Nat.mod_eq_of_lt fits
  have pixelSize : fromLittleEndian (putU32 (UInt32.ofNat snapshot.pixels.length)) =
      snapshot.pixels.length := by
    have fits := whole.pixelsFit
    rw [putU32, UInt32.toNat_ofNat_of_lt' fits, fromLittleEndian_littleEndian]
    exact Nat.mod_eq_of_lt fits
  unfold checkpointPayloadLengthValid
  rw [if_neg (by omega), sizes, length]
  have first (value : UInt32) (rest : Bytes) : (putU32 value ++ rest).take 4 = putU32 value :=
    List.take_left' (length_putU32 value)
  have second (value : UInt32) (rest : Bytes) : (putU32 value ++ rest).drop 4 = rest :=
    List.drop_left' (length_putU32 value)
  simp only [first, second, coreSize, pixelSize, Nat.add_sub_cancel_left]
  simp

variable {bytes : Bytes} {snapshot : Snapshot}

/-- Whatever can be read passes the early check of the payload sizes. -/
theorem checkpointPayloadLengthValid_of_read
    (read : deserializeSnapshot bytes = some snapshot) :
    checkpointPayloadLengthValid bytes = true := by
  unfold deserializeSnapshot takeSnapshot at read
  split at read
  case h_2 => cases read
  case h_1 taken =>
    simp only [(codes_takeBytes _).bind_eq_ok, codes_takeU32.bind_eq_ok,
      codes_takeU64.bind_eq_ok, (codes_takeU32.takeMany 4).bind_eq_ok,
      (codes_takeU64.takeMany 4).bind_eq_ok, require_bind_eq_ok, get_bind_eq_ok,
      Reader.skip_skip, length_putU32, length_putU64, true_and] at taken
    obtain ⟨magic, eight, -, -, _, -, -, _, -, -, _, -, -, _, -, _, -, romLoaded, -,
      hasFrame, -, _, -, -, _, -, _, -, _, -, _, -, _, -, _, -, _, -, buttons, ⟨four, -⟩,
      -, sequences, ⟨four', -⟩, -, coreSize, coreHeld, pixelSize, pixelHeld, sized, -⟩ :=
      taken
    simp only [id, eight, List.length_flatMap, length_putU32, length_putU64,
      List.map_const', List.sum_replicate_nat, four, four', Nat.reduceMul, Nat.reduceAdd,
      Reader.Holds, Reader.skip] at coreHeld pixelHeld sized
    have long : 152 ≤ bytes.length := by omega
    rw [Nat.min_eq_left (by omega)] at coreHeld pixelHeld sized
    have value (word : UInt32) : fromLittleEndian (putU32 word) = word.toNat := by
      rw [putU32, fromLittleEndian_littleEndian]
      exact Nat.mod_eq_of_lt word.toNat_lt
    simp only [payloadSizesValid, Bool.and_eq_true, Bool.not_eq_true', Bool.or_eq_false_iff,
      bne_eq_false_iff_eq, decide_eq_false_iff_not] at sized
    obtain ⟨-, within, rest⟩ := sized
    unfold checkpointPayloadLengthValid kCheckpointFixedBytes
    simp only [Nat.reduceMul, Nat.reduceAdd, Nat.reduceSub, List.drop_drop]
    rw [if_neg (by omega), coreHeld.2, pixelHeld.2, value, value]
    simp [rest, Nat.not_lt.mp within]

/-- No payload fits the sizes of a shorter file. -/
theorem eq_of_checkpoint_begins
    {first second : Bytes}
    (begins : first <+: second)
    (validFirst : checkpointPayloadLengthValid first = true)
    (validSecond : checkpointPayloadLengthValid second = true) :
    first = second := by
  obtain ⟨rest, rfl⟩ := begins
  unfold checkpointPayloadLengthValid kCheckpointFixedBytes at validFirst validSecond
  simp only [Nat.reduceMul, Nat.reduceAdd, Nat.reduceSub, List.drop_drop]
    at validFirst validSecond
  split at validFirst
  · cases validFirst
  · rename_i long
    rw [if_neg (by rw [List.length_append]; omega)] at validSecond
    rw [List.drop_append_of_le_length (by omega), List.drop_append_of_le_length (by omega),
      List.take_append_of_le_length (by rw [List.length_drop]; omega),
      List.take_append_of_le_length (by rw [List.length_drop]; omega)] at validSecond
    simp only [Bool.and_eq_true, decide_eq_true_eq, beq_iff_eq, List.length_append]
      at validFirst validSecond
    have none : rest.length = 0 := by omega
    rw [List.length_eq_zero_iff.mp none, List.append_nil]

/--
What can be read as a checkpoint passes the early check of its length, and nothing
that is cut off it or put behind it leaves another checkpoint.
-/
theorem checkpoint_framed
    (read : deserializeSnapshot bytes = some snapshot) :
    checkpointPayloadLengthValid bytes = true ∧
      ∀ damaged : Bytes,
        damaged <+: bytes ∨ bytes <+: damaged →
        damaged ≠ bytes →
          deserializeSnapshot damaged = none := by
  have valid := checkpointPayloadLengthValid_of_read read
  refine ⟨valid, fun damaged comparable different => ?_⟩
  cases other : deserializeSnapshot damaged with
  | none =>
      rfl
  | some _ =>
      have valid' := checkpointPayloadLengthValid_of_read other
      rcases comparable with shorter | longer
      · exact absurd (eq_of_checkpoint_begins shorter valid' valid) different
      · exact absurd (eq_of_checkpoint_begins longer valid valid').symm different

/-- A snapshot with a core and a picture. -/
def shownSnapshot : Snapshot where
  valid := true
  timelineSet := true
  romLoaded := true
  hasCompleteFrame := true
  timelineEpoch := 1
  nextFrameIndex := 7
  core := [0x4E, 0x53, 0x54]
  pixels := List.replicate kRgb565Bytes 0x1F

theorem shownSnapshot_whole : shownSnapshot.Whole where
  valid := rfl
  sampleRate := by decide
  core := rfl
  coreFits := by decide
  pixels := List.length_replicate

theorem length_shownSnapshot :
    (serializeSnapshot shownSnapshot).length =
      kCheckpointFixedBytes + (shownSnapshot.core.length + kRgb565Bytes) := by
  rw [length_serializeSnapshot, show shownSnapshot.pixels.length = kRgb565Bytes from
    List.length_replicate]

/-- It is lost if it breaks off inside the core or inside the picture, or goes on. -/
theorem sample_checkpoint_framed :
    checkpointPayloadLengthValid (serializeSnapshot shownSnapshot) = true ∧
      deserializeSnapshot ((serializeSnapshot shownSnapshot).take 153) = none ∧
      deserializeSnapshot ((serializeSnapshot shownSnapshot).take 40000) = none ∧
      deserializeSnapshot (serializeSnapshot shownSnapshot ++ [0x1F]) = none := by
  obtain ⟨valid, framed⟩ := checkpoint_framed (deserialize_serialize shownSnapshot_whole)
  have cut (size : Nat) (short : size ≤ 40000) :
      deserializeSnapshot ((serializeSnapshot shownSnapshot).take size) = none := by
    refine framed _ (.inl (List.take_prefix _ _)) fun same => ?_
    have sized := congrArg List.length same
    rw [List.length_take, length_shownSnapshot] at sized
    have large : 40000 < kRgb565Bytes := by decide
    omega
  exact
    ⟨valid, cut 153 (by decide), cut 40000 (Nat.le_refl _),
      framed _ (.inr (List.prefix_append _ _)) (by simp)⟩

namespace Runtime

variable {State : Type} (core : NesCore State)

structure SavedCheckpoint where
  result : FlyResult
  written : Bytes := []
  needed : Nat := 0

def saveCheckpoint
    (runtime : Runtime State)
    (capacity : Nat)
    (memory : Memory) : SavedCheckpoint :=
  match runtime.captureSnapshot core memory {} with
  | (.ok, snapshot) =>
      let bytes := serializeSnapshot snapshot
      if !memory bytes.length then
        { result := .outOfMemory }
      else if capacity < bytes.length then
        { result := .bufferTooSmall, needed := bytes.length }
      else
        { result := .ok, written := bytes, needed := bytes.length }
  | (result, _) => { result := result }

/-- An epoch that is expected has to be the one of a loaded timeline. -/
def epochMatches (snapshot : Snapshot) (expectedTimelineEpoch : UInt64) : Bool :=
  expectedTimelineEpoch == 0 ||
    (snapshot.romLoaded && snapshot.timelineSet &&
      snapshot.timelineEpoch == expectedTimelineEpoch)

/-- Both payloads of a snapshot can be allocated. -/
def fitsMemory (memory : Memory) (snapshot : Snapshot) : Bool :=
  (snapshot.core.isEmpty || memory snapshot.core.length) &&
    (snapshot.pixels.isEmpty || memory snapshot.pixels.length)

def loadCheckpointFor
    (runtime : Runtime State)
    (bytes : Bytes)
    (expectedTimelineEpoch : UInt64)
    (memory : Memory) : FlyResult × Runtime State :=
  if !checkpointPayloadLengthValid bytes then
    (.invalidArgument, runtime)
  else
    match deserializeSnapshot bytes with
    | none => (.invalidArgument, runtime)
    | some snapshot =>
        if !fitsMemory memory snapshot then
          (.outOfMemory, runtime)
        else if !epochMatches snapshot expectedTimelineEpoch then
          (.invalidState, runtime)
        else if snapshot.sampleRate ≠ runtime.sampleRate then
          (.invalidState, runtime)
        else
          runtime.applySnapshot core snapshot true

def loadCheckpoint
    (runtime : Runtime State)
    (bytes : Bytes)
    (memory : Memory) : FlyResult × Runtime State :=
  runtime.loadCheckpointFor core bytes 0 memory

def loadCheckpointForEpoch
    (runtime : Runtime State)
    (bytes : Bytes)
    (expectedTimelineEpoch : UInt64)
    (memory : Memory) : FlyResult × Runtime State :=
  if expectedTimelineEpoch = 0 then (.invalidArgument, runtime)
  else runtime.loadCheckpointFor core bytes expectedTimelineEpoch memory

/-- A checkpoint of a snapshot is loaded as the snapshot is applied. -/
theorem loadCheckpoint_serialize
    {core : NesCore State}
    {runtime : Runtime State}
    {snapshot : Snapshot}
    {memory : Memory}
    (whole : snapshot.Whole)
    (fits : fitsMemory memory snapshot = true)
    (rate : snapshot.sampleRate = runtime.sampleRate) :
    runtime.loadCheckpoint core (serializeSnapshot snapshot) memory =
      runtime.applySnapshot core snapshot true := by
  unfold loadCheckpoint loadCheckpointFor
  rw [checkpointPayloadLengthValid_serialize whole, deserialize_serialize whole]
  simp [fits, rate, epochMatches]

end Runtime

end FlyNes.Emulation
