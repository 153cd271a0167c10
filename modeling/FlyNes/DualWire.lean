import FlyNes.DualWindow

namespace FlyNes.Dual

open ByteString

/-!
# The canonical input bundle on the wire

A bundle travels as a record of 154 bytes with every field at a fixed offset.
The record has no seat and no owner: the receiver fills them in from its own
binding of the stream.
-/

/-- What the codec says about a record. -/
inductive WireStatus where
  | ok
  | truncated
  | trailing
  | unknownEnum
  | nonzeroReserved
  | badLength
  | unknownKind
  | unknownCriticalTag
  | invalidField
deriving DecidableEq

/-- Where the sample of a port comes from. -/
inductive DualPortSourceKind where
  | realSample
  | heldPrime
  | portClear
  | neutralUnassigned
  | predicted
  | terminalHold
  | heldSample
deriving DecidableEq

/-- Why a port was cleared. -/
inductive DualPortClearReason where
  | none
  | stop
  | pause
  | peerDisconnect
  | seatReassign
deriving DecidableEq

def DualPortSourceKind.code : DualPortSourceKind → UInt8
  | .realSample => 1
  | .heldPrime => 2
  | .portClear => 3
  | .neutralUnassigned => 4
  | .predicted => 5
  | .terminalHold => 6
  | .heldSample => 7

def DualPortClearReason.code : DualPortClearReason → UInt8
  | .none => 0
  | .stop => 1
  | .pause => 2
  | .peerDisconnect => 3
  | .seatReassign => 4

/-- What the record needs and the bundle does not carry. -/
structure DualInputWireContext where
  authorityTerm : UInt64 := 0
  modeGeneration : UInt64 := 0
  batchSequence : UInt64 := 0
  stated : Port → Option (DualPortSourceKind × DualPortClearReason) :=
    fun _ => Option.none

/-- Why a bundle was not encoded or decoded. -/
inductive DualInputWireStatus where
  | ok
  | invalidArgument
  | invalidBundle
  | invalidBytes
  | invalidContext
deriving DecidableEq

/-- Size of a record. -/
abbrev kDualInputWireBytes : Nat := 154

/-- Size of a framed record. -/
abbrev kFramedInputBytes : Nat := 6 + kDualInputWireBytes

/-- Type tag of a framed canonical input. -/
def kCanonicalInputTag : Nat := 0xFF02

/-- The big-endian word at an offset. -/
def loadAt (width offset : Nat) (bytes : Bytes) : Nat :=
  fromBigEndian ((bytes.drop offset).take width)

/-- Check one port of a record against the byte of predicted ports. -/
def checkSlot (mask : UInt8) (slot : Bytes) (port : Port) : WireStatus :=
  let source := slot.getD 0 0
  let reason := slot.getD 1 0
  let buttons := UInt32.ofNat (loadAt 4 4 slot)
  if source < 1 ∨ source > 7 then
    .unknownEnum
  else if reason > 4 then
    .unknownEnum
  else if slot.getD 2 0 ≠ 0 ∨ slot.getD 3 0 ≠ 0 then
    .nonzeroReserved
  else if (mask >>> UInt8.ofNat port) &&& 1 ≠ (if source = 5 then 1 else 0) then
    .invalidField
  else if buttons &&& 0xFFFFFF00 ≠ 0 then
    .invalidField
  else if buttons &&& 0x30 = 0x30 ∨ buttons &&& 0xC0 = 0xC0 then
    .invalidField
  else
    .ok

/-- The bytes of one port of a record. -/
def slotBytes (bytes : Bytes) (port : Port) : Bytes :=
  bytes.drop (90 + 16 * port)

/-- The frozen validator of a record. -/
def checkBundle (bytes : Bytes) : WireStatus :=
  if bytes.length < kDualInputWireBytes then
    .truncated
  else if bytes.length > kDualInputWireBytes then
    .trailing
  else if loadAt 2 0 bytes ≠ 1 then
    .invalidField
  else if !((bytes.drop 83).take 7).all (· == 0) then
    .nonzeroReserved
  else if bytes.getD 82 0 &&& 0xF0 ≠ 0 then
    .invalidField
  else
    (((List.finRange kDualPortCount).map fun port =>
      checkSlot (bytes.getD 82 0) (slotBytes bytes port) port).find?
        (· ≠ .ok)).getD .ok

namespace DualInputWireContext

/-- The kind and the reason of a port: as stated, or from the prediction. -/
def source
    (context : DualInputWireContext)
    (bundle : DualInputBundle)
    (port : Port) : DualPortSourceKind × DualPortClearReason :=
  (context.stated port).getD
    (if PortSet.has bundle.predictedPortMask port then
      .predicted
    else
      .realSample, .none)

/-- The stated kind of a port and its prediction disagree. -/
def Contradicts
    (context : DualInputWireContext)
    (bundle : DualInputBundle)
    (port : Port) : Prop :=
  PortSet.has bundle.predictedPortMask port ≠
    decide ((context.source bundle port).1 = .predicted)

instance
    (context : DualInputWireContext)
    (bundle : DualInputBundle)
    (port : Port) :
    Decidable (context.Contradicts bundle port) :=
  inferInstanceAs (Decidable (_ ≠ _))

end DualInputWireContext

/-- The sixteen bytes of one port. -/
def slotRecord
    (bundle : DualInputBundle)
    (context : DualInputWireContext)
    (port : Port) : Bytes :=
  [(context.source bundle port).1.code, (context.source bundle port).2.code,
      0, 0] ++
    (bigEndian 4 (bundle.ports port).mask.toNat ++
      bigEndian 8 (bundle.ports port).inputSequence.toNat)

/-- One port of a record, unless it contradicts itself. -/
def encodeSlot
    (bundle : DualInputBundle)
    (context : DualInputWireContext)
    (port : Port) : Except DualInputWireStatus Bytes :=
  let mask := (bundle.ports port).mask
  if context.Contradicts bundle port then
    .error .invalidContext
  else if mask &&& ~~~kDualFullPortMask ≠ 0 then
    .error .invalidBundle
  else if normalizeDualPortMask mask ≠ mask then
    .error .invalidBundle
  else
    .ok (slotRecord bundle context port)

/-- The fields of a record in front of the predicted ports. -/
def encodeKey
    (bundle : DualInputBundle)
    (context : DualInputWireContext) : Bytes :=
  bigEndian 2 1 ++ (bundle.key.sessionId.bytes ++ (bundle.key.branchId.bytes ++
    (bigEndian 8 context.authorityTerm.toNat ++
    (bigEndian 8 bundle.key.timelineEpoch.toNat ++
    (bigEndian 8 bundle.key.seatRevision.toNat ++
    (bigEndian 8 context.modeGeneration.toNat ++
    (bigEndian 8 bundle.key.frameIndex.toNat ++
      bigEndian 8 context.batchSequence.toNat)))))))

/-- The byte of predicted ports. -/
def encodePredicted
    (bundle : DualInputBundle)
    (context : DualInputWireContext) : UInt8 :=
  (PortSet.toMask fun port =>
    (context.source bundle port).1 = .predicted).toUInt8

/-- Encode a canonical bundle as a record. -/
def encodeDualInputBundle
    (bundle : DualInputBundle)
    (context : DualInputWireContext) : Except DualInputWireStatus Bytes := do
  if !canonicalInputIsCanonical bundle then
    throw .invalidBundle
  if context.authorityTerm = 0 || context.modeGeneration = 0 ||
      context.batchSequence = 0 then
    throw .invalidContext
  let slots ← (List.finRange kDualPortCount).mapM (encodeSlot bundle context)
  let bytes :=
    encodeKey bundle context ++ (encodePredicted bundle context ::
      (List.replicate 7 0 ++ slots.flatten))
  if checkBundle bytes ≠ .ok then
    throw .invalidBundle
  return bytes

/-- The bundle a record stands for, under the receiver's binding. -/
def bundleOfBytes
    (bytes : Bytes)
    (logicalSeat : UInt8)
    (ownerSigningKeyId : KeyId) : DualInputBundle :=
  { key :=
      { sessionId := Block.copy 16 (bytes.drop 2)
        branchId := Block.copy 16 (bytes.drop 18)
        timelineEpoch := UInt64.ofNat (loadAt 8 42 bytes)
        frameIndex := UInt64.ofNat (loadAt 8 66 bytes)
        seatRevision := UInt64.ofNat (loadAt 8 50 bytes) }
    logicalSeat := logicalSeat
    predictedPortMask :=
      PortSet.toMask fun port => (slotBytes bytes port).getD 0 0 = 5
    ports := fun port =>
      ⟨UInt32.ofNat (loadAt 4 4 (slotBytes bytes port)),
        UInt64.ofNat (loadAt 8 8 (slotBytes bytes port))⟩
    ownerSigningKeyId := ownerSigningKeyId }

/-- Decode a record of the owner of a seat. -/
def decodeDualInputBundle
    (bytes : Bytes)
    (logicalSeat : UInt8)
    (ownerSigningKeyId : KeyId) :
    Except DualInputWireStatus DualInputBundle :=
  if bytes.length ≠ kDualInputWireBytes then
    .error .invalidArgument
  else if logicalSeat.toNat ≥ kDualPortCount then
    .error .invalidArgument
  else if checkBundle bytes ≠ .ok then
    .error .invalidBytes
  else if !canonicalInputIsCanonical
      (bundleOfBytes bytes logicalSeat ownerSigningKeyId) then
    .error .invalidBytes
  else
    .ok (bundleOfBytes bytes logicalSeat ownerSigningKeyId)

attribute [ext] DualInputBundle

/-! ### Reading a record back -/

variable {first rest : Bytes}

theorem loadAt_skip
    {width offset : Nat}
    (before : first.length ≤ offset) :
    loadAt width offset (first ++ rest) =
      loadAt width (offset - first.length) rest := by
  simp [loadAt, List.drop_append, List.drop_eq_nil_of_le before]

theorem loadAt_bigEndian
    (width value : Nat)
    (rest : Bytes) :
    loadAt width 0 (bigEndian width value ++ rest) = value % 256 ^ width := by
  simp [loadAt]

theorem drop_skip
    {offset : Nat}
    (before : first.length ≤ offset) :
    (first ++ rest).drop offset = rest.drop (offset - first.length) := by
  simp [List.drop_append, List.drop_eq_nil_of_le before]

@[simp]
theorem length_slotRecord
    (bundle : DualInputBundle)
    (context : DualInputWireContext)
    (port : Port) :
    (slotRecord bundle context port).length = 16 := by
  simp [slotRecord]

@[simp]
theorem length_encodeKey
    (bundle : DualInputBundle)
    (context : DualInputWireContext) :
    (encodeKey bundle context).length = 82 := by
  simp [encodeKey, Block.sized]

/-- A whole record. -/
def inputRecord
    (bundle : DualInputBundle)
    (context : DualInputWireContext) : Bytes :=
  encodeKey bundle context ++ (encodePredicted bundle context ::
    (List.replicate 7 0 ++ (slotRecord bundle context 0 ++
      (slotRecord bundle context 1 ++ (slotRecord bundle context 2 ++
        slotRecord bundle context 3)))))

@[simp]
theorem length_inputRecord
    (bundle : DualInputBundle)
    (context : DualInputWireContext) :
    (inputRecord bundle context).length = 154 := by
  simp [inputRecord]

theorem inputRecord_slots
    (bundle : DualInputBundle)
    (context : DualInputWireContext) :
    (inputRecord bundle context).drop 90 =
      slotRecord bundle context 0 ++ (slotRecord bundle context 1 ++
        (slotRecord bundle context 2 ++ slotRecord bundle context 3)) := by
  rw [inputRecord, drop_skip (by simp)]
  simp

theorem slotBytes_inputRecord
    (bundle : DualInputBundle)
    (context : DualInputWireContext)
    (port : Port) :
    ∃ rest, slotBytes (inputRecord bundle context) port =
      slotRecord bundle context port ++ rest := by
  rw [slotBytes, ← List.drop_drop, inputRecord_slots]
  match port with
  | 0 => exact ⟨_, rfl⟩
  | 1 =>
      refine ⟨slotRecord bundle context 2 ++ slotRecord bundle context 3, ?_⟩
      change List.drop 16 _ = _
      rw [drop_skip (by simp), length_slotRecord]
      rfl
  | 2 =>
      refine ⟨slotRecord bundle context 3, ?_⟩
      change List.drop 32 _ = _
      rw [drop_skip (by simp), drop_skip (by simp), length_slotRecord,
        length_slotRecord]
      rfl
  | 3 =>
      refine ⟨[], ?_⟩
      change List.drop 48 _ = _
      rw [drop_skip (by simp), drop_skip (by simp), drop_skip (by simp),
        length_slotRecord, length_slotRecord, length_slotRecord,
        List.append_nil]
      rfl

/-! ### The validator accepts what is encoded -/

theorem PortSet.toMask_toUInt8_bit
    (ports : PortSet)
    (port : Port) :
    (ports.toMask.toUInt8 >>> UInt8.ofNat port) &&& 1 =
      if ports port then 1 else 0 := by
  revert ports port
  decide

theorem PortSet.toMask_toUInt8_high
    (ports : PortSet) :
    ports.toMask.toUInt8 &&& 0xF0 = 0 := by
  revert ports
  decide

theorem DualPortSourceKind.code_known
    (kind : DualPortSourceKind) :
    ¬ (kind.code < 1 ∨ kind.code > 7) := by
  cases kind <;> decide

theorem DualPortSourceKind.code_predicted
    (kind : DualPortSourceKind) :
    kind.code = 5 ↔ kind = .predicted := by
  cases kind <;> decide

theorem DualPortClearReason.code_known
    (reason : DualPortClearReason) :
    ¬ reason.code > 4 := by
  cases reason <;> decide

/-- What a normalized mask is, checked for all 256 of them. -/
theorem normalized_of_small :
    ∀ value < 256,
      UInt32.ofNat value = normalizeDualPortMask (UInt32.ofNat value) →
        UInt32.ofNat value &&& 0xFFFFFF00 = 0 ∧
          ¬ (UInt32.ofNat value &&& 0x30 = 0x30 ∨
            UInt32.ofNat value &&& 0xC0 = 0xC0) := by
  decide +kernel

variable {mask : UInt32}

theorem normalized_small
    (normalized : mask = normalizeDualPortMask mask) :
    mask.toNat < 256 := by
  rw [normalized, normalizeDualPortMask]
  simp only [UInt32.toNat_and]
  exact Nat.lt_of_le_of_lt Nat.and_le_right (by decide)

theorem normalized_buttons
    (normalized : mask = normalizeDualPortMask mask) :
    mask &&& 0xFFFFFF00 = 0 ∧
      ¬ (mask &&& 0x30 = 0x30 ∨ mask &&& 0xC0 = 0xC0) := by
  have checked :=
    normalized_of_small mask.toNat (normalized_small normalized)
  rw [UInt32.ofNat_toNat] at checked
  exact checked normalized

theorem canonical_mask
    {bundle : DualInputBundle}
    (canonical : canonicalInputIsCanonical bundle = true)
    (port : Port) :
    (bundle.ports port).mask &&& ~~~kDualFullPortMask = 0 ∧
      (bundle.ports port).mask =
        normalizeDualPortMask (bundle.ports port).mask := by
  simp only [canonicalInputIsCanonical, Bool.and_eq_true,
    decide_eq_true_eq] at canonical
  exact canonical.2 port

section Record

variable {bundle : DualInputBundle}
variable {context : DualInputWireContext}

theorem slotRecord_source
    (port : Port)
    (rest : Bytes) :
    (slotRecord bundle context port ++ rest).getD 0 0 =
      (context.source bundle port).1.code :=
  rfl

theorem slotRecord_mask
    (port : Port)
    (rest : Bytes) :
    UInt32.ofNat (loadAt 4 4 (slotRecord bundle context port ++ rest)) =
      (bundle.ports port).mask := by
  have bound := (bundle.ports port).mask.toNat_lt
  rw [slotRecord, List.append_assoc, List.append_assoc, loadAt_skip (by simp)]
  simp only [List.length_cons, List.length_nil, Nat.reduceAdd, Nat.sub_self]
  rw [loadAt_bigEndian, Nat.mod_eq_of_lt (by omega), UInt32.ofNat_toNat]

theorem slotRecord_sequence
    (port : Port)
    (rest : Bytes) :
    UInt64.ofNat (loadAt 8 8 (slotRecord bundle context port ++ rest)) =
      (bundle.ports port).inputSequence := by
  have bound := (bundle.ports port).inputSequence.toNat_lt
  rw [slotRecord, List.append_assoc, List.append_assoc, loadAt_skip (by simp),
    loadAt_skip (by simp)]
  simp only [List.length_cons, List.length_nil, length_bigEndian, Nat.reduceAdd,
    Nat.reduceSub, Nat.sub_self]
  rw [loadAt_bigEndian, Nat.mod_eq_of_lt (by omega), UInt64.ofNat_toNat]

theorem inputRecord_predicted
    (bundle : DualInputBundle)
    (context : DualInputWireContext) :
    (inputRecord bundle context).getD 82 0 =
      encodePredicted bundle context := by
  simp [inputRecord, List.getD_eq_getElem?_getD]

theorem inputRecord_reserved
    (bundle : DualInputBundle)
    (context : DualInputWireContext) :
    ((inputRecord bundle context).drop 83).take 7 = List.replicate 7 0 := by
  simp [inputRecord, drop_skip]

theorem inputRecord_version
    (bundle : DualInputBundle)
    (context : DualInputWireContext) :
    loadAt 2 0 (inputRecord bundle context) = 1 := by
  rw [inputRecord, encodeKey, List.append_assoc, loadAt_bigEndian]
  rfl

theorem checkSlot_slotRecord
    (canonical : canonicalInputIsCanonical bundle = true)
    (port : Port)
    (rest : Bytes) :
    checkSlot (encodePredicted bundle context)
      (slotRecord bundle context port ++ rest) port = .ok := by
  have buttons := normalized_buttons (canonical_mask canonical port).2
  have reserved :
      ¬ ((slotRecord bundle context port ++ rest).getD 2 0 ≠ 0 ∨
        (slotRecord bundle context port ++ rest).getD 3 0 ≠ 0) := by
    simp [slotRecord]
  have reason :
      (slotRecord bundle context port ++ rest).getD 1 0 =
        (context.source bundle port).2.code :=
    rfl
  simp only [checkSlot, encodePredicted, slotRecord_source, slotRecord_mask,
    reason, reserved, buttons, DualPortSourceKind.code_known, DualPortSourceKind.code_predicted,
    DualPortClearReason.code_known, PortSet.toMask_toUInt8_bit,
    decide_eq_true_eq, ne_eq, not_true_eq_false, if_false]

/-- The validator accepts every record of a canonical bundle. -/
theorem checkBundle_inputRecord
    (canonical : canonicalInputIsCanonical bundle = true) :
    checkBundle (inputRecord bundle context) = .ok := by
  have slots :
      (((List.finRange kDualPortCount).map fun port =>
        checkSlot ((inputRecord bundle context).getD 82 0)
          (slotBytes (inputRecord bundle context) port) port).find?
            (· ≠ .ok)) = none := by
    rw [List.find?_eq_none]
    intro status member
    obtain ⟨port, _, rfl⟩ := List.mem_map.mp member
    obtain ⟨rest, slot⟩ := slotBytes_inputRecord bundle context port
    rw [inputRecord_predicted, slot, checkSlot_slotRecord canonical port rest]
    simp
  unfold checkBundle
  rw [slots]
  simp only [length_inputRecord, inputRecord_version, inputRecord_reserved,
    inputRecord_predicted, encodePredicted, PortSet.toMask_toUInt8_high]
  decide

/-- A canonical bundle is encoded as its record. -/
theorem encodeDualInputBundle_of_canonical
    (canonical : canonicalInputIsCanonical bundle = true)
    (term : context.authorityTerm ≠ 0)
    (generation : context.modeGeneration ≠ 0)
    (sequence : context.batchSequence ≠ 0)
    (agrees : ∀ port, ¬ context.Contradicts bundle port) :
    encodeDualInputBundle bundle context =
      .ok (inputRecord bundle context) := by
  have slot : ∀ port,
      encodeSlot bundle context port = .ok (slotRecord bundle context port) := by
    intro port
    obtain ⟨full, normalized⟩ := canonical_mask canonical port
    simp [encodeSlot, agrees port, full, ← normalized]
  have ports : List.finRange kDualPortCount = [0, 1, 2, 3] := by
    decide
  have record : checkBundle (inputRecord bundle context) = .ok :=
    checkBundle_inputRecord canonical
  simp only [inputRecord] at record
  simp [encodeDualInputBundle, canonical, term, generation, sequence, ports,
    slot, inputRecord, pure, Except.pure, bind, Except.bind]
  exact record

/-- A word of the key is read back from its offset. -/
theorem loadAt_word
    (value : UInt64)
    (rest : Bytes) :
    UInt64.ofNat (loadAt 8 0 (bigEndian 8 value.toNat ++ rest)) = value := by
  have bound := value.toNat_lt
  rw [loadAt_bigEndian, Nat.mod_eq_of_lt (by omega), UInt64.ofNat_toNat]

theorem bundleOfBytes_key
    (bundle : DualInputBundle)
    (context : DualInputWireContext)
    (logicalSeat : UInt8)
    (ownerSigningKeyId : KeyId) :
    (bundleOfBytes (inputRecord bundle context) logicalSeat
      ownerSigningKeyId).key = bundle.key := by
  have session : Block.copy 16 ((inputRecord bundle context).drop 2) =
      bundle.key.sessionId := by
    simp [inputRecord, encodeKey]
  have branch : Block.copy 16 ((inputRecord bundle context).drop 18) =
      bundle.key.branchId := by
    simp [inputRecord, encodeKey, drop_skip, Block.sized]
  have epoch : UInt64.ofNat (loadAt 8 42 (inputRecord bundle context)) =
      bundle.key.timelineEpoch := by
    simp only [inputRecord, encodeKey, List.append_assoc]
    simp [loadAt_skip, Block.sized, loadAt_word]
  have revision : UInt64.ofNat (loadAt 8 50 (inputRecord bundle context)) =
      bundle.key.seatRevision := by
    simp only [inputRecord, encodeKey, List.append_assoc]
    simp [loadAt_skip, Block.sized, loadAt_word]
  have frame : UInt64.ofNat (loadAt 8 66 (inputRecord bundle context)) =
      bundle.key.frameIndex := by
    simp only [inputRecord, encodeKey, List.append_assoc]
    simp [loadAt_skip, Block.sized, loadAt_word]
  simp only [bundleOfBytes, session, branch, epoch, revision, frame]

theorem allZero_eq
    {size : Nat}
    {block : Block size}
    (zero : allZero block = true) :
    block = default := by
  ext1
  have filled : block.bytes = List.replicate block.bytes.length 0 :=
    List.eq_replicate_of_mem (by simpa [allZero] using zero)
  rw [block.sized] at filled
  exact filled

/-- Decoding a record under its sender's binding returns the bundle. -/
theorem decodeDualInputBundle_inputRecord
    {predicted : PortSet}
    (canonical : canonicalInputIsCanonical bundle = true)
    (agrees : ∀ port, ¬ context.Contradicts bundle port)
    (mask : bundle.predictedPortMask = predicted.toMask) :
    decodeDualInputBundle (inputRecord bundle context) bundle.logicalSeat
      bundle.ownerSigningKeyId = .ok bundle := by
  have checks := canonical
  simp only [canonicalInputIsCanonical, Bool.and_eq_true,
    decide_eq_true_eq] at checks
  have slots : ∀ port,
      UInt32.ofNat (loadAt 4 4
          (slotBytes (inputRecord bundle context) port)) =
        (bundle.ports port).mask ∧
      UInt64.ofNat (loadAt 8 8
          (slotBytes (inputRecord bundle context) port)) =
        (bundle.ports port).inputSequence ∧
      decide ((slotBytes (inputRecord bundle context) port).getD 0 0 = 5) =
        predicted port := by
    intro port
    obtain ⟨rest, slot⟩ := slotBytes_inputRecord bundle context port
    have marker := not_not.mp (agrees port)
    rw [mask, PortSet.has_toMask] at marker
    rw [slot]
    refine ⟨slotRecord_mask port rest, slotRecord_sequence port rest, ?_⟩
    rw [slotRecord_source, marker]
    simp only [DualPortSourceKind.code_predicted]
  have same : bundleOfBytes (inputRecord bundle context) bundle.logicalSeat
      bundle.ownerSigningKeyId = bundle := by
    apply DualInputBundle.ext
    · exact bundleOfBytes_key bundle context bundle.logicalSeat
        bundle.ownerSigningKeyId
    · rfl
    · exact (allZero_eq checks.1.1.2).symm
    · simp only [bundleOfBytes, slots, mask]
    · simp only [bundleOfBytes, slots]
    · rfl
  have seat : ¬ bundle.logicalSeat.toNat ≥ kDualPortCount :=
    Nat.not_le.mpr checks.1.1.1.1.1.2
  rw [decodeDualInputBundle, same,
    checkBundle_inputRecord canonical]
  simp [seat, canonical]

end Record

end FlyNes.Dual
