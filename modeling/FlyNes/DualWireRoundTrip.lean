import FlyNes.Checking
import FlyNes.DualWire

namespace FlyNes.Dual

open ByteString

/-!
# The round trip of a canonical input record

A record that is encoded is read back with the ports it marks as predicted.  The
word of predicted ports may have bits above the four ports: the canonical form
allows them, since it checks the word against the mask of the eight buttons, and
the record does not carry them.  A record that the validator accepts is in turn
determined by what it is decoded to and by the fields of its context.
-/

/-- The bits of the four ports of a word. -/
def portBits (mask : UInt32) : UInt32 :=
  PortSet.toMask (PortSet.has mask)

theorem portBits_eq_iff
    (mask : UInt32) :
    portBits mask = mask ↔ mask < 16 := by
  have bounded : ∀ ports : PortSet, ports.toMask < 16 := by
    decide
  have kept : ∀ value < 16, portBits (UInt32.ofNat value) = UInt32.ofNat value := by
    decide
  constructor
  · intro same
    rw [← same]
    exact bounded _
  · intro small
    have checked := kept mask.toNat small
    rw [UInt32.ofNat_toNat] at checked
    exact checked

theorem has_portBits
    (mask : UInt32)
    (port : Port) :
    PortSet.has (portBits mask) port = PortSet.has mask port :=
  PortSet.has_toMask (PortSet.has mask) port

/-- The bundle without marks on ports that do not exist. -/
def DualInputBundle.trimmed (bundle : DualInputBundle) : DualInputBundle :=
  { bundle with predictedPortMask := portBits bundle.predictedPortMask }

section Trimmed

variable {bundle : DualInputBundle}
variable {context : DualInputWireContext}

theorem source_trimmed
    (bundle : DualInputBundle)
    (context : DualInputWireContext)
    (port : Port) :
    context.source bundle.trimmed port = context.source bundle port := by
  simp only [DualInputWireContext.source, DualInputBundle.trimmed, has_portBits]

theorem contradicts_trimmed
    (bundle : DualInputBundle)
    (context : DualInputWireContext)
    (port : Port) :
    context.Contradicts bundle.trimmed port ↔
      context.Contradicts bundle port := by
  rw [DualInputWireContext.Contradicts, DualInputWireContext.Contradicts,
    source_trimmed]
  simp only [DualInputBundle.trimmed, has_portBits]

/-- The record of a bundle says nothing about other bits than the ports'. -/
theorem inputRecord_trimmed
    (bundle : DualInputBundle)
    (context : DualInputWireContext) :
    inputRecord bundle.trimmed context = inputRecord bundle context := by
  simp only [inputRecord, encodeKey, encodePredicted, slotRecord,
    source_trimmed]
  rfl

theorem canonical_trimmed
    (canonical : canonicalInputIsCanonical bundle = true) :
    canonicalInputIsCanonical bundle.trimmed = true := by
  have marks : ∀ ports : PortSet, ports.toMask &&& ~~~kDualFullPortMask = 0 := by
    decide
  simp only [canonicalInputIsCanonical, Bool.and_eq_true,
    decide_eq_true_eq] at canonical ⊢
  obtain ⟨⟨⟨⟨front, _⟩, reserved⟩, sequences⟩, ports⟩ := canonical
  exact ⟨⟨⟨⟨front, marks _⟩, reserved⟩, sequences⟩, ports⟩

variable {bytes : Bytes}

/-- What the encoder accepts, and the record it makes of it. -/
theorem encodeDualInputBundle_eq_ok
    (encoded : encodeDualInputBundle bundle context = .ok bytes) :
    canonicalInputIsCanonical bundle = true ∧
      (∀ port, ¬ context.Contradicts bundle port) ∧
        bytes = inputRecord bundle context := by
  by_cases canonical : canonicalInputIsCanonical bundle = true
  swap
  · simp [encodeDualInputBundle, canonical, throw, throwThe,
      MonadExceptOf.throw, bind, Except.bind] at encoded
  by_cases complete :
      context.authorityTerm = 0 ∨ context.modeGeneration = 0 ∨
        context.batchSequence = 0
  · have incomplete :
        (context.authorityTerm = 0 || context.modeGeneration = 0 ||
          context.batchSequence = 0) = true := by
      simpa [or_assoc] using complete
    simp [encodeDualInputBundle, canonical, incomplete, throw, throwThe,
      MonadExceptOf.throw, bind, Except.bind] at encoded
  simp only [not_or] at complete
  obtain ⟨term, generation, sequence⟩ := complete
  have agrees : ∀ port, ¬ context.Contradicts bundle port := by
    intro port contradicts
    simp only [encodeDualInputBundle, canonical, term, generation, sequence,
      decide_false, Bool.not_true, Bool.or_self, Bool.false_eq_true,
      if_false] at encoded
    obtain ⟨_, slots, _⟩ := Checking.bind_eq_ok.mp encoded
    obtain ⟨_, slot⟩ :=
      Checking.mapM_returns slots port (List.mem_finRange port)
    simp [encodeSlot, contradicts] at slot
  rw [encodeDualInputBundle_of_canonical canonical term generation sequence
    agrees] at encoded
  exact ⟨canonical, agrees, (Except.ok.inj encoded).symm⟩

/-- A record that was encoded is read back without the marks it cannot carry. -/
theorem decode_encoded
    (encoded : encodeDualInputBundle bundle context = .ok bytes) :
    decodeDualInputBundle bytes bundle.logicalSeat bundle.ownerSigningKeyId =
      .ok bundle.trimmed := by
  obtain ⟨canonical, agrees, rfl⟩ := encodeDualInputBundle_eq_ok encoded
  rw [← inputRecord_trimmed]
  exact decodeDualInputBundle_inputRecord (canonical_trimmed canonical)
    (fun port contradicts =>
      agrees port ((contradicts_trimmed bundle context port).mp contradicts))
    rfl

end Trimmed

/-! ### What a record determines -/

/-- The kind of sample with a number. -/
def DualPortSourceKind.ofCode (code : UInt8) : DualPortSourceKind :=
  if code = 1 then
    .realSample
  else if code = 2 then
    .heldPrime
  else if code = 3 then
    .portClear
  else if code = 4 then
    .neutralUnassigned
  else if code = 5 then
    .predicted
  else if code = 6 then
    .terminalHold
  else
    .heldSample

/-- The reason with a number. -/
def DualPortClearReason.ofCode (code : UInt8) : DualPortClearReason :=
  if code = 0 then
    .none
  else if code = 1 then
    .stop
  else if code = 2 then
    .pause
  else if code = 3 then
    .peerDisconnect
  else
    .seatReassign

theorem DualPortSourceKind.code_ofCode :
    ∀ code : UInt8, ¬ (code < 1 ∨ code > 7) → (ofCode code).code = code := by
  intro code
  have checked : ∀ value < 256,
      ¬ (UInt8.ofNat value < 1 ∨ UInt8.ofNat value > 7) →
        (ofCode (UInt8.ofNat value)).code = UInt8.ofNat value := by
    decide +kernel
  have known := checked code.toNat code.toNat_lt
  rw [UInt8.ofNat_toNat] at known
  exact known

theorem DualPortClearReason.code_ofCode :
    ∀ code : UInt8, ¬ code > 4 → (ofCode code).code = code := by
  intro code
  have checked : ∀ value < 256, ¬ UInt8.ofNat value > 4 →
      (ofCode (UInt8.ofNat value)).code = UInt8.ofNat value := by
    decide +kernel
  have known := checked code.toNat code.toNat_lt
  rw [UInt8.ofNat_toNat] at known
  exact known

/-- The context fields of a record. -/
def contextOfBytes (bytes : Bytes) : DualInputWireContext :=
  { authorityTerm := UInt64.ofNat (loadAt 8 34 bytes)
    modeGeneration := UInt64.ofNat (loadAt 8 58 bytes)
    batchSequence := UInt64.ofNat (loadAt 8 74 bytes)
    stated := fun port =>
      some (.ofCode ((slotBytes bytes port).getD 0 0),
        .ofCode ((slotBytes bytes port).getD 1 0)) }

/-- The octets of a field, followed by those behind it. -/
theorem take_append_rest
    (bytes : Bytes)
    (offset width : Nat) :
    (bytes.drop offset).take width ++ bytes.drop (offset + width) =
      bytes.drop offset := by
  rw [← List.drop_drop, List.take_append_drop]

variable {bytes : Bytes}

/-- A word that was read is written back as its octets. -/
theorem bigEndian_loadAt
    {width offset : Nat}
    (inside : offset + width ≤ bytes.length) :
    bigEndian width (loadAt width offset bytes) =
      (bytes.drop offset).take width := by
  have long : ((bytes.drop offset).take width).length = width := by
    rw [List.length_take, List.length_drop]
    omega
  have same := bigEndian_fromBigEndian ((bytes.drop offset).take width)
  rw [long] at same
  exact same

theorem loadAt_lt
    (width offset : Nat)
    (bytes : Bytes) :
    loadAt width offset bytes < 256 ^ width := by
  have below := fromBigEndian_lt ((bytes.drop offset).take width)
  refine Nat.lt_of_lt_of_le below (Nat.pow_le_pow_right (by decide) ?_)
  exact List.length_take_le _ _

theorem bigEndian_loadAt_word
    {offset : Nat}
    (inside : offset + 8 ≤ bytes.length) :
    bigEndian 8 (UInt64.ofNat (loadAt 8 offset bytes)).toNat =
      (bytes.drop offset).take 8 := by
  have below := loadAt_lt 8 offset bytes
  rw [UInt64.toNat_ofNat_of_lt' (by simpa using below), bigEndian_loadAt inside]

/-- What the validator has found out about a record. -/
structure CheckedRecord (bytes : Bytes) : Prop where
  sized : bytes.length = 154
  version : loadAt 2 0 bytes = 1
  reserved : (bytes.drop 83).take 7 = List.replicate 7 0
  predicted : bytes.getD 82 0 &&& 0xF0 = 0
  slots : ∀ port,
    checkSlot (bytes.getD 82 0) (slotBytes bytes port) port = .ok

theorem checkedRecord_of_checkBundle
    (checked : checkBundle bytes = .ok) :
    CheckedRecord bytes := by
  unfold checkBundle at checked
  split at checked
  · cases checked
  next notShort =>
    split at checked
    · cases checked
    next notLong =>
      split at checked
      · cases checked
      next version =>
        split at checked
        · cases checked
        next reserved =>
          split at checked
          · cases checked
          next predicted =>
            have sized : bytes.length = 154 := by
              simp only [kDualInputWireBytes] at notShort notLong
              omega
            refine ⟨sized, not_not.mp version, ?_, not_not.mp predicted, ?_⟩
            · have zeros : ((bytes.drop 83).take 7).all (· == 0) = true := by
                simpa using reserved
              have filled : (bytes.drop 83).take 7 =
                  List.replicate ((bytes.drop 83).take 7).length 0 :=
                List.eq_replicate_of_mem (by simpa using zeros)
              rw [filled, List.length_take, List.length_drop, sized]
              rfl
            · have faultless :
                  ((List.finRange kDualPortCount).map fun port =>
                    checkSlot (bytes.getD 82 0) (slotBytes bytes port)
                      port).find? (· ≠ .ok) = none := by
                by_contra faulty
                obtain ⟨status, found⟩ := Option.ne_none_iff_exists'.mp faulty
                have wrong := List.find?_some found
                rw [found, Option.getD_some] at checked
                simp [checked] at wrong
              intro port
              have fine := List.find?_eq_none.mp faultless _
                (List.mem_map.mpr ⟨port, List.mem_finRange port, rfl⟩)
              simpa using fine

/-- What the validator has found out about one port. -/
structure CheckedSlot (mask : UInt8) (slot : Bytes) (port : Port) : Prop where
  source : ¬ (slot.getD 0 0 < 1 ∨ slot.getD 0 0 > 7)
  reason : ¬ slot.getD 1 0 > 4
  reserved : slot.getD 2 0 = 0 ∧ slot.getD 3 0 = 0
  marker : (mask >>> UInt8.ofNat port) &&& 1 =
    if slot.getD 0 0 = 5 then 1 else 0

variable {mask : UInt8}

theorem checkedSlot_of_checkSlot
    {slot : Bytes}
    {port : Port}
    (checked : checkSlot mask slot port = .ok) :
    CheckedSlot mask slot port := by
  simp only [checkSlot] at checked
  split at checked
  · cases checked
  next source =>
    split at checked
    · cases checked
    next reason =>
      split at checked
      · cases checked
      next reserved =>
        refine ⟨source, reason, ?_, ?_⟩
        · simpa only [not_or, not_not] using reserved
        · by_contra marker
          rw [if_pos marker] at checked
          cases checked

/-- The byte of predicted ports is made of its four bits. -/
theorem predicted_of_bits
    (low : mask &&& 0xF0 = 0) :
    (PortSet.toMask fun port =>
      (mask >>> UInt8.ofNat port) &&& 1 = 1).toUInt8 = mask := by
  have checked : ∀ value < 256, UInt8.ofNat value &&& 0xF0 = 0 →
      (PortSet.toMask fun port =>
        (UInt8.ofNat value >>> UInt8.ofNat port) &&& 1 = 1).toUInt8 =
          UInt8.ofNat value := by
    decide +kernel
  have known := checked mask.toNat mask.toNat_lt
  rw [UInt8.ofNat_toNat] at known
  exact known low

section Bytes

variable {bytes : Bytes}

theorem slotBytes_length
    (sized : bytes.length = 154)
    (port : Port) :
    16 ≤ (slotBytes bytes port).length := by
  have bound : port.val < 4 := port.isLt
  rw [slotBytes, List.length_drop, sized]
  omega

/-- A checked port is written back as its sixteen octets. -/
theorem slotRecord_of_bytes
    (record : CheckedRecord bytes)
    (logicalSeat : UInt8)
    (ownerSigningKeyId : KeyId)
    (port : Port) :
    slotRecord (bundleOfBytes bytes logicalSeat ownerSigningKeyId)
        (contextOfBytes bytes) port =
      (slotBytes bytes port).take 16 := by
  have checked := checkedSlot_of_checkSlot (record.slots port)
  have long := slotBytes_length record.sized port
  have below := loadAt_lt 4 4 (slotBytes bytes port)
  have mask :
      bigEndian 4 (UInt32.ofNat (loadAt 4 4 (slotBytes bytes port))).toNat =
        ((slotBytes bytes port).drop 4).take 4 := by
    rw [UInt32.toNat_ofNat_of_lt' (by simpa using below),
      bigEndian_loadAt (by omega)]
  have sequence :
      bigEndian 8 (UInt64.ofNat (loadAt 8 8 (slotBytes bytes port))).toNat =
        ((slotBytes bytes port).drop 8).take 8 :=
    bigEndian_loadAt_word (by omega)
  simp only [slotRecord, bundleOfBytes, contextOfBytes,
    DualInputWireContext.source, Option.getD_some, mask, sequence,
    DualPortSourceKind.code_ofCode _ checked.source,
    DualPortClearReason.code_ofCode _ checked.reason]
  obtain ⟨third, fourth⟩ := checked.reserved
  generalize slotBytes bytes port = slot at long third fourth ⊢
  obtain ⟨first, second, _, _, rest, rfl⟩ :
      ∃ first second third fourth rest,
        slot = first :: second :: third :: fourth :: rest := by
    rcases slot with - | ⟨zero, - | ⟨one, - | ⟨two, - | ⟨three, rest⟩⟩⟩⟩
    case cons.cons.cons.cons => exact ⟨zero, one, two, three, rest, rfl⟩
    all_goals simp at long
  simp only [List.getD_cons_zero, List.getD_cons_succ] at third fourth ⊢
  subst third fourth
  have whole : rest.take 12 = rest.take 4 ++ (rest.drop 4).take 8 := by
    rw [← List.take_add]
  simp [whole]

/-- A record that the validator accepts is the record of what it stands for. -/
theorem inputRecord_of_bytes
    (record : CheckedRecord bytes)
    (logicalSeat : UInt8)
    (ownerSigningKeyId : KeyId) :
    inputRecord (bundleOfBytes bytes logicalSeat ownerSigningKeyId)
        (contextOfBytes bytes) =
      bytes := by
  have sized := record.sized
  have version : bigEndian 2 1 = (bytes.drop 0).take 2 := by
    rw [← bigEndian_loadAt (by omega), record.version]
  have session : (Block.copy 16 (bytes.drop 2)).bytes =
      (bytes.drop 2).take 16 :=
    Block.bytes_copy_of_le (by rw [List.length_drop]; omega)
  have branch : (Block.copy 16 (bytes.drop 18)).bytes =
      (bytes.drop 18).take 16 :=
    Block.bytes_copy_of_le (by rw [List.length_drop]; omega)
  have word : ∀ offset, offset + 8 ≤ 154 →
      bigEndian 8 (UInt64.ofNat (loadAt 8 offset bytes)).toNat =
        (bytes.drop offset).take 8 := by
    intro offset inside
    exact bigEndian_loadAt_word (by omega)
  have key :
      encodeKey (bundleOfBytes bytes logicalSeat ownerSigningKeyId)
        (contextOfBytes bytes) ++ bytes.drop 82 = bytes := by
    simp only [encodeKey, bundleOfBytes, contextOfBytes, version, session,
      branch, word 34 (by omega), word 42 (by omega), word 50 (by omega),
      word 58 (by omega), word 66 (by omega), word 74 (by omega),
      List.append_assoc]
    have join := take_append_rest bytes
    rw [join 74 8, join 66 8, join 58 8, join 50 8, join 42 8, join 34 8,
      join 18 16, join 2 16, join 0 2, List.drop_zero]
  have marks :
      encodePredicted (bundleOfBytes bytes logicalSeat ownerSigningKeyId)
        (contextOfBytes bytes) = bytes.getD 82 0 := by
    rw [← predicted_of_bits record.predicted, encodePredicted]
    congr 2
    funext port
    have checked := checkedSlot_of_checkSlot (record.slots port)
    rw [checked.marker]
    simp only [contextOfBytes, DualInputWireContext.source, Option.getD_some,
      ← DualPortSourceKind.code_predicted,
      DualPortSourceKind.code_ofCode _ checked.source]
    split
    next five =>
      simp only [five]
    next other =>
      simp only [other]
      decide
  have slot := slotRecord_of_bytes record logicalSeat ownerSigningKeyId
  have last : (bytes.drop 138).take 16 = bytes.drop 138 :=
    List.take_of_length_le (by rw [List.length_drop]; omega)
  have slots :
      (slotBytes bytes 0).take 16 ++ ((slotBytes bytes 1).take 16 ++
        ((slotBytes bytes 2).take 16 ++ (slotBytes bytes 3).take 16)) =
        bytes.drop 90 := by
    have join := take_append_rest bytes
    change (bytes.drop 90).take 16 ++ ((bytes.drop 106).take 16 ++
      ((bytes.drop 122).take 16 ++ (bytes.drop 138).take 16)) = _
    rw [last, join 122 16, join 106 16, join 90 16]
  have mark : bytes.getD 82 0 :: bytes.drop 83 = bytes.drop 82 := by
    have inside : 82 < bytes.length := by
      omega
    rw [List.drop_eq_getElem_cons inside, List.getD_eq_getElem?_getD,
      List.getElem?_eq_getElem inside, Option.getD_some]
  rw [inputRecord, slot 0, slot 1, slot 2, slot 3, slots, marks,
    ← record.reserved, take_append_rest bytes 83 7, mark, key]

end Bytes

/-- What a record is decoded to, and that the validator has accepted it. -/
theorem decodeDualInputBundle_eq_ok
    {logicalSeat : UInt8}
    {ownerSigningKeyId : KeyId}
    {bundle : DualInputBundle}
    (decoded :
      decodeDualInputBundle bytes logicalSeat ownerSigningKeyId = .ok bundle) :
    checkBundle bytes = .ok ∧
      bundle = bundleOfBytes bytes logicalSeat ownerSigningKeyId := by
  unfold decodeDualInputBundle at decoded
  split at decoded
  · cases decoded
  split at decoded
  · cases decoded
  split at decoded
  · cases decoded
  next checked =>
    split at decoded
    · cases decoded
    · exact ⟨not_not.mp checked, (Except.ok.inj decoded).symm⟩

/--
An encoded bundle is decoded to itself exactly when its word of predicted ports
marks only the four ports.  What is decoded has passed the validator, and two
records that are decoded to one bundle and agree in their context are the same.
-/
theorem canonical_wire_round_trip
    (bundle : DualInputBundle)
    (context : DualInputWireContext)
    (bytes : Bytes) :
    (encodeDualInputBundle bundle context = .ok bytes →
        (decodeDualInputBundle bytes bundle.logicalSeat
            bundle.ownerSigningKeyId = .ok bundle ↔
          bundle.predictedPortMask < 16)) ∧
      (∀ bytes logicalSeat ownerSigningKeyId bundle,
        decodeDualInputBundle bytes logicalSeat ownerSigningKeyId =
            .ok bundle →
          checkBundle bytes = .ok) ∧
        ∀ first second firstSeat secondSeat firstOwner secondOwner bundle,
          decodeDualInputBundle first firstSeat firstOwner = .ok bundle →
            decodeDualInputBundle second secondSeat secondOwner = .ok bundle →
              contextOfBytes first = contextOfBytes second →
                first = second := by
  refine ⟨?_, ?_, ?_⟩
  · intro encoded
    rw [decode_encoded encoded, Except.ok.injEq, ← portBits_eq_iff]
    constructor
    · intro same
      exact congrArg DualInputBundle.predictedPortMask same
    · intro same
      rw [DualInputBundle.trimmed, same]
  · intro bytes logicalSeat ownerSigningKeyId bundle decoded
    exact (decodeDualInputBundle_eq_ok decoded).1
  · intro first second firstSeat secondSeat firstOwner secondOwner bundle
      firstDecoded secondDecoded context
    obtain ⟨firstChecked, firstBundle⟩ := decodeDualInputBundle_eq_ok firstDecoded
    obtain ⟨secondChecked, secondBundle⟩ :=
      decodeDualInputBundle_eq_ok secondDecoded
    calc
      first = inputRecord bundle (contextOfBytes first) := by
        rw [firstBundle]
        exact (inputRecord_of_bytes (checkedRecord_of_checkBundle firstChecked)
          firstSeat firstOwner).symm
      _ = inputRecord bundle (contextOfBytes second) := by
        rw [context]
      _ = second := by
        rw [secondBundle]
        exact inputRecord_of_bytes (checkedRecord_of_checkBundle secondChecked)
          secondSeat secondOwner

/-- A bundle of the first player that marks a fifth port as predicted. -/
def fifthPortBundle : DualInputBundle :=
  { key :=
      { sessionId := ⟨List.replicate 16 1, rfl⟩
        timelineEpoch := 1
        seatRevision := 1 }
    predictedPortMask := 16
    ports := fun port => ⟨0, UInt64.ofNat port + 1⟩
    ownerSigningKeyId := ⟨List.replicate 32 1, rfl⟩ }

/-- The mark of the fifth port is lost on the wire. -/
theorem fifth_port_is_lost :
    ¬ ∀ (bundle : DualInputBundle) (context : DualInputWireContext)
        (bytes : Bytes),
      encodeDualInputBundle bundle context = .ok bytes →
        decodeDualInputBundle bytes bundle.logicalSeat
          bundle.ownerSigningKeyId = .ok bundle := by
  intro always
  let context : DualInputWireContext :=
    { authorityTerm := 1, modeGeneration := 1, batchSequence := 1 }
  have encoded :
      encodeDualInputBundle fifthPortBundle context =
        .ok (inputRecord fifthPortBundle context) :=
    encodeDualInputBundle_of_canonical (by decide) (by decide)
      (by decide) (by decide) (by decide)
  have returned := always fifthPortBundle context _ encoded
  rw [decode_encoded encoded, Except.ok.injEq] at returned
  have mask := congrArg DualInputBundle.predictedPortMask returned
  exact absurd mask (by decide)

end FlyNes.Dual
