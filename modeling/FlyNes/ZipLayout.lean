import FlyNes.ZipPayload

namespace FlyNes.Zip

open ByteString Checking

/-!
# How an archive lies in its file

Each entry takes a part of the file, from its local header to the end of its data or of
its data descriptor.  The parts of an archive come one after another, before the
directory.
-/

/-- The checksum and the sizes of an entry, as words one after another. -/
def ValuesAt (archive : Bytes) (entry : BoundedZipEntry) (offset : Nat) : Prop :=
  unsignedInt archive offset = .ok entry.crc32 ∧
    unsignedInt archive (offset + 4) = .ok entry.compressedSize ∧
    unsignedInt archive (offset + 8) = .ok entry.uncompressedSize

/-- Where the part of an entry ends whose compressed data ends at `payloadEnd`. -/
inductive DescriptorAt (archive : Bytes) (entry : BoundedZipEntry) (payloadEnd : Nat) :
    Nat → Prop where
  | absent
      (clear : entry.flags &&& dataDescriptorFlag = 0) :
      DescriptorAt archive entry payloadEnd payloadEnd
  | plain
      (flagged : entry.flags &&& dataDescriptorFlag ≠ 0)
      (values : ValuesAt archive entry payloadEnd) :
      DescriptorAt archive entry payloadEnd (payloadEnd + 12)
  | signed
      (flagged : entry.flags &&& dataDescriptorFlag ≠ 0)
      (signature : unsignedInt archive payloadEnd = .ok descriptorSignature)
      (values : ValuesAt archive entry (payloadEnd + 4)) :
      DescriptorAt archive entry payloadEnd (payloadEnd + 16)

variable {archive : Bytes} {payloadEnd stop : Nat}

theorem DescriptorAt.le
    {entry : BoundedZipEntry}
    (descriptor : DescriptorAt archive entry payloadEnd stop) :
    payloadEnd ≤ stop := by
  cases descriptor with
  | absent => exact Nat.le_refl _
  | plain => exact Nat.le_add_right _ _
  | signed => exact Nat.le_add_right _ _

/-- An entry and its part of the file. -/
structure Placement where
  entry : BoundedZipEntry
  dataOffset : Int
  stop : Nat

namespace Placement

def start (placement : Placement) : Nat :=
  placement.entry.localHeaderOffset.toNat

/-- The file has, from the start to the stop, a header with the name of the entry, an extra
field, as many bytes of data as were declared, and a data descriptor if there is one. -/
structure Occupies (archive : Bytes) (placement : Placement) : Prop where
  offset : placement.entry.localHeaderOffset = placement.start
  signature : unsignedInt archive placement.start = .ok localSignature
  flags : unsignedShort archive (placement.start + 6) = .ok placement.entry.flags
  method : unsignedShort archive (placement.start + 8) = .ok placement.entry.method
  nameLength :
    unsignedShort archive (placement.start + 26) = .ok placement.entry.rawName.length
  name :
    copyRange archive (placement.start + 30) placement.entry.rawName.length =
      .ok placement.entry.rawName
  rest : ∃ extraLength dataOffset,
    unsignedShort archive (placement.start + 28) = .ok extraLength ∧
      dataOffset = placement.start + 30 + placement.entry.rawName.length + extraLength ∧
      placement.dataOffset = (dataOffset : Nat) ∧
      DescriptorAt archive placement.entry
        (dataOffset + placement.entry.compressedSize) placement.stop

end Placement

/-- The entries of an archive take parts of its file that come one after another from the
beginning of the file, and end before an offset. -/
structure LaidOut
    (archive : BoundedZipArchive)
    (centralOffset : Nat)
    (placements : List Placement) : Prop where
  entries : archive.entries = placements.map Placement.entry
  dataOffsets : archive.dataOffsets = placements.map Placement.dataOffset
  occupied : ∀ placement ∈ placements, placement.Occupies archive.physicalBytes
  ordered : placements.Pairwise fun first second => first.stop ≤ second.start
  inside : ∀ placement ∈ placements, placement.stop ≤ centralOffset
  fromZero :
    match placements with
    | [] => centralOffset = 0
    | first :: _ => first.start = 0

/-- What a caller allows of one entry. -/
structure AllowedEntry (limits : BoundedZipLimits) (entry : BoundedZipEntry) : Prop where
  named : entry.rawName ≠ []
  name : entry.rawName.length ≤ limits.maxNameBytes
  clear : entry.flags &&& encryptedFlag = 0
  method : entry.method = 0 ∨ entry.method = 8
  ratio : entry.uncompressedSize ≤ limits.ratioGuardThresholdBytes ∨
    0 < entry.compressedSize ∧
      entry.uncompressedSize ≤ entry.compressedSize * limits.maxCompressionRatio

/-- What a caller allows of an archive. -/
structure Allowed (archive : BoundedZipArchive) : Prop where
  package : archive.physicalBytes.length ≤ archive.limits.maxPackageBytes
  count : archive.entries.length ≤ archive.limits.maxZipEntries
  entries : ∀ entry ∈ archive.entries, AllowedEntry archive.limits entry
  declared :
    (archive.entries.map BoundedZipEntry.uncompressedSize).sum ≤
      archive.limits.maxCumulativeInflatedBytes

/-! ### Bytes -/

variable {bytes : Bytes} {length : Nat} {message : String} {offset : Nat}

theorem requireRange_eq_ok {done : Unit} :
    requireRange bytes offset length message = .ok done ↔ offset + length ≤ bytes.length := by
  unfold requireRange
  rw [refuse_eq_ok]
  omega

theorem requireRange_of_inside
    (inside : offset + length ≤ bytes.length) :
    requireRange bytes offset length message = .ok () :=
  requireRange_eq_ok.mpr inside

variable {index : Nat}

theorem readByte_of_lt (inside : index < bytes.length) :
    readByte bytes index = .ok bytes[index] := by
  unfold readByte
  rw [List.getElem?_eq_getElem inside]

theorem readByte_eq_ok {byte : UInt8} :
    readByte bytes index = .ok byte ↔ bytes[index]? = some byte := by
  unfold readByte
  split <;> simp_all

theorem unsignedShort_returns (inside : offset + 2 ≤ bytes.length) :
    ∃ value, unsignedShort bytes offset = .ok value := by
  unfold unsignedShort
  rw [requireRange_of_inside inside, readByte_of_lt (show offset < _ by omega),
    readByte_of_lt (show offset + 1 < _ by omega)]
  exact ⟨_, rfl⟩

theorem unsignedInt_returns (inside : offset + 4 ≤ bytes.length) :
    ∃ value, unsignedInt bytes offset = .ok value := by
  unfold unsignedInt
  rw [requireRange_of_inside inside, readByte_of_lt (show offset < _ by omega),
    readByte_of_lt (show offset + 1 < _ by omega),
    readByte_of_lt (show offset + 2 < _ by omega),
    readByte_of_lt (show offset + 3 < _ by omega)]
  exact ⟨_, rfl⟩

variable {value : Nat}

theorem unsignedShort_lt
    (read : unsignedShort bytes offset = .ok value) :
    value < 2 ^ 16 := by
  obtain ⟨_, _, read⟩ := bind_eq_ok.mp read
  obtain ⟨byte0, _, read⟩ := bind_eq_ok.mp read
  obtain ⟨byte1, _, read⟩ := bind_eq_ok.mp read
  have result := Except.ok.inj read
  subst result
  have low := byte0.toNat_lt
  have high := byte1.toNat_lt
  refine Nat.or_lt_two_pow (by omega) ?_
  rw [Nat.shiftLeft_eq]
  omega

theorem unsignedInt_lt
    (read : unsignedInt bytes offset = .ok value) :
    value < 2 ^ 32 := by
  obtain ⟨_, _, read⟩ := bind_eq_ok.mp read
  obtain ⟨byte0, _, read⟩ := bind_eq_ok.mp read
  obtain ⟨byte1, _, read⟩ := bind_eq_ok.mp read
  obtain ⟨byte2, _, read⟩ := bind_eq_ok.mp read
  obtain ⟨byte3, _, read⟩ := bind_eq_ok.mp read
  have result := Except.ok.inj read
  subst result
  have := byte0.toNat_lt
  have := byte1.toNat_lt
  have := byte2.toNat_lt
  have := byte3.toNat_lt
  refine Nat.or_lt_two_pow (Nat.or_lt_two_pow (Nat.or_lt_two_pow (by omega) ?_) ?_) ?_
  · rw [Nat.shiftLeft_eq]
    omega
  · rw [Nat.shiftLeft_eq]
    omega
  · rw [Nat.shiftLeft_eq]
    omega

theorem copyRange_eq_ok {range : Bytes} {start : Nat} :
    copyRange bytes start length = .ok range ↔
      start + length ≤ bytes.length ∧ (bytes.drop start).take length = range := by
  unfold copyRange
  split <;> simp_all

theorem checkedAdd_eq_ok {first second sum : Nat} :
    checkedAdd first second message = .ok sum ↔
      first ≤ uint64Max - second ∧ first + second = sum := by
  unfold checkedAdd
  rw [refuse_bind_eq_ok]
  simp [pure, Except.pure]

/-- A name that is required is what lies there. -/
theorem copyRange_of_requireName
    {name : Bytes}
    (inside : offset + name.length ≤ archive.length)
    (checked : requireName archive offset name = .ok ()) :
    copyRange archive offset name.length = .ok name := by
  refine copyRange_eq_ok.mpr ⟨inside, ?_⟩
  induction name generalizing offset with
  | nil => rfl
  | cons expected rest inductionHypothesis =>
      obtain ⟨byte, read, compared⟩ := bind_eq_ok.mp checked
      obtain ⟨same, others⟩ := refuse_bind_eq_ok.mp compared
      rw [not_not] at same
      subst same
      have there := readByte_eq_ok.mp read
      rw [List.length_cons] at inside ⊢
      rw [List.drop_eq_getElem?_toList_append, there]
      simpa using inductionHypothesis (by omega) others

/-! ### One local header -/

variable {central : CentralEntry}

theorem values_of_descriptorMatches
    (matched : descriptorMatches archive central offset = .ok true) :
    ValuesAt archive central.toBoundedZipEntry offset := by
  unfold descriptorMatches at matched
  obtain ⟨crc32, readCrc, matched⟩ := bind_eq_ok.mp matched
  by_cases sameCrc : crc32 = central.crc32
  swap
  · rw [if_pos sameCrc] at matched
    cases matched
  rw [if_neg (not_not.mpr sameCrc)] at matched
  obtain ⟨compressedSize, readCompressed, matched⟩ := bind_eq_ok.mp matched
  by_cases sameCompressed : compressedSize = central.compressedSize
  swap
  · rw [if_pos sameCompressed] at matched
    cases matched
  rw [if_neg (not_not.mpr sameCompressed)] at matched
  obtain ⟨uncompressedSize, readUncompressed, matched⟩ := bind_eq_ok.mp matched
  have sameUncompressed : uncompressedSize = central.uncompressedSize := by
    simpa [pure, Except.pure] using matched
  subst sameCrc sameCompressed sameUncompressed
  exact ⟨readCrc, readCompressed, readUncompressed⟩

variable {boundary centralOffset : Nat}

theorem validateDescriptor_returns
    (flagged : central.flags &&& dataDescriptorFlag ≠ 0)
    (checked :
      validateDescriptor archive central centralOffset boundary payloadEnd = .ok stop) :
    DescriptorAt archive central.toBoundedZipEntry payloadEnd stop ∧ stop ≤ boundary := by
  unfold validateDescriptor at checked
  obtain ⟨within, checked⟩ := refuse_bind_eq_ok.mp checked
  obtain ⟨_, checked⟩ := refuse_bind_eq_ok.mp checked
  obtain ⟨first, readFirst, checked⟩ := bind_eq_ok.mp checked
  obtain ⟨unsignedMatches, matchedUnsigned, checked⟩ := bind_eq_ok.mp checked
  obtain ⟨signedMatches, matchedSigned, checked⟩ := bind_eq_ok.mp checked
  obtain ⟨_, checked⟩ := refuse_bind_eq_ok.mp checked
  cases signedMatches with
  | true =>
      rw [if_pos rfl] at checked
      cases checked
      rcases provided_eq_ok.mp matchedSigned with ⟨⟨rfl, enough⟩, matched⟩ | ⟨_, absurd⟩
      · exact ⟨.signed flagged readFirst (values_of_descriptorMatches matched), by omega⟩
      · cases absurd
  | false =>
      rw [if_neg (by decide)] at checked
      cases unsignedMatches with
      | true =>
          rw [if_pos rfl] at checked
          cases checked
          rcases provided_eq_ok.mp matchedUnsigned with ⟨enough, matched⟩ | ⟨_, absurd⟩
          · exact ⟨.plain flagged (values_of_descriptorMatches matched), by omega⟩
          · cases absurd
      | false =>
          rw [if_neg (by decide)] at checked
          repeat' split at checked
          all_goals cases checked

/-- An offset that fits a signed word, as all offsets of a directory do. -/
def SmallOffset (central : CentralEntry) : Prop :=
  ∃ offset ≤ int32Max, central.localHeaderOffset = toInt32 offset

theorem SmallOffset.toUInt32_eq (small : SmallOffset central) :
    toUInt32 central.localHeaderOffset = central.localHeaderOffset.toNat ∧
      central.localHeaderOffset = central.localHeaderOffset.toNat := by
  obtain ⟨offset, small, same⟩ := small
  rw [same, toUInt32_toInt32 small, toInt32_eq small]
  exact ⟨rfl, rfl⟩

/-- The part of a file that is found for an entry. -/
def LocalHeaderValidation.placement
    (own : LocalHeaderValidation)
    (central : CentralEntry) : Placement where
  entry := central.toBoundedZipEntry
  dataOffset := own.dataOffset
  stop := own.entryEnd

theorem validateLocalHeader_returns
    {own : LocalHeaderValidation}
    (small : SmallOffset central)
    (bounded : boundary ≤ centralOffset)
    (checked : validateLocalHeader archive central centralOffset boundary = .ok own) :
    (own.placement central).Occupies archive ∧ own.entryEnd ≤ centralOffset := by
  obtain ⟨unsigned, signed⟩ := small.toUInt32_eq
  unfold validateLocalHeader at checked
  rw [unsigned] at checked
  obtain ⟨⟨⟩, _, checked⟩ := bind_eq_ok.mp checked
  obtain ⟨signature, readSignature, checked⟩ := bind_eq_ok.mp checked
  obtain ⟨sameSignature, checked⟩ := refuse_bind_eq_ok.mp checked
  obtain ⟨flags, readFlags, checked⟩ := bind_eq_ok.mp checked
  obtain ⟨method, readMethod, checked⟩ := bind_eq_ok.mp checked
  obtain ⟨sameFlags, checked⟩ := refuse_bind_eq_ok.mp checked
  obtain ⟨nameLength, readName, checked⟩ := bind_eq_ok.mp checked
  obtain ⟨extraLength, readExtra, checked⟩ := bind_eq_ok.mp checked
  obtain ⟨sameLength, checked⟩ := refuse_bind_eq_ok.mp checked
  obtain ⟨⟨⟩, range, checked⟩ := bind_eq_ok.mp checked
  obtain ⟨⟨⟩, sameName, checked⟩ := bind_eq_ok.mp checked
  obtain ⟨dataOffset, added, checked⟩ := bind_eq_ok.mp checked
  obtain ⟨payloadEnd, addedSize, checked⟩ := bind_eq_ok.mp checked
  obtain ⟨fits, checked⟩ := refuse_bind_eq_ok.mp checked
  obtain ⟨⟨⟩, _, checked⟩ := bind_eq_ok.mp checked
  obtain ⟨entryEnd, found, checked⟩ := bind_eq_ok.mp checked
  have result := Except.ok.inj checked
  subst result
  simp only [not_or, not_not, not_lt] at sameSignature sameFlags sameLength fits
  obtain ⟨rfl, rfl⟩ := sameFlags
  subst sameSignature sameLength
  obtain ⟨-, rfl⟩ := checkedAdd_eq_ok.mp added
  obtain ⟨-, rfl⟩ := checkedAdd_eq_ok.mp addedSize
  have inside := requireRange_eq_ok.mp range
  have name := copyRange_of_requireName (by omega) sameName
  have exact := toInt32_eq fits.2
  have placed :
      DescriptorAt archive central.toBoundedZipEntry
          (central.localHeaderOffset.toNat + 30 + (central.rawName.length + extraLength) +
            central.compressedSize) entryEnd ∧
        entryEnd ≤ centralOffset := by
    rcases provided_eq_ok.mp found with ⟨flagged, found⟩ | ⟨clear, rfl⟩
    · obtain ⟨descriptor, before⟩ := validateDescriptor_returns flagged found
      exact ⟨descriptor, by omega⟩
    · exact ⟨.absent (not_not.mp clear), fits.1⟩
  refine ⟨{
    offset := signed
    signature := readSignature
    flags := readFlags
    method := readMethod
    nameLength := readName
    name
    rest := ⟨extraLength, _, readExtra, ?_, exact, placed.1⟩ }, placed.2⟩
  exact (Nat.add_assoc _ _ _).symm

namespace Placement

/-- A part of a file holds at least the fixed part of a header. -/
theorem Occupies.start_lt
    {archive : Bytes} {placement : Placement}
    (occupies : placement.Occupies archive) :
    placement.start + 30 ≤ placement.stop := by
  obtain ⟨extraLength, dataOffset, _, same, _, descriptor⟩ := occupies.rest
  have := descriptor.le
  omega

end Placement

/-! ### The entries one after another -/

/-- The parts of the file that the loop over the sorted entries has found. -/
def placements
    (locals : List LocalHeaderValidation)
    (entries : List CentralEntry) : List Placement :=
  List.zipWith LocalHeaderValidation.placement locals entries

/-- What the loop has found, where an entry before has ended at `previousEntryEnd`. -/
structure Found
    (archive : Bytes)
    (centralOffset : Nat)
    (previousEntryEnd : Option Nat)
    (entries : List CentralEntry)
    (locals : List LocalHeaderValidation) : Prop where
  length : locals.length = entries.length
  occupied : ∀ placement ∈ placements locals entries, placement.Occupies archive
  inside : ∀ placement ∈ placements locals entries, placement.stop ≤ centralOffset
  ordered : (placements locals entries).Pairwise fun first second => first.stop ≤ second.start
  after : ∀ placement ∈ placements locals entries, ∀ previous ∈ previousEntryEnd,
    previous ≤ placement.start

theorem descriptorBoundary_le (centralOffset : Nat) (rest : List CentralEntry) :
    descriptorBoundary centralOffset rest ≤ centralOffset := by
  cases rest with
  | nil => exact Nat.le_refl _
  | cons next _ => exact Nat.min_le_right _ _

variable {limits : BoundedZipLimits} {declared : Nat} {previousEntryEnd : Option Nat}
variable {entries : List CentralEntry} {locals : List LocalHeaderValidation}

theorem validateLocals_returns
    {applyPolicy : Bool}
    (small : ∀ entry ∈ entries, SmallOffset entry)
    (checked :
      validateLocals archive limits applyPolicy centralOffset previousEntryEnd declared entries =
        .ok locals) :
    Found archive centralOffset previousEntryEnd entries locals := by
  induction entries generalizing previousEntryEnd declared locals with
  | nil =>
      cases checked
      exact {
        length := rfl
        occupied := fun _ member => nomatch member
        inside := fun _ member => nomatch member
        ordered := .nil
        after := fun _ member => nomatch member }
  | cons central rest inductionHypothesis =>
      obtain ⟨apart, checked⟩ := refuse_bind_eq_ok.mp checked
      obtain ⟨own, validated, checked⟩ := bind_eq_ok.mp checked
      obtain ⟨declared', _, checked⟩ := bind_eq_ok.mp checked
      obtain ⟨others, found, checked⟩ := bind_eq_ok.mp checked
      have result := Except.ok.inj checked
      subst result
      have smallOwn := small central List.mem_cons_self
      obtain ⟨occupies, inside⟩ :=
        validateLocalHeader_returns smallOwn (descriptorBoundary_le _ _) validated
      have later := inductionHypothesis
        (fun entry member => small entry (List.mem_cons_of_mem _ member)) found
      have afterOwn : ∀ previous ∈ previousEntryEnd, previous ≤ (own.placement central).start := by
        intro previous member
        have notAfter : ¬previous > toUInt32 central.localHeaderOffset :=
          fun overlapping => apart ⟨previous, member, overlapping⟩
        rw [smallOwn.toUInt32_eq.1] at notAfter
        exact Nat.le_of_not_lt notAfter
      refine {
        length := congrArg (· + 1) later.length
        occupied := List.forall_mem_cons.mpr ⟨occupies, later.occupied⟩
        inside := List.forall_mem_cons.mpr ⟨inside, later.inside⟩
        ordered := List.pairwise_cons.mpr
          ⟨fun placement member => later.after placement member _ rfl, later.ordered⟩
        after := List.forall_mem_cons.mpr ⟨afterOwn, ?_⟩ }
      intro placement member previous there
      calc
        previous ≤ (own.placement central).start := afterOwn previous there
        _ ≤ own.entryEnd := by
              have := occupies.start_lt
              change _ ≤ (own.placement central).stop
              omega
        _ ≤ placement.start := later.after placement member _ rfl

/-- The declared sizes add up to no more than is allowed. -/
theorem declared_le_of_validateLocals
    (bounded : declared ≤ limits.maxCumulativeInflatedBytes)
    (checked :
      validateLocals archive limits true centralOffset previousEntryEnd declared entries =
        .ok locals) :
    declared + (entries.map CentralEntry.uncompressedSize).sum ≤
      limits.maxCumulativeInflatedBytes := by
  induction entries generalizing previousEntryEnd declared locals with
  | nil => simpa using bounded
  | cons central rest inductionHypothesis =>
      obtain ⟨_, checked⟩ := refuse_bind_eq_ok.mp checked
      obtain ⟨own, _, checked⟩ := bind_eq_ok.mp checked
      obtain ⟨declared', added, checked⟩ := bind_eq_ok.mp checked
      obtain ⟨others, found, _⟩ := bind_eq_ok.mp checked
      rcases provided_eq_ok.mp added with ⟨_, added⟩ | ⟨absurd, _⟩
      · obtain ⟨sum, addedSum, added⟩ := bind_eq_ok.mp added
        obtain ⟨within, added⟩ := refuse_bind_eq_ok.mp added
        cases added
        obtain ⟨-, rfl⟩ := checkedAdd_eq_ok.mp addedSum
        have later := inductionHypothesis (Nat.le_of_not_lt within) found
        rw [List.map_cons, List.sum_cons]
        omega
      · exact absurd rfl |>.elim

end FlyNes.Zip
