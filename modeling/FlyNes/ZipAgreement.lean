import FlyNes.RomPayloadAgree
import FlyNes.ZipArchivePort
import FlyNes.ZipFailures

namespace FlyNes.Zip.Port

open ByteString Checking
open Catalog.Port (wrapInt wrapInt_of_fits)

/-!
# What the other reader does differently

Function by function, the other reader does what the first one does, and refuses a file as
soon as it cannot show the name of an entry.
-/

/-- The other reader may stop where the first one does not, with a failure that it reports. -/
def Reported (stop : Stop) : Prop :=
  ¬Unreported stop

/-- The name of an entry can be shown. -/
def Displayable
    (platform : Platform)
    (rawName : Bytes)
    (flags : Nat)
    (centralExtra : Bytes) : Prop :=
  decode platform rawName flags centralExtra .cp437 ≠ none

instance
    (platform : Platform) (rawName : Bytes) (flags : Nat) (centralExtra : Bytes) :
    Decidable (Displayable platform rawName flags centralExtra) :=
  inferInstanceAs (Decidable (_ ≠ _))

/-! ### Numbers and bytes -/

theorem intMax_eq : intMax = int32Max :=
  rfl

theorem longMax_eq : longMax = int64Max :=
  rfl

theorem wrapInt_natCast {value : Nat} (small : value ≤ int32Max) :
    wrapInt value = value := by
  unfold int32Max at small
  exact wrapInt_of_fits (by omega) (by omega)

variable {bytes : Bytes} {count : Nat} {message : String} {offset : Int} {start : Nat}

theorem requireRange_eq
    {length : Int}
    (sameOffset : offset = start)
    (sameLength : length = count) :
    requireRange bytes offset length message = Zip.requireRange bytes start count message := by
  subst sameOffset sameLength
  exact refuse_congr (by omega)

theorem readByte_eq {index : Int} {place : Nat} (same : index = place) :
    readByte bytes index = Zip.readByte bytes place := by
  subst same
  unfold readByte
  rw [if_neg (by omega), Int.toNat_natCast]

theorem unsignedShort_eq (same : offset = start) :
    unsignedShort bytes offset = Zip.unsignedShort bytes start := by
  subst same
  unfold unsignedShort Zip.unsignedShort
  rw [requireRange_eq rfl (show (2 : Int) = (2 : Nat) from rfl), readByte_eq rfl,
    readByte_eq (show (start : Int) + 1 = (start + 1 : Nat) from rfl)]

theorem unsignedInt_eq (same : offset = start) :
    unsignedInt bytes offset = Zip.unsignedInt bytes start := by
  subst same
  unfold unsignedInt Zip.unsignedInt
  rw [requireRange_eq rfl (show (4 : Int) = (4 : Nat) from rfl), readByte_eq rfl,
    readByte_eq (show (start : Int) + 1 = (start + 1 : Nat) from rfl),
    readByte_eq (show (start : Int) + 2 = (start + 2 : Nat) from rfl),
    readByte_eq (show (start : Int) + 3 = (start + 3 : Nat) from rfl)]

theorem copyOfRange_eq
    {start stop : Int} {first : Nat}
    (inside : first + count ≤ bytes.length)
    (sameStart : start = first)
    (sameStop : stop = (first + count : Nat)) :
    copyOfRange bytes start stop = copyRange bytes first count := by
  subst sameStart sameStop
  unfold copyOfRange copyRange
  rw [if_neg (by omega), if_neg (by omega), if_pos inside]
  have size : ((first + count : Nat) - (first : Int)).toNat = count := by omega
  rw [size, Int.toNat_natCast, Int.toNat_natCast, List.drop_append_of_le_length (by omega),
    List.take_append_of_le_length (by rw [List.length_drop]; omega)]

variable {left right : Nat}

theorem checkedAdd_eq
    {first second : Int}
    (small : left + right ≤ int64Max)
    (sameFirst : first = left)
    (sameSecond : second = right) :
    checkedAdd first second message = .ok ((left + right : Nat) : Int) := by
  subst sameFirst sameSecond
  refine refuse_bind_eq_ok.mpr ⟨?_, ?_⟩
  · rw [longMax_eq]
    omega
  · rw [Int.natCast_add]
    rfl

theorem checkedAdd_of_small
    (small : left + right ≤ int64Max) :
    Zip.checkedAdd left right message = .ok (left + right) := by
  refine checkedAdd_eq_ok.mpr ⟨?_, rfl⟩
  unfold int64Max at small
  unfold uint64Max
  omega

section Adding

variable {Result Wide : Type} {related : Result → Wide → Prop} {kept : Wide → Prop}

/-- Both readers add numbers that are small. -/
theorem narrows_add
    {first second : Int} {left right : Nat} {message : String}
    {rest : Int → Except Stop Result} {wideRest : Nat → Except Stop Wide}
    (small : left + right ≤ int64Max)
    (sameFirst : first = left)
    (sameSecond : second = right)
    (later : Narrows Reported related kept (rest (left + right : Nat)) (wideRest (left + right))) :
    Narrows Reported related kept (checkedAdd first second message >>= rest)
      (Zip.checkedAdd left right message >>= wideRest) := by
  rw [checkedAdd_eq small sameFirst sameSecond, checkedAdd_of_small small]
  exact later

end Adding

/-! ### Local headers -/

variable {archive : Bytes}

theorem requireName_eq
    {name : Bytes}
    (same : offset = start) :
    requireName archive offset name = Zip.requireName archive start name := by
  induction name generalizing offset start with
  | nil => rfl
  | cons expected rest inductionHypothesis =>
      subst same
      have later : requireName archive ((start : Int) + 1) rest =
          Zip.requireName archive (start + 1) rest := inductionHypothesis rfl
      unfold requireName Zip.requireName
      rw [readByte_eq rfl, later]

/-- The texts of the three fields are those of the first reader. -/
theorem requireZeroOrEqual_eq
    {field : String}
    (own central : Nat)
    (known : field = "CRC" ∨ field = "compressed size" ∨ field = "size") :
    requireZeroOrEqual own central field = Zip.requireZeroOrEqual own central field := by
  unfold requireZeroOrEqual Zip.requireZeroOrEqual refuse
  by_cases fits : own = 0 ∨ own = central
  · rw [if_pos fits, if_neg (by omega)]
  · rw [if_neg fits, if_pos (by omega)]
    rcases known with rfl | rfl | rfl <;> rfl

variable {central : CentralEntry}

theorem descriptorMatches_eq
    (same : offset = start) :
    descriptorMatches archive offset central = Zip.descriptorMatches archive central start := by
  subst same
  unfold descriptorMatches Zip.descriptorMatches
  rw [unsignedInt_eq rfl, unsignedInt_eq (show (start : Int) + 4 = (start + 4 : Nat) from rfl),
    unsignedInt_eq (show (start : Int) + 8 = (start + 8 : Nat) from rfl)]

theorem validateSizes_eq (archive : Bytes) (central : CentralEntry) (start flags : Nat) :
    validateSizes archive central start flags =
      Zip.validateSizes archive central start flags := by
  unfold validateSizes Zip.validateSizes
  rw [unsignedInt_eq (show (start : Int) + 14 = (start + 14 : Nat) from rfl),
    unsignedInt_eq (show (start : Int) + 18 = (start + 18 : Nat) from rfl),
    unsignedInt_eq (show (start : Int) + 22 = (start + 22 : Nat) from rfl)]
  simp only [requireZeroOrEqual_eq _ _ (.inl rfl), requireZeroOrEqual_eq _ _ (.inr (.inl rfl)),
    requireZeroOrEqual_eq _ _ (.inr (.inr rfl))]

/-- Everything that is related is kept. -/
abbrev All {Value : Type} : Value → Prop :=
  fun _ => True

variable {boundary centralOffset : Nat}

theorem validateDescriptor_narrows
    {payloadEnd : Nat}
    (bounded : boundary ≤ int32Max) :
    Narrows Reported (fun stop stop' => stop = ((stop' : Nat) : Int)) All
      (validateDescriptor archive central centralOffset boundary payloadEnd)
      (Zip.validateDescriptor archive central centralOffset boundary payloadEnd) := by
  unfold validateDescriptor Zip.validateDescriptor
  refine .refuse_bind (by omega) fun within => ?_
  have small : payloadEnd ≤ int32Max := by omega
  have available : (boundary : Int) - payloadEnd = (boundary - payloadEnd : Nat) := by omega
  have before : (boundary : Int) < centralOffset ↔ boundary < centralOffset := Int.ofNat_lt
  have few : ∀ count : Nat, ((boundary - payloadEnd : Nat) : Int) < count ↔
      boundary - payloadEnd < count := fun count => Int.ofNat_lt
  have enough : ∀ count : Nat, ((boundary - payloadEnd : Nat) : Int) ≥ count ↔
      boundary - payloadEnd ≥ count := fun count => Int.ofNat_le
  rw [wrapInt_natCast small, available, if_congr before rfl rfl]
  refine .refuse_bind (few 4) fun _ => ?_
  refine .bind_eq (unsignedInt_eq rfl) fun first _ => ?_
  refine .bind_eq ?_ fun unsignedMatches _ => ?_
  · rw [descriptorMatches_eq rfl]
    exact provided_congr (enough 12)
  refine .bind_eq ?_ fun signedMatches _ => ?_
  · rw [descriptorMatches_eq (show (payloadEnd : Int) + 4 = (payloadEnd + 4 : Nat) from rfl)]
    exact provided_congr (and_congr_right' (enough 16))
  refine .refuse_bind Iff.rfl fun _ => ?_
  refine .ite Iff.rfl (fun _ => .ok rfl trivial) fun _ => ?_
  refine .ite Iff.rfl (fun _ => .ok rfl trivial) fun _ => ?_
  refine .ite (and_congr before (or_congr (few 12) (and_congr_right' (few 16))))
    (fun _ => .error _) fun _ => ?_
  refine .ite (and_congr_right' (few 12)) (fun _ => .error _) fun _ => ?_
  exact .ite (and_congr_right' (and_congr (enough 12) (few 16))) (fun _ => .error _)
    fun _ => .error _

/-- What the other reader keeps of a local header. -/
def SameLocal (central : CentralEntry) (own : LocalEntry) (own' : LocalHeaderValidation) : Prop :=
  own.central = central ∧ own.dataOffset = own'.dataOffset ∧ own.entryEnd = own'.entryEnd

theorem validateLocalHeader_narrows
    (array : archive.length ≤ int32Max)
    (smallOffset : SmallOffset central)
    (smallSize : central.compressedSize < 2 ^ 32)
    (bounded : boundary ≤ int32Max) :
    Narrows Reported (SameLocal central) All
      (validateLocalHeader archive central centralOffset boundary)
      (Zip.validateLocalHeader archive central centralOffset boundary) := by
  obtain ⟨unsigned, signed⟩ := smallOffset.toUInt32_eq
  unfold validateLocalHeader Zip.validateLocalHeader
  rw [unsigned, signed, Int.toNat_natCast, intMax_eq]
  generalize central.localHeaderOffset.toNat = offset
  refine .bind_eq (requireRange_eq rfl rfl) fun _ range => ?_
  have inside := requireRange_eq_ok.mp range
  refine .bind_eq (unsignedInt_eq rfl) fun signature _ => ?_
  refine .refuse_bind Iff.rfl fun _ => ?_
  refine .bind_eq (unsignedShort_eq rfl) fun localFlags _ => ?_
  refine .bind_eq (unsignedShort_eq rfl) fun localMethod _ => ?_
  refine .refuse_bind Iff.rfl fun _ => ?_
  refine .bind_eq (unsignedShort_eq rfl) fun nameLength readName => ?_
  refine .bind_eq (unsignedShort_eq rfl) fun extraLength readExtra => ?_
  have shortName := unsignedShort_lt readName
  have shortExtra := unsignedShort_lt readExtra
  refine .refuse_bind Iff.rfl fun _ => ?_
  refine .bind_eq (requireRange_eq rfl rfl) fun _ _ => ?_
  refine .bind_eq (requireName_eq rfl) fun _ _ => ?_
  unfold int32Max at array
  refine narrows_add (by unfold int64Max; omega) rfl rfl ?_
  refine narrows_add (by unfold int64Max; omega) rfl rfl ?_
  refine .refuse_bind (or_congr Int.ofNat_lt Int.ofNat_lt) fun fits => ?_
  rw [not_or, not_lt, not_lt] at fits
  refine .bind_eq (validateSizes_eq _ _ _ _) fun _ _ => ?_
  refine .bind (.provided (fun _ => validateDescriptor_narrows bounded) fun _ => ⟨rfl, trivial⟩)
    (fun _ _ _ _ _ => trivial) fun entryEnd entryEnd' _ _ same _ => ?_
  have data := (wrapInt_natCast fits.2).trans (toInt32_eq fits.2).symm
  refine .ok ⟨rfl, ?_, same⟩ trivial
  rw [data]

/-! ### The directory -/

def SameRecord (record : EndRecord) (record' : Zip.EndRecord) : Prop :=
  record.totalEntries = record'.totalEntries ∧
    record.centralOffset = record'.centralOffset ∧ record.centralEnd = record'.centralEnd

theorem readEndRecord_narrows
    (archive : Bytes) (limits : BoundedZipLimits) (endRecord : Nat) (applyPolicy : Bool) :
    Narrows Reported SameRecord All
      (readEndRecord archive limits endRecord applyPolicy)
      (Zip.readEndRecord archive limits endRecord applyPolicy) := by
  unfold readEndRecord Zip.readEndRecord
  rw [intMax_eq]
  refine .bind_eq (unsignedShort_eq rfl) fun diskNumber _ => ?_
  refine .bind_eq (unsignedShort_eq rfl) fun centralDirectoryDisk _ => ?_
  refine .bind_eq (unsignedShort_eq rfl) fun entriesOnDisk _ => ?_
  refine .bind_eq (unsignedShort_eq rfl) fun totalEntries _ => ?_
  refine .bind_eq (unsignedInt_eq rfl) fun centralSize readSize => ?_
  refine .bind_eq (unsignedInt_eq rfl) fun centralOffset readOffset => ?_
  have := unsignedInt_lt readSize
  have := unsignedInt_lt readOffset
  refine .refuse_bind Iff.rfl fun _ => ?_
  refine .refuse_bind Iff.rfl fun _ => ?_
  refine .refuse_bind Iff.rfl fun _ => ?_
  refine narrows_add (by unfold int64Max; omega) rfl rfl ?_
  refine .refuse_bind (or_congr (not_congr Int.natCast_inj) Int.ofNat_lt) fun _ => ?_
  exact .ok ⟨rfl, rfl, rfl⟩ trivial

/-- The name of an entry that was read can be shown. -/
def DisplayableEntry (platform : Platform) (entry : CentralEntry) : Prop :=
  Displayable platform entry.rawName entry.flags entry.centralExtra

variable {platform : Platform}

/-- A name that is not strict is not shown. -/
theorem not_displayable_of_not_strict
    {rawName centralExtra : Bytes} {flags : Nat}
    (efs : flags &&& efsFlag ≠ 0)
    (notStrict : isStrictUtf8 rawName = false) :
    decode platform rawName flags centralExtra .cp437 = none := by
  unfold decode
  by_cases length : rawName.length = 0 ∨ rawName.length > 0xFFFF
  · rw [if_pos length]
  · rw [if_neg length, if_pos efs]
    have none : decodeUtf8 rawName = none := by
      have := isSome_decodeUtf8 rawName
      rw [notStrict] at this
      simpa using this
    rw [none]
    rfl

variable {applyPolicy : Bool} {limits : BoundedZipLimits} {centralEnd : Nat}

theorem readCentralEntry_narrows
    {cursor : Nat}
    (array : archive.length ≤ int32Max)
    (inside : centralEnd ≤ archive.length) :
    Narrows Reported
      (fun found found' => found.1 = found'.1 ∧ found.2 = ((found'.2 : Nat) : Int))
      (fun found' => DisplayableEntry platform found'.1)
      (readCentralEntry platform archive limits applyPolicy centralEnd cursor)
      (Zip.readCentralEntry archive limits applyPolicy centralEnd cursor) := by
  unfold readCentralEntry Zip.readCentralEntry
  rw [intMax_eq]
  refine .bind_eq (requireRange_eq rfl rfl) fun _ range => ?_
  have cursorInside := requireRange_eq_ok.mp range
  refine .bind_eq (unsignedInt_eq rfl) fun signature _ => ?_
  refine .refuse_bind Iff.rfl fun _ => ?_
  refine .bind_eq (unsignedShort_eq rfl) fun flags _ => ?_
  refine .bind_eq (unsignedShort_eq rfl) fun method _ => ?_
  refine .bind_eq (unsignedShort_eq rfl) fun nameLength readName => ?_
  refine .bind_eq (unsignedShort_eq rfl) fun extraLength readExtra => ?_
  refine .bind_eq (unsignedShort_eq rfl) fun commentLength readComment => ?_
  have := unsignedShort_lt readName
  have := unsignedShort_lt readExtra
  have := unsignedShort_lt readComment
  refine .refuse_bind Iff.rfl fun _ => ?_
  refine .refuse_bind Iff.rfl fun _ => ?_
  refine .bind_eq (unsignedShort_eq rfl) fun diskStart _ => ?_
  refine .refuse_bind Iff.rfl fun _ => ?_
  refine .bind_eq (unsignedInt_eq rfl) fun localOffset _ => ?_
  refine .refuse_bind (or_congr_right Int.ofNat_lt) fun small => ?_
  rw [not_or, not_lt] at small
  have smallArray : archive.length ≤ 2147483647 := array
  refine narrows_add (by unfold int64Max; omega) rfl rfl ?_
  refine .refuse_bind Int.ofNat_lt fun before => ?_
  refine .bind_eq (copyOfRange_eq (by omega) rfl rfl) fun rawName _ => ?_
  refine .bind_eq (copyOfRange_eq (by omega) rfl rfl) fun centralExtra _ => ?_
  refine .refuse_bind Iff.rfl fun _ => ?_
  refine .refuse_bind Iff.rfl fun _ => ?_
  refine .refuse_more_bind (fun ⟨efs, notStrict⟩ => not_displayable_of_not_strict efs notStrict)
    (reports_invalid _) ?_ fun shown => ?_
  · intro hidden result returned kept
    obtain ⟨_, _, returned⟩ := bind_eq_ok.mp returned
    obtain ⟨_, _, returned⟩ := bind_eq_ok.mp returned
    obtain ⟨_, _, returned⟩ := bind_eq_ok.mp returned
    obtain ⟨_, _, returned⟩ := bind_eq_ok.mp returned
    have result := Except.ok.inj returned
    subst result
    exact kept hidden
  refine .bind_eq (unsignedInt_eq rfl) fun crc32 _ => ?_
  refine .bind_eq (unsignedInt_eq rfl) fun compressedSize _ => ?_
  refine .bind_eq (unsignedInt_eq rfl) fun uncompressedSize _ => ?_
  have offset := (wrapInt_natCast small.2).trans (toInt32_eq small.2).symm
  rw [offset]
  refine .bind_eq rfl fun _ _ => ?_
  refine .ok ⟨rfl, ?_⟩ shown
  rw [wrapInt_natCast (by omega)]

theorem readCentralEntries_narrows
    (array : archive.length ≤ int32Max)
    (inside : centralEnd ≤ archive.length)
    (cursor count : Nat) :
    Narrows Reported (· = ·) (fun entries => ∀ entry ∈ entries, DisplayableEntry platform entry)
      (readCentralEntries platform archive limits applyPolicy centralEnd cursor count)
      (Zip.readCentralEntries archive limits applyPolicy centralEnd cursor count) := by
  induction count generalizing cursor with
  | zero =>
      refine .refuse_bind (not_congr Int.natCast_inj) fun _ => ?_
      exact .ok rfl (fun _ member => nomatch member)
  | succ count inductionHypothesis =>
      refine .bind (readCentralEntry_narrows array inside) ?_ ?_
      · rintro ⟨entry, next⟩ entries _ returned kept
        obtain ⟨rest, _, returned⟩ := bind_eq_ok.mp returned
        cases returned
        exact kept entry List.mem_cons_self
      · rintro ⟨entry, next⟩ ⟨entry', next'⟩ _ _ ⟨sameEntry, sameNext⟩ shown
        change entry = entry' at sameEntry
        change next = next' at sameNext
        subst sameEntry sameNext
        refine .bind (inductionHypothesis next') ?_ ?_
        · intro rest entries _ returned kept
          cases returned
          exact fun entry member => kept entry (List.mem_cons_of_mem _ member)
        · rintro rest _ _ _ rfl others
          exact .ok rfl (List.forall_mem_cons.mpr ⟨shown, others⟩)

/-! ### The entries one after another -/

theorem checkedInflated_narrows
    (declared : Nat) (central : CentralEntry) (limits : BoundedZipLimits) :
    Narrows Reported (fun total total' => total = ((total' : Nat) : Int)) All
      (checkedInflated declared central.uncompressedSize limits)
      (addDeclared limits declared central) := by
  have bounded := limits.inflated.2
  by_cases small : declared + central.uncompressedSize ≤ int64Max
  · refine narrows_add small rfl rfl ?_
    refine .refuse_bind Int.ofNat_lt fun _ => ?_
    exact .ok rfl trivial
  · have overflows :
        checkedInflated declared central.uncompressedSize limits =
          .error (invalid "ZIP inflated total overflows") := by
      unfold checkedInflated checkedAdd
      rw [longMax_eq]
      have stops : refuse ((declared : Int) < 0 ∨ (central.uncompressedSize : Int) < 0 ∨
          (declared : Int) > int64Max - central.uncompressedSize)
          (invalid "ZIP inflated total overflows") =
            .error (invalid "ZIP inflated total overflows") := if_pos (by omega)
      rw [stops]
      rfl
    rw [overflows]
    cases shape : addDeclared limits declared central with
    | error _ => exact .inr (reports_invalid _)
    | ok total =>
        obtain ⟨sum, added, returned⟩ := bind_eq_ok.mp shape
        obtain ⟨within, _⟩ := refuse_bind_eq_ok.mp returned
        obtain ⟨_, rfl⟩ := checkedAdd_eq_ok.mp added
        omega

variable {entries : List CentralEntry}

theorem descriptorBoundary_eq
    (small : ∀ entry ∈ entries, SmallOffset entry) :
    descriptorBoundary centralOffset entries =
      (Zip.descriptorBoundary centralOffset entries : Nat) := by
  cases entries with
  | nil => rfl
  | cons next rest =>
      obtain ⟨unsigned, signed⟩ := (small next List.mem_cons_self).toUInt32_eq
      change min next.localHeaderOffset (centralOffset : Int) =
        (min (toUInt32 next.localHeaderOffset) centralOffset : Nat)
      rw [unsigned]
      omega

/-- Before the first entry, the other reader has a number that is less than any offset. -/
def previousEnd : Option Nat → Int
  | none => -1
  | some previous => previous

theorem validateLocals_narrows
    (array : archive.length ≤ int32Max)
    (bounded : centralOffset ≤ int32Max)
    (previousEntryEnd : Option Nat)
    (declared : Nat)
    (read : ∀ entry ∈ entries, ReadUnder limits applyPolicy entry) :
    Narrows Reported
      (fun locals locals' =>
        locals.map LocalEntry.central = entries ∧
          locals.map LocalEntry.dataOffset = locals'.map LocalHeaderValidation.dataOffset)
      All
      (validateLocals archive limits applyPolicy centralOffset (previousEnd previousEntryEnd)
        declared entries)
      (Zip.validateLocals archive limits applyPolicy centralOffset previousEntryEnd declared
        entries) := by
  induction entries generalizing previousEntryEnd declared with
  | nil => exact .ok ⟨rfl, rfl⟩ trivial
  | cons central rest inductionHypothesis =>
      rw [List.forall_mem_cons] at read
      obtain ⟨readOwn, readRest⟩ := read
      have small := fun entry member => (readRest entry member).small
      obtain ⟨unsigned, signed⟩ := readOwn.small.toUInt32_eq
      unfold validateLocals Zip.validateLocals
      rw [descriptorBoundary_eq small]
      refine .refuse_bind ?_ fun _ => ?_
      · rw [unsigned, signed]
        cases previousEntryEnd with
        | none => simp [previousEnd]
        | some previous => simp [previousEnd]
      refine .bind (validateLocalHeader_narrows array readOwn.small readOwn.word
        (Nat.le_trans (descriptorBoundary_le _ _) bounded)) (fun _ _ _ _ _ => trivial) ?_
      rintro own own' _ _ ⟨sameCentral, sameData, sameEnd⟩ _
      rw [sameEnd]
      refine .bind (.provided (fun _ => checkedInflated_narrows _ _ _)
        fun _ => ⟨rfl, trivial⟩) (fun _ _ _ _ _ => trivial) ?_
      rintro total total' _ _ rfl _
      refine .bind (inductionHypothesis (some own'.entryEnd) total' readRest)
        (fun _ _ _ _ _ => trivial) ?_
      rintro others others' _ _ ⟨sameCentrals, sameOffsets⟩ _
      refine .ok ⟨?_, ?_⟩ trivial
      · rw [List.map_cons, sameCentral, sameCentrals]
      · rw [List.map_cons, List.map_cons, sameData, sameOffsets]

/-! ### One record of the end -/

/-- The archive of the other reader has the same entries, with the data at the same offsets. -/
structure SameArchive
    (bytes : Bytes)
    (limits : BoundedZipLimits)
    (archive : Archive)
    (parsed : ParsedEntries) : Prop where
  sameBytes : archive.physicalBytes = bytes
  entries : archive.entries.map Entry.shown = parsed.entries
  dataOffsets : archive.entries.map (fun entry => entry.own.dataOffset) = parsed.dataOffsets
  each : ∀ entry ∈ archive.entries, entry.physicalBytes = bytes ∧ entry.limits = limits

/-- All names of an archive can be shown. -/
def DisplayableEntries (platform : Platform) (entries : List BoundedZipEntry) : Prop :=
  ∀ entry ∈ entries, Displayable platform entry.rawName entry.flags entry.centralExtra

theorem Entry.isDirectory_eq (entry : Entry) :
    entry.isDirectory = entry.own.central.toBoundedZipEntry.isDirectory := by
  unfold Entry.isDirectory CentralEntry.toBoundedZipEntry
  cases entry.own.central.rawName.getLast? with
  | none => rfl
  | some last => rfl

theorem Entry.shown_eq (entry : Entry) :
    entry.shown = entry.own.central.toBoundedZipEntry := by
  unfold Entry.shown
  rw [Entry.isDirectory_eq]
  rfl

theorem sortEntries_eq (entries : List CentralEntry) :
    sortEntries entries = Zip.sortEntries entries :=
  rfl

theorem startsAtZero_eq {centralOffset : Int} {offset : Nat} (same : centralOffset = offset)
    (entries : List CentralEntry) :
    startsAtZero centralOffset entries = Zip.startsAtZero offset entries := by
  subst same
  cases entries with
  | nil => simp [startsAtZero, Zip.startsAtZero]
  | cons first rest => rfl

/-- The entries that a record gives are those that were read. -/
theorem entries_of_parse
    {directory : List CentralEntry} {parsed : ParsedEntries}
    (returned :
      (do
        let locals ← Zip.validateLocals archive limits applyPolicy centralOffset none 0
          (Zip.sortEntries directory)
        refuse (Zip.startsAtZero centralOffset (Zip.sortEntries directory) = false)
          (invalid "ZIP prefix bytes are unsupported")
        return {
          entries := (Zip.sortEntries directory).map CentralEntry.toBoundedZipEntry
          dataOffsets := locals.map LocalHeaderValidation.dataOffset }) = Except.ok parsed) :
    parsed.entries = (Zip.sortEntries directory).map CentralEntry.toBoundedZipEntry := by
  obtain ⟨_, _, returned⟩ := bind_eq_ok.mp returned
  obtain ⟨_, returned⟩ := refuse_bind_eq_ok.mp returned
  cases returned
  rfl

theorem fromBytesAtEndRecord_narrows
    {endRecord : Nat}
    (array : archive.length ≤ int32Max)
    (inside : endRecord ≤ archive.length) :
    Narrows Reported (SameArchive archive limits)
      (fun parsed => DisplayableEntries platform parsed.entries)
      (fromBytesAtEndRecord platform archive limits endRecord applyPolicy)
      (parseEntriesAtEndRecord archive limits endRecord applyPolicy) := by
  refine .bind (readEndRecord_narrows _ _ _ _) (fun _ _ _ _ _ => trivial) ?_
  rintro ⟨totalEntries, centralOffset, centralEnd⟩ record _ readRecord ⟨sameTotal, sameOffset,
    sameEnd⟩ _
  change totalEntries = _ at sameTotal
  change centralOffset = _ at sameOffset
  change centralEnd = _ at sameEnd
  subst sameTotal sameOffset sameEnd
  obtain ⟨_, ends, before, _⟩ := readEndRecord_returns readRecord
  have bounded : record.centralOffset ≤ int32Max := by omega
  have wrapped := wrapInt_natCast bounded
  simp only [wrapped]
  refine .bind (readCentralEntries_narrows array (ends ▸ inside) _ _) ?_ ?_
  · intro directory parsed _ returned kept entry member
    have same := entries_of_parse returned
    refine kept entry.toBoundedZipEntry ?_
    rw [same]
    exact List.mem_map_of_mem (mem_sortEntries.mpr member)
  rintro directory _ _ readDirectory rfl shown
  have sortedRead : ∀ entry ∈ Zip.sortEntries directory, ReadUnder limits applyPolicy entry :=
    fun entry member =>
      (readCentralEntries_returns readDirectory).2 entry (mem_sortEntries.mp member)
  refine .bind (validateLocals_narrows array bounded none 0 sortedRead)
    (fun _ _ _ _ _ => trivial) ?_
  rintro locals locals' _ _ ⟨sameCentrals, sameOffsets⟩ _
  rw [startsAtZero_eq rfl]
  refine .refuse_bind Iff.rfl fun _ => ?_
  refine .ok ?_ ?_
  · exact {
      sameBytes := rfl
      entries := by
        rw [List.map_map]
        change locals.map (fun own => Entry.shown _) = _
        simp only [Entry.shown_eq]
        rw [← sortEntries_eq, ← sameCentrals, List.map_map]
        rfl
      dataOffsets := by
        rw [List.map_map]
        exact sameOffsets
      each := by
        intro entry member
        obtain ⟨own, _, rfl⟩ := List.mem_map.mp member
        exact ⟨rfl, rfl⟩ }
  · intro entry member
    obtain ⟨central, there, rfl⟩ := List.mem_map.mp member
    exact shown central (mem_sortEntries.mp there)

end FlyNes.Zip.Port
