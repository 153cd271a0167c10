import FlyNes.ZipLimits
import FlyNes.ZipPayloadsAgree

namespace FlyNes.Zip.Port

open ByteString Checking

/-!
# Both readers of ZIP files

Both readers look at the same records of the end, and both need a single one of them to give
an archive.  The other reader refuses a record where a name of the archive would be shown as
blanks.  So they differ where such a record is the only one, which the first reader accepts
alone, and where the other reader is left with a single one after it has refused all others.
-/

/-! ### The records of the end -/

theorem isEndRecord_eq {archive : Bytes} {offset : Int} {start : Nat} (same : offset = start) :
    isEndRecord archive offset = Zip.isEndRecord archive start := by
  subst same
  unfold isEndRecord Zip.isEndRecord
  rw [unsignedInt_eq rfl, unsignedShort_eq (show (start : Int) + 20 = (start + 20 : Nat) from rfl)]
  have reaches : ∀ commentLength : Nat,
      ((start : Int) + 22 + commentLength == (archive.length : Int)) =
        (start + 22 + commentLength == archive.length) := by
    intro commentLength
    rw [Bool.eq_iff_iff, beq_iff_eq, beq_iff_eq]
    omega
  simp only [reaches]

theorem scanEndRecords_narrows
    {archive : Bytes} {offset distance : Nat}
    (enough : distance ≤ offset) :
    Narrows Reported (fun found found' => found = found'.map Nat.cast) All
      (scanEndRecords archive offset (distance + 1))
      (Zip.scanEndRecords archive offset distance) := by
  induction distance generalizing offset with
  | zero =>
      refine .bind_eq (isEndRecord_eq rfl) fun found _ => ?_
      refine .ok ?_ trivial
      cases found <;> rfl
  | succ distance inductionHypothesis =>
      refine .bind_eq (isEndRecord_eq rfl) fun found _ => ?_
      have before : (offset : Int) - 1 = (offset - 1 : Nat) := by omega
      rw [before]
      refine .bind (inductionHypothesis (by omega)) (fun _ _ _ _ _ => trivial) ?_
      rintro earlier earlier' _ _ rfl _
      refine .ok ?_ trivial
      cases found <;> rfl

theorem findEndRecords_narrows (archive : Bytes) :
    Narrows Reported (fun found found' => found = found'.map Nat.cast) All
      (findEndRecords archive) (Zip.findEndRecords archive) := by
  refine .refuse_bind Iff.rfl fun long => ?_
  have last : (archive.length : Int) - 22 = (archive.length - 22 : Nat) := by omega
  have turns :
      (((archive.length - 22 : Nat) : Int) -
          max 0 (((archive.length - 22 : Nat) : Int) - 0xFFFF) + 1).toNat =
        archive.length - 22 - earliestEndRecord archive + 1 := by
    unfold earliestEndRecord
    split <;> omega
  rw [last]
  dsimp only
  rw [turns]
  refine .bind (scanEndRecords_narrows (Nat.sub_le _ _)) (fun _ _ _ _ _ => trivial) ?_
  rintro found found' _ _ rfl _
  refine .refuse_bind List.map_eq_nil_iff fun _ => ?_
  exact .ok rfl trivial

/-! ### What a reader accepts -/

section Accepting

variable {platform : Platform} {bytes : Bytes} {limits : BoundedZipLimits}

/-- A record gives an archive under a policy. -/
def WithinLimits (bytes : Bytes) (limits : BoundedZipLimits) (endRecord : Nat) : Prop :=
  ∃ parsed, parseEntriesAtEndRecord bytes limits endRecord true = .ok parsed

/-- All names of the archive that a record gives can be shown. -/
def NamesShown
    (platform : Platform)
    (bytes : Bytes)
    (limits : BoundedZipLimits)
    (endRecord : Nat) : Prop :=
  ∀ parsed, parseEntriesAtEndRecord bytes limits endRecord false = .ok parsed →
    DisplayableEntries platform parsed.entries

/-- A record that gives an archive to the other reader, under no policy. -/
def ShownStructural
    (platform : Platform)
    (bytes : Bytes)
    (limits : BoundedZipLimits)
    (endRecord : Nat) : Prop :=
  Structural bytes limits endRecord ∧ NamesShown platform bytes limits endRecord

variable {endRecord : Nat}

theorem inside_of_candidate (candidate : Candidate bytes endRecord) :
    endRecord ≤ bytes.length := by
  obtain ⟨commentLength, _, _, ends⟩ := candidate
  omega

theorem openBoundedZip_eq_ok {archive : BoundedZipArchive} :
    openBoundedZip bytes limits = .ok archive ↔
      bytes.length ≤ limits.maxPackageBytes ∧
        ∃ endRecord parsed, Only (Structural bytes limits) endRecord ∧
          parseEntriesAtEndRecord bytes limits endRecord true = .ok parsed ∧
          archive = {
            limits
            physicalBytes := bytes
            entries := parsed.entries
            dataOffsets := parsed.dataOffsets } := by
  constructor
  · intro opened
    obtain ⟨small, opened⟩ := refuse_bind_eq_ok.mp opened
    obtain ⟨parsed, returned, opened⟩ := bind_eq_ok.mp opened
    cases opened
    obtain ⟨endRecord, only, valid⟩ := parseEntries_returns returned
    exact ⟨Nat.le_of_not_lt small, endRecord, parsed, only, valid, rfl⟩
  · rintro ⟨small, endRecord, parsed, only, valid, rfl⟩
    obtain ⟨candidates, found⟩ := findEndRecords_total only.1.1
    have member := findEndRecords_returns found
    have reports : ∀ endRecord ∈ candidates, Avoids Unreported
        (parseEntriesAtEndRecord bytes limits endRecord false) := fun endRecord there =>
      parseEntriesAtEndRecord_reports (inside_of_candidate ((member endRecord).mp there)) _ _
    refine refuse_bind_eq_ok.mpr ⟨Nat.not_lt.mpr small, bind_eq_ok.mpr ⟨parsed, ?_, rfl⟩⟩
    refine bind_eq_ok.mpr ⟨candidates, found, ?_⟩
    refine (parseAtEndRecords_eq_ok (findEndRecords_nodup found) reports).mpr
      ⟨endRecord, ?_, valid⟩
    simp only [member]
    exact only

theorem valid_iff
    (array : bytes.length ≤ int32Max)
    (candidate : Candidate bytes endRecord) :
    Valid (fromBytesAtEndRecord platform bytes limits) (endRecord : Int) ↔
      Valid (parseEntriesAtEndRecord bytes limits) endRecord ∧
        NamesShown platform bytes limits endRecord := by
  have narrows := @fromBytesAtEndRecord_narrows bytes platform false limits endRecord array
    (inside_of_candidate candidate)
  constructor
  · rintro ⟨archive, returned⟩
    obtain ⟨parsed, valid, _, shown⟩ := narrows.returns returned
    refine ⟨⟨parsed, valid⟩, fun parsed' valid' => ?_⟩
    rw [valid] at valid'
    cases valid'
    exact shown
  · rintro ⟨⟨parsed, valid⟩, shown⟩
    obtain ⟨archive, returned, _⟩ := narrows.of_returns valid (shown parsed valid)
    exact ⟨archive, returned⟩

/-- The records of the other reader are those of the first. -/
theorem only_cast_iff
    {candidates : List Nat} {holds : Int → Prop} {holds' : Nat → Prop}
    (same : ∀ endRecord ∈ candidates, holds endRecord ↔ holds' endRecord)
    {record : Int} :
    Only (fun other => other ∈ candidates.map Nat.cast ∧ holds other) record ↔
      ∃ endRecord : Nat, record = endRecord ∧
        Only (fun other => other ∈ candidates ∧ holds' other) endRecord := by
  constructor
  · rintro ⟨⟨member, holdsRecord⟩, only⟩
    obtain ⟨endRecord, there, rfl⟩ := List.mem_map.mp member
    refine ⟨endRecord, rfl, ⟨there, (same endRecord there).mp holdsRecord⟩, ?_⟩
    rintro other ⟨there', holdsOther⟩
    have := only other ⟨List.mem_map_of_mem there', (same other there').mpr holdsOther⟩
    exact Int.natCast_inj.mp this
  · rintro ⟨endRecord, rfl, ⟨there, holdsRecord⟩, only⟩
    refine ⟨⟨List.mem_map_of_mem there, (same endRecord there).mpr holdsRecord⟩, ?_⟩
    rintro other ⟨member, holdsOther⟩
    obtain ⟨other, there', rfl⟩ := List.mem_map.mp member
    rw [only other ⟨there', (same other there').mp holdsOther⟩]

theorem fromBytes_eq_ok {archive : SizedBytes} {opened : Archive} :
    fromBytes platform archive limits = .ok opened ↔
      archive.bytes.length ≤ limits.maxPackageBytes ∧
        ∃ endRecord, Only (ShownStructural platform archive.bytes limits) endRecord ∧
          fromBytesAtEndRecord platform archive.bytes limits (endRecord : Nat) true =
            .ok opened := by
  have records : ∀ {candidates : List Nat}, Zip.findEndRecords archive.bytes = .ok candidates →
      (parseAtEndRecords (fromBytesAtEndRecord platform archive.bytes limits)
          (candidates.map Nat.cast) = .ok opened ↔
        ∃ endRecord, Only (ShownStructural platform archive.bytes limits) endRecord ∧
          fromBytesAtEndRecord platform archive.bytes limits (endRecord : Nat) true =
            .ok opened) := by
    intro candidates found
    have member := findEndRecords_returns found
    have apart : (candidates.map (Nat.cast : Nat → Int)).Nodup :=
      (findEndRecords_nodup found).map fun _ _ same => Int.natCast_inj.mp same
    rw [parseAtEndRecords_eq_ok apart ?_]
    · have same : ∀ endRecord ∈ candidates,
          Valid (fromBytesAtEndRecord platform archive.bytes limits) (endRecord : Int) ↔
            Valid (parseEntriesAtEndRecord archive.bytes limits) endRecord ∧
              NamesShown platform archive.bytes limits endRecord :=
        fun endRecord there => valid_iff archive.sized ((member endRecord).mp there)
      have shown : (fun other => Candidate archive.bytes other ∧
          Valid (parseEntriesAtEndRecord archive.bytes limits) other ∧
            NamesShown platform archive.bytes limits other) =
          ShownStructural platform archive.bytes limits :=
        funext fun _ => propext and_assoc.symm
      simp only [only_cast_iff same, member, shown]
      constructor
      · rintro ⟨_, ⟨endRecord, rfl, only⟩, returned⟩
        exact ⟨endRecord, only, returned⟩
      · rintro ⟨endRecord, only, returned⟩
        exact ⟨endRecord, ⟨endRecord, rfl, only⟩, returned⟩
    · intro record there
      obtain ⟨endRecord, among, rfl⟩ := List.mem_map.mp there
      have inside := inside_of_candidate ((member endRecord).mp among)
      exact (fromBytesAtEndRecord_narrows archive.sized inside).avoids
        (parseEntriesAtEndRecord_reports inside _ _) fun _ reported => reported
  constructor
  · intro returned
    obtain ⟨small, returned⟩ := refuse_bind_eq_ok.mp returned
    obtain ⟨_, found, returned⟩ := bind_eq_ok.mp returned
    obtain ⟨candidates, found', rfl, _⟩ := (findEndRecords_narrows archive.bytes).returns found
    exact ⟨Nat.le_of_not_lt small, (records found').mp returned⟩
  · rintro ⟨small, endRecord, only, returned⟩
    obtain ⟨candidates, found⟩ := findEndRecords_total only.1.1.1
    obtain ⟨_, found', rfl⟩ :=
      (findEndRecords_narrows archive.bytes).of_returns found trivial
    refine refuse_bind_eq_ok.mpr ⟨Nat.not_lt.mpr small, bind_eq_ok.mpr ⟨_, found', ?_⟩⟩
    exact (records found).mpr ⟨endRecord, only, returned⟩

end Accepting

/-! ### Agreement -/

/-- Two opened archives have the same entries in the same order, with the same bytes to
decode their names from, and reading an entry of one returns what reading it from the other
returns. -/
structure SameContents (archive : Archive) (archive' : BoundedZipArchive) : Prop where
  entries : archive.entries.map Entry.shown = archive'.entries
  payloads : ∀ entry ∈ archive.entries, ∀ (zlib : Zlib) (turns : Nat) (payload : Bytes),
    entry.readPayload (.ofZlib zlib) turns = .ok payload ↔
      readBoundedZipPayload zlib turns archive' entry.shown.rawName
        entry.shown.localHeaderOffset = .ok payload

/-- Both readers accept the bytes, with the same contents, or none of them does. -/
structure ReadersAgree
    (platform : Platform)
    (archive : SizedBytes)
    (limits : BoundedZipLimits) : Prop where
  accept : (∃ opened, fromBytes platform archive limits = .ok opened) ↔
    ∃ opened, openBoundedZip archive.bytes limits = .ok opened
  same : ∀ opened opened', fromBytes platform archive limits = .ok opened →
    openBoundedZip archive.bytes limits = .ok opened' → SameContents opened opened'

/-- No record within the limits is the only one because of names that cannot be shown, or is
the only one with such a name. -/
def NamesDoNotDecide
    (platform : Platform)
    (bytes : Bytes)
    (limits : BoundedZipLimits) : Prop :=
  bytes.length ≤ limits.maxPackageBytes →
    ∀ endRecord, WithinLimits bytes limits endRecord →
      (Only (Structural bytes limits) endRecord ↔
        Only (ShownStructural platform bytes limits) endRecord)

variable {archive : SizedBytes} {endRecord : Nat} {limits : BoundedZipLimits} {platform : Platform}

theorem fromBytesAtEndRecord_of_shown
    (shown : ShownStructural platform archive.bytes limits endRecord)
    (within : WithinLimits archive.bytes limits endRecord) :
    ∃ opened,
      fromBytesAtEndRecord platform archive.bytes limits (endRecord : Nat) true = .ok opened := by
  obtain ⟨⟨candidate, _⟩, names⟩ := shown
  obtain ⟨parsed, valid⟩ := within
  have displayable := names parsed (parseEntriesAtEndRecord_lenient endRecord parsed valid)
  obtain ⟨opened, returned, _⟩ :=
    (fromBytesAtEndRecord_narrows archive.sized (inside_of_candidate candidate)).of_returns valid
      displayable
  exact ⟨opened, returned⟩

variable {opened : Archive}

theorem withinLimits_of_fromBytesAtEndRecord
    (candidate : Candidate archive.bytes endRecord)
    (returned : fromBytesAtEndRecord platform archive.bytes limits (endRecord : Nat) true =
      .ok opened) :
    ∃ parsed, parseEntriesAtEndRecord archive.bytes limits endRecord true = .ok parsed ∧
      SameArchive archive.bytes limits opened parsed := by
  obtain ⟨parsed, valid, same, _⟩ :=
    (fromBytesAtEndRecord_narrows archive.sized (inside_of_candidate candidate)).returns returned
  exact ⟨parsed, valid, same⟩

/-- What both readers accept has the same contents. -/
theorem sameContents
    {opened' : BoundedZipArchive}
    (returned : fromBytes platform archive limits = .ok opened)
    (returned' : openBoundedZip archive.bytes limits = .ok opened') :
    SameContents opened opened' := by
  have safe := openBoundedZip_returns returned'
  obtain ⟨_, endRecord, shown, valid⟩ := fromBytes_eq_ok.mp returned
  obtain ⟨_, endRecord', parsed', only, valid', rfl⟩ := openBoundedZip_eq_ok.mp returned'
  have same := only.2 endRecord shown.1.1
  subst same
  obtain ⟨parsed, valid'', archives⟩ :=
    withinLimits_of_fromBytesAtEndRecord shown.1.1.1 valid
  rw [valid'] at valid''
  cases valid''
  refine { entries := archives.entries, payloads := ?_ }
  intro entry member zlib turns payload
  obtain ⟨index, below, there⟩ := List.mem_iff_getElem.mp member
  obtain ⟨bytes, sameLimits⟩ := archives.each entry member
  have place : opened.entries[index]? = some entry := by
    rw [List.getElem?_eq_getElem below, there]
  have shown' : parsed'.entries[index]? = some entry.shown := by
    rw [← archives.entries, List.getElem?_map, place]
    rfl
  have dataOffset : parsed'.dataOffsets[index]? = some entry.own.dataOffset := by
    rw [← archives.dataOffsets, List.getElem?_map, place]
    rfl
  exact readPayload_iff safe ⟨shown', dataOffset, bytes, sameLimits⟩ zlib turns payload

theorem zip_readers_agree_iff
    (platform : Platform)
    (archive : SizedBytes)
    (limits : BoundedZipLimits) :
    ReadersAgree platform archive limits ↔ NamesDoNotDecide platform archive.bytes limits := by
  constructor
  · intro agree small endRecord within
    obtain ⟨parsed, valid⟩ := id within
    constructor
    · intro only
      have accepted := openBoundedZip_eq_ok.mpr ⟨small, endRecord, parsed, only, valid, rfl⟩
      obtain ⟨_, returned⟩ := agree.accept.mpr ⟨_, accepted⟩
      obtain ⟨_, endRecord', shown, _⟩ := fromBytes_eq_ok.mp returned
      exact only.2 endRecord' shown.1.1 ▸ shown
    · intro shown
      obtain ⟨opened, returned⟩ := fromBytesAtEndRecord_of_shown shown.1 within
      have accepted := fromBytes_eq_ok.mpr ⟨small, endRecord, shown, returned⟩
      obtain ⟨_, returned'⟩ := agree.accept.mp ⟨_, accepted⟩
      obtain ⟨_, endRecord', _, only, _⟩ := openBoundedZip_eq_ok.mp returned'
      exact only.2 endRecord shown.1.1 ▸ only
  · intro names
    refine { accept := ?_, same := fun _ _ => sameContents }
    constructor
    · rintro ⟨opened, returned⟩
      obtain ⟨small, endRecord, shown, returned⟩ := fromBytes_eq_ok.mp returned
      obtain ⟨parsed, valid, _⟩ :=
        withinLimits_of_fromBytesAtEndRecord shown.1.1.1 returned
      have only := (names small endRecord ⟨parsed, valid⟩).mpr shown
      exact ⟨_, openBoundedZip_eq_ok.mpr ⟨small, endRecord, parsed, only, valid, rfl⟩⟩
    · rintro ⟨opened, returned⟩
      obtain ⟨small, endRecord, parsed, only, valid, _⟩ := openBoundedZip_eq_ok.mp returned
      have within : WithinLimits archive.bytes limits endRecord := ⟨parsed, valid⟩
      have shown := (names small endRecord within).mp only
      obtain ⟨opened, returned⟩ := fromBytesAtEndRecord_of_shown shown.1 within
      exact ⟨opened, fromBytes_eq_ok.mpr ⟨small, endRecord, shown, returned⟩⟩

/-- A platform whose character set agrees with ASCII. -/
def asciiPlatform : Platform where
  ibm437 := UInt8.toNat
  gb18030 _ := none
  crc32 _ := 0

/-- One entry, which is stored; its name is a blank. -/
def blankNameZip : SizedBytes where
  bytes :=
    [0x50, 0x4B, 0x03, 0x04, 0x14, 0x00, 0x00, 0x00, 0x00, 0x00, 0x00, 0x00, 0x00, 0x00,
      0xAC, 0x2A, 0x93, 0xD8, 0x02, 0x00, 0x00, 0x00, 0x02, 0x00, 0x00, 0x00, 0x01, 0x00,
      0x00, 0x00, 0x20, 0x68, 0x69, 0x50, 0x4B, 0x01, 0x02, 0x14, 0x00, 0x14, 0x00, 0x00,
      0x00, 0x00, 0x00, 0x00, 0x00, 0x00, 0x00, 0xAC, 0x2A, 0x93, 0xD8, 0x02, 0x00, 0x00,
      0x00, 0x02, 0x00, 0x00, 0x00, 0x01, 0x00, 0x00, 0x00, 0x00, 0x00, 0x00, 0x00, 0x00,
      0x00, 0x00, 0x00, 0x00, 0x00, 0x00, 0x00, 0x00, 0x00, 0x20, 0x50, 0x4B, 0x05, 0x06,
      0x00, 0x00, 0x00, 0x00, 0x01, 0x00, 0x01, 0x00, 0x2F, 0x00, 0x00, 0x00, 0x21, 0x00,
      0x00, 0x00, 0x00, 0x00]
  sized := by decide

/-- The first reader accepts an entry with a blank for a name, the other one does not. -/
theorem blank_name_divides_readers :
    ¬∀ platform archive limits, ReadersAgree platform archive limits := by
  intro agree
  have accepted : (openBoundedZip blankNameZip.bytes .defaults).toOption.isSome = true := by
    decide +kernel
  have refused :
      (fromBytes asciiPlatform blankNameZip .defaults).toOption.isSome = false := by
    decide +kernel
  cases shape : openBoundedZip blankNameZip.bytes .defaults with
  | error stop =>
      rw [shape] at accepted
      cases accepted
  | ok opened =>
      obtain ⟨opened', returned⟩ :=
        (agree asciiPlatform blankNameZip .defaults).accept.mpr ⟨opened, shape⟩
      rw [returned] at refused
      cases refused

end FlyNes.Zip.Port
