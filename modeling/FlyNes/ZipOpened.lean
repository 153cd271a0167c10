import FlyNes.ZipLayout

namespace FlyNes.Zip

open ByteString Checking

/-!
# Archives that were opened

What opening a file has found: a record of the end, entries within the limits, and a
layout of them.  Reading an entry of such an archive is safe, whatever the library that
inflates reports.
-/

/-! ### The directory -/

/-- What the loop over the directory has checked of an entry. -/
structure ReadUnder
    (limits : BoundedZipLimits)
    (applyPolicy : Bool)
    (entry : CentralEntry) : Prop where
  small : SmallOffset entry
  word : entry.compressedSize < 2 ^ 32
  allowed : applyPolicy = true → AllowedEntry limits entry.toBoundedZipEntry

variable {limits : BoundedZipLimits} {entry : CentralEntry}

theorem validateRatio_returns
    (checked : validateRatio entry limits = .ok ()) :
    entry.uncompressedSize ≤ limits.ratioGuardThresholdBytes ∨
      0 < entry.compressedSize ∧
        entry.uncompressedSize ≤ entry.compressedSize * limits.maxCompressionRatio := by
  unfold validateRatio at checked
  split at checked
  · next below => exact .inl below
  · have within := refuse_eq_ok.mp checked
    rw [not_or, Nat.not_lt] at within
    exact .inr ⟨Nat.pos_of_ne_zero within.1, within.2⟩

variable {bytes : Bytes}

theorem length_of_copyRange
    {range : Bytes} {start length : Nat}
    (copied : copyRange bytes start length = .ok range) :
    range.length = length := by
  obtain ⟨inside, rfl⟩ := copyRange_eq_ok.mp copied
  rw [List.length_take, List.length_drop]
  omega

variable {applyPolicy : Bool} {archive : Bytes} {centralEnd cursor : Nat}

theorem readCentralEntry_returns
    {next : Nat}
    (read :
      readCentralEntry archive limits applyPolicy centralEnd cursor = .ok (entry, next)) :
    ReadUnder limits applyPolicy entry := by
  unfold readCentralEntry at read
  obtain ⟨⟨⟩, _, read⟩ := bind_eq_ok.mp read
  obtain ⟨signature, _, read⟩ := bind_eq_ok.mp read
  obtain ⟨_, read⟩ := refuse_bind_eq_ok.mp read
  obtain ⟨flags, _, read⟩ := bind_eq_ok.mp read
  obtain ⟨method, _, read⟩ := bind_eq_ok.mp read
  obtain ⟨nameLength, _, read⟩ := bind_eq_ok.mp read
  obtain ⟨extraLength, _, read⟩ := bind_eq_ok.mp read
  obtain ⟨commentLength, _, read⟩ := bind_eq_ok.mp read
  obtain ⟨named, read⟩ := refuse_bind_eq_ok.mp read
  obtain ⟨shortName, read⟩ := refuse_bind_eq_ok.mp read
  obtain ⟨diskStart, _, read⟩ := bind_eq_ok.mp read
  obtain ⟨_, read⟩ := refuse_bind_eq_ok.mp read
  obtain ⟨localOffset, _, read⟩ := bind_eq_ok.mp read
  obtain ⟨smallOffset, read⟩ := refuse_bind_eq_ok.mp read
  obtain ⟨centralEntryEnd, _, read⟩ := bind_eq_ok.mp read
  obtain ⟨_, read⟩ := refuse_bind_eq_ok.mp read
  obtain ⟨rawName, copied, read⟩ := bind_eq_ok.mp read
  obtain ⟨centralExtra, _, read⟩ := bind_eq_ok.mp read
  obtain ⟨clear, read⟩ := refuse_bind_eq_ok.mp read
  obtain ⟨supported, read⟩ := refuse_bind_eq_ok.mp read
  obtain ⟨_, read⟩ := refuse_bind_eq_ok.mp read
  obtain ⟨crc32, _, read⟩ := bind_eq_ok.mp read
  obtain ⟨compressedSize, readCompressed, read⟩ := bind_eq_ok.mp read
  obtain ⟨uncompressedSize, _, read⟩ := bind_eq_ok.mp read
  obtain ⟨⟨⟩, ratio, read⟩ := bind_eq_ok.mp read
  have result := (Prod.mk.inj (Except.ok.inj read)).1
  subst result
  rw [not_or, Nat.not_lt] at smallOffset
  refine ⟨⟨localOffset, smallOffset.2, rfl⟩, unsignedInt_lt readCompressed, ?_⟩
  rintro rfl
  have length := length_of_copyRange copied
  simp only [true_and, not_lt, not_not, not_and, ne_eq] at shortName clear supported
  rcases provided_eq_ok.mp ratio with ⟨_, ratio⟩ | ⟨absurd, _⟩
  · exact {
      named := fun empty => named (length ▸ List.length_eq_zero_iff.mpr empty)
      name := length ▸ shortName
      clear := clear
      method := Or.imp_right supported (Decidable.em (method = 0))
      ratio := validateRatio_returns ratio }
  · exact (absurd rfl).elim

variable {entries : List CentralEntry}

theorem readCentralEntries_returns
    {count : Nat}
    (read :
      readCentralEntries archive limits applyPolicy centralEnd cursor count = .ok entries) :
    entries.length = count ∧ ∀ entry ∈ entries, ReadUnder limits applyPolicy entry := by
  induction count generalizing cursor entries with
  | zero =>
      obtain ⟨_, read⟩ := refuse_bind_eq_ok.mp read
      cases read
      exact ⟨rfl, fun _ member => nomatch member⟩
  | succ count inductionHypothesis =>
      obtain ⟨⟨entry, next⟩, readOne, read⟩ := bind_eq_ok.mp read
      obtain ⟨rest, readRest, read⟩ := bind_eq_ok.mp read
      cases read
      obtain ⟨length, others⟩ := inductionHypothesis readRest
      exact ⟨congrArg (· + 1) length,
        List.forall_mem_cons.mpr ⟨readCentralEntry_returns readOne, others⟩⟩

theorem mem_sortEntries :
    entry ∈ sortEntries entries ↔ entry ∈ entries :=
  (List.perm_insertionSort _ entries).mem_iff

/-! ### One record of the end -/

variable {locals : List LocalHeaderValidation}

theorem entries_of_placements
    (same : locals.length = entries.length) :
    (placements locals entries).map Placement.entry =
      entries.map CentralEntry.toBoundedZipEntry := by
  unfold placements
  induction locals generalizing entries with
  | nil => cases entries <;> simp_all
  | cons own rest inductionHypothesis =>
      cases entries with
      | nil => simp at same
      | cons central others =>
          rw [List.zipWith_cons_cons, List.map_cons, List.map_cons,
            inductionHypothesis (by simpa using same)]
          rfl

theorem dataOffsets_of_placements
    (same : locals.length = entries.length) :
    (placements locals entries).map Placement.dataOffset =
      locals.map LocalHeaderValidation.dataOffset := by
  unfold placements
  induction locals generalizing entries with
  | nil => simp
  | cons own rest inductionHypothesis =>
      cases entries with
      | nil => simp at same
      | cons central others =>
          rw [List.zipWith_cons_cons, List.map_cons, List.map_cons,
            inductionHypothesis (by simpa using same)]
          rfl

variable {endRecord : Nat}

/-- The numbers of a record are in the file. -/
theorem readEndRecord_returns
    {record : EndRecord}
    (read : readEndRecord archive limits endRecord applyPolicy = .ok record) :
    unsignedInt archive (endRecord + 16) = .ok record.centralOffset ∧
      record.centralEnd = endRecord ∧ record.centralOffset ≤ endRecord ∧
      (applyPolicy = true → record.totalEntries ≤ limits.maxZipEntries) := by
  unfold readEndRecord at read
  obtain ⟨diskNumber, _, read⟩ := bind_eq_ok.mp read
  obtain ⟨centralDirectoryDisk, _, read⟩ := bind_eq_ok.mp read
  obtain ⟨entriesOnDisk, _, read⟩ := bind_eq_ok.mp read
  obtain ⟨totalEntries, _, read⟩ := bind_eq_ok.mp read
  obtain ⟨centralSize, _, read⟩ := bind_eq_ok.mp read
  obtain ⟨centralOffset, readOffset, read⟩ := bind_eq_ok.mp read
  obtain ⟨few, read⟩ := refuse_bind_eq_ok.mp read
  obtain ⟨_, read⟩ := refuse_bind_eq_ok.mp read
  obtain ⟨_, read⟩ := refuse_bind_eq_ok.mp read
  obtain ⟨centralEnd, added, read⟩ := bind_eq_ok.mp read
  obtain ⟨bounds, read⟩ := refuse_bind_eq_ok.mp read
  have result := Except.ok.inj read
  subst result
  rw [not_or, not_not] at bounds
  have before : centralOffset ≤ endRecord := by
    rw [← bounds.1, ← (checkedAdd_eq_ok.mp added).2]
    exact Nat.le_add_right _ _
  exact ⟨readOffset, bounds.1, before, fun asked => Nat.le_of_not_lt fun many => few ⟨asked, many⟩⟩

/-- What a directory that was read gives. -/
structure Parsed
    (archive : Bytes)
    (limits : BoundedZipLimits)
    (endRecord : Nat)
    (parsed : ParsedEntries) : Prop where
  laidOut : ∃ centralOffset placements,
    unsignedInt archive (endRecord + 16) = .ok centralOffset ∧ centralOffset ≤ endRecord ∧
      LaidOut
        { limits, physicalBytes := archive, entries := parsed.entries
          dataOffsets := parsed.dataOffsets }
        centralOffset placements
  count : parsed.entries.length ≤ limits.maxZipEntries
  entries : ∀ entry ∈ parsed.entries, AllowedEntry limits entry
  declared :
    (parsed.entries.map BoundedZipEntry.uncompressedSize).sum ≤
      limits.maxCumulativeInflatedBytes

variable {parsed : ParsedEntries}

theorem parseEntriesAtEndRecord_returns
    (returned : parseEntriesAtEndRecord archive limits endRecord true = .ok parsed) :
    Parsed archive limits endRecord parsed := by
  obtain ⟨record, readRecord, returned⟩ := bind_eq_ok.mp returned
  obtain ⟨directory, readDirectory, returned⟩ := bind_eq_ok.mp returned
  obtain ⟨locals, validated, returned⟩ := bind_eq_ok.mp returned
  obtain ⟨zero, returned⟩ := refuse_bind_eq_ok.mp returned
  have result := Except.ok.inj returned
  subst result
  obtain ⟨readOffset, _, before, count⟩ := readEndRecord_returns readRecord
  obtain ⟨length, allRead⟩ := readCentralEntries_returns readDirectory
  have sortedRead : ∀ entry ∈ sortEntries directory, ReadUnder limits true entry :=
    fun entry member => allRead entry (mem_sortEntries.mp member)
  have found := validateLocals_returns (fun entry member => (sortedRead entry member).small)
    validated
  have sortedLength : (sortEntries directory).length = directory.length :=
    List.length_insertionSort _ _
  refine {
    laidOut := ⟨record.centralOffset, placements locals (sortEntries directory), readOffset,
      before, {
        entries := (entries_of_placements found.length).symm
        dataOffsets := (dataOffsets_of_placements found.length).symm
        occupied := found.occupied
        ordered := found.ordered
        inside := found.inside
        fromZero := ?_ }⟩
    count := ?_
    entries := ?_
    declared := ?_ }
  · have startsAt : startsAtZero record.centralOffset (sortEntries directory) = true := by
      simpa using zero
    have sameLength := found.length
    cases shape : sortEntries directory with
    | nil =>
        rw [shape] at startsAt sameLength
        rw [List.length_eq_zero_iff.mp sameLength]
        have none : record.centralOffset = 0 := by simpa [startsAtZero] using startsAt
        exact none
    | cons first rest =>
        rw [shape] at startsAt sameLength
        cases locals with
        | nil => cases sameLength
        | cons own others =>
            have atZero : first.localHeaderOffset = 0 := by simpa [startsAtZero] using startsAt
            exact congrArg Int.toNat atZero
  · rw [List.length_map, sortedLength, length]
    exact count rfl
  · intro entry member
    obtain ⟨central, there, rfl⟩ := List.mem_map.mp member
    exact (sortedRead central there).allowed rfl
  · have within := declared_le_of_validateLocals (Nat.zero_le _) validated
    rw [Nat.zero_add] at within
    rw [List.map_map]
    exact within

/-! ### The records of the end -/

/-- A signature of a record at whose end, after the comment, the file ends. -/
def Candidate (archive : Bytes) (endRecord : Nat) : Prop :=
  ∃ commentLength,
    unsignedInt archive endRecord = .ok endSignature ∧
      unsignedShort archive (endRecord + 20) = .ok commentLength ∧
      endRecord + 22 + commentLength = archive.length

variable {offset : Nat}

theorem isEndRecord_eq_true :
    isEndRecord archive offset = .ok true ↔ Candidate archive offset := by
  unfold isEndRecord
  rw [bind_eq_ok]
  constructor
  · rintro ⟨signature, readSignature, checked⟩
    split at checked
    · next same =>
        subst same
        obtain ⟨commentLength, readLength, checked⟩ := bind_eq_ok.mp checked
        exact ⟨commentLength, readSignature, readLength, by
          simpa [pure, Except.pure] using checked⟩
    · cases checked
  · rintro ⟨commentLength, readSignature, readLength, same⟩
    refine ⟨endSignature, readSignature, ?_⟩
    rw [if_pos rfl]
    exact bind_eq_ok.mpr ⟨commentLength, readLength, by simp [same, pure, Except.pure]⟩

theorem isEndRecord_returns
    {found : Bool}
    (checked : isEndRecord archive offset = .ok found) :
    found = true ↔ Candidate archive offset := by
  rw [← isEndRecord_eq_true, checked]
  simp

variable {candidates : List Nat}

theorem scanEndRecords_returns
    {distance : Nat}
    (enough : distance ≤ offset)
    (scanned : scanEndRecords archive offset distance = .ok candidates)
    (endRecord : Nat) :
    endRecord ∈ candidates ↔
      offset - distance ≤ endRecord ∧ endRecord ≤ offset ∧ Candidate archive endRecord := by
  induction distance generalizing offset candidates with
  | zero =>
      obtain ⟨found, checked, scanned⟩ := bind_eq_ok.mp scanned
      cases scanned
      have candidate := isEndRecord_returns checked
      by_cases here : endRecord = offset
      · subst here
        cases found <;> simp_all
      · have elsewhere : ¬(offset - 0 ≤ endRecord ∧ endRecord ≤ offset) := by omega
        cases found <;> simp_all
  | succ distance inductionHypothesis =>
      obtain ⟨found, checked, scanned⟩ := bind_eq_ok.mp scanned
      obtain ⟨earlier, scannedEarlier, scanned⟩ := bind_eq_ok.mp scanned
      cases scanned
      have candidate := isEndRecord_returns checked
      have others := inductionHypothesis (by omega) scannedEarlier
      by_cases here : endRecord = offset
      · subst here
        have notEarlier : endRecord ∉ earlier := fun member => by
          have := (others.mp member).2.1
          omega
        cases found <;> simp_all
      · have member : endRecord ∈ (if found then offset :: earlier else earlier) ↔
            endRecord ∈ earlier := by
          cases found <;> simp [here]
        rw [member, others]
        constructor
        · rintro ⟨low, high, candidate⟩
          exact ⟨by omega, by omega, candidate⟩
        · rintro ⟨low, high, candidate⟩
          exact ⟨by omega, by omega, candidate⟩

/-- The scan goes as far back as a comment can be long. -/
theorem mem_scanned
    (scanned :
      scanEndRecords archive (archive.length - 22)
        (archive.length - 22 - earliestEndRecord archive) = .ok candidates)
    (endRecord : Nat) :
    endRecord ∈ candidates ↔ Candidate archive endRecord := by
  rw [scanEndRecords_returns (Nat.sub_le _ _) scanned endRecord]
  constructor
  · exact fun ⟨_, _, candidate⟩ => candidate
  · intro candidate
    have ⟨commentLength, _, read, ends⟩ := candidate
    have short := unsignedShort_lt read
    refine ⟨?_, by omega, candidate⟩
    unfold earliestEndRecord
    split <;> omega

theorem findEndRecords_returns
    (found : findEndRecords archive = .ok candidates)
    (endRecord : Nat) :
    endRecord ∈ candidates ↔ Candidate archive endRecord := by
  obtain ⟨_, found⟩ := refuse_bind_eq_ok.mp found
  obtain ⟨scanned, scan, found⟩ := bind_eq_ok.mp found
  obtain ⟨_, found⟩ := refuse_bind_eq_ok.mp found
  cases found
  exact mem_scanned scan endRecord

section Records

variable {Record Archive : Type} {attempt : Record → Bool → Except Stop Archive}

/-- A record gives an archive, under no policy. -/
def Valid (attempt : Record → Bool → Except Stop Archive) (endRecord : Record) : Prop :=
  ∃ archive, attempt endRecord false = .ok archive

/-- What holds of one record and of no other. -/
def Only (holds : Record → Prop) (endRecord : Record) : Prop :=
  holds endRecord ∧ ∀ other, holds other → other = endRecord

variable {endRecords : List Record}

theorem structuralEndRecord_returns
    {found result : Option Record} {firstFailure failure : Option (ZipOpenCode × String)}
    (returned :
      structuralEndRecord attempt found firstFailure endRecords = .ok (result, failure)) :
    (∀ endRecord ∈ endRecords, Valid attempt endRecord →
        found = none ∧ result = some endRecord) ∧
      (result = found ∨ found = none ∧ ∃ endRecord ∈ endRecords,
        result = some endRecord ∧ Valid attempt endRecord) := by
  induction endRecords generalizing found firstFailure with
  | nil =>
      cases returned
      exact ⟨by simp, .inl rfl⟩
  | cons head rest inductionHypothesis =>
      unfold structuralEndRecord at returned
      split at returned
      · next code message failed =>
          obtain ⟨all, final⟩ := inductionHypothesis returned
          refine ⟨List.forall_mem_cons.mpr ⟨?_, all⟩, ?_⟩
          · rintro ⟨archive, valid⟩
            rw [failed] at valid
            cases valid
          · exact final.imp_right fun ⟨first, endRecord, member, result⟩ =>
              ⟨first, endRecord, List.mem_cons_of_mem _ member, result⟩
      · cases returned
      · next archive valid =>
          obtain ⟨first, returned⟩ := refuse_bind_eq_ok.mp returned
          have none : found = none := by simpa using first
          obtain ⟨all, final⟩ := inductionHypothesis returned
          have same : result = some head := by
            rcases final with same | ⟨absurd, _⟩
            · exact same
            · cases absurd
          refine ⟨List.forall_mem_cons.mpr ⟨fun _ => ⟨none, same⟩, ?_⟩, .inr ⟨none, ?_⟩⟩
          · intro endRecord member valid'
            cases (all endRecord member valid').1
          · exact ⟨head, List.mem_cons_self, same, archive, valid⟩

/-- An archive comes from a record that is the only one that gives an archive. -/
theorem parseAtEndRecords_returns
    {archive : Archive}
    (returned : parseAtEndRecords attempt endRecords = .ok archive) :
    ∃ endRecord, Only (fun other => other ∈ endRecords ∧ Valid attempt other) endRecord ∧
      attempt endRecord true = .ok archive := by
  obtain ⟨⟨result, failure⟩, structural, returned⟩ := bind_eq_ok.mp returned
  obtain ⟨all, final⟩ := structuralEndRecord_returns structural
  cases result with
  | none =>
      cases endRecords with
      | nil => cases returned
      | cons first rest =>
          obtain ⟨_, _, returned⟩ := bind_eq_ok.mp returned
          cases failure <;> cases returned
  | some endRecord =>
      rcases final with absurd | ⟨_, chosen, member, same, valid⟩
      · cases absurd
      · cases same
        refine ⟨endRecord, ⟨⟨member, valid⟩, ?_⟩, returned⟩
        rintro other ⟨member', valid'⟩
        exact (Option.some.inj (all other member' valid').2).symm

end Records

/-- A candidate that gives an archive, under no policy. -/
def Structural (archive : Bytes) (limits : BoundedZipLimits) (endRecord : Nat) : Prop :=
  Candidate archive endRecord ∧ Valid (parseEntriesAtEndRecord archive limits) endRecord

theorem parseEntries_returns
    (returned : parseEntries archive limits = .ok parsed) :
    ∃ endRecord, Only (Structural archive limits) endRecord ∧
      parseEntriesAtEndRecord archive limits endRecord true = .ok parsed := by
  obtain ⟨endRecords, found, returned⟩ := bind_eq_ok.mp returned
  have candidates := findEndRecords_returns found
  obtain ⟨endRecord, only, valid⟩ := parseAtEndRecords_returns returned
  simp only [candidates] at only
  exact ⟨endRecord, only, valid⟩

/-- A directory ends before its record, and the record before the end of the file. -/
structure Opened (bytes : Bytes) (limits : BoundedZipLimits) (archive : BoundedZipArchive) :
    Prop where
  sameLimits : archive.limits = limits
  sameBytes : archive.physicalBytes = bytes
  allowed : Allowed archive
  laidOut : ∃ endRecord centralOffset placements,
    Candidate bytes endRecord ∧ unsignedInt bytes (endRecord + 16) = .ok centralOffset ∧
      centralOffset ≤ endRecord ∧ LaidOut archive centralOffset placements

variable {archive : BoundedZipArchive}

theorem openBoundedZip_returns
    (opened : openBoundedZip bytes limits = .ok archive) :
    Opened bytes limits archive := by
  obtain ⟨small, opened⟩ := refuse_bind_eq_ok.mp opened
  obtain ⟨parsed, returned, opened⟩ := bind_eq_ok.mp opened
  cases opened
  obtain ⟨endRecord, ⟨⟨candidate, _⟩, _⟩, valid⟩ := parseEntries_returns returned
  have found := parseEntriesAtEndRecord_returns valid
  obtain ⟨centralOffset, placements, read, before, laidOut⟩ := found.laidOut
  exact {
    sameLimits := rfl
    sameBytes := rfl
    allowed := {
      package := Nat.le_of_not_lt small
      count := found.count
      entries := found.entries
      declared := found.declared }
    laidOut := ⟨endRecord, centralOffset, placements, candidate, read, before, laidOut⟩ }

variable {centralOffset : Nat} {placements : List Placement}

/-- Entries in order of their offsets. -/
theorem LaidOut.sorted
    (laidOut : LaidOut archive centralOffset placements) :
    archive.entries.Pairwise fun first second =>
      first.localHeaderOffset < second.localHeaderOffset := by
  rw [laidOut.entries, List.pairwise_map]
  refine laidOut.ordered.imp_of_mem ?_
  intro first second memberFirst memberSecond apart
  have firstOccupies := laidOut.occupied first memberFirst
  have secondOccupies := laidOut.occupied second memberSecond
  have below := firstOccupies.start_lt
  rw [firstOccupies.offset, secondOccupies.offset]
  omega

/-! ### Reading an entry -/

/-- What reading an entry of an opened archive does not stop with. -/
def Defect : Stop → Prop
  | .failure _ _ | .badAlloc => False
  | .internal message => message ∈ [
      "ZIP entry data index is invalid internally",
      "ZIP data offset is invalid internally",
      "ZIP payload window is invalid internally",
      "ZIP compression method escaped open validation"]
  | .outside | .endless => True

theorem checkStatus_avoids (status : Int) : Avoids Defect (checkStatus status) := by
  unfold checkStatus
  refine .refuse_bind (by simp [Defect, invalid]) fun _ => ?_
  refine .refuse_bind (by simp [Defect]) fun _ => ?_
  refine .refuse_bind (by simp [Defect]) fun _ => ?_
  exact .refuse (by simp [Defect])

variable {entry : BoundedZipEntry} {output produced : Bytes}

theorem appendProduced_returns
    {longer : Bytes}
    (returned : appendProduced entry limits output produced = .ok longer) :
    longer = output ++ produced ∧
      (produced.length ≠ 0 → longer.length ≤ entry.uncompressedSize) := by
  unfold appendProduced at returned
  split at returned
  · obtain ⟨_, returned⟩ := refuse_bind_eq_ok.mp returned
    obtain ⟨within, returned⟩ := refuse_bind_eq_ok.mp returned
    cases returned
    refine ⟨rfl, fun _ => ?_⟩
    rw [List.length_append]
    exact Nat.le_of_not_lt within
  · next none =>
      cases returned
      rw [not_not, List.length_eq_zero_iff] at none
      subst none
      exact ⟨(List.append_nil _).symm, fun some => absurd rfl some⟩

theorem appendProduced_avoids :
    Avoids Defect (appendProduced entry limits output produced) := by
  unfold appendProduced
  split
  · refine .refuse_bind (by simp [Defect]) fun _ => ?_
    refine .refuse_bind (by simp [Defect, invalid]) fun _ => ?_
    exact .ok _
  · exact .ok _

variable {zlib : Zlib} {calls turns : Nat}

/-- Every turn after which the loop goes on has put out a byte, and there are no more of
them than were declared. -/
theorem inflateLoop_avoids
    (within : output.length ≤ entry.uncompressedSize)
    (enough : entry.uncompressedSize < output.length + turns) :
    Avoids Defect (inflateLoop zlib entry limits calls output turns) := by
  induction turns generalizing calls output with
  | zero => omega
  | succ turns inductionHypothesis =>
      refine .bind (checkStatus_avoids _) fun _ _ => ?_
      refine .bind appendProduced_avoids fun longer appended => ?_
      obtain ⟨rfl, grown⟩ := appendProduced_returns appended
      split
      · refine .refuse_bind (by simp [Defect, invalid]) fun _ => ?_
        exact .ok _
      · split
        · exact .error (by simp [Defect, invalid])
        · next some =>
            refine inductionHypothesis (grown some) ?_
            rw [List.length_append]
            omega

variable {payload : Bytes}

theorem inflateLoop_returns
    (within : output.length ≤ entry.uncompressedSize)
    (returned : inflateLoop zlib entry limits calls output turns = .ok payload) :
    payload.length ≤ entry.uncompressedSize := by
  induction turns generalizing calls output with
  | zero => cases returned
  | succ turns inductionHypothesis =>
      obtain ⟨_, _, returned⟩ := bind_eq_ok.mp returned
      obtain ⟨longer, appended, returned⟩ := bind_eq_ok.mp returned
      obtain ⟨rfl, grown⟩ := appendProduced_returns appended
      have bounded : (output ++ (zlib.inflate calls).produced).length ≤
          entry.uncompressedSize := by
        by_cases some : (zlib.inflate calls).produced.length ≠ 0
        · exact grown some
        · rw [not_not, List.length_eq_zero_iff] at some
          rwa [some, List.append_nil]
      split at returned
      · obtain ⟨_, returned⟩ := refuse_bind_eq_ok.mp returned
        cases returned
        exact bounded
      · split at returned
        · cases returned
        · exact inductionHypothesis bounded returned

/-- A payload can be read where it is inside the file, by a method that is supported. -/
structure Readable (bytes : Bytes) (entry : BoundedZipEntry) (dataOffset : Int) : Prop where
  window : ∃ start : Nat, dataOffset = start ∧ start + entry.compressedSize ≤ bytes.length
  method : entry.method = 0 ∨ entry.method = 8

variable {dataOffset : Int}

theorem inflateSelectedPayload_avoids
    (readable : Readable bytes entry dataOffset)
    (enough : limits.maxPayloadBytes < turns) :
    Avoids Defect (inflateSelectedPayload zlib turns bytes entry dataOffset limits) := by
  obtain ⟨start, rfl, inside⟩ := readable.window
  refine .refuse_bind (by simp [Defect]) fun small => ?_
  refine .refuse_bind (by simp [Defect]) fun _ => ?_
  refine .refuse_bind (by simp [Defect, invalid]) fun _ => ?_
  refine .bind ?_ fun _ _ => ?_
  · exact .refuse_of_not (by omega)
  refine .bind ?_ fun _ _ => ?_
  · exact .refuse_of_not (by rw [Int.toNat_natCast]; omega)
  split
  · refine .refuse_bind (by simp [Defect, invalid]) fun _ => ?_
    exact .of_returns (copyRange_eq_ok.mpr ⟨by rwa [Int.toNat_natCast], rfl⟩)
  · next compressed =>
      refine .bind ?_ fun _ _ => ?_
      · exact .refuse_of_not (not_not.mpr (readable.method.resolve_left compressed))
      refine .bind ?_ fun _ _ => ?_
      · refine .refuse_bind (by simp [Defect]) fun _ => ?_
        exact .refuse (by simp [Defect])
      refine inflateLoop_avoids (Nat.zero_le _) ?_
      rw [List.length_nil]
      omega

theorem inflateSelectedPayload_returns
    (returned :
      inflateSelectedPayload zlib turns bytes entry dataOffset limits = .ok payload) :
    payload.length ≤ entry.uncompressedSize ∧
      entry.uncompressedSize ≤ limits.maxPayloadBytes := by
  obtain ⟨small, returned⟩ := refuse_bind_eq_ok.mp returned
  obtain ⟨_, returned⟩ := refuse_bind_eq_ok.mp returned
  obtain ⟨_, returned⟩ := refuse_bind_eq_ok.mp returned
  obtain ⟨_, returned⟩ := refuse_bind_eq_ok.mp returned
  obtain ⟨_, returned⟩ := refuse_bind_eq_ok.mp returned
  refine ⟨?_, Nat.le_of_not_lt small⟩
  split at returned
  · obtain ⟨same, returned⟩ := refuse_bind_eq_ok.mp returned
    rw [length_of_copyRange returned]
    exact Nat.le_of_eq (not_not.mp same)
  · obtain ⟨_, returned⟩ := refuse_bind_eq_ok.mp returned
    obtain ⟨_, _, returned⟩ := bind_eq_ok.mp returned
    exact inflateLoop_returns (Nat.zero_le _) returned

variable {index : Nat} {localHeaderOffset : Int} {rawName : Bytes} {entries : List BoundedZipEntry}

/-- What holds of every index of an entry with the name and the offset holds of the index
that was found. -/
theorem selectFrom_found
    {result : ExactEntrySelection}
    (holds : Nat → Prop)
    (before : result.status = .found → holds result.index)
    (each : ∀ (further : Nat) (entry : BoundedZipEntry), entries[further]? = some entry →
      entry.rawName = rawName → entry.localHeaderOffset = localHeaderOffset →
      holds (index + further))
    (found : (selectFrom rawName localHeaderOffset result index entries).status = .found) :
    holds (selectFrom rawName localHeaderOffset result index entries).index := by
  induction entries generalizing result index with
  | nil => exact before found
  | cons entry rest inductionHypothesis =>
      have later : ∀ (further : Nat) (entry : BoundedZipEntry), rest[further]? = some entry →
          entry.rawName = rawName → entry.localHeaderOffset = localHeaderOffset →
          holds (index + 1 + further) := by
        intro further entry there sameName sameOffset
        rw [Nat.add_assoc, Nat.add_comm 1]
        exact each (further + 1) entry there sameName sameOffset
      unfold selectFrom at found ⊢
      by_cases other : entry.localHeaderOffset ≠ localHeaderOffset ∨ entry.rawName ≠ rawName
      · rw [if_pos other] at found ⊢
        exact inductionHypothesis before later found
      · rw [if_neg other] at found ⊢
        rw [not_or, not_not, not_not] at other
        by_cases again : result.status = .found
        · rw [if_pos again] at found
          cases found
        · rw [if_neg again] at found ⊢
          exact inductionHypothesis (fun _ => each 0 entry rfl other.2 other.1) later found

/-- The entry that was found has the name and the offset that were asked for. -/
theorem selectExactBoundedZipEntry_found
    (present : (selectExactBoundedZipEntry entries rawName localHeaderOffset).status ≠ .missing)
    (single :
      (selectExactBoundedZipEntry entries rawName localHeaderOffset).status ≠ .duplicate) :
    ∃ entry,
      entries[(selectExactBoundedZipEntry entries rawName localHeaderOffset).index]? =
          some entry ∧
        entry.rawName = rawName ∧ entry.localHeaderOffset = localHeaderOffset := by
  have found :
      (selectExactBoundedZipEntry entries rawName localHeaderOffset).status = .found := by
    cases shape : (selectExactBoundedZipEntry entries rawName localHeaderOffset).status with
    | found => rfl
    | missing => exact (present shape).elim
    | duplicate => exact (single shape).elim
  refine selectFrom_found
    (fun index => ∃ entry, entries[index]? = some entry ∧ entry.rawName = rawName ∧
      entry.localHeaderOffset = localHeaderOffset)
    ?_ ?_ found
  · exact fun absurd => by cases absurd
  · intro further entry there sameName sameOffset
    rw [Nat.zero_add]
    exact ⟨entry, there, sameName, sameOffset⟩

theorem elementAt_eq_ok {Value : Type} {values : List Value} {value : Value} :
    elementAt values index = .ok value ↔ values[index]? = some value := by
  unfold elementAt
  split <;> simp_all

theorem Opened.readable
    (opened : Opened bytes limits archive)
    (there : archive.entries[index]? = some entry)
    (data : archive.dataOffsets[index]? = some dataOffset) :
    Readable archive.physicalBytes entry dataOffset := by
  obtain ⟨endRecord, centralOffset, placements, candidate, _, before, laidOut⟩ := opened.laidOut
  obtain ⟨commentLength, _, _, ends⟩ := candidate
  have allowed := opened.allowed.entries entry (List.mem_of_getElem? there)
  rw [laidOut.entries, List.getElem?_map] at there
  rw [laidOut.dataOffsets, List.getElem?_map] at data
  obtain ⟨placement, placed, rfl⟩ := Option.map_eq_some_iff.mp there
  rw [placed] at data
  cases data
  have member := List.mem_of_getElem? placed
  have inside := laidOut.inside placement member
  obtain ⟨extraLength, start, _, _, same, descriptor⟩ :=
    (laidOut.occupied placement member).rest
  have after := descriptor.le
  exact {
    window := ⟨start, same, by rw [opened.sameBytes]; omega⟩
    method := allowed.method }

theorem LaidOut.sameLength
    (laidOut : LaidOut archive centralOffset placements) :
    archive.dataOffsets.length = archive.entries.length := by
  rw [laidOut.entries, laidOut.dataOffsets, List.length_map, List.length_map]

theorem readBoundedZipPayload_avoids
    (opened : Opened bytes limits archive)
    (enough : limits.maxPayloadBytes < turns)
    (rawName : Bytes) (localHeaderOffset : Int) :
    Avoids Defect (readBoundedZipPayload zlib turns archive rawName localHeaderOffset) := by
  obtain ⟨_, _, _, _, _, _, laidOut⟩ := opened.laidOut
  have sameLength := laidOut.sameLength
  refine .refuse_bind (by simp [Defect]) fun present => ?_
  refine .refuse_bind (by simp [Defect, invalid]) fun single => ?_
  obtain ⟨chosen, isThere, _⟩ := selectExactBoundedZipEntry_found present single
  obtain ⟨below, _⟩ := List.getElem?_eq_some_iff.mp isThere
  refine .bind ?_ fun _ _ => ?_
  · exact .refuse_of_not (by omega)
  refine .bind ?_ fun entry there => ?_
  · exact .of_returns (elementAt_eq_ok.mpr isThere)
  refine .bind ?_ fun dataOffset data => ?_
  · exact .of_returns (elementAt_eq_ok.mpr (List.getElem?_eq_getElem (by omega)))
  have readable := opened.readable (elementAt_eq_ok.mp there) (elementAt_eq_ok.mp data)
  refine .bind (inflateSelectedPayload_avoids readable (opened.sameLimits ▸ enough))
    fun payload _ => ?_
  refine .refuse_bind (by simp [Defect, invalid]) fun _ => ?_
  refine .refuse_bind (by simp [Defect, invalid]) fun _ => ?_
  exact .ok _

theorem readBoundedZipPayload_returns
    (returned :
      readBoundedZipPayload zlib turns archive rawName localHeaderOffset = .ok payload) :
    ∃ entry ∈ archive.entries,
      entry.rawName = rawName ∧ entry.localHeaderOffset = localHeaderOffset ∧
        payload.length = entry.uncompressedSize ∧
        payload.length ≤ archive.limits.maxPayloadBytes := by
  obtain ⟨present, returned⟩ := refuse_bind_eq_ok.mp returned
  obtain ⟨single, returned⟩ := refuse_bind_eq_ok.mp returned
  obtain ⟨_, returned⟩ := refuse_bind_eq_ok.mp returned
  obtain ⟨entry, there, returned⟩ := bind_eq_ok.mp returned
  obtain ⟨dataOffset, _, returned⟩ := bind_eq_ok.mp returned
  obtain ⟨result, inflated, returned⟩ := bind_eq_ok.mp returned
  obtain ⟨same, returned⟩ := refuse_bind_eq_ok.mp returned
  obtain ⟨_, returned⟩ := refuse_bind_eq_ok.mp returned
  cases returned
  rw [not_not] at same
  have there := elementAt_eq_ok.mp there
  obtain ⟨chosen, isThere, sameName, sameOffset⟩ :=
    selectExactBoundedZipEntry_found present single
  rw [there] at isThere
  cases isThere
  refine ⟨entry, List.mem_of_getElem? there, sameName, sameOffset, same, ?_⟩
  rw [same]
  exact (inflateSelectedPayload_returns inflated).2

/-! ### Safety -/

/-- An archive that lies in its file as it should and keeps to its limits.  Reading an entry
of it ends after no more turns than bytes are allowed, whatever the library reports, without
any of the errors that are thrown or would be undefined, and with no more bytes than were
declared and are allowed. -/
structure SafeArchive
    (bytes : Bytes)
    (limits : BoundedZipLimits)
    (archive : BoundedZipArchive) : Prop where
  opened : Opened bytes limits archive
  sorted : archive.entries.Pairwise fun first second =>
    first.localHeaderOffset < second.localHeaderOffset
  reading : ∀ (zlib : Zlib) (turns : Nat) (rawName : Bytes) (localHeaderOffset : Int),
    limits.maxPayloadBytes < turns →
    Avoids Defect (readBoundedZipPayload zlib turns archive rawName localHeaderOffset) ∧
      ∀ payload,
        readBoundedZipPayload zlib turns archive rawName localHeaderOffset = .ok payload →
        ∃ entry ∈ archive.entries,
          entry.rawName = rawName ∧ entry.localHeaderOffset = localHeaderOffset ∧
            payload.length = entry.uncompressedSize ∧
            payload.length ≤ limits.maxPayloadBytes

theorem opened_archives_are_safe
    (bytes : Bytes)
    (limits : BoundedZipLimits)
    (archive : BoundedZipArchive)
    (returned : openBoundedZip bytes limits = .ok archive) :
    SafeArchive bytes limits archive := by
  have opened := openBoundedZip_returns returned
  obtain ⟨_, _, _, _, _, _, laidOut⟩ := opened.laidOut
  refine {
    opened
    sorted := laidOut.sorted
    reading := fun zlib turns rawName localHeaderOffset enough =>
      ⟨readBoundedZipPayload_avoids opened enough rawName localHeaderOffset, ?_⟩ }
  intro payload read
  rw [← opened.sameLimits]
  exact readBoundedZipPayload_returns read

/-- Two entries, `a` and `b`, that are stored and have descriptors. -/
def sampleZip : Bytes :=
  [0x50, 0x4B, 0x03, 0x04, 0x14, 0x00, 0x08, 0x00, 0x00, 0x00, 0x00, 0x00, 0x00, 0x00, 0xAC,
    0x2A, 0x93, 0xD8, 0x02, 0x00, 0x00, 0x00, 0x02, 0x00, 0x00, 0x00, 0x01, 0x00, 0x00, 0x00,
    0x61, 0x68, 0x69, 0x50, 0x4B, 0x07, 0x08, 0xAC, 0x2A, 0x93, 0xD8, 0x02, 0x00, 0x00, 0x00,
    0x02, 0x00, 0x00, 0x00, 0x50, 0x4B, 0x03, 0x04, 0x14, 0x00, 0x08, 0x00, 0x00, 0x00, 0x00,
    0x00, 0x00, 0x00, 0xAC, 0x2A, 0x93, 0xD8, 0x02, 0x00, 0x00, 0x00, 0x02, 0x00, 0x00, 0x00,
    0x01, 0x00, 0x00, 0x00, 0x62, 0x68, 0x69, 0x50, 0x4B, 0x07, 0x08, 0xAC, 0x2A, 0x93, 0xD8,
    0x02, 0x00, 0x00, 0x00, 0x02, 0x00, 0x00, 0x00, 0x50, 0x4B, 0x01, 0x02, 0x14, 0x00, 0x14,
    0x00, 0x08, 0x00, 0x00, 0x00, 0x00, 0x00, 0x00, 0x00, 0xAC, 0x2A, 0x93, 0xD8, 0x02, 0x00,
    0x00, 0x00, 0x02, 0x00, 0x00, 0x00, 0x01, 0x00, 0x00, 0x00, 0x00, 0x00, 0x00, 0x00, 0x00,
    0x00, 0x00, 0x00, 0x00, 0x00, 0x00, 0x00, 0x00, 0x00, 0x61, 0x50, 0x4B, 0x01, 0x02, 0x14,
    0x00, 0x14, 0x00, 0x08, 0x00, 0x00, 0x00, 0x00, 0x00, 0x00, 0x00, 0xAC, 0x2A, 0x93, 0xD8,
    0x02, 0x00, 0x00, 0x00, 0x02, 0x00, 0x00, 0x00, 0x01, 0x00, 0x00, 0x00, 0x00, 0x00, 0x00,
    0x00, 0x00, 0x00, 0x00, 0x00, 0x00, 0x00, 0x31, 0x00, 0x00, 0x00, 0x62, 0x50, 0x4B, 0x05,
    0x06, 0x00, 0x00, 0x00, 0x00, 0x02, 0x00, 0x02, 0x00, 0x5E, 0x00, 0x00, 0x00, 0x62, 0x00,
    0x00, 0x00, 0x00, 0x00]

theorem sample_archive_is_safe :
    ∃ archive, openBoundedZip sampleZip .defaults = .ok archive ∧
      archive.entries.length = 2 ∧ SafeArchive sampleZip .defaults archive := by
  have runs :
      (openBoundedZip sampleZip .defaults).toOption.map
        (fun archive => archive.entries.length) = some 2 := by
    decide +kernel
  cases shape : openBoundedZip sampleZip .defaults with
  | error stop =>
      rw [shape] at runs
      cases runs
  | ok archive =>
      rw [shape] at runs
      exact ⟨archive, rfl, Option.some.inj runs, opened_archives_are_safe _ _ archive shape⟩

end FlyNes.Zip
