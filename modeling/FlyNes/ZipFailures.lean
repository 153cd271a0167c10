import FlyNes.ZipOpened

namespace FlyNes.Zip

open ByteString Checking

/-!
# Failures are reported

Whatever the bytes of a file, opening it ends with an archive or with a failure that is
reported.  Nothing is thrown, and nothing outside of the file is read.
-/

def Unreported : Stop → Prop
  | .failure _ _ => False
  | _ => True

theorem reports_invalid (message : String) : ¬Unreported (invalid message) :=
  id

theorem reports_failure (code : ZipOpenCode) (message : String) :
    ¬Unreported (.failure code message) :=
  id

/-! ### Bytes -/

theorem unsignedShort_reports (bytes : Bytes) (offset : Nat) :
    Avoids Unreported (unsignedShort bytes offset) := by
  by_cases inside : offset + 2 ≤ bytes.length
  · obtain ⟨value, read⟩ := unsignedShort_returns inside
    exact .of_returns read
  · refine .refuse_bind (reports_invalid _) fun right => ?_
    omega

theorem unsignedInt_reports (bytes : Bytes) (offset : Nat) :
    Avoids Unreported (unsignedInt bytes offset) := by
  by_cases inside : offset + 4 ≤ bytes.length
  · obtain ⟨value, read⟩ := unsignedInt_returns inside
    exact .of_returns read
  · refine .refuse_bind (reports_invalid _) fun right => ?_
    omega

theorem checkedAdd_reports (first second : Nat) (message : String) :
    Avoids Unreported (checkedAdd first second message) :=
  .refuse_bind (reports_invalid _) fun _ => .ok _

theorem requireRange_reports (bytes : Bytes) (offset length : Nat) (message : String) :
    Avoids Unreported (requireRange bytes offset length message) :=
  .refuse (reports_invalid _)

variable {archive : Bytes} {offset : Nat}

theorem requireName_reports
    {name : Bytes}
    (inside : offset + name.length ≤ archive.length) :
    Avoids Unreported (requireName archive offset name) := by
  induction name generalizing offset with
  | nil => exact .ok ()
  | cons expected rest inductionHypothesis =>
      rw [List.length_cons] at inside
      refine .bind (.of_returns (readByte_of_lt (by omega))) fun byte _ => ?_
      refine .refuse_bind (reports_invalid _) fun _ => ?_
      exact inductionHypothesis (by omega)

/-! ### Local headers -/

theorem requireZeroOrEqual_reports (own central : Nat) (field : String) :
    Avoids Unreported (requireZeroOrEqual own central field) := by
  unfold requireZeroOrEqual
  split
  · exact .ok ()
  · split
    · exact .error (reports_invalid _)
    · split <;> exact .error (reports_invalid _)

theorem descriptorMatches_reports (archive : Bytes) (central : CentralEntry) (offset : Nat) :
    Avoids Unreported (descriptorMatches archive central offset) := by
  refine .bind (unsignedInt_reports _ _) fun crc32 _ => ?_
  split
  · exact .ok _
  · refine .bind (unsignedInt_reports _ _) fun compressedSize _ => ?_
    split
    · exact .ok _
    · exact .bind (unsignedInt_reports _ _) fun _ _ => .ok _

theorem validateDescriptor_reports
    (archive : Bytes) (central : CentralEntry) (centralOffset boundary payloadEnd : Nat) :
    Avoids Unreported
      (validateDescriptor archive central centralOffset boundary payloadEnd) := by
  refine .refuse_bind (reports_invalid _) fun _ => ?_
  refine .refuse_bind (reports_invalid _) fun _ => ?_
  refine .bind (unsignedInt_reports _ _) fun first _ => ?_
  refine .bind (.provided fun _ => descriptorMatches_reports _ _ _) fun unsignedMatches _ => ?_
  refine .bind (.provided fun _ => descriptorMatches_reports _ _ _) fun signedMatches _ => ?_
  refine .refuse_bind (reports_invalid _) fun _ => ?_
  repeat' split
  all_goals first | exact .ok _ | exact .error (reports_invalid _)

theorem validateSizes_reports (archive : Bytes) (central : CentralEntry) (offset flags : Nat) :
    Avoids Unreported (validateSizes archive central offset flags) := by
  refine .bind (unsignedInt_reports _ _) fun localCrc _ => ?_
  refine .bind (unsignedInt_reports _ _) fun localCompressed _ => ?_
  refine .bind (unsignedInt_reports _ _) fun localUncompressed _ => ?_
  split
  · refine .bind (requireZeroOrEqual_reports _ _ _) fun _ _ => ?_
    refine .bind (requireZeroOrEqual_reports _ _ _) fun _ _ => ?_
    exact requireZeroOrEqual_reports _ _ _
  · exact .refuse (reports_invalid _)

theorem validateLocalHeader_reports
    (archive : Bytes) (central : CentralEntry) (centralOffset boundary : Nat) :
    Avoids Unreported (validateLocalHeader archive central centralOffset boundary) := by
  refine .bind (requireRange_reports _ _ _ _) fun _ _ => ?_
  refine .bind (unsignedInt_reports _ _) fun signature _ => ?_
  refine .refuse_bind (reports_invalid _) fun _ => ?_
  refine .bind (unsignedShort_reports _ _) fun localFlags _ => ?_
  refine .bind (unsignedShort_reports _ _) fun localMethod _ => ?_
  refine .refuse_bind (reports_invalid _) fun _ => ?_
  refine .bind (unsignedShort_reports _ _) fun nameLength _ => ?_
  refine .bind (unsignedShort_reports _ _) fun extraLength _ => ?_
  refine .refuse_bind (reports_invalid _) fun sameLength => ?_
  refine .bind (requireRange_reports _ _ _ _) fun _ range => ?_
  have inside := requireRange_eq_ok.mp range
  rw [not_not] at sameLength
  refine .bind (requireName_reports (by omega)) fun _ _ => ?_
  refine .bind (checkedAdd_reports _ _ _) fun dataOffset _ => ?_
  refine .bind (checkedAdd_reports _ _ _) fun payloadEnd _ => ?_
  refine .refuse_bind (reports_invalid _) fun _ => ?_
  refine .bind (validateSizes_reports _ _ _ _) fun _ _ => ?_
  refine .bind (.provided fun _ => validateDescriptor_reports _ _ _ _ _) fun entryEnd _ => ?_
  exact .ok _

/-! ### The directory -/

theorem readEndRecord_reports
    (archive : Bytes) (limits : BoundedZipLimits) (endRecord : Nat) (applyPolicy : Bool) :
    Avoids Unreported (readEndRecord archive limits endRecord applyPolicy) := by
  refine .bind (unsignedShort_reports _ _) fun diskNumber _ => ?_
  refine .bind (unsignedShort_reports _ _) fun centralDirectoryDisk _ => ?_
  refine .bind (unsignedShort_reports _ _) fun entriesOnDisk _ => ?_
  refine .bind (unsignedShort_reports _ _) fun totalEntries _ => ?_
  refine .bind (unsignedInt_reports _ _) fun centralSize _ => ?_
  refine .bind (unsignedInt_reports _ _) fun centralOffset _ => ?_
  refine .refuse_bind (reports_failure _ _) fun _ => ?_
  refine .refuse_bind (reports_invalid _) fun _ => ?_
  refine .refuse_bind (reports_invalid _) fun _ => ?_
  refine .bind (checkedAdd_reports _ _ _) fun centralEnd _ => ?_
  refine .refuse_bind (reports_invalid _) fun _ => ?_
  exact .ok _

theorem validateRatio_reports (entry : CentralEntry) (limits : BoundedZipLimits) :
    Avoids Unreported (validateRatio entry limits) := by
  unfold validateRatio
  split
  · exact .ok ()
  · exact .refuse (reports_failure _ _)

variable {centralEnd : Nat}

theorem readCentralEntry_reports
    (inside : centralEnd ≤ archive.length)
    (limits : BoundedZipLimits) (applyPolicy : Bool) (cursor : Nat) :
    Avoids Unreported (readCentralEntry archive limits applyPolicy centralEnd cursor) := by
  refine .bind (requireRange_reports _ _ _ _) fun _ _ => ?_
  refine .bind (unsignedInt_reports _ _) fun signature _ => ?_
  refine .refuse_bind (reports_invalid _) fun _ => ?_
  refine .bind (unsignedShort_reports _ _) fun flags _ => ?_
  refine .bind (unsignedShort_reports _ _) fun method _ => ?_
  refine .bind (unsignedShort_reports _ _) fun nameLength _ => ?_
  refine .bind (unsignedShort_reports _ _) fun extraLength _ => ?_
  refine .bind (unsignedShort_reports _ _) fun commentLength _ => ?_
  refine .refuse_bind (reports_invalid _) fun _ => ?_
  refine .refuse_bind (reports_failure _ _) fun _ => ?_
  refine .bind (unsignedShort_reports _ _) fun diskStart _ => ?_
  refine .refuse_bind (reports_invalid _) fun _ => ?_
  refine .bind (unsignedInt_reports _ _) fun localOffset _ => ?_
  refine .refuse_bind (reports_invalid _) fun _ => ?_
  refine .bind (checkedAdd_reports _ _ _) fun centralEntryEnd added => ?_
  obtain ⟨-, rfl⟩ := checkedAdd_eq_ok.mp added
  refine .refuse_bind (reports_invalid _) fun before => ?_
  refine .bind (.of_returns (copyRange_eq_ok.mpr ⟨by omega, rfl⟩)) fun rawName _ => ?_
  refine .bind (.of_returns (copyRange_eq_ok.mpr ⟨by omega, rfl⟩)) fun centralExtra _ => ?_
  refine .refuse_bind (reports_failure _ _) fun _ => ?_
  refine .refuse_bind (reports_failure _ _) fun _ => ?_
  refine .refuse_bind (reports_invalid _) fun _ => ?_
  refine .bind (unsignedInt_reports _ _) fun crc32 _ => ?_
  refine .bind (unsignedInt_reports _ _) fun compressedSize _ => ?_
  refine .bind (unsignedInt_reports _ _) fun uncompressedSize _ => ?_
  refine .bind (.provided fun _ => validateRatio_reports _ _) fun _ _ => ?_
  exact .ok _

theorem readCentralEntries_reports
    (inside : centralEnd ≤ archive.length)
    (limits : BoundedZipLimits) (applyPolicy : Bool) (cursor count : Nat) :
    Avoids Unreported
      (readCentralEntries archive limits applyPolicy centralEnd cursor count) := by
  induction count generalizing cursor with
  | zero => exact .refuse_bind (reports_invalid _) fun _ => .ok _
  | succ count inductionHypothesis =>
      refine .bind (readCentralEntry_reports inside _ _ _) ?_
      rintro ⟨entry, next⟩ _
      exact .bind (inductionHypothesis next) fun _ _ => .ok _

theorem addDeclared_reports
    (limits : BoundedZipLimits) (declared : Nat) (central : CentralEntry) :
    Avoids Unreported (addDeclared limits declared central) := by
  refine .bind (checkedAdd_reports _ _ _) fun total _ => ?_
  exact .refuse_bind (reports_failure _ _) fun _ => .ok _

theorem validateLocals_reports
    (archive : Bytes) (limits : BoundedZipLimits) (applyPolicy : Bool)
    (centralOffset declared : Nat) (previousEntryEnd : Option Nat)
    (entries : List CentralEntry) :
    Avoids Unreported
      (validateLocals archive limits applyPolicy centralOffset previousEntryEnd declared
        entries) := by
  induction entries generalizing previousEntryEnd declared with
  | nil => exact .ok _
  | cons central rest inductionHypothesis =>
      refine .refuse_bind (reports_invalid _) fun _ => ?_
      refine .bind (validateLocalHeader_reports _ _ _ _) fun own _ => ?_
      refine .bind (.provided fun _ => addDeclared_reports _ _ _) fun total _ => ?_
      exact .bind (inductionHypothesis _ _) fun _ _ => .ok _

variable {endRecord : Nat}

theorem parseEntriesAtEndRecord_reports
    (inside : endRecord ≤ archive.length)
    (limits : BoundedZipLimits) (applyPolicy : Bool) :
    Avoids Unreported (parseEntriesAtEndRecord archive limits endRecord applyPolicy) := by
  refine .bind (readEndRecord_reports _ _ _ _) fun record read => ?_
  have ends := (readEndRecord_returns read).2.1
  refine .bind (readCentralEntries_reports (ends ▸ inside) _ _ _ _) fun directory _ => ?_
  refine .bind (validateLocals_reports _ _ _ _ _ _ _) fun locals _ => ?_
  exact .refuse_bind (reports_invalid _) fun _ => .ok _

/-! ### The records of the end -/

theorem isEndRecord_total
    (inside : offset + 22 ≤ archive.length) :
    ∃ found, isEndRecord archive offset = .ok found := by
  obtain ⟨signature, readSignature⟩ :=
    unsignedInt_returns (show offset + 4 ≤ archive.length by omega)
  obtain ⟨commentLength, readLength⟩ :=
    unsignedShort_returns (show offset + 20 + 2 ≤ archive.length by omega)
  unfold isEndRecord
  rw [readSignature, readLength]
  by_cases same : signature = endSignature
  · exact ⟨_, if_pos same⟩
  · exact ⟨_, if_neg same⟩

theorem scanEndRecords_total
    (inside : offset + 22 ≤ archive.length)
    (distance : Nat) :
    ∃ candidates, scanEndRecords archive offset distance = .ok candidates := by
  induction distance generalizing offset with
  | zero =>
      obtain ⟨found, checked⟩ := isEndRecord_total inside
      exact ⟨_, bind_eq_ok.mpr ⟨found, checked, rfl⟩⟩
  | succ distance inductionHypothesis =>
      obtain ⟨found, checked⟩ := isEndRecord_total inside
      obtain ⟨earlier, scanned⟩ :=
        inductionHypothesis (show offset - 1 + 22 ≤ archive.length by omega)
      exact ⟨_, bind_eq_ok.mpr ⟨found, checked, bind_eq_ok.mpr ⟨earlier, scanned, rfl⟩⟩⟩

theorem findEndRecords_total
    (candidate : Candidate archive endRecord) :
    ∃ candidates, findEndRecords archive = .ok candidates := by
  have ⟨commentLength, _, _, ends⟩ := candidate
  obtain ⟨candidates, scanned⟩ := scanEndRecords_total
    (show archive.length - 22 + 22 ≤ archive.length by omega)
    (archive.length - 22 - earliestEndRecord archive)
  have member := (mem_scanned scanned endRecord).mpr candidate
  refine ⟨candidates, refuse_bind_eq_ok.mpr ⟨by omega, ?_⟩⟩
  refine bind_eq_ok.mpr ⟨candidates, scanned, refuse_bind_eq_ok.mpr ⟨?_, rfl⟩⟩
  exact List.ne_nil_of_mem member

variable {candidates : List Nat}

theorem scanEndRecords_nodup
    {distance : Nat}
    (enough : distance ≤ offset)
    (scanned : scanEndRecords archive offset distance = .ok candidates) :
    candidates.Nodup := by
  induction distance generalizing offset candidates with
  | zero =>
      obtain ⟨found, _, scanned⟩ := bind_eq_ok.mp scanned
      cases scanned
      cases found <;> simp
  | succ distance inductionHypothesis =>
      obtain ⟨found, _, scanned⟩ := bind_eq_ok.mp scanned
      obtain ⟨earlier, scannedEarlier, scanned⟩ := bind_eq_ok.mp scanned
      cases scanned
      have apart := inductionHypothesis (by omega) scannedEarlier
      cases found with
      | false => exact apart
      | true =>
          refine List.nodup_cons.mpr ⟨fun member => ?_, apart⟩
          have := (scanEndRecords_returns (by omega) scannedEarlier offset).mp member
          omega

theorem findEndRecords_nodup
    (found : findEndRecords archive = .ok candidates) :
    candidates.Nodup := by
  obtain ⟨_, found⟩ := refuse_bind_eq_ok.mp found
  obtain ⟨scanned, scan, found⟩ := bind_eq_ok.mp found
  obtain ⟨_, found⟩ := refuse_bind_eq_ok.mp found
  cases found
  exact scanEndRecords_nodup (Nat.sub_le _ _) scan

section Records

variable {Record Archive : Type} {attempt : Record → Bool → Except Stop Archive}

variable {endRecords : List Record}

/-- Records that give no archive leave the one that was found. -/
theorem structuralEndRecord_skips
    (reports : ∀ endRecord ∈ endRecords, Avoids Unreported (attempt endRecord false))
    (none : ∀ endRecord ∈ endRecords, ¬Valid attempt endRecord)
    (found : Option Record) (firstFailure : Option (ZipOpenCode × String)) :
    ∃ failure,
      structuralEndRecord attempt found firstFailure endRecords = .ok (found, failure) := by
  induction endRecords generalizing firstFailure with
  | nil => exact ⟨firstFailure, rfl⟩
  | cons head rest inductionHypothesis =>
      rw [List.forall_mem_cons] at reports none
      unfold structuralEndRecord
      split
      · exact inductionHypothesis reports.2 none.2 _
      · next stop notReported failed =>
          have reported := reports.1 stop failed
          cases stop with
          | failure code message => exact (notReported code message rfl).elim
          | _ => exact (reported trivial).elim
      · next archive valid => exact (none.1 ⟨archive, valid⟩).elim

/-- The only record that gives an archive is found. -/
theorem structuralEndRecord_chooses
    {endRecord : Record}
    (apart : endRecords.Nodup)
    (reports : ∀ endRecord ∈ endRecords, Avoids Unreported (attempt endRecord false))
    (only : Only (fun other => other ∈ endRecords ∧ Valid attempt other) endRecord)
    (firstFailure : Option (ZipOpenCode × String)) :
    ∃ failure,
      structuralEndRecord attempt none firstFailure endRecords =
        .ok (some endRecord, failure) := by
  induction endRecords generalizing firstFailure with
  | nil => exact nomatch only.1.1
  | cons head rest inductionHypothesis =>
      rw [List.nodup_cons] at apart
      rw [List.forall_mem_cons] at reports
      obtain ⟨⟨member, valid⟩, others⟩ := only
      unfold structuralEndRecord
      split
      · next code message failed =>
          have later : endRecord ∈ rest := by
            rcases List.mem_cons.mp member with rfl | later
            · obtain ⟨archive, valid⟩ := valid
              rw [failed] at valid
              cases valid
            · exact later
          exact inductionHypothesis apart.2 reports.2
            ⟨⟨later, valid⟩, fun other ⟨member, valid⟩ =>
              others other ⟨List.mem_cons_of_mem _ member, valid⟩⟩ _
      · next stop notReported failed =>
          have reported := reports.1 stop failed
          cases stop with
          | failure code message => exact (notReported code message rfl).elim
          | _ => exact (reported trivial).elim
      · next archive validHead =>
          have same : head = endRecord := others head ⟨List.mem_cons_self, archive, validHead⟩
          subst same
          refine structuralEndRecord_skips reports.2 ?_ (some head) firstFailure
          intro other member valid
          have := others other ⟨List.mem_cons_of_mem _ member, valid⟩
          exact apart.1 (this ▸ member)

theorem parseAtEndRecords_eq_ok
    {archive : Archive}
    (apart : endRecords.Nodup)
    (reports : ∀ endRecord ∈ endRecords, Avoids Unreported (attempt endRecord false)) :
    parseAtEndRecords attempt endRecords = .ok archive ↔
      ∃ endRecord, Only (fun other => other ∈ endRecords ∧ Valid attempt other) endRecord ∧
        attempt endRecord true = .ok archive := by
  refine ⟨parseAtEndRecords_returns, ?_⟩
  rintro ⟨endRecord, only, returned⟩
  obtain ⟨failure, chosen⟩ := structuralEndRecord_chooses apart reports only none
  exact bind_eq_ok.mpr ⟨(some endRecord, failure), chosen, returned⟩

end Records

end FlyNes.Zip
