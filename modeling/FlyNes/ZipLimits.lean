import FlyNes.ZipOpened

namespace FlyNes.Zip

open ByteString Checking

/-!
# Limits and the directory

A directory is looked for without any limits, so the same record is found under all of
them.  What one caller accepts, a caller with larger limits accepts as well.
-/

/-- Each limit is at most the other. -/
structure BoundedZipLimits.Within (limits larger : BoundedZipLimits) : Prop where
  maxPackageBytes : limits.maxPackageBytes ≤ larger.maxPackageBytes
  maxPayloadBytes : limits.maxPayloadBytes ≤ larger.maxPayloadBytes
  maxZipEntries : limits.maxZipEntries ≤ larger.maxZipEntries
  maxCumulativeInflatedBytes :
    limits.maxCumulativeInflatedBytes ≤ larger.maxCumulativeInflatedBytes
  maxNameBytes : limits.maxNameBytes ≤ larger.maxNameBytes
  maxCompressionRatio : limits.maxCompressionRatio ≤ larger.maxCompressionRatio
  ratioGuardThresholdBytes : limits.ratioGuardThresholdBytes ≤ larger.ratioGuardThresholdBytes

/-! ### Without a policy -/

section Structure

variable (archive : Bytes) (limits limits' : BoundedZipLimits)

theorem readEndRecord_independent (endRecord : Nat) :
    readEndRecord archive limits endRecord false =
      readEndRecord archive limits' endRecord false := by
  unfold readEndRecord
  simp only [Bool.false_eq_true, false_and]

theorem readCentralEntry_independent (centralEnd cursor : Nat) :
    readCentralEntry archive limits false centralEnd cursor =
      readCentralEntry archive limits' false centralEnd cursor := by
  unfold readCentralEntry provided
  simp only [Bool.false_eq_true, false_and, if_false]

theorem readCentralEntries_independent (centralEnd cursor count : Nat) :
    readCentralEntries archive limits false centralEnd cursor count =
      readCentralEntries archive limits' false centralEnd cursor count := by
  induction count generalizing cursor with
  | zero => rfl
  | succ count inductionHypothesis =>
      unfold readCentralEntries
      rw [readCentralEntry_independent archive limits limits']
      simp only [inductionHypothesis]

theorem validateLocals_independent
    (centralOffset declared declared' : Nat)
    (previousEntryEnd : Option Nat)
    (entries : List CentralEntry) :
    validateLocals archive limits false centralOffset previousEntryEnd declared entries =
      validateLocals archive limits' false centralOffset previousEntryEnd declared' entries := by
  induction entries generalizing previousEntryEnd declared declared' with
  | nil => rfl
  | cons central rest inductionHypothesis =>
      unfold validateLocals provided
      simp only [Bool.false_eq_true, if_false]
      refine congrArg _ (funext fun _ => congrArg _ (funext fun own => ?_))
      exact congrArg (· >>= fun others => pure (own :: others))
        (inductionHypothesis declared declared' (some own.entryEnd))

theorem parseEntriesAtEndRecord_independent (endRecord : Nat) :
    parseEntriesAtEndRecord archive limits endRecord false =
      parseEntriesAtEndRecord archive limits' endRecord false := by
  unfold parseEntriesAtEndRecord
  rw [readEndRecord_independent archive limits limits']
  simp only [readCentralEntries_independent archive limits limits',
    validateLocals_independent archive limits limits' _ 0 0]

end Structure

/-- The loop over the records takes no account of what a record gives with a policy. -/
theorem structuralEndRecord_congr
    {Record Archive : Type} {attempt attempt' : Record → Bool → Except Stop Archive}
    (same : ∀ endRecord, attempt endRecord false = attempt' endRecord false)
    (found : Option Record)
    (firstFailure : Option (ZipOpenCode × String))
    (endRecords : List Record) :
    structuralEndRecord attempt found firstFailure endRecords =
      structuralEndRecord attempt' found firstFailure endRecords := by
  induction endRecords generalizing found firstFailure with
  | nil => rfl
  | cons head rest inductionHypothesis =>
      unfold structuralEndRecord
      rw [same]
      simp only [inductionHypothesis]

theorem Structural.independent
    {archive : Bytes} {limits : BoundedZipLimits} {endRecord : Nat}
    (structural : Structural archive limits endRecord)
    (limits' : BoundedZipLimits) :
    Structural archive limits' endRecord := by
  obtain ⟨candidate, parsed, valid⟩ := structural
  exact ⟨candidate, parsed,
    parseEntriesAtEndRecord_independent archive limits' limits endRecord ▸ valid⟩

/-! ### A policy only refuses -/

section Policy

variable {archive : Bytes} {limits : BoundedZipLimits}

theorem refuse_policy_accepts {wrong : Prop} [Decidable wrong] {fault : Stop} :
    Accepts (refuse (true = true ∧ wrong) fault) (refuse (false = true ∧ wrong) fault) :=
  .refuse fun absurd => nomatch absurd.1

theorem readEndRecord_lenient (endRecord : Nat) :
    Accepts (readEndRecord archive limits endRecord true)
      (readEndRecord archive limits endRecord false) := by
  refine .bind_refl fun diskNumber => .bind_refl fun centralDirectoryDisk => ?_
  refine .bind_refl fun entriesOnDisk => .bind_refl fun totalEntries => ?_
  refine .bind_refl fun centralSize => .bind_refl fun centralOffset => ?_
  exact .bind refuse_policy_accepts fun _ _ => .refl _

theorem readCentralEntry_lenient (centralEnd cursor : Nat) :
    Accepts (readCentralEntry archive limits true centralEnd cursor)
      (readCentralEntry archive limits false centralEnd cursor) := by
  refine .bind_refl fun _ => .bind_refl fun signature => .bind_refl fun _ => ?_
  refine .bind_refl fun flags => .bind_refl fun method => ?_
  refine .bind_refl fun nameLength => .bind_refl fun extraLength => ?_
  refine .bind_refl fun commentLength => .bind_refl fun _ => ?_
  refine .bind refuse_policy_accepts fun _ _ => ?_
  refine .bind_refl fun diskStart => .bind_refl fun _ => ?_
  refine .bind_refl fun localOffset => .bind_refl fun _ => ?_
  refine .bind_refl fun centralEntryEnd => .bind_refl fun _ => ?_
  refine .bind_refl fun rawName => .bind_refl fun centralExtra => ?_
  refine .bind refuse_policy_accepts fun _ _ => ?_
  refine .bind refuse_policy_accepts fun _ _ => ?_
  refine .bind_refl fun _ => .bind_refl fun crc32 => .bind_refl fun compressedSize => ?_
  refine .bind_refl fun uncompressedSize => ?_
  exact .bind (fun _ _ => rfl) fun _ _ => .refl _

theorem readCentralEntries_lenient (centralEnd cursor count : Nat) :
    Accepts (readCentralEntries archive limits true centralEnd cursor count)
      (readCentralEntries archive limits false centralEnd cursor count) := by
  induction count generalizing cursor with
  | zero => exact .refl _
  | succ count inductionHypothesis =>
      refine .bind (readCentralEntry_lenient centralEnd cursor) ?_
      rintro ⟨entry, next⟩ _
      exact .bind (inductionHypothesis next) fun _ _ => .refl _

/-- Without a policy the declared sizes are not added. -/
theorem validateLocals_lenient
    (centralOffset declared declared' : Nat)
    (previousEntryEnd : Option Nat)
    (entries : List CentralEntry) :
    Accepts
      (validateLocals archive limits true centralOffset previousEntryEnd declared entries)
      (validateLocals archive limits false centralOffset previousEntryEnd declared' entries) := by
  induction entries generalizing previousEntryEnd declared declared' with
  | nil => exact .refl _
  | cons central rest inductionHypothesis =>
      refine .bind_refl fun _ => .bind_refl fun own => ?_
      intro locals returned
      obtain ⟨total, _, returned⟩ := bind_eq_ok.mp returned
      obtain ⟨others, found, returned⟩ := bind_eq_ok.mp returned
      have later := inductionHypothesis total declared' (some own.entryEnd) others found
      exact bind_eq_ok.mpr ⟨declared', rfl, bind_eq_ok.mpr ⟨others, later, returned⟩⟩

theorem parseEntriesAtEndRecord_lenient (endRecord : Nat) :
    Accepts (parseEntriesAtEndRecord archive limits endRecord true)
      (parseEntriesAtEndRecord archive limits endRecord false) := by
  refine .bind (readEndRecord_lenient endRecord) fun record _ => ?_
  refine .bind (readCentralEntries_lenient _ _ _) fun directory _ => ?_
  exact .bind (validateLocals_lenient _ _ _ _ _) fun _ _ => .refl _

end Policy

/-! ### Under larger limits -/

section Larger

variable {archive : Bytes} {limits larger : BoundedZipLimits}

theorem readEndRecord_accepts (within : limits.Within larger) (endRecord : Nat) :
    Accepts (readEndRecord archive limits endRecord true)
      (readEndRecord archive larger endRecord true) := by
  unfold readEndRecord
  refine .bind_refl fun diskNumber => .bind_refl fun centralDirectoryDisk => ?_
  refine .bind_refl fun entriesOnDisk => .bind_refl fun totalEntries => ?_
  refine .bind_refl fun centralSize => .bind_refl fun centralOffset => ?_
  refine .bind (.refuse ?_) fun _ _ => .refl _
  exact fun ⟨asked, many⟩ => ⟨asked, Nat.lt_of_le_of_lt within.maxZipEntries many⟩

theorem validateRatio_accepts (within : limits.Within larger) (entry : CentralEntry) :
    Accepts (validateRatio entry limits) (validateRatio entry larger) := by
  rintro ⟨⟩ checked
  rcases validateRatio_returns checked with below | ⟨some, below⟩
  · unfold validateRatio
    rw [if_pos (Nat.le_trans below within.ratioGuardThresholdBytes)]
  · unfold validateRatio
    split
    · rfl
    · refine refuse_eq_ok.mpr ?_
      have := Nat.le_trans below (Nat.mul_le_mul_left _ within.maxCompressionRatio)
      omega

theorem readCentralEntry_accepts (within : limits.Within larger) (centralEnd cursor : Nat) :
    Accepts (readCentralEntry archive limits true centralEnd cursor)
      (readCentralEntry archive larger true centralEnd cursor) := by
  unfold readCentralEntry
  refine .bind_refl fun _ => .bind_refl fun signature => .bind_refl fun _ => ?_
  refine .bind_refl fun flags => .bind_refl fun method => ?_
  refine .bind_refl fun nameLength => .bind_refl fun extraLength => ?_
  refine .bind_refl fun commentLength => .bind_refl fun _ => ?_
  refine .bind (.refuse ?_) fun _ _ => ?_
  · exact fun ⟨asked, long⟩ => ⟨asked, Nat.lt_of_le_of_lt within.maxNameBytes long⟩
  refine .bind_refl fun diskStart => .bind_refl fun _ => ?_
  refine .bind_refl fun localOffset => .bind_refl fun _ => ?_
  refine .bind_refl fun centralEntryEnd => .bind_refl fun _ => ?_
  refine .bind_refl fun rawName => .bind_refl fun centralExtra => ?_
  refine .bind_refl fun _ => .bind_refl fun _ => .bind_refl fun _ => ?_
  refine .bind_refl fun crc32 => .bind_refl fun compressedSize => ?_
  refine .bind_refl fun uncompressedSize => ?_
  exact .bind (.provided fun _ => validateRatio_accepts within _) fun _ _ => .refl _

theorem readCentralEntries_accepts
    (within : limits.Within larger)
    (centralEnd cursor count : Nat) :
    Accepts (readCentralEntries archive limits true centralEnd cursor count)
      (readCentralEntries archive larger true centralEnd cursor count) := by
  induction count generalizing cursor with
  | zero => exact .refl _
  | succ count inductionHypothesis =>
      refine .bind (readCentralEntry_accepts within centralEnd cursor) ?_
      rintro ⟨entry, next⟩ _
      exact .bind (inductionHypothesis next) fun _ _ => .refl _

theorem addDeclared_accepts
    (within : limits.Within larger)
    (declared : Nat)
    (central : CentralEntry) :
    Accepts (addDeclared limits declared central) (addDeclared larger declared central) := by
  refine .bind_refl fun total => .bind (.refuse ?_) fun _ _ => .refl _
  exact Nat.lt_of_le_of_lt within.maxCumulativeInflatedBytes

theorem validateLocals_accepts
    (within : limits.Within larger)
    (centralOffset declared : Nat)
    (previousEntryEnd : Option Nat)
    (entries : List CentralEntry) :
    Accepts
      (validateLocals archive limits true centralOffset previousEntryEnd declared entries)
      (validateLocals archive larger true centralOffset previousEntryEnd declared entries) := by
  induction entries generalizing previousEntryEnd declared with
  | nil => exact .refl _
  | cons central rest inductionHypothesis =>
      refine .bind_refl fun _ => .bind_refl fun own => ?_
      refine .bind (.provided fun _ => addDeclared_accepts within _ _) fun total _ => ?_
      exact .bind (inductionHypothesis total (some own.entryEnd)) fun _ _ => .refl _

theorem parseEntriesAtEndRecord_accepts (within : limits.Within larger) (endRecord : Nat) :
    Accepts (parseEntriesAtEndRecord archive limits endRecord true)
      (parseEntriesAtEndRecord archive larger endRecord true) := by
  refine .bind (readEndRecord_accepts within endRecord) fun record _ => ?_
  refine .bind (readCentralEntries_accepts within _ _ _) fun directory _ => ?_
  exact .bind (validateLocals_accepts within _ _ _ _) fun _ _ => .refl _

theorem parseEntries_accepts (within : limits.Within larger) :
    Accepts (parseEntries archive limits) (parseEntries archive larger) := by
  unfold parseEntries parseAtEndRecords
  refine .bind_refl fun endRecords => ?_
  rw [structuralEndRecord_congr (parseEntriesAtEndRecord_independent archive limits larger)]
  refine .bind_refl fun ⟨found, firstFailure⟩ => ?_
  cases found with
  | some endRecord => exact parseEntriesAtEndRecord_accepts within endRecord
  | none =>
      intro parsed returned
      cases endRecords with
      | nil => cases returned
      | cons first rest =>
          obtain ⟨_, _, returned⟩ := bind_eq_ok.mp returned
          cases firstFailure <;> cases returned

theorem openBoundedZip_accepts
    (within : limits.Within larger)
    {opened : BoundedZipArchive}
    (returned : openBoundedZip archive limits = .ok opened) :
    openBoundedZip archive larger = .ok { opened with limits := larger } := by
  obtain ⟨small, returned⟩ := refuse_bind_eq_ok.mp returned
  obtain ⟨parsed, parse, returned⟩ := bind_eq_ok.mp returned
  cases returned
  refine refuse_bind_eq_ok.mpr ⟨?_, ?_⟩
  · exact fun large => small (Nat.lt_of_le_of_lt within.maxPackageBytes large)
  · exact bind_eq_ok.mpr ⟨parsed, parseEntries_accepts within parsed parse, rfl⟩

end Larger

/-! ### The record that is used -/

/-- An archive was opened from a record that no limits change: it is the only record that
gives an archive under no policy, and every caller who accepts the file has the entries that
this record gives under the limits of that caller. -/
structure OpenedAt (bytes : Bytes) (endRecord : Nat) : Prop where
  only : ∀ limits, Only (Structural bytes limits) endRecord
  used : ∀ limits archive, openBoundedZip bytes limits = .ok archive →
    parseEntriesAtEndRecord bytes limits endRecord true =
      .ok { entries := archive.entries, dataOffsets := archive.dataOffsets }

theorem zip_limits_are_monotone
    (bytes : Bytes)
    (limits : BoundedZipLimits)
    (archive : BoundedZipArchive)
    (opened : openBoundedZip bytes limits = .ok archive) :
    (∃ endRecord, OpenedAt bytes endRecord) ∧
      ∀ larger, limits.Within larger →
        openBoundedZip bytes larger = .ok { archive with limits := larger } := by
  refine ⟨?_, fun larger within => openBoundedZip_accepts within opened⟩
  obtain ⟨_, opened⟩ := refuse_bind_eq_ok.mp opened
  obtain ⟨_, parse, _⟩ := bind_eq_ok.mp opened
  obtain ⟨endRecord, ⟨structural, only⟩, _⟩ := parseEntries_returns parse
  refine ⟨endRecord, {
    only := fun limits' => ⟨structural.independent limits', fun other structural' =>
      only other (structural'.independent limits)⟩
    used := ?_ }⟩
  intro limits' archive' opened'
  obtain ⟨_, opened'⟩ := refuse_bind_eq_ok.mp opened'
  obtain ⟨parsed', parse', opened'⟩ := bind_eq_ok.mp opened'
  cases opened'
  obtain ⟨endRecord', ⟨structural', _⟩, valid'⟩ := parseEntries_returns parse'
  have same := only endRecord' (structural'.independent limits)
  exact same ▸ valid'

/-- The two entries of the sample, under the limits that are the default and any larger. -/
theorem sample_zip_under_larger_limits :
    ∃ archive, openBoundedZip sampleZip .defaults = .ok archive ∧
      (∃ endRecord, OpenedAt sampleZip endRecord) ∧
        ∀ larger, BoundedZipLimits.defaults.Within larger →
          openBoundedZip sampleZip larger = .ok { archive with limits := larger } := by
  have runs : (openBoundedZip sampleZip .defaults).toOption.isSome = true := by
    decide +kernel
  cases shape : openBoundedZip sampleZip .defaults with
  | error stop =>
      rw [shape] at runs
      cases runs
  | ok archive => exact ⟨archive, rfl, zip_limits_are_monotone _ _ archive shape⟩

end FlyNes.Zip
