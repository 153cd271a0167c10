import FlyNes.ZipAgreement

namespace FlyNes.Zip.Port

open ByteString Checking
open Catalog.Port (wrapInt wrapInt_of_fits)

/-!
# Payloads

The inflater of the platform shows what the library reports to it, so both readers put out
the same bytes, or none.
-/

/-! ### One call to the inflater -/

/-- The statuses that let the loop go on. -/
def GoesOn (status : Int) : Prop :=
  status = zOk ∨ status = zStreamEnd ∨ status = zBufError ∨ status = zNeedDict

theorem checkStatus_eq_ok {status : Int} : checkStatus status = .ok () ↔ GoesOn status := by
  constructor
  · intro checked
    obtain ⟨_, checked⟩ := refuse_bind_eq_ok.mp checked
    obtain ⟨_, checked⟩ := refuse_bind_eq_ok.mp checked
    obtain ⟨_, checked⟩ := refuse_bind_eq_ok.mp checked
    have known := refuse_eq_ok.mp checked
    by_contra stops
    unfold GoesOn at stops
    exact known (by simpa only [not_or] using stops)
  · rintro (rfl | rfl | rfl | rfl) <;> rfl

theorem ofReport_eq_returned
    {report : InflateReport} {produced : Bytes}
    {finished needsDictionary needsInput : Bool} {remaining : Nat} :
    InflaterCall.ofReport report =
        .returned produced finished needsDictionary needsInput remaining ↔
      GoesOn report.status ∧ report.produced = produced ∧
        (report.status == zStreamEnd) = finished ∧
        (report.status == zNeedDict) = needsDictionary ∧
        (report.availIn == 0) = needsInput ∧ report.availIn = remaining := by
  unfold InflaterCall.ofReport
  by_cases goesOn : GoesOn report.status
  · have notData : report.status ≠ zDataError := by
      rcases goesOn with same | same | same | same <;> rw [same] <;> decide
    have notMemory : report.status ≠ zMemError := by
      rcases goesOn with same | same | same | same <;> rw [same] <;> decide
    have known := goesOn
    unfold GoesOn at known
    rw [if_neg notData, if_neg notMemory, if_pos known]
    simp only [InflaterCall.returned.injEq, goesOn, true_and]
  · have unknown := goesOn
    unfold GoesOn at unknown
    rw [if_neg unknown]
    simp only [goesOn, false_and, iff_false]
    split
    · exact nofun
    · split <;> exact nofun

/-- The other reader adds the length of all output to nothing that was inflated before. -/
theorem checkedInflated_zero
    {total : Nat} {limits : BoundedZipLimits} :
    (∃ sum, checkedInflated 0 total limits = .ok sum) ↔
      ¬total > limits.maxCumulativeInflatedBytes := by
  have bounded := limits.inflated.2
  constructor
  · rintro ⟨_, returned⟩
    obtain ⟨sum, added, returned⟩ := bind_eq_ok.mp returned
    obtain ⟨_, added⟩ := refuse_bind_eq_ok.mp added
    obtain ⟨within, _⟩ := refuse_bind_eq_ok.mp returned
    cases added
    omega
  · intro within
    have added :
        checkedAdd 0 total "ZIP inflated total overflows" = .ok ((0 + total : Nat) : Int) :=
      checkedAdd_eq (by omega) rfl rfl
    exact ⟨_, bind_eq_ok.mpr ⟨_, added, refuse_bind_eq_ok.mpr ⟨by omega, rfl⟩⟩⟩

theorem appendProduced_eq_ok
    {entry : BoundedZipEntry} {limits : BoundedZipLimits} {output produced longer : Bytes}
    (some : produced.length ≠ 0) :
    appendProduced entry limits output produced = .ok longer ↔
      ¬output.length + produced.length > limits.maxCumulativeInflatedBytes ∧
        ¬output.length + produced.length > entry.uncompressedSize ∧
          output ++ produced = longer := by
  unfold appendProduced
  rw [if_pos some, refuse_bind_eq_ok, refuse_bind_eq_ok]
  simp only [pure, Except.pure, Except.ok.injEq]

/-! ### The loop -/

theorem inflateLoop_iff
    (zlib : Zlib) (central : CentralEntry) (limits : BoundedZipLimits)
    (calls : Nat) (output : Bytes) (turns : Nat) (payload : Bytes) :
    inflateLoop (.ofZlib zlib) central limits 0 calls output turns = .ok payload ↔
      Zip.inflateLoop zlib central.toBoundedZipEntry limits calls output turns =
        .ok payload := by
  induction turns generalizing calls output with
  | zero => exact ⟨nofun, nofun⟩
  | succ turns inductionHypothesis =>
      unfold inflateLoop Zip.inflateLoop
      dsimp only
      rw [show (Inflater.ofZlib zlib).inflate calls =
        InflaterCall.ofReport (zlib.inflate calls) from rfl]
      generalize zlib.inflate calls = report
      by_cases goesOn : GoesOn report.status
      swap
      · have failed : checkStatus report.status ≠ .ok () :=
          fun checked => goesOn (checkStatus_eq_ok.mp checked)
        constructor
        · intro returned
          split at returned
          · cases returned
          · cases returned
          · next shown => exact (goesOn (ofReport_eq_returned.mp shown).1).elim
        · intro returned
          obtain ⟨_, checked, _⟩ := bind_eq_ok.mp returned
          exact (failed checked).elim
      rw [ofReport_eq_returned.mpr ⟨goesOn, rfl, rfl, rfl, rfl, rfl⟩,
        checkStatus_eq_ok.mpr goesOn]
      dsimp only
      by_cases some : report.produced.length > 0
      · have later :
            (if (report.status == zStreamEnd) = true then
                checkRemaining report.availIn (output ++ report.produced)
              else
                inflateLoop (.ofZlib zlib) central limits 0 (calls + 1)
                  (output ++ report.produced) turns) = .ok payload ↔
              (if report.status = zStreamEnd then do
                refuse (report.availIn ≠ 0)
                  (invalid "ZIP compressed size includes trailing bytes")
                pure (output ++ report.produced)
              else if report.produced.length = 0 then
                .error (invalid (inflateStallMessage
                  (classifyInflateStall (report.status == zNeedDict) (report.availIn == 0))))
              else
                Zip.inflateLoop zlib central.toBoundedZipEntry limits (calls + 1)
                  (output ++ report.produced) turns) = .ok payload := by
          by_cases ended : report.status = zStreamEnd
          · rw [if_pos (beq_iff_eq.mpr ended), if_pos ended]
            exact Iff.rfl
          · rw [if_neg (fun same => ended (beq_iff_eq.mp same)), if_neg ended,
              if_neg (by omega)]
            exact inductionHypothesis _ _
        rw [if_pos some]
        constructor
        · intro returned
          obtain ⟨sum, added, returned⟩ := bind_eq_ok.mp returned
          obtain ⟨declared, returned⟩ := refuse_bind_eq_ok.mp returned
          have within := checkedInflated_zero.mp ⟨sum, added⟩
          have appended := (@appendProduced_eq_ok central.toBoundedZipEntry limits output
            report.produced _ (by omega)).mpr ⟨within, declared, rfl⟩
          exact bind_eq_ok.mpr ⟨(), rfl, bind_eq_ok.mpr ⟨_, appended, later.mp returned⟩⟩
        · intro returned
          obtain ⟨_, _, returned⟩ := bind_eq_ok.mp returned
          obtain ⟨longer, appended, returned⟩ := bind_eq_ok.mp returned
          obtain ⟨within, declared, rfl⟩ := (appendProduced_eq_ok (by omega)).mp appended
          obtain ⟨sum, added⟩ := checkedInflated_zero.mpr within
          exact bind_eq_ok.mpr ⟨sum, added, refuse_bind_eq_ok.mpr ⟨declared, later.mpr returned⟩⟩
      · have none : report.produced = [] := List.eq_nil_of_length_eq_zero (by omega)
        have appended : appendProduced central.toBoundedZipEntry limits output report.produced =
            .ok output := if_neg (by omega)
        rw [if_neg some, appended]
        by_cases ended : report.status = zStreamEnd
        · rw [if_pos (beq_iff_eq.mpr ended)]
          change _ ↔ (if report.status = zStreamEnd then _ else _) = _
          rw [if_pos ended]
          exact Iff.rfl
        · rw [if_neg (fun same => ended (beq_iff_eq.mp same))]
          constructor
          · intro returned
            split at returned <;> cases returned
          · intro returned
            change (if report.status = zStreamEnd then _ else
              if report.produced.length = 0 then _ else _) = Except.ok payload at returned
            rw [if_neg ended, if_pos (by omega)] at returned
            cases returned

/-! ### A whole payload -/

theorem wrapInt_eq_iff {value : Nat} : wrapInt value = value ↔ value ≤ int32Max := by
  constructor
  · intro same
    have below : wrapInt value < 2147483648 := Int.bmod_lt (by decide)
    rw [same] at below
    unfold int32Max
    omega
  · exact wrapInt_natCast

variable {zlib : Zlib}

theorem created_eq_none :
    (Inflater.ofZlib zlib).created = none ↔ initInflater zlib.initStatus = .ok () := by
  unfold Inflater.ofZlib initInflater
  by_cases ok : zlib.initStatus = zOk
  · rw [ok]
    exact ⟨fun _ => rfl, fun _ => rfl⟩
  · constructor
    · intro none
      change (if zlib.initStatus = zMemError then _ else _) = _ at none
      split at none <;> cases none
    · intro returned
      obtain ⟨_, returned⟩ := refuse_bind_eq_ok.mp returned
      exact (ok (not_not.mp (refuse_eq_ok.mp returned))).elim

variable {bytes : Bytes}

theorem inflate_iff
    {turns : Nat} {payload : Bytes} {own : LocalEntry}
    {limits : BoundedZipLimits}
    (readable : Readable bytes own.central.toBoundedZipEntry own.dataOffset) :
    (¬own.central.uncompressedSize > limits.maxPayloadBytes ∧
        inflate (.ofZlib zlib) turns bytes own limits 0 = .ok payload) ↔
      inflateSelectedPayload zlib turns bytes own.central.toBoundedZipEntry own.dataOffset limits =
        .ok payload := by
  obtain ⟨start, sameStart, inside⟩ := readable.window
  have method := readable.method
  change start + own.central.compressedSize ≤ bytes.length at inside
  change own.central.method = 0 ∨ own.central.method = 8 at method
  unfold inflate inflateSelectedPayload
  rw [intMax_eq, refuse_bind_eq_ok, refuse_bind_eq_ok, refuse_bind_eq_ok, refuse_bind_eq_ok,
    refuse_bind_eq_ok, refuse_bind_eq_ok, refuse_bind_eq_ok, sameStart]
  change (¬own.central.uncompressedSize > limits.maxPayloadBytes ∧
    ¬(own.central.uncompressedSize : Int) > int32Max ∧ _) ↔
    (¬own.central.uncompressedSize > limits.maxPayloadBytes ∧
      ¬own.central.uncompressedSize > int32Max ∧ ¬own.central.compressedSize > int32Max ∧ _)
  refine and_congr_right fun _ => and_congr (not_congr Int.ofNat_lt) ?_
  by_cases small : own.central.compressedSize ≤ int32Max
  swap
  · constructor
    · exact fun ⟨same, _⟩ => (small (wrapInt_eq_iff.mp (not_not.mp same))).elim
    · exact fun ⟨fits, _⟩ => (fits (by omega)).elim
  rw [wrapInt_natCast small]
  have window : ¬((start : Int).toNat > bytes.length ∨
      own.central.compressedSize > bytes.length - (start : Int).toNat) := by
    rw [Int.toNat_natCast]
    omega
  have positive : ¬(start : Int) < 0 := by omega
  have fits : ¬own.central.compressedSize > int32Max := by omega
  change ¬((own.central.compressedSize : Int) ≠ own.central.compressedSize) ∧
    (if own.central.method = 0 then _ else _) = _ ↔ _ ∧ _ ∧ ¬((start : Int).toNat > bytes.length ∨
      own.central.compressedSize > bytes.length - (start : Int).toNat) ∧
    (if own.central.method = 0 then _ else _) = _
  simp only [ne_eq, not_true_eq_false, not_false_eq_true, true_and, positive, fits, window]
  by_cases stored : own.central.method = 0
  · have copied : copyOfRange bytes start (start + own.central.compressedSize) =
        copyRange bytes start own.central.compressedSize := copyOfRange_eq inside rfl rfl
    rw [if_pos stored, if_pos stored, refuse_bind_eq_ok, refuse_bind_eq_ok, Int.toNat_natCast,
      copied]
    exact Iff.rfl
  · have supported := method.resolve_left stored
    rw [if_neg stored, if_neg stored, refuse_bind_eq_ok, bind_eq_ok]
    change _ ↔ ¬own.central.method ≠ 8 ∧ _
    constructor
    · intro returned
      split at returned
      · cases returned
      · next created =>
          obtain ⟨_, returned⟩ := refuse_bind_eq_ok.mp returned
          exact ⟨not_not.mpr supported, (), created_eq_none.mp created,
            (inflateLoop_iff zlib own.central limits 0 [] turns payload).mp returned⟩
    · rintro ⟨_, ⟨⟩, created, returned⟩
      rw [created_eq_none.mpr created]
      refine refuse_bind_eq_ok.mpr ⟨?_, ?_⟩
      · rw [false_or]
        omega
      exact (inflateLoop_iff zlib own.central limits 0 [] turns payload).mpr returned

/-! ### The entry that is asked for -/

variable {index : Nat}

/-- Where no entry from an index on has the offset, the result stays. -/
theorem selectFrom_skips
    {rawName : Bytes} {localHeaderOffset : Int} {result : ExactEntrySelection}
    {entries : List BoundedZipEntry}
    (others : ∀ entry ∈ entries, entry.localHeaderOffset ≠ localHeaderOffset) :
    selectFrom rawName localHeaderOffset result index entries = result := by
  induction entries generalizing index with
  | nil => rfl
  | cons entry rest inductionHypothesis =>
      rw [List.forall_mem_cons] at others
      unfold selectFrom
      rw [if_pos (.inl others.1)]
      exact inductionHypothesis others.2

/-- Offsets that increase make an entry the only one with its name and offset. -/
theorem selectFrom_sorted
    {further : Nat} {entries : List BoundedZipEntry} {entry : BoundedZipEntry}
    {result : ExactEntrySelection}
    (sorted : entries.Pairwise fun first second =>
      first.localHeaderOffset < second.localHeaderOffset)
    (there : entries[further]? = some entry)
    (fresh : result.status ≠ .found) :
    selectFrom entry.rawName entry.localHeaderOffset result index entries =
      { status := .found, index := index + further } := by
  induction entries generalizing index further with
  | nil => cases there
  | cons head rest inductionHypothesis =>
      obtain ⟨after, sorted⟩ := List.pairwise_cons.mp sorted
      unfold selectFrom
      cases further with
      | zero =>
          cases there
          rw [if_neg (by simp), if_neg fresh]
          exact selectFrom_skips fun other member => Int.ne_of_gt (after other member)
      | succ further =>
          have below := after entry (List.mem_of_getElem? there)
          rw [if_pos (.inl (Int.ne_of_lt below)), inductionHypothesis sorted there]
          congr 1
          omega

/-- An entry of the first reader that the other one shows, in the same file. -/
structure SameEntry
    (archive : BoundedZipArchive)
    (index : Nat)
    (entry : Entry) : Prop where
  shown : archive.entries[index]? = some entry.shown
  dataOffset : archive.dataOffsets[index]? = some entry.own.dataOffset
  bytes : entry.physicalBytes = archive.physicalBytes
  limits : entry.limits = archive.limits

theorem readPayload_iff
    {limits : BoundedZipLimits} {archive : BoundedZipArchive}
    (opened : Opened bytes limits archive)
    {entry : Entry}
    (same : SameEntry archive index entry)
    (zlib : Zlib) (turns : Nat) (payload : Bytes) :
    entry.readPayload (.ofZlib zlib) turns = .ok payload ↔
      readBoundedZipPayload zlib turns archive entry.shown.rawName
        entry.shown.localHeaderOffset = .ok payload := by
  obtain ⟨_, _, _, _, _, _, laidOut⟩ := opened.laidOut
  have readable := opened.readable same.shown same.dataOffset
  have selected : selectExactBoundedZipEntry archive.entries entry.shown.rawName
      entry.shown.localHeaderOffset = { status := .found, index } := by
    have found := @selectFrom_sorted 0 index archive.entries entry.shown {} laidOut.sorted
      same.shown (by decide)
    rwa [Nat.zero_add] at found
  have inside : index < archive.dataOffsets.length :=
    (List.getElem?_eq_some_iff.mp same.dataOffset).1
  rw [Entry.shown_eq] at readable
  unfold Entry.readPayload readBoundedZipPayload
  rw [selected]
  dsimp only
  rw [refuse_bind_eq_ok, refuse_bind_eq_ok, refuse_bind_eq_ok, refuse_bind_eq_ok,
    elementAt_eq_ok.mpr same.shown, elementAt_eq_ok.mpr same.dataOffset, same.bytes, same.limits]
  have shown := entry.shown_eq
  constructor
  · rintro ⟨within, returned⟩
    obtain ⟨result, inflated, returned⟩ := bind_eq_ok.mp returned
    have selectedPayload := (inflate_iff readable).mp ⟨within, inflated⟩
    rw [← shown] at selectedPayload
    refine ⟨nofun, nofun, by omega, bind_eq_ok.mpr ⟨_, rfl, bind_eq_ok.mpr ⟨_, rfl, ?_⟩⟩⟩
    exact bind_eq_ok.mpr ⟨result, selectedPayload, returned⟩
  · rintro ⟨_, _, _, returned⟩
    obtain ⟨_, ⟨⟩, returned⟩ := bind_eq_ok.mp returned
    obtain ⟨_, ⟨⟩, returned⟩ := bind_eq_ok.mp returned
    obtain ⟨result, selectedPayload, returned⟩ := bind_eq_ok.mp returned
    rw [shown] at selectedPayload
    obtain ⟨within, inflated⟩ := (inflate_iff readable).mpr selectedPayload
    exact ⟨within, bind_eq_ok.mpr ⟨result, inflated, returned⟩⟩

end FlyNes.Zip.Port
