import FlyNes.RomPayloadPort

namespace FlyNes.Catalog.Port

open ByteString

/-!
# The two parsers agree

Sizes that fit a signed word are the same numbers in both parsers, and the ones that do
not fit are noticed by both.  No position of a payload wraps around, because a payload is
shorter than the smallest number that does.
-/

/-! ### Results -/

def RomAnalysis.of (analysis : Catalog.RomAnalysis) : RomAnalysis where
  expectedBytes := analysis.expectedBytes
  actualBytes := analysis.actualBytes
  prgBytes := analysis.prgBytes
  chrBytes := analysis.chrBytes
  mapper := analysis.mapper
  submapper := analysis.submapper
  trainer := analysis.trainer
  battery := analysis.battery
  diskSides := analysis.diskSides
  warnings := analysis.warnings

/-- The result of the other parser with the same fields. -/
def Parsed.of (result : RomParseResult) : Parsed where
  format := result.format
  state := result.state
  reason := result.reason
  analysis := .of result.analysis

/-- Both parsers recognize a payload, with the same result. -/
def Agree (first : Except Fault RomParseResult) (second : Except Fault Parsed) : Prop :=
  ∃ result, first = .ok result ∧ result.recognized = true ∧ second = .ok (.of result)

/-- There is a mapper, or none. -/
def Sensible (analysis : Catalog.RomAnalysis) : Prop :=
  -1 ≤ analysis.mapper ∧ -1 ≤ analysis.submapper

theorem newAnalysis_of
    {analysis : Catalog.RomAnalysis}
    (sensible : Sensible analysis) :
    newAnalysis (.of analysis) = .ok (.of analysis) := by
  obtain ⟨mapper, submapper⟩ := sensible
  unfold newAnalysis RomAnalysis.of
  rw [if_neg (by simp), if_neg (by simp; omega)]
  rfl

theorem agree_invalid
    (format : RomFormat)
    (reason : CompatibilityReason)
    {analysis : Catalog.RomAnalysis}
    (sensible : Sensible analysis) :
    Agree (.ok (Catalog.invalid format reason analysis))
      (invalid format reason (newAnalysis (.of analysis))) := by
  refine ⟨_, rfl, rfl, ?_⟩
  rw [newAnalysis_of sensible]
  rfl

/-- A result that is not an error. -/
theorem agree_new
    {result : RomParseResult}
    (recognized : result.recognized = true)
    (allowed : result.state = .playable → result.reason = .playableNes)
    (sensible : Sensible result.analysis) :
    Agree (.ok result) (do
      newParsed result.format result.state result.reason
        (← newAnalysis (.of result.analysis))) := by
  refine ⟨result, rfl, recognized, ?_⟩
  rw [newAnalysis_of sensible]
  change newParsed result.format result.state result.reason (.of result.analysis) = _
  unfold newParsed
  rw [if_neg (by simpa using allowed)]
  rfl

theorem sensible_basicAnalysis (size : Nat) : Sensible (basicAnalysis size) :=
  ⟨Int.le_refl _, Int.le_refl _⟩

theorem sensible_fdsAnalysis (expected actual sides : Nat) :
    Sensible (Catalog.fdsAnalysis expected actual sides) :=
  ⟨Int.le_refl _, Int.le_refl _⟩

/-! ### Numbers -/

variable {value : Int}

theorem wrapInt_of_fits
    (low : -2 ^ 31 ≤ value)
    (high : value < 2 ^ 31) :
    wrapInt value = value := by
  refine Int.bmod_eq_of_le ?_ ?_
  · omega
  · omega

theorem wrapLong_of_fits
    (low : -2 ^ 63 ≤ value)
    (high : value < 2 ^ 63) :
    wrapLong value = value := by
  refine Int.bmod_eq_of_le ?_ ?_
  · omega
  · omega

/-- A number that is not negative is exact up to the greatest signed one. -/
theorem exactLong_natCast (value : Nat) :
    exactLong value = if value > signed64Max then none else some (value : Int) := by
  unfold exactLong longMax signed64Max
  by_cases fits : value > 0x7FFFFFFFFFFFFFFF
  · rw [if_pos fits, if_neg (by omega)]
  · rw [if_neg fits, if_pos (by omega)]

theorem addExact_eq (left right : Nat) :
    addExact left right = (checkedSignedAdd left right).map Nat.cast := by
  unfold addExact checkedSignedAdd
  rw [← Nat.cast_add, exactLong_natCast]
  unfold signed64Max
  by_cases large : left + right > 0x7FFFFFFFFFFFFFFF
  · rw [if_pos large, if_pos (by omega)]
    rfl
  · have small : left + right < word64 := by
      unfold word64
      omega
    rw [if_neg large, if_neg (by omega), Nat.mod_eq_of_lt small]
    rfl

theorem multiplyExact_eq (left right : Nat) :
    multiplyExact left right = (checkedSignedMultiply left right).map Nat.cast := by
  unfold multiplyExact checkedSignedMultiply
  rw [← Nat.cast_mul, exactLong_natCast]
  have same : left * right > signed64Max ↔ left ≠ 0 ∧ right > signed64Max / left := by
    by_cases zero : left = 0
    · simp [zero]
    · rw [gt_iff_lt, gt_iff_lt, Nat.div_lt_iff_lt_mul (Nat.pos_of_ne_zero zero), Nat.mul_comm]
      simp [zero]
  by_cases large : left * right > signed64Max
  · rw [if_pos large, if_pos (same.mp large)]
    rfl
  · rw [if_neg large, if_neg (mt same.mpr large)]
    have small : left * right < word64 := by
      unfold signed64Max at large
      unfold word64
      omega
    rw [Nat.mod_eq_of_lt small]
    rfl

theorem nes2Size_eq (low : UInt8) (highNibble unit : Nat) :
    nes2Size low highNibble unit = (Catalog.nes2Size low highNibble unit).map Nat.cast := by
  unfold nes2Size Catalog.nes2Size
  split
  · exact multiplyExact_eq _ _
  · dsimp only
    split
    · rfl
    · next few =>
      have below : 1 <<< (low.toNat >>> 2) < 2 ^ 63 := by
        rw [Nat.one_shiftLeft]
        exact Nat.pow_lt_pow_right (by decide) (by omega)
      rw [wrapLong_of_fits ((Int.natCast_nonneg _).trans' (by decide)) (by exact_mod_cast below)]
      exact multiplyExact_eq _ _

/-! ### Bytes -/

section Bytes

variable {payload : Bytes} {index : Nat}

theorem readByte_of_lt
    (within : index < payload.length) :
    ∃ byte, readByte payload index = .ok byte := by
  refine ⟨payload[index], ?_⟩
  unfold readByte
  rw [List.getElem?_eq_getElem within]

variable {offset : Nat}

theorem matchesAt_of_le
    {signature : Bytes}
    (within : offset + signature.length ≤ payload.length) :
    ∃ found, matchesAt payload offset signature = .ok found := by
  induction signature generalizing offset with
  | nil => exact ⟨true, rfl⟩
  | cons expected rest inductionHypothesis =>
      rw [List.length_cons] at within
      obtain ⟨byte, read⟩ := @readByte_of_lt payload offset (by omega)
      unfold matchesAt
      rw [read]
      by_cases same : byte = expected
      · obtain ⟨found, later⟩ := @inductionHypothesis (offset + 1) (by omega)
        exact ⟨found, by simpa [same, bind, Except.bind] using later⟩
      · exact ⟨false, by simp [same, bind, Except.bind, pure, Except.pure]⟩

theorem startsWithAt_ok (payload : Bytes) (offset : Nat) (signature : Bytes) :
    ∃ found, Catalog.startsWithAt payload offset signature = .ok found := by
  unfold Catalog.startsWithAt
  split
  · exact ⟨false, rfl⟩
  · exact matchesAt_of_le (by omega)

/-- An offset that does not wrap around is the same in both parsers. -/
theorem startsWithAt_eq
    (short : payload.length < 2 ^ 31)
    (fits : offset < 2 ^ 31)
    (signature : Bytes) :
    startsWithAt payload offset signature = Catalog.startsWithAt payload offset signature := by
  unfold startsWithAt Catalog.startsWithAt
  rw [wrapInt_of_fits (by omega) (by omega), Int.toNat_natCast]
  by_cases outside : offset > payload.length ∨ payload.length - offset < signature.length
  · rw [if_pos outside, if_pos (by omega)]
  · rw [if_neg outside, if_neg (by omega)]

theorem anyNonzero_of_le
    {count : Nat}
    (within : index + count ≤ payload.length) :
    ∃ found, anyNonzero payload index count = .ok found := by
  induction count generalizing index with
  | zero => exact ⟨false, rfl⟩
  | succ count inductionHypothesis =>
      obtain ⟨byte, read⟩ := @readByte_of_lt payload index (by omega)
      unfold anyNonzero
      rw [read]
      by_cases zero : byte = 0
      · obtain ⟨found, later⟩ := @inductionHypothesis (index + 1) (by omega)
        exact ⟨found, by simpa [zero, bind, Except.bind] using later⟩
      · exact ⟨true, by simp [zero, bind, Except.bind, pure, Except.pure]⟩

theorem isDirty_of_le
    (long : inesHeaderBytes ≤ payload.length)
    (isNes2 : Bool) :
    ∃ dirty, isDirty isNes2 payload = .ok dirty := by
  cases isNes2 with
  | true => exact ⟨false, rfl⟩
  | false => exact @anyNonzero_of_le payload 12 4 long

end Bytes

/-! ### NES -/

def NesHeader.of (header : Catalog.NesHeader) : NesHeader where
  nes2 := header.isNes2
  mapper := header.mapper
  submapper := header.submapper
  sizes := header.sizes.map fun sizes => ((sizes.1 : Int), (sizes.2 : Int))

/-- Two sizes that are the same numbers are the same pair. -/
theorem sizes_eq (first second : Option Nat) :
    (do
        let prgBytes ← first.map (Nat.cast : Nat → Int)
        let chrBytes ← second.map (Nat.cast : Nat → Int)
        return (prgBytes, chrBytes)) =
      (do
        let prgBytes ← first
        let chrBytes ← second
        return (prgBytes, chrBytes) : Option (Nat × Nat)).map
          fun sizes => ((sizes.1 : Int), (sizes.2 : Int)) := by
  cases first with
  | none => rfl
  | some prgBytes =>
      cases second with
      | none => rfl
      | some chrBytes => rfl

variable {payload : Bytes}

theorem readHeader_of_le
    (long : inesHeaderBytes ≤ payload.length)
    (flags6 flags7 : Nat) :
    ∃ header, Catalog.readHeader payload flags6 flags7 = .ok header ∧
      readHeader payload flags6 flags7 = .ok (.of header) := by
  unfold inesHeaderBytes at long
  obtain ⟨byte8, read8⟩ := @readByte_of_lt payload 8 (by omega)
  obtain ⟨byte9, read9⟩ := @readByte_of_lt payload 9 (by omega)
  obtain ⟨low, read4⟩ := @readByte_of_lt payload 4 (by omega)
  obtain ⟨low', read5⟩ := @readByte_of_lt payload 5 (by omega)
  have sizes := sizes_eq (Catalog.nes2Size low (byte9.toNat &&& 0x0F) 16384)
    (Catalog.nes2Size low' (byte9.toNat >>> 4) 8192)
  have sizes' := sizes_eq (checkedSignedMultiply low.toNat 16384)
    (checkedSignedMultiply low'.toNat 8192)
  rw [← nes2Size_eq, ← nes2Size_eq] at sizes
  rw [← multiplyExact_eq, ← multiplyExact_eq] at sizes'
  unfold Catalog.readHeader readHeader
  rw [read4, read5, read8, read9]
  dsimp only [bind, Except.bind]
  split
  · refine ⟨_, rfl, ?_⟩
    exact congrArg (fun sizes => Except.ok (NesHeader.mk true _ _ sizes)) sizes
  · refine ⟨_, rfl, ?_⟩
    exact congrArg (fun sizes => Except.ok (NesHeader.mk false _ _ sizes)) sizes'

/-- The sum of what stands in front of the content and the content. -/
theorem expected_eq (prefixBytes prgBytes chrBytes : Nat) :
    (do
        let contentBytes ← addExact prgBytes chrBytes
        addExact prefixBytes contentBytes) =
      (do
        let contentBytes ← checkedSignedAdd prgBytes chrBytes
        checkedSignedAdd prefixBytes contentBytes).map Nat.cast := by
  rw [addExact_eq]
  cases checkedSignedAdd prgBytes chrBytes with
  | none => rfl
  | some contentBytes =>
      simp only [Option.map_some, Option.bind_eq_bind, Option.bind_some]
      exact addExact_eq prefixBytes contentBytes

/-- Both parsers hold the sizes of a header against the payload. -/
theorem agree_checkSizes
    (format : RomFormat)
    {analysis : Catalog.RomAnalysis}
    (sensible : Sensible analysis)
    (few : analysis.warnings.length < 2)
    (prefixBytes : Nat) :
    Agree (.ok (Catalog.checkSizes format analysis prefixBytes))
      (checkSizes format analysis.actualBytes analysis.prgBytes analysis.chrBytes prefixBytes
        analysis.warnings fun expectedBytes warnings =>
          newAnalysis { RomAnalysis.of analysis with expectedBytes, warnings }) := by
  have again (expectedBytes : Nat) (warnings : List RomWarning) :
      Sensible { analysis with expectedBytes, warnings } := sensible
  unfold checkSizes Catalog.checkSizes
  dsimp only
  rw [expected_eq]
  generalize (do
    let contentBytes ← checkedSignedAdd analysis.prgBytes analysis.chrBytes
    checkedSignedAdd prefixBytes contentBytes) = expected
  cases expected with
  | none =>
      dsimp only [Option.map_none]
      exact agree_invalid format .nesSizeOverflow (again 0 analysis.warnings)
  | some expected =>
      dsimp only [Option.map_some]
      have zero : (analysis.prgBytes : Int) = 0 ↔ analysis.prgBytes = 0 := Int.natCast_eq_zero
      have less : (analysis.actualBytes : Int) < expected ↔ analysis.actualBytes < expected :=
        Int.ofNat_lt
      have more : (analysis.actualBytes : Int) > expected ↔ analysis.actualBytes > expected :=
        Int.ofNat_lt
      simp only [zero, less, more]
      split
      · exact agree_invalid format .nesZeroPrg (again expected analysis.warnings)
      · split
        · exact agree_invalid format .nesTruncated (again expected analysis.warnings)
        · split
          · unfold appendWarning
            rw [if_pos few]
            exact @agree_new
              ⟨true, format, .playable, .playableNes,
                { analysis with
                  expectedBytes := expected
                  warnings := analysis.warnings ++ [.trailingData] }⟩
              rfl (fun _ => rfl) sensible
          · exact @agree_new
              ⟨true, format, .playable, .playableNes,
                { analysis with expectedBytes := expected }⟩
              rfl (fun _ => rfl) sensible

theorem agree_parseNes (payload : Bytes) :
    Agree (Catalog.parseNes payload) (parseNes payload) := by
  unfold parseNes Catalog.parseNes
  by_cases tooShort : payload.length < inesHeaderBytes
  · rw [if_pos tooShort, if_pos tooShort]
    exact agree_invalid .ines .nesHeaderInvalid (sensible_basicAnalysis _)
  · rw [if_neg tooShort, if_neg tooShort]
    have long : inesHeaderBytes ≤ payload.length := Nat.not_lt.mp tooShort
    obtain ⟨flags6, read6⟩ := @readByte_of_lt payload 6
      (Nat.lt_of_lt_of_le (by decide) long)
    obtain ⟨flags7, read7⟩ := @readByte_of_lt payload 7
      (Nat.lt_of_lt_of_le (by decide) long)
    obtain ⟨header, read, read'⟩ := readHeader_of_le long flags6.toNat flags7.toNat
    obtain ⟨dirty, found⟩ := isDirty_of_le long header.isNes2
    rw [read6, read7]
    dsimp only [bind, Except.bind]
    rw [read, read']
    dsimp only [NesHeader.of]
    generalize (flags6.toNat &&& 0x04 != 0) = trainer
    generalize (flags6.toNat &&& 0x02 != 0) = battery
    have sensible (mapper : Nat) : (-1 : Int) ≤ mapper ∧ (-1 : Int) ≤ header.submapper := by
      omega
    cases sized : header.sizes with
    | none => exact agree_invalid _ .nesSizeOverflow (sensible header.mapper)
    | some sizes =>
        obtain ⟨prgBytes, chrBytes⟩ := sizes
        have front :
            (inesHeaderBytes + if trainer then (trainerBytes : Int) else 0) =
              (inesHeaderBytes + if trainer then trainerBytes else 0 : Nat) := by
          cases trainer <;> rfl
        dsimp only [Option.map_some]
        rw [found, front]
        dsimp only
        generalize inesHeaderBytes + (if trainer then trainerBytes else 0) = prefixBytes
        cases dirty with
        | true =>
            exact @agree_checkSizes _
              { actualBytes := payload.length, prgBytes, chrBytes
                mapper := (flags6.toNat >>> 4 : Nat), submapper := header.submapper, trainer
                battery, warnings := [.dirtyHeader] }
              (sensible _) (by simp) prefixBytes
        | false =>
            exact @agree_checkSizes _
              { actualBytes := payload.length, prgBytes, chrBytes, mapper := header.mapper
                submapper := header.submapper, trainer, battery }
              (sensible _) (by simp) prefixBytes

/-! ### FDS -/

/-- The sides from one on, whose offsets do not wrap around. -/
theorem validFdsSignatures_eq
    (short : payload.length < 2 ^ 31)
    (offset side : Nat)
    {sides : Nat}
    (within : offset + (side + sides) * fdsSideBytes ≤ payload.length) :
    validFdsSignatures payload offset side sides =
      Catalog.validFdsSignatures payload (offset + side * fdsSideBytes) sides := by
  induction sides generalizing side with
  | zero => rfl
  | succ sides inductionHypothesis =>
      have fits : offset + side * fdsSideBytes < 2 ^ 31 := by
        unfold fdsSideBytes at within ⊢
        omega
      have inner : wrapInt (side * fdsSideBytes) = (side * fdsSideBytes : Nat) := by
        rw [← Nat.cast_mul]
        exact wrapInt_of_fits (by omega) (by omega)
      have here : wrapInt (offset + wrapInt (side * fdsSideBytes)) =
          (offset + side * fdsSideBytes : Nat) := by
        rw [inner, ← Nat.cast_add]
        exact wrapInt_of_fits (by omega) (by omega)
      unfold validFdsSignatures Catalog.validFdsSignatures
      rw [here, startsWithAt_eq short fits]
      obtain ⟨signed, found⟩ :=
        startsWithAt_ok payload (offset + side * fdsSideBytes) fdsSideSignature
      rw [found]
      dsimp only [bind, Except.bind]
      cases signed with
      | false => rw [if_pos Bool.not_false, if_pos Bool.not_false]
      | true =>
          rw [if_neg nofun, if_neg nofun]
          cases sides with
          | zero => simp only [validFdsSignatures, Catalog.validFdsSignatures]
          | succ sides =>
              have next :
                  (if 0 < sides + 1 then
                    (offset + side * fdsSideBytes + fdsSideBytes) % word64
                  else offset + side * fdsSideBytes) =
                    offset + (side + 1) * fdsSideBytes := by
                rw [if_pos (Nat.succ_pos sides)]
                unfold fdsSideBytes at within ⊢
                unfold word64
                omega
              have shift : side + (sides + 1 + 1) = side + 1 + (sides + 1) := by
                omega
              rw [shift] at within
              rw [next, inductionHypothesis (side + 1) within]

theorem validFdsSignatures_ok (payload : Bytes) (offset sides : Nat) :
    ∃ valid, Catalog.validFdsSignatures payload offset sides = .ok valid := by
  induction sides generalizing offset with
  | zero => exact ⟨true, rfl⟩
  | succ sides inductionHypothesis =>
      unfold Catalog.validFdsSignatures
      obtain ⟨signed, found⟩ := startsWithAt_ok payload offset fdsSideSignature
      rw [found]
      cases signed with
      | false => exact ⟨false, rfl⟩
      | true => exact inductionHypothesis _

theorem agree_unsupportedFds
    {analysis : Catalog.RomAnalysis}
    (sensible : Sensible analysis) :
    Agree (.ok (Catalog.unsupportedFds analysis))
      (unsupportedFds (newAnalysis (.of analysis))) :=
  @agree_new (Catalog.unsupportedFds analysis) rfl nofun sensible

theorem agree_parseHeaderedFds
    (short : payload.length < 2 ^ 31) :
    Agree (Catalog.parseHeaderedFds payload) (parseHeaderedFds payload) := by
  unfold parseHeaderedFds Catalog.parseHeaderedFds
  by_cases tooShort : payload.length < fdsHeaderBytes
  · rw [if_pos tooShort, if_pos tooShort]
    exact agree_invalid .fds .fdsTruncated (sensible_basicAnalysis _)
  · rw [if_neg tooShort, if_neg tooShort]
    obtain ⟨sides, read⟩ := @readByte_of_lt payload 4
      (Nat.lt_of_lt_of_le (by decide) (Nat.not_lt.mp tooShort))
    have few := sides.toNat_lt
    have large : fdsHeaderBytes + sides.toNat * fdsSideBytes < 2 ^ 31 := by
      unfold fdsHeaderBytes fdsSideBytes
      omega
    have inner : wrapLong (sides.toNat * fdsSideBytes) = (sides.toNat * fdsSideBytes : Nat) := by
      rw [← Nat.cast_mul]
      exact wrapLong_of_fits (by omega) (by omega)
    have expected :
        wrapLong (fdsHeaderBytes + wrapLong (sides.toNat * fdsSideBytes)) =
          (fdsHeaderBytes + sides.toNat * fdsSideBytes : Nat) := by
      rw [inner, ← Nat.cast_add]
      exact wrapLong_of_fits (by omega) (by omega)
    rw [read]
    dsimp only [bind, Except.bind]
    by_cases zero : sides = 0
    · rw [if_pos zero, if_pos zero]
      exact agree_invalid .fds .fdsInvalidSideCount (sensible_basicAnalysis _)
    · rw [if_neg zero, if_neg zero, expected]
      have less :
          (payload.length : Int) < (fdsHeaderBytes + sides.toNat * fdsSideBytes : Nat) ↔
            payload.length < fdsHeaderBytes + sides.toNat * fdsSideBytes :=
        Int.ofNat_lt
      have more :
          (payload.length : Int) > (fdsHeaderBytes + sides.toNat * fdsSideBytes : Nat) ↔
            payload.length > fdsHeaderBytes + sides.toNat * fdsSideBytes :=
        Int.ofNat_lt
      simp only [less, more]
      have sensible := sensible_fdsAnalysis
        (fdsHeaderBytes + sides.toNat * fdsSideBytes) payload.length sides.toNat
      split
      · exact agree_invalid .fds .fdsTruncated sensible
      · next enough =>
        have within : fdsHeaderBytes + (0 + sides.toNat) * fdsSideBytes ≤ payload.length := by
          rw [Nat.zero_add]
          exact Nat.not_lt.mp enough
        have same := validFdsSignatures_eq short fdsHeaderBytes 0 within
        rw [Nat.zero_mul, Nat.add_zero] at same
        obtain ⟨signed, found⟩ := validFdsSignatures_ok payload fdsHeaderBytes sides.toNat
        rw [same, found]
        dsimp only
        cases signed with
        | false => exact agree_invalid .fds .fdsInvalidHeader sensible
        | true =>
            have no : ¬ (!true) = true := nofun
            rw [if_neg no, if_neg no]
            by_cases many : payload.length > fdsHeaderBytes + sides.toNat * fdsSideBytes
            · rw [if_pos many, if_pos many]
              exact @agree_unsupportedFds
                (appendWarning
                  (Catalog.fdsAnalysis (fdsHeaderBytes + sides.toNat * fdsSideBytes)
                    payload.length sides.toNat) .trailingData) sensible
            · rw [if_neg many, if_neg many]
              exact agree_unsupportedFds sensible

/-- The sides that a payload has begun. -/
def begunSides (size : Nat) : Nat :=
  max 1 ((size + fdsSideBytes - 1) / fdsSideBytes)

variable {size : Nat}

theorem begunSides_le
    (short : size < 2 ^ 31) :
    begunSides size ≤ 32787 := by
  unfold begunSides fdsSideBytes
  omega

/-- One parser rounds up after the division. -/
theorem rounded_eq (size : Nat) :
    (let rounded :=
        if size % fdsSideBytes ≠ 0 then size / fdsSideBytes + 1 else size / fdsSideBytes
      if rounded = 0 then 1 else rounded) = begunSides size := by
  unfold begunSides fdsSideBytes
  dsimp only
  split
  · rw [if_neg (Nat.succ_ne_zero _)]
    omega
  · split
    · omega
    · omega

/-- The other one rounds up before it. -/
theorem rounded_eq'
    (short : size < 2 ^ 31) :
    wrapInt (max 1 ((wrapLong (size + fdsSideBytes - 1)).tdiv fdsSideBytes)) =
      begunSides size := by
  have few := begunSides_le short
  have positive : (size + fdsSideBytes - 1 : Int) = (size + fdsSideBytes - 1 : Nat) := by
    unfold fdsSideBytes
    omega
  have inner : wrapLong (size + fdsSideBytes - 1) = (size + fdsSideBytes - 1 : Nat) := by
    rw [positive]
    refine wrapLong_of_fits ?_ ?_
    · omega
    · unfold fdsSideBytes
      omega
  have same : max 1 (((size + fdsSideBytes - 1 : Nat) : Int).tdiv fdsSideBytes) =
      begunSides size := by
    unfold begunSides
    rw [Int.tdiv_eq_ediv_of_nonneg (by omega), ← Int.natCast_ediv]
    generalize (size + fdsSideBytes - 1) / fdsSideBytes = sides
    omega
  rw [inner, same]
  exact wrapInt_of_fits (by omega) (by omega)

theorem agree_parseHeaderlessFds
    (short : payload.length < 2 ^ 31) :
    Agree (Catalog.parseHeaderlessFds payload) (parseHeaderlessFds payload) := by
  unfold parseHeaderlessFds Catalog.parseHeaderlessFds
  by_cases uneven : payload.length < fdsSideBytes ∨ payload.length % fdsSideBytes ≠ 0
  · rw [if_pos uneven, if_pos uneven]
    have few := begunSides_le short
    have rounded := rounded_eq payload.length
    have few' : ¬ begunSides payload.length > (word64 - 1) / fdsSideBytes := by
      unfold word64 fdsSideBytes
      omega
    have expected : wrapLong (begunSides payload.length * fdsSideBytes) =
        (begunSides payload.length * fdsSideBytes : Nat) := by
      rw [← Nat.cast_mul]
      refine wrapLong_of_fits ?_ ?_
      · omega
      · unfold fdsSideBytes
        omega
    dsimp only at rounded ⊢
    rw [rounded, if_neg few', rounded_eq' short, expected]
    exact agree_invalid .fds .fdsTruncated (sensible_fdsAnalysis _ _ _)
  · rw [if_neg uneven, if_neg uneven]
    have whole : 0 + (0 + payload.length / fdsSideBytes) * fdsSideBytes ≤ payload.length := by
      rw [Nat.zero_add, Nat.zero_add]
      exact Nat.div_mul_le_self _ _
    have same := validFdsSignatures_eq short 0 0 whole
    rw [Nat.zero_mul, Nat.add_zero] at same
    obtain ⟨signed, found⟩ :=
      validFdsSignatures_ok payload 0 (payload.length / fdsSideBytes)
    have sensible := sensible_fdsAnalysis payload.length payload.length
      (payload.length / fdsSideBytes)
    dsimp only [bind, Except.bind]
    rw [Nat.cast_zero] at same
    rw [same, found]
    cases signed with
    | false => exact agree_invalid .fds .fdsInvalidHeader sensible
    | true => exact agree_unsupportedFds sensible

/-! ### UNIF -/

section Chunks

variable {payload : Bytes} {cursor : Nat}

theorem isPrgChunk_of_le
    (within : cursor + 8 ≤ payload.length) :
    ∃ found, isPrgChunk payload cursor = .ok found := by
  obtain ⟨first, read0⟩ := @readByte_of_lt payload cursor (by omega)
  obtain ⟨second, read1⟩ := @readByte_of_lt payload (cursor + 1) (by omega)
  obtain ⟨third, read2⟩ := @readByte_of_lt payload (cursor + 2) (by omega)
  obtain ⟨fourth, read3⟩ := @readByte_of_lt payload (cursor + 3) (by omega)
  unfold isPrgChunk
  rw [read0, read1, read2, read3]
  exact ⟨_, rfl⟩

theorem littleEndianU32_of_le
    {offset : Nat}
    (within : offset + 4 ≤ payload.length) :
    ∃ value, littleEndianU32 payload offset = .ok value := by
  obtain ⟨byte0, read0⟩ := @readByte_of_lt payload offset (by omega)
  obtain ⟨byte1, read1⟩ := @readByte_of_lt payload (offset + 1) (by omega)
  obtain ⟨byte2, read2⟩ := @readByte_of_lt payload (offset + 2) (by omega)
  obtain ⟨byte3, read3⟩ := @readByte_of_lt payload (offset + 3) (by omega)
  unfold littleEndianU32
  rw [read0, read1, read2, read3]
  exact ⟨_, rfl⟩

theorem ok_bind
    {Value Next : Type}
    (value : Value)
    (next : Value → Except Fault Next) :
    (Except.ok value >>= next) = next value :=
  rfl

/-- Every chunk moves the cursor on, so there is time enough; and the cursor does not
wrap around, so both parsers walk the same chunks. -/
theorem walkChunks_agree
    (short : payload.length < 2 ^ 31)
    {fuel : Nat}
    (within : cursor ≤ payload.length)
    (time : payload.length - cursor < fuel)
    (hasPrg : Bool) :
    ∃ ended, Catalog.walkChunks payload fuel cursor hasPrg = .ok ended ∧
      walkChunks payload fuel cursor hasPrg = .ok ended := by
  induction fuel generalizing cursor hasPrg with
  | zero => exact absurd time (Nat.not_lt_zero _)
  | succ fuel inductionHypothesis =>
      unfold Catalog.walkChunks walkChunks
      by_cases more : cursor < payload.length
      · rw [if_pos more, if_pos (Int.ofNat_lt.mpr more),
          wrapInt_of_fits (by omega) (by omega)]
        by_cases broken : payload.length - cursor < 8
        · rw [if_pos broken, if_pos (by omega)]
          exact ⟨none, rfl, rfl⟩
        · rw [if_neg broken, if_neg (by omega), if_neg (by omega), Int.toNat_natCast]
          obtain ⟨prgChunk, found⟩ := @isPrgChunk_of_le payload cursor (by omega)
          obtain ⟨length, read⟩ := @littleEndianU32_of_le payload (cursor + 4) (by omega)
          have sized : unsignedInt payload (wrapInt (cursor + 4)) = .ok (length : Int) := by
            have position : wrapInt (cursor + 4) = (cursor + 4 : Nat) :=
              wrapInt_of_fits (by omega) (by omega)
            unfold unsignedInt
            rw [position, Int.toNat_natCast, read]
            rfl
          have next : wrapInt (cursor + 8) = (cursor + 8 : Nat) :=
            wrapInt_of_fits (by omega) (by omega)
          rw [found, ok_bind, ok_bind, read, ok_bind, sized, ok_bind]
          dsimp only
          rw [next]
          have left : wrapInt (payload.length - (cursor + 8 : Nat)) =
              payload.length - (cursor + 8 : Nat) :=
            wrapInt_of_fits (by omega) (by omega)
          rw [left]
          by_cases long : length > payload.length - (cursor + 8)
          · rw [if_pos long, if_pos (by omega)]
            exact ⟨none, rfl, rfl⟩
          · have landed : wrapInt ((cursor + 8 : Nat) + wrapInt length) =
                (cursor + 8 + length : Nat) := by
              rw [@wrapInt_of_fits length (by omega) (by omega)]
              exact wrapInt_of_fits (by omega) (by omega)
            have counted : decide ((length : Int) > 0) = decide (length > 0) := by
              simp
            rw [if_neg long, if_neg (by omega), landed, counted]
            exact inductionHypothesis (by omega) (by omega) _
      · rw [if_neg more, if_neg (by omega)]
        exact ⟨some hasPrg, rfl, rfl⟩

theorem agree_parseUnif
    (short : payload.length < 2 ^ 31) :
    Agree (Catalog.parseUnif payload) (parseUnif payload) := by
  unfold parseUnif Catalog.parseUnif
  by_cases tooShort : payload.length < 32
  · rw [if_pos tooShort, if_pos tooShort]
    exact agree_invalid .unif .unifInvalidChunk (sensible_basicAnalysis _)
  · rw [if_neg tooShort, if_neg tooShort]
    obtain ⟨ended, walked, walked'⟩ :=
      walkChunks_agree short (Nat.not_lt.mp tooShort)
        (show payload.length - 32 < payload.length + 1 by omega) false
    rw [Nat.cast_ofNat] at walked'
    rw [walked, walked']
    dsimp only [bind, Except.bind]
    cases ended with
    | none => exact agree_invalid .unif .unifInvalidChunk (sensible_basicAnalysis _)
    | some hasPrg =>
        cases hasPrg with
        | false => exact agree_invalid .unif .unifMissingPrg (sensible_basicAnalysis _)
        | true =>
            exact @agree_new
              ⟨true, .unif, .unsupported, .unifProductDisabled, basicAnalysis payload.length⟩
              rfl nofun (sensible_basicAnalysis _)

end Chunks

/-- What is recognized by one parser is recognized by the other, with the same result. -/
theorem parsers_agree
    (payload : Bytes)
    (short : payload.length < 2 ^ 31) :
    ∃ result, parseRomPayload payload = .ok result ∧
      parse payload = .ok (if result.recognized then some (.of result) else none) ∧
      (result.recognized = false → result = unrecognized payload.length) := by
  have recognize {first : Except Fault RomParseResult} {second : Except Fault Parsed}
      (agree : Agree first second) :
      ∃ result, first = .ok result ∧
        some <$> second = .ok (if result.recognized then some (.of result) else none) ∧
        (result.recognized = false → result = unrecognized payload.length) := by
    obtain ⟨result, rfl, recognized, rfl⟩ := agree
    refine ⟨result, rfl, ?_, ?_⟩
    · rw [if_pos recognized]
      rfl
    · intro unknown
      rw [recognized] at unknown
      cases unknown
  have start (signature : Bytes) :
      startsWithAt payload 0 signature = Catalog.startsWithAt payload 0 signature := by
    exact_mod_cast startsWithAt_eq short (Nat.two_pow_pos 31) signature
  unfold parse parseRomPayload startsWith
  rw [start, start, start, start]
  obtain ⟨nes, foundNes⟩ := startsWithAt_ok payload 0 nesSignature
  obtain ⟨fds, foundFds⟩ := startsWithAt_ok payload 0 fdsSignature
  obtain ⟨side, foundSide⟩ := startsWithAt_ok payload 0 fdsSideSignature
  obtain ⟨unif, foundUnif⟩ := startsWithAt_ok payload 0 unifSignature
  rw [foundNes, foundFds, foundSide, foundUnif]
  dsimp only [bind, Except.bind]
  split
  · exact recognize (agree_parseNes payload)
  · split
    · exact recognize (agree_parseHeaderedFds short)
    · split
      · exact recognize (agree_parseHeaderlessFds short)
      · split
        · exact recognize (agree_parseUnif short)
        · exact ⟨unrecognized payload.length, rfl, rfl, fun _ => rfl⟩

/-- A header whose program would need seven times `2 ^ 62` bytes. -/
def oversizedHeader : Bytes :=
  [0x4E, 0x45, 0x53, 0x1A, 0xFB, 0, 0x10, 0x08, 0, 0x0F, 0, 0, 0, 0, 0, 0]

theorem oversized_header_agrees :
    ∃ parsed, parse oversizedHeader = .ok (some parsed) ∧ parsed.format = .nes2 ∧
      parsed.reason = .nesSizeOverflow := by
  obtain ⟨result, parsed, ported, -⟩ := parsers_agree oversizedHeader (by decide)
  have known : parseRomPayload oversizedHeader =
      .ok (Catalog.invalid .nes2 .nesSizeOverflow
        { actualBytes := 16, mapper := 1, submapper := 0 }) := by
    rfl
  rw [known] at parsed
  obtain rfl := Except.ok.inj parsed
  exact ⟨_, ported, rfl, rfl⟩

end FlyNes.Catalog.Port
