import FlyNes.Utf8
import FlyNes.ZipArchive
import FlyNes.CatalogCalls

/-!
# Checks of texts

The ZIP reader, the content identity, the catalog and the control layout each have their own
check for UTF-8.  All of them take a text one character at a time and accept the well-formed
texts; the catalog and the layout refuse a zero byte besides, and the catalog a text that is
empty or too long.
-/

namespace FlyNes.Catalog

open ByteString

structure Utf8Scan where
  valid : Bool
  blank : Bool
  utf16Units : Nat
deriving DecidableEq

def continuation (value : UInt8) : Bool :=
  value ≥ 0x80 && value ≤ 0xBF

def blankCodePoint (codePoint : Nat) : Bool :=
  (codePoint ≥ 0x0009 && codePoint ≤ 0x000D) ||
    (codePoint ≥ 0x001C && codePoint ≤ 0x0020) ||
    codePoint == 0x00A0 || codePoint == 0x1680 ||
    (codePoint ≥ 0x2000 && codePoint ≤ 0x200A) ||
    codePoint == 0x2028 || codePoint == 0x2029 ||
    codePoint == 0x202F || codePoint == 0x205F ||
    codePoint == 0x3000

/-- The units that a code point takes in UTF-16. -/
def utf16Width (codePoint : Nat) : Nat :=
  if codePoint > 0xFFFF then 2 else 1

/-- A scan stops at the first byte that starts no character; a text with such a byte is not
blank. -/
def stopped (units : Nat) : Utf8Scan :=
  { valid := false, blank := false, utf16Units := units }

/-- The loop of the scan, with the units and the blanks so far. -/
def scanFrom (units : Nat) (allBlank : Bool) : Bytes → Utf8Scan
  | [] => { valid := true, blank := allBlank, utf16Units := units }
  | first :: rest =>
      if first ≤ 0x7F then
        let codePoint := first.toNat
        scanFrom (units + utf16Width codePoint) (allBlank && blankCodePoint codePoint) rest
      else if first ≥ 0xC2 && first ≤ 0xDF then
        match rest with
        | second :: rest =>
            if !continuation second then stopped units
            else
              let codePoint := (first.toNat &&& 0x1F) <<< 6 ||| (second.toNat &&& 0x3F)
              scanFrom (units + utf16Width codePoint) (allBlank && blankCodePoint codePoint) rest
        | _ => stopped units
      else if first ≥ 0xE0 && first ≤ 0xEF then
        match rest with
        | second :: third :: rest =>
            let secondValid := continuation second && !(first == 0xE0 && second < 0xA0) &&
              !(first == 0xED && second > 0x9F)
            if !secondValid || !continuation third then stopped units
            else
              let codePoint := (first.toNat &&& 0x0F) <<< 12 |||
                (second.toNat &&& 0x3F) <<< 6 ||| (third.toNat &&& 0x3F)
              scanFrom (units + utf16Width codePoint) (allBlank && blankCodePoint codePoint) rest
        | _ => stopped units
      else if first ≥ 0xF0 && first ≤ 0xF4 then
        match rest with
        | second :: third :: fourth :: rest =>
            let secondValid := continuation second && !(first == 0xF0 && second < 0x90) &&
              !(first == 0xF4 && second > 0x8F)
            if !secondValid || !continuation third || !continuation fourth then stopped units
            else
              let codePoint := (first.toNat &&& 0x07) <<< 18 |||
                (second.toNat &&& 0x3F) <<< 12 ||| (third.toNat &&& 0x3F) <<< 6 |||
                (fourth.toNat &&& 0x3F)
              scanFrom (units + utf16Width codePoint) (allBlank && blankCodePoint codePoint) rest
        | _ => stopped units
      else
        stopped units

def scanUtf8 (value : Bytes) : Utf8Scan :=
  scanFrom 0 true value

end FlyNes.Catalog

namespace FlyNes.App.Layout

open ByteString

def isUtf8Continuation (byte : UInt8) : Bool :=
  byte ≥ 0x80 && byte ≤ 0xBF

def isValidUtf8 : Bytes → Bool
  | [] => true
  | first :: rest =>
      if first ≤ 0x7F then
        if first = 0 then false else isValidUtf8 rest
      else if first ≥ 0xC2 && first ≤ 0xDF then
        match rest with
        | second :: rest =>
            if !isUtf8Continuation second then false else isValidUtf8 rest
        | _ => false
      else if first ≥ 0xE0 && first ≤ 0xEF then
        match rest with
        | second :: third :: rest =>
            if !isUtf8Continuation second || !isUtf8Continuation third then false
            else if first = 0xE0 && second < 0xA0 then false
            else if first = 0xED && second > 0x9F then false
            else isValidUtf8 rest
        | _ => false
      else if first ≥ 0xF0 && first ≤ 0xF4 then
        match rest with
        | second :: third :: fourth :: rest =>
            if !isUtf8Continuation second || !isUtf8Continuation third ||
                !isUtf8Continuation fourth then false
            else if first = 0xF0 && second < 0x90 then false
            else if first = 0xF4 && second > 0x8F then false
            else isValidUtf8 rest
        | _ => false
      else
        false

end FlyNes.App.Layout

namespace FlyNes

open ByteString Utf8 Zip App Catalog

variable {first second : UInt8}

/-- Comparisons of bytes, as comparisons of numbers. -/
theorem beq_iff_toNat :
    (first == second) = true ↔ first.toNat = second.toNat := by
  rw [beq_iff_eq, UInt8.toNat_inj]

theorem beq_eq_decide_toNat
    (first second : UInt8) :
    (first == second) = decide (first.toNat = second.toNat) := by
  rw [Bool.eq_iff_iff, beq_iff_toNat, decide_eq_true_iff]

theorem bne_iff_toNat :
    (first != second) = true ↔ first.toNat ≠ second.toNat := by
  rw [bne_iff_ne, ne_eq, ← UInt8.toNat_inj]

theorem continues_iff
    {byte : UInt8} :
    (byte ≥ 0x80 && byte ≤ 0xBF) = true ↔ Continues byte := by
  simp [Continues, UInt8.le_iff_toNat_le]

/-- A check that tells the first bytes apart by comparing them. -/
theorem readsLeads_of_ladder
    {check : Bytes → Bool}
    {allowed : UInt8 → Prop}
    {one two three four : UInt8 → Bytes → Bool}
    (nil : check [] = true)
    (ladder : ∀ first rest,
      check (first :: rest) =
        if first ≤ 0x7F then one first rest
        else if first ≥ 0xC2 && first ≤ 0xDF then two first rest
        else if first ≥ 0xE0 && first ≤ 0xEF then three first rest
        else if first ≥ 0xF0 && first ≤ 0xF4 then four first rest
        else false)
    (one_iff : ∀ first rest,
      one first rest = true ↔ allowed first ∧ check rest = true)
    (two_iff : ∀ first rest,
      two first rest = true ↔
        match rest with
        | second :: tail => Continues second ∧ check tail = true
        | _ => False)
    (three_iff : ∀ first rest, 0xE0 ≤ first.toNat → first.toNat ≤ 0xEF →
      (three first rest = true ↔
        match rest with
        | second :: third :: tail =>
            (StartsThree first second ∧ Continues third) ∧ check tail = true
        | _ => False))
    (four_iff : ∀ first rest, 0xF0 ≤ first.toNat → first.toNat ≤ 0xF4 →
      (four first rest = true ↔
        match rest with
        | second :: third :: fourth :: tail =>
            (StartsFour first second ∧ Continues third ∧ Continues fourth) ∧
              check tail = true
        | _ => False)) :
    ReadsLeads (fun bytes => check bytes = true) allowed := by
  simp only [UInt8.le_iff_toNat_le, UInt8.reduceToNat, ge_iff_le, Bool.and_eq_true,
    decide_eq_true_eq] at ladder
  refine ⟨nil, ?_, ?_, ?_, ?_, ?_⟩
  · intro first rest low
    rw [ladder, if_pos low, one_iff]
  · intro first rest low high
    rw [ladder, if_neg (by omega), if_pos ⟨low, high⟩]
    exact two_iff first rest
  · intro first rest low high
    rw [ladder, if_neg (by omega), if_neg (by omega), if_pos ⟨low, high⟩]
    exact three_iff first rest low high
  · intro first rest low high
    rw [ladder, if_neg (by omega), if_neg (by omega), if_neg (by omega), if_pos ⟨low, high⟩]
    exact four_iff first rest low high
  · intro first rest bad
    rw [ladder, if_neg (by omega), if_neg (by omega), if_neg (by omega),
      if_neg (by omega)]
    decide

theorem Zip.isStrictUtf8_readsLeads :
    ReadsLeads (fun bytes => isStrictUtf8 bytes = true) fun _ => True := by
  refine readsLeads_of_ladder rfl (fun first rest => by rw [isStrictUtf8.eq_def]) ?_ ?_ ?_ ?_
  · intro first rest
    rw [true_and]
  · intro first rest
    match rest with
    | [] => simp
    | second :: tail =>
        rw [Bool.and_eq_true, isContinuation, continues_iff]
  · intro first rest low high
    match rest with
    | [] => simp
    | [_] => simp
    | second :: third :: tail =>
        simp only [Bool.and_eq_true, Bool.or_eq_true, isContinuation, StartsThree,
          Continues, beq_iff_toNat, UInt8.le_iff_toNat_le, decide_eq_true_eq,
          UInt8.reduceToNat, ge_iff_le]
        grind
  · intro first rest low high
    match rest with
    | [] => simp
    | [_] => simp
    | [_, _] => simp
    | second :: third :: fourth :: tail =>
        simp only [Bool.and_eq_true, Bool.or_eq_true, isContinuation, StartsFour,
          Continues, beq_iff_toNat, UInt8.le_iff_toNat_le, decide_eq_true_eq,
          UInt8.reduceToNat, ge_iff_le]
        grind

theorem App.isUtf8_readsLeads :
    ReadsLeads (fun bytes => App.isUtf8 bytes = true) fun byte => byte ≠ 0 := by
  refine readsLeads_of_ladder rfl (fun first rest => by rw [App.isUtf8.eq_def]) ?_ ?_ ?_ ?_
  · intro first rest
    rw [Bool.and_eq_true, bne_iff_ne]
  · intro first rest
    match rest with
    | [] => simp
    | second :: tail =>
        rw [Bool.and_eq_true, App.isUtf8Continuation, continues_iff]
  · intro first rest low high
    match rest with
    | [] => simp
    | [_] => simp
    | second :: third :: tail =>
        simp only [Bool.and_eq_true, Bool.or_eq_true, App.isUtf8Continuation, StartsThree,
          Continues, bne_iff_toNat, UInt8.le_iff_toNat_le, decide_eq_true_eq,
          UInt8.reduceToNat, ge_iff_le]
        grind
  · intro first rest low high
    match rest with
    | [] => simp
    | [_] => simp
    | [_, _] => simp
    | second :: third :: fourth :: tail =>
        simp only [Bool.and_eq_true, Bool.or_eq_true, App.isUtf8Continuation, StartsFour,
          Continues, bne_iff_toNat, UInt8.le_iff_toNat_le, decide_eq_true_eq,
          UInt8.reduceToNat, ge_iff_le]
        grind

theorem App.Layout.isValidUtf8_readsLeads :
    ReadsLeads (fun bytes => Layout.isValidUtf8 bytes = true) fun byte => byte ≠ 0 := by
  refine readsLeads_of_ladder rfl (fun first rest => by rw [Layout.isValidUtf8.eq_def])
    ?_ ?_ ?_ ?_
  · intro first rest
    by_cases nul : first = 0 <;> simp [nul]
  · intro first rest
    match rest with
    | [] => simp
    | second :: tail =>
        have continued : Layout.isUtf8Continuation second = true ↔ Continues second :=
          continues_iff
        cases test : Layout.isUtf8Continuation second <;> simp [← continued, test]
  · intro first rest low high
    match rest with
    | [] => simp
    | [_] => simp
    | second :: third :: tail =>
        simp only [Bool.not_eq_true', Bool.or_eq_true, Layout.isUtf8Continuation, StartsThree,
          Continues, UInt8.le_iff_toNat_le, UInt8.lt_iff_toNat_lt, UInt8.reduceToNat,
          ← UInt8.toNat_inj, ge_iff_le, gt_iff_lt, Bool.and_eq_true, decide_eq_true_eq]
        grind
  · intro first rest low high
    match rest with
    | [] => simp
    | [_] => simp
    | [_, _] => simp
    | second :: third :: fourth :: tail =>
        simp only [Bool.not_eq_true', Bool.or_eq_true, Layout.isUtf8Continuation, StartsFour,
          Continues, UInt8.le_iff_toNat_le, UInt8.lt_iff_toNat_lt, UInt8.reduceToNat,
          ← UInt8.toNat_inj, ge_iff_le, gt_iff_lt, Bool.and_eq_true, decide_eq_true_eq]
        grind

/-- The units and the blanks so far do not decide whether a text is valid. -/
theorem Catalog.valid_scanFrom
    (bytes : Bytes)
    (units units' : Nat)
    (allBlank allBlank' : Bool) :
    (scanFrom units allBlank bytes).valid = (scanFrom units' allBlank' bytes).valid := by
  fun_induction scanFrom units allBlank bytes generalizing units' allBlank' with
  | case1 => rfl
  | case2 _ _ first rest ascii codePoint inductionHypothesis =>
      rw [scanFrom.eq_def units']
      simp only [if_pos ascii]
      exact inductionHypothesis _ _
  | case4 =>
      rename_i inductionHypothesis
      rw [scanFrom.eq_def units']
      simp only [*, Bool.false_eq_true, ↓reduceIte]
      exact inductionHypothesis _ _
  | case7 | case10 =>
      rename_i taken codePoint inductionHypothesis
      rw [scanFrom.eq_def units']
      simp only [*, Bool.false_eq_true, ↓reduceIte]
      rw [if_neg taken]
      exact inductionHypothesis _ _
  | case6 | case9 =>
      rename_i refused
      rw [scanFrom.eq_def units']
      simp only [*, Bool.false_eq_true, ↓reduceIte]
      rw [if_pos refused]
      rfl
  | _ =>
      rw [scanFrom.eq_def units']
      simp [*, stopped]

/-- The rest of a text is as valid as it is by itself. -/
theorem Catalog.valid_scan_rest
    (units : Nat)
    (allBlank : Bool)
    (bytes : Bytes) :
    (scanFrom units allBlank bytes).valid = (scanUtf8 bytes).valid :=
  valid_scanFrom bytes units 0 allBlank true

theorem Catalog.valid_stopped (units : Nat) : (stopped units).valid = false := rfl

theorem Catalog.scanUtf8_readsLeads :
    ReadsLeads (fun bytes => (scanUtf8 bytes).valid = true) fun _ => True := by
  refine readsLeads_of_ladder rfl
    (fun first rest => by
      rw [scanUtf8, scanFrom.eq_def]
      simp only [apply_ite Utf8Scan.valid, valid_stopped]
      rfl) ?_ ?_ ?_ ?_
  · intro first rest
    rw [true_and, valid_scan_rest]
  · intro first rest
    match rest with
    | [] => simp [stopped]
    | second :: tail =>
        have continued : continuation second = true ↔ Continues second :=
          continues_iff
        cases test : continuation second <;>
          simp [← continued, test, valid_scan_rest, stopped]
  · intro first rest low high
    match rest with
    | [] => simp [stopped]
    | [_] => simp [stopped]
    | second :: third :: tail =>
        dsimp only
        rw [apply_ite Utf8Scan.valid, valid_scan_rest, valid_stopped]
        simp only [Bool.not_eq_true', Bool.or_eq_true, continuation, StartsThree, Continues,
          beq_eq_decide_toNat, UInt8.le_iff_toNat_le, UInt8.lt_iff_toNat_lt,
          UInt8.reduceToNat, ge_iff_le, gt_iff_lt]
        grind
  · intro first rest low high
    match rest with
    | [] => simp [stopped]
    | [_] => simp [stopped]
    | [_, _] => simp [stopped]
    | second :: third :: fourth :: tail =>
        dsimp only
        rw [apply_ite Utf8Scan.valid, valid_scan_rest, valid_stopped]
        simp only [Bool.not_eq_true', Bool.or_eq_true, continuation, StartsFour, Continues,
          beq_eq_decide_toNat, UInt8.le_iff_toNat_le, UInt8.lt_iff_toNat_lt,
          UInt8.reduceToNat, ge_iff_le, gt_iff_lt]
        grind

theorem zero_not_high (byte : UInt8) (high : 0x80 ≤ byte.toNat) : byte ≠ 0 := by
  rintro rfl
  exact absurd high (by decide)

/--
Every check accepts the well-formed texts: the ZIP reader and the content identity all of
them, the control layout those without a zero byte, and the catalog those of these that are
neither empty nor too long.
-/
theorem text_checks_agree
    (bytes : Bytes) :
    (Zip.isStrictUtf8 bytes = true ↔ WellFormed bytes) ∧
    ((Catalog.scanUtf8 bytes).valid = true ↔ WellFormed bytes) ∧
    (App.Layout.isValidUtf8 bytes = true ↔ WellFormed bytes ∧ 0 ∉ bytes) ∧
    ∀ maximumLength,
      App.isValidUtf8 bytes maximumLength = true ↔
        WellFormed bytes ∧ 0 ∉ bytes ∧ bytes ≠ [] ∧ bytes.length ≤ maximumLength := by
  have noZero : (∀ byte ∈ bytes, byte ≠ 0) ↔ 0 ∉ bytes :=
    ⟨fun clean member => clean 0 member rfl,
      fun clean byte member zero => clean (zero ▸ member)⟩
  refine ⟨?_, ?_, ?_, ?_⟩
  · simpa using (Zip.isStrictUtf8_readsLeads.takesCharacters (by simp)).accepts_iff
  · simpa using (Catalog.scanUtf8_readsLeads.takesCharacters (by simp)).accepts_iff
  · rw [← noZero]
    exact (App.Layout.isValidUtf8_readsLeads.takesCharacters zero_not_high).accepts_iff
  · intro maximumLength
    have characters : App.isUtf8 bytes = true ↔ WellFormed bytes ∧ 0 ∉ bytes := by
      rw [← noZero]
      exact (App.isUtf8_readsLeads.takesCharacters zero_not_high).accepts_iff
    simp only [App.isValidUtf8, Bool.and_eq_true, Bool.not_eq_true', Bool.or_eq_false_iff,
      List.isEmpty_eq_false_iff, decide_eq_false_iff_not, Nat.not_lt, gt_iff_lt, characters]
    constructor
    · rintro ⟨⟨nonempty, short⟩, wellFormed, clean⟩
      exact ⟨wellFormed, clean, nonempty, short⟩
    · rintro ⟨wellFormed, clean, nonempty, short⟩
      exact ⟨⟨nonempty, short⟩, wellFormed, clean⟩

end FlyNes
