import FlyNes.ZipArchive

namespace FlyNes.Zip.Port

open ByteString ByteReader

/-!
# Names that are shown

The scanner shows the name of an entry as text.  A name is in UTF-8 if the entry says so;
otherwise an extra field may give it in UTF-8, and else it is in an older character set.  A
name that would be shown as nothing but blanks is refused.  The older character sets and the
checksum are those of the platform.
-/

/-- What the platform provides. -/
structure Platform where
  /-- the code point of each byte in the character set IBM437 -/
  ibm437 : UInt8 → Nat
  /-- the strict decoder of the character set GB18030 -/
  gb18030 : Bytes → Option (List Nat)
  crc32 : Bytes → Nat

/-! ### Text, as code points -/

def isFrozenBlankCodePoint (codePoint : Nat) : Bool :=
  (codePoint ≥ 0x0009 && codePoint ≤ 0x000D) ||
    (codePoint ≥ 0x001C && codePoint ≤ 0x0020) ||
    codePoint == 0x00A0 ||
    codePoint == 0x1680 ||
    (codePoint ≥ 0x2000 && codePoint ≤ 0x200A) ||
    codePoint == 0x2028 ||
    codePoint == 0x2029 ||
    codePoint == 0x202F ||
    codePoint == 0x205F ||
    codePoint == 0x3000

def isBlank (text : List Nat) : Bool :=
  text.all isFrozenBlankCodePoint

/-- The six low bits of a byte whose two high bits are `10`. -/
def continuationBits (byte : UInt8) : Option Nat :=
  if byte.toNat / 64 = 2 then some (byte.toNat % 64) else none

/-- The strict decoder of UTF-8.  It refuses code points in more bytes than they need,
surrogates, and what lies above the last code point. -/
def decodeUtf8 : Bytes → Option (List Nat)
  | [] => some []
  | first :: rest =>
      if first.toNat < 0x80 then
        (decodeUtf8 rest).map (first.toNat :: ·)
      else if first.toNat / 32 = 6 then
        match rest with
        | second :: rest => do
            let low ← continuationBits second
            let codePoint := first.toNat % 32 * 64 + low
            if 0x80 ≤ codePoint then (decodeUtf8 rest).map (codePoint :: ·) else none
        | _ => none
      else if first.toNat / 16 = 14 then
        match rest with
        | second :: third :: rest => do
            let middle ← continuationBits second
            let low ← continuationBits third
            let codePoint := first.toNat % 16 * 4096 + middle * 64 + low
            if 0x800 ≤ codePoint ∧ ¬(0xD800 ≤ codePoint ∧ codePoint ≤ 0xDFFF) then
              (decodeUtf8 rest).map (codePoint :: ·)
            else none
        | _ => none
      else if first.toNat / 8 = 30 then
        match rest with
        | second :: third :: fourth :: rest => do
            let high ← continuationBits second
            let middle ← continuationBits third
            let low ← continuationBits fourth
            let codePoint := first.toNat % 8 * 262144 + high * 4096 + middle * 64 + low
            if 0x10000 ≤ codePoint ∧ codePoint ≤ 0x10FFFF then
              (decodeUtf8 rest).map (codePoint :: ·)
            else none
        | _ => none
      else none

/-! ### The decoder -/

inductive ZipNameEncoding where
  | utf8Efs
  | unicodePath
  | cp437
  | gb18030
deriving DecidableEq

structure DecodedName where
  displayPath : List Nat
  encoding : ZipNameEncoding
  unicodePathRejected : Bool
deriving DecidableEq

/-- The constructor of a decoded name. -/
def newDecodedName
    (displayPath : List Nat)
    (encoding : ZipNameEncoding)
    (unicodePathRejected : Bool) : Option DecodedName :=
  if isBlank displayPath then none
  else some { displayPath, encoding, unicodePathRejected }

structure UnicodePath where
  displayPath : Option (List Nat)
  rejected : Bool

def unicodePathTag : Nat := 0x7075

/-- The path that a field gives: a version, the checksum of the name, and text. -/
def pathOfField (platform : Platform) (rawName field : Bytes) : Option (List Nat) :=
  match field with
  | version :: crc0 :: crc1 :: crc2 :: crc3 :: text =>
      if version ≠ 1 then none
      else if fromLittleEndian [crc0, crc1, crc2, crc3] ≠ platform.crc32 rawName then none
      else do
        let candidate ← decodeUtf8 text
        if isBlank candidate then none else some candidate
  | _ => none

/-- Take account of a field; a second path is rejected. -/
def UnicodePath.addField
    (platform : Platform)
    (rawName : Bytes)
    (path : UnicodePath)
    (tag : Nat)
    (field : Bytes) : UnicodePath :=
  if tag ≠ unicodePathTag then path
  else if path.displayPath.isSome then { path with rejected := true }
  else
    match pathOfField platform rawName field with
    | some candidate => { path with displayPath := some candidate }
    | none => { path with rejected := true }

/-- The loop over the fields of an extra, of whose last field so many bytes are left. -/
def findUnicodePathFrom
    (platform : Platform)
    (rawName : Bytes)
    (path : UnicodePath) : Nat → Bytes → UnicodePath
  | left + 1, _ :: rest => findUnicodePathFrom platform rawName path left rest
  | _, [] => path
  | 0, tag0 :: tag1 :: length0 :: length1 :: rest =>
      let tag := fromLittleEndian [tag0, tag1]
      let length := fromLittleEndian [length0, length1]
      if length > rest.length then { displayPath := none, rejected := true }
      else
        findUnicodePathFrom platform rawName
          (path.addField platform rawName tag (rest.take length)) length rest
  | 0, _ => { displayPath := none, rejected := true }

def findUnicodePath (platform : Platform) (rawName extra : Bytes) : UnicodePath :=
  findUnicodePathFrom platform rawName { displayPath := none, rejected := false } 0 extra

/-- The text of a name in an older character set, which has to be given. -/
def decodeLegacy
    (platform : Platform)
    (rawName : Bytes) : ZipNameEncoding → Option (List Nat)
  | .cp437 => some (rawName.map platform.ibm437)
  | .gb18030 => platform.gb18030 rawName
  | _ => none

/-- None where an illegal argument is thrown. -/
def decode
    (platform : Platform)
    (rawName : Bytes)
    (generalPurposeFlags : Nat)
    (centralExtra : Bytes)
    (legacyFallback : ZipNameEncoding) : Option DecodedName :=
  if rawName.length = 0 ∨ rawName.length > 0xFFFF then none
  else if generalPurposeFlags &&& efsFlag ≠ 0 then do
    let text ← decodeUtf8 rawName
    newDecodedName text .utf8Efs false
  else
    match findUnicodePath platform rawName centralExtra with
    | { displayPath := some displayPath, rejected := false } =>
        newDecodedName displayPath .unicodePath false
    | { displayPath := _, rejected } => do
        let text ← decodeLegacy platform rawName legacyFallback
        newDecodedName text legacyFallback rejected

/-! ### Both readers take the same names for UTF-8 -/

theorem isSome_continuationBits_bind
    {byte : UInt8} {rest : Nat → Option (List Nat)} :
    ((continuationBits byte).bind rest).isSome ↔
      (0x80 ≤ byte.toNat ∧ byte.toNat ≤ 0xBF) ∧ (rest (byte.toNat % 64)).isSome := by
  unfold continuationBits
  split
  · next two =>
      have : 0x80 ≤ byte.toNat ∧ byte.toNat ≤ 0xBF := by omega
      simp [this]
  · next notTwo =>
      have : ¬(0x80 ≤ byte.toNat ∧ byte.toNat ≤ 0xBF) := by omega
      simp [this]

theorem isContinuation_iff {byte : UInt8} :
    isContinuation byte = true ↔ 0x80 ≤ byte.toNat ∧ byte.toNat ≤ 0xBF := by
  simp [isContinuation, UInt8.le_iff_toNat_le]

theorem isSome_ite_none
    {condition : Prop} [Decidable condition] {text : Option (List Nat)} :
    (if condition then text else none).isSome ↔ condition ∧ text.isSome := by
  split <;> simp_all

section Leads

/-! The first byte says how many bytes a code point takes. -/

variable {first : UInt8} {rest : Bytes}

/-- A byte that cannot be first. -/
theorem isSome_decodeUtf8_none
    (high : 0x80 ≤ first.toNat)
    (two : first.toNat / 32 ≠ 6)
    (three : first.toNat / 16 ≠ 14)
    (four : first.toNat / 8 ≠ 30) :
    (decodeUtf8 (first :: rest)).isSome ↔ isStrictUtf8 (first :: rest) = true := by
  unfold decodeUtf8 isStrictUtf8
  simp only [UInt8.le_iff_toNat_le, ge_iff_le, UInt8.reduceToNat, Bool.and_eq_true,
    decide_eq_true_eq]
  rw [if_neg (show ¬first.toNat < 0x80 by omega), if_neg (show ¬first.toNat ≤ 127 by omega),
    if_neg two, if_neg (show ¬(194 ≤ first.toNat ∧ first.toNat ≤ 223) by omega),
    if_neg three, if_neg (show ¬(224 ≤ first.toNat ∧ first.toNat ≤ 239) by omega),
    if_neg four, if_neg (show ¬(240 ≤ first.toNat ∧ first.toNat ≤ 244) by omega)]
  simp

variable (shorter : ∀ rest' : Bytes, rest'.length ≤ rest.length →
  ((decodeUtf8 rest').isSome ↔ isStrictUtf8 rest' = true))

include shorter

theorem isSome_decodeUtf8_two
    (two : first.toNat / 32 = 6) :
    (decodeUtf8 (first :: rest)).isSome ↔ isStrictUtf8 (first :: rest) = true := by
  unfold decodeUtf8 isStrictUtf8
  simp only [UInt8.le_iff_toNat_le, ge_iff_le, UInt8.reduceToNat, Bool.and_eq_true,
    decide_eq_true_eq]
  rw [if_neg (show ¬first.toNat < 0x80 by omega), if_neg (show ¬first.toNat ≤ 127 by omega),
    if_pos two, if_neg (show ¬(224 ≤ first.toNat ∧ first.toNat ≤ 239) by omega),
    if_neg (show ¬(240 ≤ first.toNat ∧ first.toNat ≤ 244) by omega)]
  match rest with
  | [] => simp
  | second :: rest =>
      have same := shorter rest (by simp)
      simp only [bind, isSome_continuationBits_bind, isSome_ite_none, Option.isSome_map, same]
      by_cases long : 194 ≤ first.toNat ∧ first.toNat ≤ 223
      · rw [if_pos long, Bool.and_eq_true, isContinuation_iff]
        have : 0x80 ≤ first.toNat % 32 * 64 + second.toNat % 64 := by omega
        simp [this]
      · rw [if_neg long]
        have : ¬0x80 ≤ first.toNat % 32 * 64 + second.toNat % 64 := by omega
        simp [this]

theorem isSome_decodeUtf8_three
    (three : first.toNat / 16 = 14) :
    (decodeUtf8 (first :: rest)).isSome ↔ isStrictUtf8 (first :: rest) = true := by
  unfold decodeUtf8 isStrictUtf8
  simp only [UInt8.le_iff_toNat_le, ge_iff_le, UInt8.reduceToNat, Bool.and_eq_true,
    decide_eq_true_eq]
  rw [if_neg (show ¬first.toNat < 0x80 by omega), if_neg (show ¬first.toNat ≤ 127 by omega),
    if_neg (show ¬first.toNat / 32 = 6 by omega),
    if_neg (show ¬(194 ≤ first.toNat ∧ first.toNat ≤ 223) by omega), if_pos three,
    if_pos (show 224 ≤ first.toNat ∧ first.toNat ≤ 239 by omega)]
  match rest with
  | [] => simp
  | [_] => simp
  | second :: third :: rest =>
      have same := shorter rest (by simp; omega)
      have := second.toNat_lt
      simp only [bind, isSome_continuationBits_bind, isSome_ite_none, Option.isSome_map, same]
      simp only [Bool.and_eq_true, Bool.or_eq_true, decide_eq_true_eq,
        isContinuation_iff, beq_iff_eq, ← UInt8.toNat_inj, UInt8.reduceToNat]
      constructor
      · rintro ⟨_, _, _, strict⟩
        exact ⟨⟨by omega, by omega⟩, strict⟩
      · rintro ⟨⟨_, _⟩, strict⟩
        exact ⟨by omega, by omega, ⟨by omega, by omega⟩, strict⟩

theorem isSome_decodeUtf8_four
    (four : first.toNat / 8 = 30) :
    (decodeUtf8 (first :: rest)).isSome ↔ isStrictUtf8 (first :: rest) = true := by
  unfold decodeUtf8 isStrictUtf8
  simp only [UInt8.le_iff_toNat_le, ge_iff_le, UInt8.reduceToNat, Bool.and_eq_true,
    decide_eq_true_eq]
  rw [if_neg (show ¬first.toNat < 0x80 by omega), if_neg (show ¬first.toNat ≤ 127 by omega),
    if_neg (show ¬first.toNat / 32 = 6 by omega),
    if_neg (show ¬(194 ≤ first.toNat ∧ first.toNat ≤ 223) by omega),
    if_neg (show ¬first.toNat / 16 = 14 by omega),
    if_neg (show ¬(224 ≤ first.toNat ∧ first.toNat ≤ 239) by omega), if_pos four]
  match rest with
  | [] => simp
  | [_] => simp
  | [_, _] => simp
  | second :: third :: fourth :: rest =>
      have same := shorter rest (by simp; omega)
      have := second.toNat_lt
      simp only [bind, isSome_continuationBits_bind, isSome_ite_none, Option.isSome_map, same]
      by_cases low : 240 ≤ first.toNat ∧ first.toNat ≤ 244
      · rw [if_pos low]
        simp only [Bool.and_eq_true, Bool.or_eq_true, decide_eq_true_eq,
          isContinuation_iff, beq_iff_eq, ← UInt8.toNat_inj, UInt8.reduceToNat]
        constructor
        · rintro ⟨_, _, _, _, strict⟩
          exact ⟨⟨⟨by omega, by omega⟩, by omega⟩, strict⟩
        · rintro ⟨⟨⟨_, _⟩, _⟩, strict⟩
          exact ⟨by omega, by omega, by omega, by omega, strict⟩
      · rw [if_neg low]
        constructor
        · rintro ⟨_, _, _, _, _⟩
          omega
        · intro absurd
          cases absurd

end Leads

/-- The decoder has a text for a name if and only if the other reader finds it strict. -/
theorem isSome_decodeUtf8 (name : Bytes) :
    (decodeUtf8 name).isSome ↔ isStrictUtf8 name = true := by
  induction size : name.length using Nat.strong_induction_on generalizing name with
  | _ size inductionHypothesis =>
      cases name with
      | nil => simp [decodeUtf8, isStrictUtf8]
      | cons first rest =>
          rw [List.length_cons] at size
          have shorter : ∀ rest' : Bytes, rest'.length ≤ rest.length →
              ((decodeUtf8 rest').isSome ↔ isStrictUtf8 rest' = true) :=
            fun rest' short => inductionHypothesis rest'.length (by omega) rest' rfl
          by_cases ascii : first.toNat < 0x80
          · unfold decodeUtf8 isStrictUtf8
            simp only [UInt8.le_iff_toNat_le, UInt8.reduceToNat]
            rw [if_pos ascii, if_pos (show first.toNat ≤ 127 by omega), Option.isSome_map]
            exact shorter rest (Nat.le_refl _)
          by_cases two : first.toNat / 32 = 6
          · exact isSome_decodeUtf8_two shorter two
          by_cases three : first.toNat / 16 = 14
          · exact isSome_decodeUtf8_three shorter three
          by_cases four : first.toNat / 8 = 30
          · exact isSome_decodeUtf8_four shorter four
          · exact isSome_decodeUtf8_none (Nat.le_of_not_lt ascii) two three four

end FlyNes.Zip.Port
