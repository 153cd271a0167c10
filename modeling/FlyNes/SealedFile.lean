import FlyNes.ByteReader
import FlyNes.WireSha256

namespace FlyNes.App

open ByteString
open ByteReader (Stop fromLittleEndian putU32_fromLittleEndian)
open FlyNes.Wire (sha256)

/-!
# Sealed files

The catalog and the settings are kept in files of one kind: a magic number and a
version, a payload, and the hash of all that in front of it.
-/

def kVersion : UInt32 := 1

def kMaxBytes : Nat := 16777216

/-- Access a range of bytes, wherever it is. -/
def accessRange (bytes : Bytes) (offset size : Nat) : Except Stop Bytes :=
  if offset + size ≤ bytes.length then .ok ((bytes.drop offset).take size)
  else .error .outside

/-- The checks of a file in front of its payload. -/
def openSealed (magic encoded : Bytes) : Except Stop Bytes :=
  if encoded.length < 8 + 4 + 32 ∨ encoded.length > kMaxBytes then
    .error .rejected
  else do
    let found ← accessRange encoded 0 8
    if found ≠ magic then
      .error .rejected
    else
      let version ← accessRange encoded 8 4
      if UInt32.ofNat (fromLittleEndian version) ≠ kVersion then
        .error .rejected
      else
        let hashed ← accessRange encoded 0 (encoded.length - 32)
        let digest ← accessRange encoded (encoded.length - 32) 32
        if (sha256 hashed).bytes ≠ digest then
          .error .rejected
        else
          accessRange encoded 12 (encoded.length - 32 - 12)

/-- What stands in front of the hash. -/
def frontBytes (magic payload : Bytes) : Bytes :=
  magic ++ (ByteReader.putU32 kVersion ++ payload)

/-- The file of a payload. -/
def sealedBytes (magic payload : Bytes) : Bytes :=
  frontBytes magic payload ++ (sha256 (frontBytes magic payload)).bytes

variable {magic : Bytes}

theorem length_sealedBytes
    (sized : magic.length = 8)
    (payload : Bytes) :
    (sealedBytes magic payload).length = 12 + payload.length + 32 := by
  rw [sealedBytes, frontBytes, List.length_append, List.length_append, List.length_append,
    ByteReader.length_putU32, Block.sized, sized]
  omega

theorem accessRange_of_le
    {bytes : Bytes}
    {offset size : Nat}
    (within : offset + size ≤ bytes.length) :
    accessRange bytes offset size = .ok ((bytes.drop offset).take size) :=
  if_pos within

/-- A file of a possible size. -/
def Sized (encoded : Bytes) : Prop :=
  12 + 32 ≤ encoded.length ∧ encoded.length ≤ kMaxBytes

variable {encoded : Bytes}

/-- The checks of a file that is long enough, all of whose accesses lie within it. -/
theorem openSealed_sized
    (range : Sized encoded)
    (magic : Bytes) :
    openSealed magic encoded =
      if encoded.take 8 ≠ magic then .error .rejected
      else if UInt32.ofNat (fromLittleEndian ((encoded.drop 8).take 4)) ≠ kVersion then
        .error .rejected
      else if (sha256 (encoded.take (encoded.length - 32))).bytes ≠
          (encoded.drop (encoded.length - 32)).take 32 then
        .error .rejected
      else
        .ok ((encoded.drop 12).take (encoded.length - 32 - 12)) := by
  obtain ⟨enough, few⟩ := range
  have found := @accessRange_of_le encoded 0 8 (by omega)
  have version := @accessRange_of_le encoded 8 4 (by omega)
  have hashed := @accessRange_of_le encoded 0 (encoded.length - 32) (by omega)
  have digest := @accessRange_of_le encoded (encoded.length - 32) 32 (by omega)
  have payload := @accessRange_of_le encoded 12 (encoded.length - 32 - 12) (by omega)
  rw [List.drop_zero] at found hashed
  unfold openSealed
  rw [if_neg (by omega)]
  simp only [found, version, hashed, digest, payload, bind, Except.bind]

theorem openSealed_unsized
    (range : ¬ Sized encoded)
    (magic : Bytes) :
    openSealed magic encoded = .error .rejected := by
  unfold Sized at range
  exact if_pos (by omega)

/-- Every access of a file lies within it. -/
theorem openSealed_within (magic encoded : Bytes) :
    openSealed magic encoded ≠ .error .outside := by
  by_cases range : Sized encoded
  · rw [openSealed_sized range]
    split
    · simp
    · split
      · simp
      · split
        · simp
        · simp
  · rw [openSealed_unsized range]
    simp

variable {payload : Bytes}

/-- A file that is opened has passed every check. -/
theorem openSealed_checks :
    openSealed magic encoded = .ok payload ↔
      Sized encoded ∧ encoded.take 8 = magic ∧
        UInt32.ofNat (fromLittleEndian ((encoded.drop 8).take 4)) = kVersion ∧
        (sha256 (encoded.take (encoded.length - 32))).bytes =
          (encoded.drop (encoded.length - 32)).take 32 ∧
        (encoded.drop 12).take (encoded.length - 32 - 12) = payload := by
  by_cases range : Sized encoded
  · rw [openSealed_sized range]
    by_cases first : encoded.take 8 = magic
    · rw [if_neg (not_not.mpr first)]
      by_cases second : UInt32.ofNat (fromLittleEndian ((encoded.drop 8).take 4)) = kVersion
      · rw [if_neg (not_not.mpr second)]
        by_cases third : (sha256 (encoded.take (encoded.length - 32))).bytes =
            (encoded.drop (encoded.length - 32)).take 32
        · rw [if_neg (not_not.mpr third)]
          simp [range, first, second, third]
        · rw [if_pos third]
          simp [third]
      · rw [if_pos second]
        simp [second]
    · rw [if_pos first]
      simp [first]
  · rw [openSealed_unsized range]
    simp [range]

/-- A payload has one file, and a file has one payload. -/
theorem openSealed_eq_ok
    (sized : magic.length = 8) :
    openSealed magic encoded = .ok payload ↔
      (sealedBytes magic payload).length ≤ kMaxBytes ∧
        encoded = sealedBytes magic payload := by
  rw [openSealed_checks]
  constructor
  · rintro ⟨⟨enough, few⟩, found, version, hash, rest⟩
    have word : (encoded.drop 8).take 4 = ByteReader.putU32 kVersion := by
      have four : ((encoded.drop 8).take 4).length = 4 := by
        rw [List.length_take, List.length_drop]
        omega
      rw [← version, putU32_fromLittleEndian four]
    have front : encoded.take (encoded.length - 32) = frontBytes magic payload := by
      have split : encoded.length - 32 = 8 + (4 + (encoded.length - 32 - 12)) := by
        omega
      rw [split, List.take_add, List.take_add, List.drop_drop, found, word, rest]
      rfl
    have whole : encoded = sealedBytes magic payload := by
      have last : (encoded.drop (encoded.length - 32)).take 32 =
          encoded.drop (encoded.length - 32) := by
        rw [List.take_of_length_le]
        rw [List.length_drop]
        omega
      rw [last, front] at hash
      have parts := List.take_append_drop (encoded.length - 32) encoded
      rw [front, ← hash] at parts
      exact parts.symm
    exact ⟨whole ▸ few, whole⟩
  · rintro ⟨few, rfl⟩
    have length := length_sealedBytes sized payload
    have front : (frontBytes magic payload).length =
        (sealedBytes magic payload).length - 32 := by
      rw [sealedBytes, List.length_append, Block.sized, Nat.add_sub_cancel]
    have shape : sealedBytes magic payload =
        magic ++ (ByteReader.putU32 kVersion ++
          (payload ++ (sha256 (frontBytes magic payload)).bytes)) := by
      rw [sealedBytes, frontBytes, List.append_assoc, List.append_assoc]
    have behind : (sealedBytes magic payload).drop 8 =
        ByteReader.putU32 kVersion ++
          (payload ++ (sha256 (frontBytes magic payload)).bytes) := by
      rw [shape]
      exact List.drop_left' sized
    have word : ((sealedBytes magic payload).drop 8).take 4 = ByteReader.putU32 kVersion := by
      rw [behind]
      exact List.take_left' (ByteReader.length_putU32 kVersion)
    have rest : ((sealedBytes magic payload).drop 12).take
        ((sealedBytes magic payload).length - 32 - 12) = payload := by
      have size : (sealedBytes magic payload).length - 32 - 12 = payload.length := by
        omega
      have later : (sealedBytes magic payload).drop 12 =
          payload ++ (sha256 (frontBytes magic payload)).bytes := by
        have twelve : (sealedBytes magic payload).drop 12 =
            ((sealedBytes magic payload).drop 8).drop 4 := by
          rw [List.drop_drop]
        rw [twelve, behind]
        exact List.drop_left' (ByteReader.length_putU32 kVersion)
      rw [size, later]
      exact List.take_left
    refine ⟨⟨by omega, few⟩, ?_, ?_, ?_, rest⟩
    · rw [shape]
      exact List.take_left' sized
    · rw [word]
      rfl
    · rw [← front, sealedBytes, List.take_left, List.drop_left, List.take_of_length_le]
      exact Nat.le_of_eq (Block.sized _)

end FlyNes.App
