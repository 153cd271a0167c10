import FlyNes.SealedFile

namespace FlyNes.App

open ByteString

/-!
# The file of the settings

Settings are words and two texts, written one after another.  Unlike the catalog they
are written without limits on the texts; reading has one.
-/

/-- Floating-point numbers are their bits. -/
structure SettingsData where
  aspectMode : UInt32 := 1
  videoQualityPreset : UInt32 := 2
  customRefreshPolicy : UInt32 := 3
  customTemporalMode : UInt32 := 1
  customSpatialMode : UInt32 := 2
  customPostEffect : UInt32 := 1
  adaptiveProtection : UInt32 := 1
  layoutPreset : UInt32 := 1
  directionMode : UInt32 := 2
  buttonScale : UInt32 := 0x3F800000
  verticalOffset : UInt32 := 0
  controlOpacity : UInt32 := 0x3F47AE14
  joystickScale : UInt32 := 0x3F800000
  deadZone : UInt32 := 0x3E3851EC
  hapticLevel : UInt32 := 2
  distinctAbHaptics : UInt32 := 1
  audioEnabled : UInt32 := 1
  audioFocusPolicy : UInt32 := 1
  autosaveEnabled : UInt32 := 1
  /-- `system` -/
  localeTag : Bytes := [0x73, 0x79, 0x73, 0x74, 0x65, 0x6D]
  lastPlayedId : Bytes := []
deriving DecidableEq

namespace Settings

open ByteReader
open ByteReader renaming putU32 → appendU32
open FlyNes.Wire (sha256)

/-- `FLYSET01` -/
def kMagic : Bytes :=
  [0x46, 0x4C, 0x59, 0x53, 0x45, 0x54, 0x30, 0x31]

def kMaxStringBytes : Nat := 65536

/-! ### Writing -/

def appendString (value : Bytes) : Bytes :=
  appendU32 (UInt32.ofNat value.length) ++ value

def encodePayload (settings : SettingsData) : Bytes :=
  appendU32 settings.aspectMode ++ (appendU32 settings.videoQualityPreset ++
    (appendU32 settings.customRefreshPolicy ++ (appendU32 settings.customTemporalMode ++
      (appendU32 settings.customSpatialMode ++ (appendU32 settings.customPostEffect ++
        (appendU32 settings.adaptiveProtection ++ (appendU32 settings.layoutPreset ++
          (appendU32 settings.directionMode ++ (appendU32 settings.buttonScale ++
            (appendU32 settings.verticalOffset ++ (appendU32 settings.controlOpacity ++
              (appendU32 settings.joystickScale ++ (appendU32 settings.deadZone ++
                (appendU32 settings.hapticLevel ++ (appendU32 settings.distinctAbHaptics ++
                  (appendU32 settings.audioEnabled ++ (appendU32 settings.audioFocusPolicy ++
                    (appendU32 settings.autosaveEnabled ++ (appendString settings.localeTag ++
                      appendString settings.lastPlayedId)))))))))))))))))))

/-- The bytes that are saved, if there are not too many. -/
def encodeFile (settings : SettingsData) : Option Bytes :=
  let file := kMagic ++ (appendU32 kVersion ++ encodePayload settings)
  if file.length + 32 > kMaxBytes then none else some (file ++ (sha256 file).bytes)

/-! ### Reading -/

/-- A word, all of whose octets have to be there. -/
def takeWord : Read UInt32 := do
  let octets ← takeBytes 4
  return UInt32.ofNat (fromLittleEndian octets)

def takeString : Read Bytes := do
  let size ← takeWord
  require (!(size.toNat > kMaxStringBytes))
  takeBytes size.toNat

def decodePayload : Read SettingsData := do
  let aspectMode ← takeWord
  let videoQualityPreset ← takeWord
  let customRefreshPolicy ← takeWord
  let customTemporalMode ← takeWord
  let customSpatialMode ← takeWord
  let customPostEffect ← takeWord
  let adaptiveProtection ← takeWord
  let layoutPreset ← takeWord
  let directionMode ← takeWord
  let buttonScale ← takeWord
  let verticalOffset ← takeWord
  let controlOpacity ← takeWord
  let joystickScale ← takeWord
  let deadZone ← takeWord
  let hapticLevel ← takeWord
  let distinctAbHaptics ← takeWord
  let audioEnabled ← takeWord
  let audioFocusPolicy ← takeWord
  let autosaveEnabled ← takeWord
  let localeTag ← takeString
  let lastPlayedId ← takeString
  let reader ← get
  require reader.atEnd
  return {
    aspectMode, videoQualityPreset, customRefreshPolicy, customTemporalMode,
    customSpatialMode, customPostEffect, adaptiveProtection, layoutPreset, directionMode,
    buttonScale, verticalOffset, controlOpacity, joystickScale, deadZone, hapticLevel,
    distinctAbHaptics, audioEnabled, audioFocusPolicy, autosaveEnabled, localeTag,
    lastPlayedId }

def decodeFile (encoded : Bytes) : Except Stop SettingsData := do
  let payload ← openSealed kMagic encoded
  let (settings, _) ← decodePayload { bytes := payload }
  return settings

/-! ### Reading what has been written -/

/-- The texts are short enough to be read. -/
structure Fits (settings : SettingsData) : Prop where
  localeTag : settings.localeTag.length ≤ kMaxStringBytes
  lastPlayedId : settings.lastPlayedId.length ≤ kMaxStringBytes

theorem codes_takeWord : Codes takeWord appendU32 fun _ => True := by
  intro reader value after
  simp only [takeWord, (codes_takeBytes 4).bind_eq_ok, pure_eq_ok, id_eq, true_and]
  constructor
  · rintro ⟨octets, sized, holds, rfl, rfl⟩
    rw [putU32_fromLittleEndian sized]
    exact ⟨holds, rfl⟩
  · rintro ⟨holds, rfl⟩
    have whole : value.toNat % 256 ^ 4 = value.toNat := Nat.mod_eq_of_lt value.toNat_lt
    refine ⟨appendU32 value, length_putU32 value, holds, ?_, rfl⟩
    rw [appendU32, fromLittleEndian_littleEndian, whole]
    exact UInt32.ofNat_toNat

theorem codes_takeString :
    Codes takeString appendString fun text => text.length ≤ kMaxStringBytes :=
  Codes.blob codes_takeWord (by decide)

variable {settings : SettingsData}

theorem finishes_decodePayload
    (fits : Fits settings) :
    Finishes decodePayload (encodePayload settings) settings := by
  unfold decodePayload encodePayload
  -- the numbers, then the two texts
  iterate 19 refine Codes.finishes codes_takeWord trivial ?_
  refine Codes.finishes codes_takeString fits.localeTag ?_
  refine Codes.finishes_last codes_takeString fits.lastPlayedId ?_
  exact finishes_get fun reader ends => finishes_require ends.atEnd (finishes_pure settings)

variable {file : Bytes}

theorem encodeFile_eq_some :
    encodeFile settings = some file ↔
      (sealedBytes kMagic (encodePayload settings)).length ≤ kMaxBytes ∧
        sealedBytes kMagic (encodePayload settings) = file := by
  have sized :
      (kMagic ++ (appendU32 kVersion ++ encodePayload settings)).length + 32 =
        (sealedBytes kMagic (encodePayload settings)).length := by
    rw [sealedBytes, @List.length_append _ (frontBytes _ _), Block.sized]
    rfl
  simp only [encodeFile, sized]
  split
  · next many => simp [Nat.not_le.mpr many]
  · next few =>
    rw [Option.some_inj]
    exact (and_iff_right (Nat.not_lt.mp few)).symm

/-- Settings whose texts can be read are read from their file. -/
theorem decodeFile_encodeFile
    (fits : Fits settings)
    (encoded : encodeFile settings = some file) :
    decodeFile file = .ok settings := by
  obtain ⟨few, rfl⟩ := Iff.mp encodeFile_eq_some encoded
  have opened :
      openSealed kMagic (sealedBytes kMagic (encodePayload settings)) =
        .ok (encodePayload settings) :=
    (openSealed_eq_ok rfl).mpr ⟨few, rfl⟩
  obtain ⟨after, taken⟩ := finishes_decodePayload fits _ (Reader.ends_whole _)
  simp only [decodeFile, opened, taken, bind, Except.bind]
  rfl

end Settings

end FlyNes.App
