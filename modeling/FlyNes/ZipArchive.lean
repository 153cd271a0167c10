import Mathlib.Data.List.Sort
import FlyNes.ByteReader
import FlyNes.Checking

namespace FlyNes.Zip

open ByteString Checking

/-!
# Opening a ZIP file

A file is searched from its end for a record of the central directory.  The entries of the
directory are read, put in the order of their local headers, and held against these.  The
policy of a caller limits what is read; a directory is looked for without any policy.
-/

inductive ZipOpenCode where
  | invalidZip
  | packageLimitExceeded
  | entryLimitExceeded
  | inflatedLimitExceeded
  | payloadLimitExceeded
  | nameLimitExceeded
  | ratioLimitExceeded
  | encrypted
  | unsupportedCompression
  | entryMissing
deriving DecidableEq

/-- An operation does not return a value. -/
inductive Stop where
  /-- A validation failure, which is reported. -/
  | failure (code : ZipOpenCode) (message : String)
  /-- A runtime error, which is thrown. -/
  | internal (message : String)
  | badAlloc
  /-- A byte or an element that is not there was asked for. -/
  | outside
  | endless
deriving DecidableEq

def invalid (message : String) : Stop :=
  .failure .invalidZip message

def localSignature : Nat := 0x04034B50

def centralSignature : Nat := 0x02014B50

def endSignature : Nat := 0x06054B50

def descriptorSignature : Nat := 0x08074B50

def encryptedFlag : Nat := 0x0001

def dataDescriptorFlag : Nat := 0x0008

def efsFlag : Nat := 0x0800

def int32Max : Nat := 0x7FFFFFFF

def int64Max : Nat := 0x7FFFFFFFFFFFFFFF

def uint64Max : Nat := 0xFFFFFFFFFFFFFFFF

/-- A word of 32 bits, taken for a signed one. -/
def toInt32 (value : Nat) : Int :=
  (value : Int).bmod 0x100000000

/-- A signed word of 32 bits, taken for an unsigned one. -/
def toUInt32 (value : Int) : Nat :=
  (value % 0x100000000).toNat

theorem toInt32_eq {value : Nat} (small : value ≤ int32Max) :
    toInt32 value = value := by
  have below : (value : Int) ≤ 2147483647 := Int.ofNat_le.mpr small
  refine Int.bmod_eq_of_le ?_ ?_
  · omega
  · omega

theorem toUInt32_toInt32 {value : Nat} (small : value ≤ int32Max) :
    toUInt32 (toInt32 value) = value := by
  have below : value ≤ 2147483647 := small
  rw [toInt32_eq small]
  unfold toUInt32
  omega

attribute [irreducible] toInt32 toUInt32

/-! ### Limits -/

/-- What a caller allows.  A value that is larger than its limit is refused. -/
structure BoundedZipLimits where
  maxPackageBytes : Nat
  maxPayloadBytes : Nat
  maxZipEntries : Nat
  maxCumulativeInflatedBytes : Nat
  maxNameBytes : Nat
  maxCompressionRatio : Nat
  ratioGuardThresholdBytes : Nat
  package : 0 < maxPackageBytes ∧ maxPackageBytes ≤ int64Max
  payload : 0 < maxPayloadBytes ∧ maxPayloadBytes ≤ int64Max
  entries : 0 < maxZipEntries ∧ maxZipEntries ≤ int32Max
  inflated : 0 < maxCumulativeInflatedBytes ∧ maxCumulativeInflatedBytes ≤ int64Max
  name : 0 < maxNameBytes ∧ maxNameBytes ≤ 0xFFFF
  ratio : 0 < maxCompressionRatio ∧ maxCompressionRatio ≤ int32Max
  threshold : ratioGuardThresholdBytes ≤ int64Max

namespace BoundedZipLimits

def defaults : BoundedZipLimits where
  maxPackageBytes := 8 * 1024 * 1024
  maxPayloadBytes := 8 * 1024 * 1024
  maxZipEntries := 2048
  maxCumulativeInflatedBytes := 32 * 1024 * 1024
  maxNameBytes := 1024
  maxCompressionRatio := 200
  ratioGuardThresholdBytes := 1024 * 1024
  package := by decide
  payload := by decide
  entries := by decide
  inflated := by decide
  name := by decide
  ratio := by decide
  threshold := by decide

end BoundedZipLimits

/-! ### Bytes -/

def requireRange (bytes : Bytes) (offset length : Nat) (message : String) : Except Stop Unit :=
  refuse (offset > bytes.length ∨ length > bytes.length - offset) (invalid message)

def readByte (bytes : Bytes) (index : Nat) : Except Stop UInt8 :=
  match bytes[index]? with
  | some byte => .ok byte
  | none => .error .outside

def unsignedShort (bytes : Bytes) (offset : Nat) : Except Stop Nat := do
  requireRange bytes offset 2 "ZIP structure is truncated"
  let byte0 ← readByte bytes offset
  let byte1 ← readByte bytes (offset + 1)
  return byte0.toNat ||| (byte1.toNat <<< 8)

def unsignedInt (bytes : Bytes) (offset : Nat) : Except Stop Nat := do
  requireRange bytes offset 4 "ZIP structure is truncated"
  let byte0 ← readByte bytes offset
  let byte1 ← readByte bytes (offset + 1)
  let byte2 ← readByte bytes (offset + 2)
  let byte3 ← readByte bytes (offset + 3)
  return byte0.toNat ||| (byte1.toNat <<< 8) ||| (byte2.toNat <<< 16) ||| (byte3.toNat <<< 24)

/-- The bytes of a range, which has to be there. -/
def copyRange (bytes : Bytes) (start length : Nat) : Except Stop Bytes :=
  if start + length ≤ bytes.length then .ok ((bytes.drop start).take length)
  else .error .outside

def checkedAdd (first second : Nat) (message : String) : Except Stop Nat := do
  refuse (first > uint64Max - second) (invalid message)
  return first + second

def isContinuation (value : UInt8) : Bool :=
  value ≥ 0x80 && value ≤ 0xBF

def isStrictUtf8 : Bytes → Bool
  | [] => true
  | first :: rest =>
      if first ≤ 0x7F then isStrictUtf8 rest
      else if first ≥ 0xC2 && first ≤ 0xDF then
        match rest with
        | second :: rest => isContinuation second && isStrictUtf8 rest
        | _ => false
      else if first ≥ 0xE0 && first ≤ 0xEF then
        match rest with
        | second :: third :: rest =>
            isContinuation third &&
              ((first == 0xE0 && second ≥ 0xA0 && second ≤ 0xBF) ||
                (first == 0xED && second ≥ 0x80 && second ≤ 0x9F) ||
                (first ≥ 0xE1 && first ≤ 0xEC && isContinuation second) ||
                (first ≥ 0xEE && first ≤ 0xEF && isContinuation second)) &&
              isStrictUtf8 rest
        | _ => false
      else if first ≥ 0xF0 && first ≤ 0xF4 then
        match rest with
        | second :: third :: fourth :: rest =>
            isContinuation third && isContinuation fourth &&
              ((first == 0xF0 && second ≥ 0x90 && second ≤ 0xBF) ||
                (first ≥ 0xF1 && first ≤ 0xF3 && isContinuation second) ||
                (first == 0xF4 && second ≥ 0x80 && second ≤ 0x8F)) &&
              isStrictUtf8 rest
        | _ => false
      else false

/-! ### The directory -/

structure CentralEntry where
  rawName : Bytes
  centralExtra : Bytes
  localHeaderOffset : Int
  flags : Nat
  method : Nat
  crc32 : Nat
  compressedSize : Nat
  uncompressedSize : Nat
deriving DecidableEq

structure LocalHeaderValidation where
  dataOffset : Int
  entryEnd : Nat

structure BoundedZipEntry where
  rawName : Bytes
  centralExtra : Bytes
  localHeaderOffset : Int
  flags : Nat
  method : Nat
  crc32 : Nat
  compressedSize : Nat
  uncompressedSize : Nat
  isDirectory : Bool
deriving DecidableEq

structure ParsedEntries where
  entries : List BoundedZipEntry
  dataOffsets : List Int

/-- A record of the end lies here, and its comment takes the rest of the file. -/
def isEndRecord (archive : Bytes) (offset : Nat) : Except Stop Bool := do
  let signature ← unsignedInt archive offset
  if signature = endSignature then
    let commentLength ← unsignedShort archive (offset + 20)
    return offset + 22 + commentLength == archive.length
  else
    return false

/-- Look at an offset and at so many before it. -/
def scanEndRecords (archive : Bytes) (offset : Nat) : Nat → Except Stop (List Nat)
  | 0 => do
      let found ← isEndRecord archive offset
      return if found then [offset] else []
  | distance + 1 => do
      let found ← isEndRecord archive offset
      let earlier ← scanEndRecords archive (offset - 1) distance
      return if found then offset :: earlier else earlier

/-- A comment has at most 65535 bytes. -/
def earliestEndRecord (archive : Bytes) : Nat :=
  if archive.length > 22 + 0xFFFF then archive.length - (22 + 0xFFFF) else 0

def findEndRecords (archive : Bytes) : Except Stop (List Nat) := do
  refuse (archive.length < 22) (invalid "ZIP end record is missing")
  let last := archive.length - 22
  let candidates ← scanEndRecords archive last (last - earliestEndRecord archive)
  refuse (candidates = []) (invalid "ZIP end record is missing or truncated")
  return candidates

def validateRatio (entry : CentralEntry) (limits : BoundedZipLimits) : Except Stop Unit :=
  if entry.uncompressedSize ≤ limits.ratioGuardThresholdBytes then
    .ok ()
  else
    refuse
      (entry.compressedSize = 0 ∨
        entry.uncompressedSize > entry.compressedSize * limits.maxCompressionRatio)
      (.failure .ratioLimitExceeded "ZIP compression ratio exceeds the limit")

def requireZeroOrEqual (own central : Nat) (field : String) : Except Stop Unit :=
  if own = 0 ∨ own = central then .ok ()
  else if field = "CRC" then .error (invalid "ZIP local and central CRC differ")
  else if field = "compressed size" then
    .error (invalid "ZIP local and central compressed size differ")
  else .error (invalid "ZIP local and central size differ")

/-- The bytes at an offset are those of a name. -/
def requireName (archive : Bytes) (offset : Nat) : Bytes → Except Stop Unit
  | [] => .ok ()
  | expected :: rest => do
      let byte ← readByte archive offset
      refuse (byte ≠ expected) (invalid "ZIP local and central entry names differ")
      requireName archive (offset + 1) rest

def descriptorMatches
    (archive : Bytes)
    (central : CentralEntry)
    (valuesOffset : Nat) : Except Stop Bool := do
  let crc32 ← unsignedInt archive valuesOffset
  if crc32 ≠ central.crc32 then return false
  else
    let compressedSize ← unsignedInt archive (valuesOffset + 4)
    if compressedSize ≠ central.compressedSize then return false
    else
      let uncompressedSize ← unsignedInt archive (valuesOffset + 8)
      return uncompressedSize == central.uncompressedSize

/-- The part of `validateLocalHeader` that reads the descriptor after a payload. -/
def validateDescriptor
    (archive : Bytes)
    (central : CentralEntry)
    (centralOffset descriptorBoundary payloadEnd : Nat) : Except Stop Nat := do
  refuse (payloadEnd > descriptorBoundary) (invalid "ZIP local entries overlap")
  let available := descriptorBoundary - payloadEnd
  refuse (available < 4)
    (invalid
      (if descriptorBoundary < centralOffset then "ZIP local entries overlap"
      else "ZIP data descriptor overlaps the central directory"))
  let first ← unsignedInt archive payloadEnd
  let unsignedMatches ←
    provided (available ≥ 12) (descriptorMatches archive central payloadEnd) false
  let signedMatches ←
    provided (first = descriptorSignature ∧ available ≥ 16)
      (descriptorMatches archive central (payloadEnd + 4)) false
  refuse (unsignedMatches && signedMatches) (invalid "ZIP data descriptor is ambiguous")
  if signedMatches then .ok (payloadEnd + 16)
  else if unsignedMatches then .ok (payloadEnd + 12)
  else if descriptorBoundary < centralOffset ∧
      (available < 12 ∨ first = descriptorSignature ∧ available < 16) then
    .error (invalid "ZIP local entries overlap")
  else if first ≠ descriptorSignature ∧ available < 12 then
    .error (invalid "ZIP data descriptor overlaps the central directory")
  else if first = descriptorSignature ∧ available ≥ 12 ∧ available < 16 then
    .error (invalid "ZIP data descriptor overlaps the central directory")
  else
    .error (invalid "ZIP data descriptor differs from central metadata")

/-- The part of `validateLocalHeader` that compares the sizes. -/
def validateSizes
    (archive : Bytes)
    (central : CentralEntry)
    (offset flags : Nat) : Except Stop Unit := do
  let localCrc ← unsignedInt archive (offset + 14)
  let localCompressed ← unsignedInt archive (offset + 18)
  let localUncompressed ← unsignedInt archive (offset + 22)
  if flags &&& dataDescriptorFlag ≠ 0 then
    requireZeroOrEqual localCrc central.crc32 "CRC"
    requireZeroOrEqual localCompressed central.compressedSize "compressed size"
    requireZeroOrEqual localUncompressed central.uncompressedSize "size"
  else
    refuse
      (localCrc ≠ central.crc32 ∨ localCompressed ≠ central.compressedSize ∨
        localUncompressed ≠ central.uncompressedSize)
      (invalid "ZIP local and central CRC or sizes differ")

def validateLocalHeader
    (archive : Bytes)
    (central : CentralEntry)
    (centralOffset descriptorBoundary : Nat) : Except Stop LocalHeaderValidation := do
  let offset := toUInt32 central.localHeaderOffset
  requireRange archive offset 30 "ZIP local header is truncated"
  let signature ← unsignedInt archive offset
  refuse (signature ≠ localSignature) (invalid "ZIP local header signature is invalid")
  let localFlags ← unsignedShort archive (offset + 6)
  let localMethod ← unsignedShort archive (offset + 8)
  refuse (localFlags ≠ central.flags ∨ localMethod ≠ central.method)
    (invalid "ZIP local and central flags or methods differ")
  let nameLength ← unsignedShort archive (offset + 26)
  let extraLength ← unsignedShort archive (offset + 28)
  refuse (nameLength ≠ central.rawName.length)
    (invalid "ZIP local and central entry names differ")
  requireRange archive (offset + 30) (nameLength + extraLength)
    "ZIP local entry metadata is truncated"
  requireName archive (offset + 30) central.rawName
  let dataOffset ← checkedAdd (offset + 30) (nameLength + extraLength)
    "ZIP local data offset overflows"
  let payloadEnd ← checkedAdd dataOffset central.compressedSize "ZIP entry size overflows"
  refuse (payloadEnd > centralOffset ∨ dataOffset > int32Max)
    (invalid "ZIP compressed payload is truncated")
  validateSizes archive central offset localFlags
  let entryEnd ←
    provided (localFlags &&& dataDescriptorFlag ≠ 0)
      (validateDescriptor archive central centralOffset descriptorBoundary payloadEnd)
      payloadEnd
  return { dataOffset := toInt32 dataOffset, entryEnd }

/-- The numbers in a record of the end. -/
structure EndRecord where
  totalEntries : Nat
  centralOffset : Nat
  centralEnd : Nat

/-- The part of `parseEntriesAtEndRecord` that reads the record. -/
def readEndRecord
    (archive : Bytes)
    (limits : BoundedZipLimits)
    (endRecord : Nat)
    (applyPolicy : Bool) : Except Stop EndRecord := do
  let diskNumber ← unsignedShort archive (endRecord + 4)
  let centralDirectoryDisk ← unsignedShort archive (endRecord + 6)
  let entriesOnDisk ← unsignedShort archive (endRecord + 8)
  let totalEntries ← unsignedShort archive (endRecord + 10)
  let centralSize ← unsignedInt archive (endRecord + 12)
  let centralOffset ← unsignedInt archive (endRecord + 16)
  refuse (applyPolicy ∧ totalEntries > limits.maxZipEntries)
    (.failure .entryLimitExceeded "ZIP entry count exceeds the limit")
  -- layouts over several disks and of ZIP64 are refused whatever the policy
  refuse (diskNumber ≠ 0 ∨ centralDirectoryDisk ≠ 0 ∨ entriesOnDisk ≠ totalEntries)
    (invalid "split ZIP archives are unsupported")
  refuse
    (totalEntries = 0xFFFF ∨ centralSize = 0xFFFFFFFF ∨ centralOffset = 0xFFFFFFFF)
    (invalid "ZIP64 archives are unsupported")
  let centralEnd ← checkedAdd centralOffset centralSize "central directory overflows"
  refuse (centralEnd ≠ endRecord ∨ centralOffset > int32Max)
    (invalid "ZIP central directory bounds are invalid")
  return { totalEntries, centralOffset, centralEnd }

/-- One turn of the loop over the directory: an entry, and where the next one begins. -/
def readCentralEntry
    (archive : Bytes)
    (limits : BoundedZipLimits)
    (applyPolicy : Bool)
    (centralEnd cursor : Nat) : Except Stop (CentralEntry × Nat) := do
  requireRange archive cursor 46 "ZIP central directory is truncated"
  let signature ← unsignedInt archive cursor
  refuse (signature ≠ centralSignature) (invalid "ZIP central directory signature is invalid")
  let flags ← unsignedShort archive (cursor + 8)
  let method ← unsignedShort archive (cursor + 10)
  let nameLength ← unsignedShort archive (cursor + 28)
  let extraLength ← unsignedShort archive (cursor + 30)
  let commentLength ← unsignedShort archive (cursor + 32)
  refuse (nameLength = 0) (invalid "ZIP entry name is empty")
  refuse (applyPolicy ∧ nameLength > limits.maxNameBytes)
    (.failure .nameLimitExceeded "ZIP entry name exceeds the limit")
  let diskStart ← unsignedShort archive (cursor + 34)
  refuse (diskStart ≠ 0) (invalid "split ZIP entries are unsupported")
  let localOffset ← unsignedInt archive (cursor + 42)
  refuse (localOffset = 0xFFFFFFFF ∨ localOffset > int32Max)
    (invalid "ZIP64 local headers are unsupported")
  let centralEntryEnd ← checkedAdd (cursor + 46) (nameLength + extraLength + commentLength)
    "ZIP central entry overflows"
  refuse (centralEntryEnd > centralEnd) (invalid "ZIP central entry is truncated")
  let rawName ← copyRange archive (cursor + 46) nameLength
  let centralExtra ← copyRange archive (cursor + 46 + nameLength) extraLength
  refuse (applyPolicy ∧ flags &&& encryptedFlag ≠ 0)
    (.failure .encrypted "encrypted ZIP entries are unsupported")
  refuse (applyPolicy ∧ method ≠ 0 ∧ method ≠ 8)
    (.failure .unsupportedCompression "ZIP compression method is unsupported")
  refuse (flags &&& efsFlag ≠ 0 ∧ isStrictUtf8 rawName = false)
    (invalid "ZIP entry name encoding is invalid")
  let crc32 ← unsignedInt archive (cursor + 16)
  let compressedSize ← unsignedInt archive (cursor + 20)
  let uncompressedSize ← unsignedInt archive (cursor + 24)
  let entry : CentralEntry :=
    { rawName, centralExtra, localHeaderOffset := toInt32 localOffset, flags, method, crc32,
      compressedSize, uncompressedSize }
  provided applyPolicy (validateRatio entry limits) ()
  return (entry, centralEntryEnd)

def readCentralEntries
    (archive : Bytes)
    (limits : BoundedZipLimits)
    (applyPolicy : Bool)
    (centralEnd cursor : Nat) : Nat → Except Stop (List CentralEntry)
  | 0 => do
      refuse (cursor ≠ centralEnd) (invalid "ZIP central entry count is invalid")
      return []
  | count + 1 => do
      let (entry, next) ← readCentralEntry archive limits applyPolicy centralEnd cursor
      let rest ← readCentralEntries archive limits applyPolicy centralEnd next count
      return entry :: rest

/-- Sorted by offset; entries with the same offset stay in their order. -/
def sortEntries (entries : List CentralEntry) : List CentralEntry :=
  entries.insertionSort fun first second =>
    first.localHeaderOffset ≤ second.localHeaderOffset

/-- A descriptor may reach as far as the next entry or the directory. -/
def descriptorBoundary (centralOffset : Nat) : List CentralEntry → Nat
  | [] => centralOffset
  | next :: _ => min (toUInt32 next.localHeaderOffset) centralOffset

/-- The declared size is added to those before it. -/
def addDeclared
    (limits : BoundedZipLimits)
    (declaredInflated : Nat)
    (central : CentralEntry) : Except Stop Nat := do
  let declaredInflated ← checkedAdd declaredInflated central.uncompressedSize
    "ZIP inflated total overflows"
  refuse (declaredInflated > limits.maxCumulativeInflatedBytes)
    (.failure .inflatedLimitExceeded "ZIP inflated total exceeds the limit")
  return declaredInflated

/-- The loop over the sorted entries. -/
def validateLocals
    (archive : Bytes)
    (limits : BoundedZipLimits)
    (applyPolicy : Bool)
    (centralOffset : Nat)
    (previousEntryEnd : Option Nat)
    (declaredInflated : Nat) :
    List CentralEntry → Except Stop (List LocalHeaderValidation)
  | [] => return []
  | central :: rest => do
      refuse (∃ previous ∈ previousEntryEnd, previous > toUInt32 central.localHeaderOffset)
        (invalid "ZIP local entries overlap")
      let own ← validateLocalHeader archive central centralOffset
        (descriptorBoundary centralOffset rest)
      let declaredInflated ←
        provided applyPolicy (addDeclared limits declaredInflated central) declaredInflated
      let others ← validateLocals archive limits applyPolicy centralOffset
        (some own.entryEnd) declaredInflated rest
      return own :: others

def CentralEntry.toBoundedZipEntry (central : CentralEntry) : BoundedZipEntry where
  rawName := central.rawName
  centralExtra := central.centralExtra
  localHeaderOffset := central.localHeaderOffset
  flags := central.flags
  method := central.method
  crc32 := central.crc32
  compressedSize := central.compressedSize
  uncompressedSize := central.uncompressedSize
  -- a slash or a backslash
  isDirectory :=
    central.rawName.getLast? == some 0x2F || central.rawName.getLast? == some 0x5C

def startsAtZero (centralOffset : Nat) : List CentralEntry → Bool
  | [] => centralOffset == 0
  | first :: _ => first.localHeaderOffset == 0

def parseEntriesAtEndRecord
    (archive : Bytes)
    (limits : BoundedZipLimits)
    (endRecord : Nat)
    (applyPolicy : Bool) : Except Stop ParsedEntries := do
  let record ← readEndRecord archive limits endRecord applyPolicy
  let directory ← readCentralEntries archive limits applyPolicy record.centralEnd
    record.centralOffset record.totalEntries
  let centralEntries := sortEntries directory
  let locals ← validateLocals archive limits applyPolicy record.centralOffset none 0
    centralEntries
  refuse (startsAtZero record.centralOffset centralEntries = false)
    (invalid "ZIP prefix bytes are unsupported")
  return {
    entries := centralEntries.map CentralEntry.toBoundedZipEntry
    dataOffsets := locals.map LocalHeaderValidation.dataOffset }

/-! ### The record that is used

Both readers of ZIP files try each record of the end without a policy, and read the one that
gives an archive again, with the policy.
-/

section Records

variable {Record Archive : Type}

/-- The loop over the records: the one that gives an archive, if it is the only one, and
the first failure. -/
def structuralEndRecord
    (attempt : Record → Bool → Except Stop Archive)
    (found : Option Record)
    (firstFailure : Option (ZipOpenCode × String)) :
    List Record → Except Stop (Option Record × Option (ZipOpenCode × String))
  | [] => return (found, firstFailure)
  | endRecord :: rest =>
      match attempt endRecord false with
      | .error (.failure code message) =>
          structuralEndRecord attempt found (firstFailure <|> some (code, message)) rest
      | .error stop => .error stop
      | .ok _ => do
          refuse (found.isSome) (invalid "ZIP end record is ambiguous")
          structuralEndRecord attempt (some endRecord) firstFailure rest

def parseAtEndRecords
    (attempt : Record → Bool → Except Stop Archive)
    (endRecords : List Record) : Except Stop Archive := do
  let (found, firstFailure) ← structuralEndRecord attempt none none endRecords
  match found with
  | some endRecord => attempt endRecord true
  | none =>
      -- without an archive, the first record decides on the failure that is reported
      match endRecords with
      | [] => .error .outside
      | first :: _ =>
          let _ ← attempt first true
          match firstFailure with
          | some (code, message) => .error (.failure code message)
          | none => .error (invalid "ZIP end record is missing or truncated")

end Records

def parseEntries (archive : Bytes) (limits : BoundedZipLimits) : Except Stop ParsedEntries := do
  let endRecords ← findEndRecords archive
  parseAtEndRecords (parseEntriesAtEndRecord archive limits) endRecords

structure BoundedZipArchive where
  limits : BoundedZipLimits
  physicalBytes : Bytes
  entries : List BoundedZipEntry
  dataOffsets : List Int

def openBoundedZip
    (bytes : Bytes)
    (limits : BoundedZipLimits) : Except Stop BoundedZipArchive := do
  refuse (bytes.length > limits.maxPackageBytes)
    (.failure .packageLimitExceeded "ZIP package is over the source limit")
  let parsed ← parseEntries bytes limits
  return {
    limits
    physicalBytes := bytes
    entries := parsed.entries
    dataOffsets := parsed.dataOffsets }

end FlyNes.Zip
