import FlyNes.RomPayloadPort
import FlyNes.ZipNames
import FlyNes.ZipPayload

namespace FlyNes.Zip.Port

open ByteString Checking
open Catalog.Port (wrapInt)

/-!
# The other reader of ZIP files

The scanner has a reader of its own.  Its offsets are signed words, it shows the name of
each entry while it reads the directory, and it keeps what it has found of an entry with
the entry.  Its numbers of 16 and 32 bits are unsigned ones in larger words.
-/

/-- An array of bytes has no more of them than a signed word can count. -/
structure SizedBytes where
  bytes : Bytes
  sized : bytes.length ≤ int32Max

def longMax : Int := 0x7FFFFFFFFFFFFFFF

def intMax : Int := 0x7FFFFFFF

/-! ### Bytes -/

def requireRange (bytes : Bytes) (offset length : Int) (message : String) : Except Stop Unit :=
  refuse (offset < 0 ∨ length < 0 ∨ offset + length > bytes.length) (invalid message)

def readByte (bytes : Bytes) (index : Int) : Except Stop UInt8 :=
  if index < 0 then .error .outside else Zip.readByte bytes index.toNat

def unsignedShort (bytes : Bytes) (offset : Int) : Except Stop Nat := do
  requireRange bytes offset 2 "ZIP structure is truncated"
  let byte0 ← readByte bytes offset
  let byte1 ← readByte bytes (offset + 1)
  return byte0.toNat ||| (byte1.toNat <<< 8)

def unsignedInt (bytes : Bytes) (offset : Int) : Except Stop Nat := do
  requireRange bytes offset 4 "ZIP structure is truncated"
  let byte0 ← readByte bytes offset
  let byte1 ← readByte bytes (offset + 1)
  let byte2 ← readByte bytes (offset + 2)
  let byte3 ← readByte bytes (offset + 3)
  return byte0.toNat ||| (byte1.toNat <<< 8) ||| (byte2.toNat <<< 16) ||| (byte3.toNat <<< 24)

/-- The bytes of a range that begins inside; where it ends outside, zeros are appended. -/
def copyOfRange (bytes : Bytes) (start stop : Int) : Except Stop Bytes :=
  if start < 0 ∨ start > bytes.length then .error .outside
  else if start > stop then .error (.internal "illegal argument")
  else
    .ok (((bytes ++ List.replicate stop.toNat 0).drop start.toNat).take (stop - start).toNat)

def checkedAdd (first second : Int) (message : String) : Except Stop Int := do
  refuse (first < 0 ∨ second < 0 ∨ first > longMax - second) (invalid message)
  return first + second

def checkedInflated
    (current added : Int)
    (limits : BoundedZipLimits) : Except Stop Int := do
  let total ← checkedAdd current added "ZIP inflated total overflows"
  refuse (total > limits.maxCumulativeInflatedBytes)
    (.failure .inflatedLimitExceeded "ZIP inflated total exceeds the limit")
  return total

/-! ### The directory -/

structure LocalEntry where
  central : CentralEntry
  dataOffset : Int
  payloadEnd : Int
  entryEnd : Int

/-- An entry keeps the bytes of the file and the limits it was opened with. -/
structure Entry where
  physicalBytes : Bytes
  own : LocalEntry
  limits : BoundedZipLimits

structure Archive where
  physicalBytes : Bytes
  entries : List Entry

def isEndRecord (archive : Bytes) (offset : Int) : Except Stop Bool := do
  let signature ← unsignedInt archive offset
  if signature = endSignature then
    let commentLength ← unsignedShort archive (offset + 20)
    return offset + 22 + commentLength == archive.length
  else
    return false

/-- The loop down to the earliest offset, which takes so many turns. -/
def scanEndRecords (archive : Bytes) (offset : Int) : Nat → Except Stop (List Int)
  | 0 => return []
  | turns + 1 => do
      let found ← isEndRecord archive offset
      let earlier ← scanEndRecords archive (offset - 1) turns
      return if found then offset :: earlier else earlier

def findEndRecords (archive : Bytes) : Except Stop (List Int) := do
  refuse (archive.length < 22) (invalid "ZIP end record is missing")
  let earliest := max 0 ((archive.length : Int) - 22 - 0xFFFF)
  let last := (archive.length : Int) - 22
  let candidates ← scanEndRecords archive last (last - earliest + 1).toNat
  refuse (candidates = []) (invalid "ZIP end record is missing or truncated")
  return candidates

def validateRatio (entry : CentralEntry) (limits : BoundedZipLimits) : Except Stop Unit :=
  if entry.uncompressedSize ≤ limits.ratioGuardThresholdBytes then
    .ok ()
  else
    refuse
      (entry.compressedSize = 0 ∨
        entry.uncompressedSize > entry.compressedSize * limits.maxCompressionRatio)
      (.failure .ratioLimitExceeded "ZIP compression ratio exceeds the limit")

def requireZeroOrEqual (own central : Nat) (field : String) : Except Stop Unit :=
  refuse (own ≠ 0 ∧ own ≠ central) (invalid ("ZIP local and central " ++ field ++ " differ"))

/-- The loop over the bytes of a name. -/
def requireName (archive : Bytes) (offset : Int) : Bytes → Except Stop Unit
  | [] => .ok ()
  | expected :: rest => do
      let byte ← readByte archive offset
      refuse (byte ≠ expected) (invalid "ZIP local and central entry names differ")
      requireName archive (offset + 1) rest

def descriptorMatches
    (archive : Bytes)
    (valuesOffset : Int)
    (central : CentralEntry) : Except Stop Bool := do
  let crc32 ← unsignedInt archive valuesOffset
  if crc32 ≠ central.crc32 then return false
  else
    let compressedSize ← unsignedInt archive (valuesOffset + 4)
    if compressedSize ≠ central.compressedSize then return false
    else
      let uncompressedSize ← unsignedInt archive (valuesOffset + 8)
      return uncompressedSize == central.uncompressedSize

/-- The part of `validateLocalHeader` that reads the descriptor after a payload. -/
def validateDescriptor
    (archive : Bytes)
    (central : CentralEntry)
    (centralOffset descriptorBoundary payloadEnd : Int) : Except Stop Int := do
  refuse (payloadEnd > descriptorBoundary) (invalid "ZIP local entries overlap")
  let available := descriptorBoundary - payloadEnd
  refuse (available < 4)
    (invalid
      (if descriptorBoundary < centralOffset then "ZIP local entries overlap"
      else "ZIP data descriptor overlaps the central directory"))
  let first ← unsignedInt archive (wrapInt payloadEnd)
  let unsignedMatches ←
    provided (available ≥ 12) (descriptorMatches archive (wrapInt payloadEnd) central) false
  let signedMatches ←
    provided (first = 0x08074B50 ∧ available ≥ 16)
      (descriptorMatches archive (wrapInt payloadEnd + 4) central) false
  refuse (unsignedMatches && signedMatches) (invalid "ZIP data descriptor is ambiguous")
  if signedMatches then .ok (payloadEnd + 16)
  else if unsignedMatches then .ok (payloadEnd + 12)
  else if descriptorBoundary < centralOffset ∧
      (available < 12 ∨ first = 0x08074B50 ∧ available < 16) then
    .error (invalid "ZIP local entries overlap")
  else if first ≠ 0x08074B50 ∧ available < 12 then
    .error (invalid "ZIP data descriptor overlaps the central directory")
  else if first = 0x08074B50 ∧ available ≥ 12 ∧ available < 16 then
    .error (invalid "ZIP data descriptor overlaps the central directory")
  else
    .error (invalid "ZIP data descriptor differs from central metadata")

/-- The part of `validateLocalHeader` that compares the sizes. -/
def validateSizes
    (archive : Bytes)
    (central : CentralEntry)
    (offset : Int)
    (flags : Nat) : Except Stop Unit := do
  let localCrc ← unsignedInt archive (offset + 14)
  let localCompressed ← unsignedInt archive (offset + 18)
  let localUncompressed ← unsignedInt archive (offset + 22)
  if flags &&& dataDescriptorFlag ≠ 0 then
    requireZeroOrEqual localCrc central.crc32 "CRC"
    requireZeroOrEqual localCompressed central.compressedSize "compressed size"
    requireZeroOrEqual localUncompressed central.uncompressedSize "size"
  else
    refuse
      (localCrc ≠ central.crc32 ∨ localCompressed ≠ central.compressedSize ∨
        localUncompressed ≠ central.uncompressedSize)
      (invalid "ZIP local and central CRC or sizes differ")

def validateLocalHeader
    (archive : Bytes)
    (central : CentralEntry)
    (centralOffset descriptorBoundary : Int) : Except Stop LocalEntry := do
  let offset := central.localHeaderOffset
  requireRange archive offset 30 "ZIP local header is truncated"
  let signature ← unsignedInt archive offset
  refuse (signature ≠ localSignature) (invalid "ZIP local header signature is invalid")
  let localFlags ← unsignedShort archive (offset + 6)
  let localMethod ← unsignedShort archive (offset + 8)
  refuse (localFlags ≠ central.flags ∨ localMethod ≠ central.method)
    (invalid "ZIP local and central flags or methods differ")
  let nameLength ← unsignedShort archive (offset + 26)
  let extraLength ← unsignedShort archive (offset + 28)
  refuse (nameLength ≠ central.rawName.length)
    (invalid "ZIP local and central entry names differ")
  requireRange archive (offset + 30) (nameLength + extraLength)
    "ZIP local entry metadata is truncated"
  requireName archive (offset + 30) central.rawName
  let dataOffsetLong ← checkedAdd (offset + 30) (nameLength + extraLength)
    "ZIP local data offset overflows"
  let payloadEnd ← checkedAdd dataOffsetLong central.compressedSize "ZIP entry size overflows"
  refuse (payloadEnd > centralOffset ∨ dataOffsetLong > intMax)
    (invalid "ZIP compressed payload is truncated")
  validateSizes archive central offset localFlags
  let entryEnd ←
    provided (localFlags &&& dataDescriptorFlag ≠ 0)
      (validateDescriptor archive central centralOffset descriptorBoundary payloadEnd)
      payloadEnd
  return { central, dataOffset := wrapInt dataOffsetLong, payloadEnd, entryEnd }

/-- The numbers in a record of the end. -/
structure EndRecord where
  totalEntries : Nat
  centralOffset : Int
  centralEnd : Int

/-- The part of `fromBytesAtEndRecord` that reads the record. -/
def readEndRecord
    (archive : Bytes)
    (limits : BoundedZipLimits)
    (endRecord : Int)
    (applyPolicy : Bool) : Except Stop EndRecord := do
  let diskNumber ← unsignedShort archive (endRecord + 4)
  let centralDirectoryDisk ← unsignedShort archive (endRecord + 6)
  let entriesOnDisk ← unsignedShort archive (endRecord + 8)
  let totalEntries ← unsignedShort archive (endRecord + 10)
  let centralSize ← unsignedInt archive (endRecord + 12)
  let centralOffset ← unsignedInt archive (endRecord + 16)
  refuse (applyPolicy ∧ totalEntries > limits.maxZipEntries)
    (.failure .entryLimitExceeded "ZIP entry count exceeds the limit")
  refuse (diskNumber ≠ 0 ∨ centralDirectoryDisk ≠ 0 ∨ entriesOnDisk ≠ totalEntries)
    (invalid "split ZIP archives are unsupported")
  refuse
    (totalEntries = 0xFFFF ∨ centralSize = 0xFFFFFFFF ∨ centralOffset = 0xFFFFFFFF)
    (invalid "ZIP64 archives are unsupported")
  let centralEnd ← checkedAdd centralOffset centralSize "central directory overflows"
  refuse (centralEnd ≠ endRecord ∨ (centralOffset : Int) > intMax)
    (invalid "ZIP central directory bounds are invalid")
  return { totalEntries, centralOffset, centralEnd }

/-- One turn of the loop over the directory: an entry, and where the next one begins. -/
def readCentralEntry
    (platform : Platform)
    (archive : Bytes)
    (limits : BoundedZipLimits)
    (applyPolicy : Bool)
    (centralEnd cursor : Int) : Except Stop (CentralEntry × Int) := do
  requireRange archive cursor 46 "ZIP central directory is truncated"
  let signature ← unsignedInt archive cursor
  refuse (signature ≠ centralSignature) (invalid "ZIP central directory signature is invalid")
  let flags ← unsignedShort archive (cursor + 8)
  let method ← unsignedShort archive (cursor + 10)
  let nameLength ← unsignedShort archive (cursor + 28)
  let extraLength ← unsignedShort archive (cursor + 30)
  let commentLength ← unsignedShort archive (cursor + 32)
  refuse (nameLength = 0) (invalid "ZIP entry name is empty")
  refuse (applyPolicy ∧ nameLength > limits.maxNameBytes)
    (.failure .nameLimitExceeded "ZIP entry name exceeds the limit")
  let diskStart ← unsignedShort archive (cursor + 34)
  refuse (diskStart ≠ 0) (invalid "split ZIP entries are unsupported")
  let localOffset ← unsignedInt archive (cursor + 42)
  refuse (localOffset = 0xFFFFFFFF ∨ (localOffset : Int) > intMax)
    (invalid "ZIP64 local headers are unsupported")
  let centralEntryEnd ← checkedAdd (cursor + 46) (nameLength + extraLength + commentLength)
    "ZIP central entry overflows"
  refuse (centralEntryEnd > centralEnd) (invalid "ZIP central entry is truncated")
  let rawName ← copyOfRange archive (cursor + 46) (cursor + 46 + nameLength)
  let centralExtra ← copyOfRange archive (cursor + 46 + nameLength)
    (cursor + 46 + nameLength + extraLength)
  refuse (applyPolicy ∧ flags &&& encryptedFlag ≠ 0)
    (.failure .encrypted "encrypted ZIP entries are unsupported")
  refuse (applyPolicy ∧ method ≠ 0 ∧ method ≠ 8)
    (.failure .unsupportedCompression "ZIP compression method is unsupported")
  -- any illegal argument of the decoder is caught here, that of a blank name too
  refuse (decode platform rawName flags centralExtra .cp437 = none)
    (invalid "ZIP entry name encoding is invalid")
  let crc32 ← unsignedInt archive (cursor + 16)
  let compressedSize ← unsignedInt archive (cursor + 20)
  let uncompressedSize ← unsignedInt archive (cursor + 24)
  let entry : CentralEntry :=
    { rawName, centralExtra, localHeaderOffset := wrapInt localOffset, flags, method, crc32,
      compressedSize, uncompressedSize }
  provided applyPolicy (validateRatio entry limits) ()
  return (entry, wrapInt centralEntryEnd)

def readCentralEntries
    (platform : Platform)
    (archive : Bytes)
    (limits : BoundedZipLimits)
    (applyPolicy : Bool)
    (centralEnd cursor : Int) : Nat → Except Stop (List CentralEntry)
  | 0 => do
      refuse (cursor ≠ centralEnd) (invalid "ZIP central entry count is invalid")
      return []
  | count + 1 => do
      let (entry, next) ← readCentralEntry platform archive limits applyPolicy centralEnd cursor
      let rest ← readCentralEntries platform archive limits applyPolicy centralEnd next count
      return entry :: rest

/-- Sorted by offset; the sort is stable. -/
def sortEntries (entries : List CentralEntry) : List CentralEntry :=
  entries.insertionSort fun first second =>
    first.localHeaderOffset ≤ second.localHeaderOffset

def descriptorBoundary (centralOffset : Int) : List CentralEntry → Int
  | [] => centralOffset
  | next :: _ => min next.localHeaderOffset centralOffset

/-- The loop over the sorted entries. -/
def validateLocals
    (archive : Bytes)
    (limits : BoundedZipLimits)
    (applyPolicy : Bool)
    (centralOffset previousEntryEnd declaredInflated : Int) :
    List CentralEntry → Except Stop (List LocalEntry)
  | [] => return []
  | central :: rest => do
      refuse (previousEntryEnd > central.localHeaderOffset)
        (invalid "ZIP local entries overlap")
      let own ← validateLocalHeader archive central centralOffset
        (descriptorBoundary centralOffset rest)
      let declaredInflated ←
        provided applyPolicy (checkedInflated declaredInflated central.uncompressedSize limits)
          declaredInflated
      let others ← validateLocals archive limits applyPolicy centralOffset own.entryEnd
        declaredInflated rest
      return own :: others

def startsAtZero (centralOffset : Int) : List CentralEntry → Bool
  | [] => centralOffset == 0
  | first :: _ => first.localHeaderOffset == 0

def fromBytesAtEndRecord
    (platform : Platform)
    (archive : Bytes)
    (limits : BoundedZipLimits)
    (endRecord : Int)
    (applyPolicy : Bool) : Except Stop Archive := do
  let record ← readEndRecord archive limits endRecord applyPolicy
  let directory ← readCentralEntries platform archive limits applyPolicy record.centralEnd
    (wrapInt record.centralOffset) record.totalEntries
  let centralEntries := sortEntries directory
  let locals ← validateLocals archive limits applyPolicy record.centralOffset (-1) 0
    centralEntries
  refuse (startsAtZero record.centralOffset centralEntries = false)
    (invalid "ZIP prefix bytes are unsupported")
  return {
    physicalBytes := archive
    entries := locals.map fun own => { physicalBytes := archive, own, limits } }

def fromBytes
    (platform : Platform)
    (archive : SizedBytes)
    (limits : BoundedZipLimits) : Except Stop Archive := do
  refuse (archive.bytes.length > limits.maxPackageBytes)
    (.failure .packageLimitExceeded "ZIP package is over the source limit")
  let endRecords ← findEndRecords archive.bytes
  parseAtEndRecords (fromBytesAtEndRecord platform archive.bytes limits) endRecords

namespace Entry

def isDirectory (entry : Entry) : Bool :=
  match entry.own.central.rawName.getLast? with
  | some last => last == 0x2F || last == 0x5C
  | none => false

/-- What an entry tells of itself, in the form of the first reader. -/
def shown (entry : Entry) : BoundedZipEntry where
  rawName := entry.own.central.rawName
  centralExtra := entry.own.central.centralExtra
  localHeaderOffset := entry.own.central.localHeaderOffset
  flags := entry.own.central.flags
  method := entry.own.central.method
  crc32 := entry.own.central.crc32
  compressedSize := entry.own.central.compressedSize
  uncompressedSize := entry.own.central.uncompressedSize
  isDirectory := entry.isDirectory

end Entry

/-! ### Reading an entry -/

/-- What a call to the inflater of the platform shows. -/
inductive InflaterCall where
  | dataFormat
  | thrown (stop : Stop)
  | returned
      (produced : Bytes)
      (finished needsDictionary needsInput : Bool)
      (remaining : Nat)

/-- The inflater of the platform, for one payload. -/
structure Inflater where
  /-- what its constructor throws -/
  created : Option Stop
  inflate : Nat → InflaterCall
  crc32 : Bytes → Nat

/-- The inflater of the platform shows what the library reports to it. -/
def InflaterCall.ofReport (report : InflateReport) : InflaterCall :=
  if report.status = zDataError then .dataFormat
  else if report.status = zMemError then .thrown .badAlloc
  else if report.status = zOk ∨ report.status = zStreamEnd ∨ report.status = zBufError ∨
      report.status = zNeedDict then
    .returned report.produced (report.status == zStreamEnd) (report.status == zNeedDict)
      (report.availIn == 0) report.availIn
  else .thrown (.internal "internal error")

def Inflater.ofZlib (zlib : Zlib) : Inflater where
  created :=
    if zlib.initStatus = zMemError then some .badAlloc
    else if zlib.initStatus = zOk then none
    else some (.internal "internal error")
  inflate calls := .ofReport (zlib.inflate calls)
  crc32 := zlib.crc32

/-- What is checked once the inflater has finished. -/
def checkRemaining (remaining : Nat) (output : Bytes) : Except Stop Bytes := do
  refuse (remaining ≠ 0) (invalid "ZIP compressed size includes trailing bytes")
  return output

/-- The loop that inflates, for so many turns. -/
def inflateLoop
    (inflater : Inflater)
    (central : CentralEntry)
    (limits : BoundedZipLimits)
    (alreadyInflated : Int)
    (calls : Nat)
    (output : Bytes) : Nat → Except Stop Bytes
  | 0 => .error .endless
  | turns + 1 =>
      match inflater.inflate calls with
      | .dataFormat => .error (invalid "ZIP deflate stream is invalid")
      | .thrown stop => .error stop
      | .returned produced finished needsDictionary needsInput remaining =>
          if produced.length > 0 then do
            let entryTotal := output.length + produced.length
            let _ ← checkedInflated alreadyInflated entryTotal limits
            refuse (entryTotal > central.uncompressedSize)
              (invalid "ZIP entry inflated past its declared size")
            if finished then checkRemaining remaining (output ++ produced)
            else
              inflateLoop inflater central limits alreadyInflated (calls + 1)
                (output ++ produced) turns
          else if finished then checkRemaining remaining output
          else if needsDictionary || needsInput then
            .error (invalid "ZIP deflate stream ended before completion")
          else .error (invalid "ZIP deflate stream made no progress")

def inflate
    (inflater : Inflater)
    (turns : Nat)
    (archive : Bytes)
    (own : LocalEntry)
    (limits : BoundedZipLimits)
    (alreadyInflated : Int) : Except Stop Bytes := do
  refuse (own.central.uncompressedSize > intMax)
    (.failure .inflatedLimitExceeded "ZIP entry cannot fit in memory")
  let compressedSize := wrapInt own.central.compressedSize
  refuse (compressedSize ≠ own.central.compressedSize)
    (invalid "ZIP compressed size is invalid")
  if own.central.method = 0 then do
    refuse (own.central.compressedSize ≠ own.central.uncompressedSize)
      (invalid "stored ZIP entry sizes differ")
    copyOfRange archive own.dataOffset (own.dataOffset + compressedSize)
  else
    match inflater.created with
    | some stop => .error stop
    | none => do
        -- the window that the inflater is given
        refuse
          (own.dataOffset < 0 ∨ compressedSize < 0 ∨
            own.dataOffset > archive.length - compressedSize)
          .outside
        inflateLoop inflater own.central limits alreadyInflated 0 [] turns

def Entry.readPayload
    (inflater : Inflater)
    (turns : Nat)
    (entry : Entry) : Except Stop Bytes := do
  refuse (entry.own.central.uncompressedSize > entry.limits.maxPayloadBytes)
    (.failure .payloadLimitExceeded "ZIP entry exceeds the payload limit")
  let payload ← inflate inflater turns entry.physicalBytes entry.own entry.limits 0
  refuse (payload.length ≠ entry.own.central.uncompressedSize)
    (invalid "ZIP inflated size differs from central metadata")
  refuse (inflater.crc32 payload ≠ entry.own.central.crc32)
    (invalid "ZIP inflated CRC differs from central metadata")
  return payload

end FlyNes.Zip.Port
