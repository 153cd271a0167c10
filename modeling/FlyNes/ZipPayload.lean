import FlyNes.ZipArchive

namespace FlyNes.Zip

open ByteString Checking

/-!
# Reading an entry of a ZIP file

An entry is found by its name and offset.  Its payload is copied or inflated, a buffer at
a time, and held against the size and the checksum of the directory.  Inflating is done by
a library; what it reports of each of its calls is a parameter.
-/

def zOk : Int := 0

def zStreamEnd : Int := 1

def zNeedDict : Int := 2

def zStreamError : Int := -2

def zDataError : Int := -3

def zMemError : Int := -4

def zBufError : Int := -5

def zVersionError : Int := -6

def bufferSize : Nat := 8192

/-- What one call to inflate reports, and what it puts into the buffer. -/
structure InflateReport where
  status : Int
  availIn : Nat
  produced : Bytes
  fits : produced.length ≤ bufferSize

/-- The library, for one payload. -/
structure Zlib where
  initStatus : Int
  /-- by the number of calls before -/
  inflate : Nat → InflateReport
  crc32 : Bytes → Nat

inductive ExactEntrySelectionStatus where
  | found
  | missing
  | duplicate
deriving DecidableEq

structure ExactEntrySelection where
  status : ExactEntrySelectionStatus := .missing
  index : Nat := 0
deriving DecidableEq

/-- The loop over the entries, from an index on. -/
def selectFrom
    (rawName : Bytes)
    (localHeaderOffset : Int)
    (result : ExactEntrySelection)
    (index : Nat) : List BoundedZipEntry → ExactEntrySelection
  | [] => result
  | entry :: rest =>
      if entry.localHeaderOffset ≠ localHeaderOffset ∨ entry.rawName ≠ rawName then
        selectFrom rawName localHeaderOffset result (index + 1) rest
      else if result.status = .found then { status := .duplicate, index := 0 }
      else selectFrom rawName localHeaderOffset { status := .found, index } (index + 1) rest

def selectExactBoundedZipEntry
    (entries : List BoundedZipEntry)
    (rawName : Bytes)
    (localHeaderOffset : Int) : ExactEntrySelection :=
  selectFrom rawName localHeaderOffset {} 0 entries

inductive InflateStall where
  | inputExhausted
  | dictionaryRequired
  | noProgress
deriving DecidableEq

def classifyInflateStall (dictionaryRequired inputExhausted : Bool) : InflateStall :=
  if dictionaryRequired then .dictionaryRequired
  else if inputExhausted then .inputExhausted
  else .noProgress

def inflateStallMessage : InflateStall → String
  | .inputExhausted | .dictionaryRequired => "ZIP deflate stream ended before completion"
  | .noProgress => "ZIP deflate stream made no progress"

/-- Only some statuses let the loop go on. -/
def checkStatus (status : Int) : Except Stop Unit := do
  -- invalid data wins over any output of the same call
  refuse (status = zDataError) (invalid "ZIP deflate stream is invalid")
  refuse (status = zMemError) .badAlloc
  refuse (status = zStreamError ∨ status = zVersionError)
    (.internal "ZIP inflater failed internally")
  refuse
    (status ≠ zOk ∧ status ≠ zStreamEnd ∧ status ≠ zBufError ∧ status ≠ zNeedDict)
    (.internal "ZIP inflater returned an unknown internal status")

/-- The total is the length of the output. -/
def appendProduced
    (entry : BoundedZipEntry)
    (limits : BoundedZipLimits)
    (output produced : Bytes) : Except Stop Bytes :=
  if produced.length ≠ 0 then do
    let entryTotal := output.length + produced.length
    refuse (entryTotal > limits.maxCumulativeInflatedBytes)
      (.failure .inflatedLimitExceeded "ZIP inflated total exceeds the limit")
    refuse (entryTotal > entry.uncompressedSize)
      (invalid "ZIP entry inflated past its declared size")
    return output ++ produced
  else
    .ok output

/-- The loop that inflates, for so many turns. -/
def inflateLoop
    (zlib : Zlib)
    (entry : BoundedZipEntry)
    (limits : BoundedZipLimits)
    (calls : Nat)
    (output : Bytes) : Nat → Except Stop Bytes
  | 0 => .error .endless
  | turns + 1 => do
      let report := zlib.inflate calls
      checkStatus report.status
      let output ← appendProduced entry limits output report.produced
      if report.status = zStreamEnd then do
        refuse (report.availIn ≠ 0)
          (invalid "ZIP compressed size includes trailing bytes")
        return output
      else if report.produced.length = 0 then
        .error (invalid (inflateStallMessage
          (classifyInflateStall (report.status == zNeedDict) (report.availIn == 0))))
      else
        inflateLoop zlib entry limits (calls + 1) output turns

/-- The constructor of the inflater. -/
def initInflater (initStatus : Int) : Except Stop Unit := do
  refuse (initStatus = zMemError) .badAlloc
  refuse (initStatus ≠ zOk) (.internal "ZIP inflater initialization failed internally")

def inflateSelectedPayload
    (zlib : Zlib)
    (turns : Nat)
    (physicalBytes : Bytes)
    (entry : BoundedZipEntry)
    (dataOffset : Int)
    (limits : BoundedZipLimits) : Except Stop Bytes := do
  refuse (entry.uncompressedSize > limits.maxPayloadBytes)
    (.failure .payloadLimitExceeded "ZIP entry exceeds the payload limit")
  refuse (entry.uncompressedSize > int32Max)
    (.failure .inflatedLimitExceeded "ZIP entry cannot fit in memory")
  refuse (entry.compressedSize > int32Max) (invalid "ZIP compressed size is invalid")
  refuse (dataOffset < 0) (.internal "ZIP data offset is invalid internally")
  let start := dataOffset.toNat
  refuse
    (start > physicalBytes.length ∨ entry.compressedSize > physicalBytes.length - start)
    (.internal "ZIP payload window is invalid internally")
  if entry.method = 0 then do
    refuse (entry.compressedSize ≠ entry.uncompressedSize)
      (invalid "stored ZIP entry sizes differ")
    copyRange physicalBytes start entry.compressedSize
  else do
    refuse (entry.method ≠ 8) (.internal "ZIP compression method escaped open validation")
    initInflater zlib.initStatus
    inflateLoop zlib entry limits 0 [] turns

/-- An element of a list, which has to be there. -/
def elementAt {Value : Type} (values : List Value) (index : Nat) : Except Stop Value :=
  match values[index]? with
  | some value => .ok value
  | none => .error .outside

def readBoundedZipPayload
    (zlib : Zlib)
    (turns : Nat)
    (archive : BoundedZipArchive)
    (rawName : Bytes)
    (localHeaderOffset : Int) : Except Stop Bytes := do
  let selected := selectExactBoundedZipEntry archive.entries rawName localHeaderOffset
  refuse (selected.status = .missing)
    (.failure .entryMissing "ZIP exact locator is missing")
  refuse (selected.status = .duplicate) (invalid "ZIP exact locator is duplicated")
  refuse (selected.index ≥ archive.dataOffsets.length)
    (.internal "ZIP entry data index is invalid internally")
  let entry ← elementAt archive.entries selected.index
  let dataOffset ← elementAt archive.dataOffsets selected.index
  let payload ← inflateSelectedPayload zlib turns archive.physicalBytes entry dataOffset
    archive.limits
  refuse (payload.length ≠ entry.uncompressedSize)
    (invalid "ZIP inflated size differs from central metadata")
  refuse (zlib.crc32 payload ≠ entry.crc32)
    (invalid "ZIP inflated CRC differs from central metadata")
  return payload

end FlyNes.Zip
