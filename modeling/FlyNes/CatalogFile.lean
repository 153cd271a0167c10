import FlyNes.ByteWriter
import FlyNes.CatalogData
import FlyNes.SealedFile

namespace FlyNes.App

open ByteString
open ByteReader (Reader Read Stop takeBlock takeBytes takeMany takeU8 takeU32 takeU64 require)
open ByteWriter (Write Puts putMany)
open FlyNes.Wire (sha256)

/-!
# The file of a catalog

The payload of the file is the records of the catalog.  Writing and reading follow one
order, and both keep to the same limits.
-/

/-- `FLYCAT01` -/
def kMagic : Bytes :=
  [0x46, 0x4C, 0x59, 0x43, 0x41, 0x54, 0x30, 0x31]

def kMaxStringBytes : Nat := 65536

def kMaxCount : Nat := 100000

/-! ### Writing -/

def putU8 : UInt8 → Write := ByteWriter.putU8 kMaxBytes

def putU32 : UInt32 → Write := ByteWriter.putU32 kMaxBytes

def putU64 : UInt64 → Write := ByteWriter.putU64 kMaxBytes

def putI32 (value : Int32) : Write := putU32 value.toUInt32

def putBytes : Bytes → Write := ByteWriter.putBytes kMaxBytes

def putBlob : Bytes → Write := ByteWriter.putBlob kMaxBytes kMaxStringBytes

def putString : Bytes → Write := putBlob

def putSource (source : SourceRecord) : Write :=
  putBytes source.key.uuid.bytes >=>
    putU32 source.key.scope >=>
    putU32 source.lastCompleteness

def putEntry (entry : CatalogEntryData) : Write :=
  putBytes entry.source.uuid.bytes >=>
    putU32 entry.source.scope >=>
    putU64 entry.payloadSize >=>
    putU64 entry.physicalSize >=>
    putU64 entry.expectedBytes >=>
    putU64 entry.prgBytes >=>
    putU64 entry.chrBytes >=>
    putI32 entry.mapper >=>
    putI32 entry.submapper >=>
    putU32 entry.diskSides >=>
    putBytes entry.payloadSha1.bytes >=>
    putBytes entry.payloadSha256.bytes >=>
    putBytes entry.physicalSha256.bytes >=>
    putBytes entry.payloadCrc32.bytes >=>
    putU32 entry.packageFormat >=>
    putU32 entry.romFormat >=>
    putU32 entry.compatibilityState >=>
    putU32 entry.compatibilityReason >=>
    putU32 entry.freshness >=>
    putU32 entry.flags >=>
    putString entry.canonicalId >=>
    putString entry.variantId >=>
    putString entry.displayName >=>
    putString entry.sourceRelativePath >=>
    putString entry.packageId >=>
    putBlob entry.zipRawName >=>
    putI32 entry.zipLocalHeaderOffset

def putUser (user : UserRecord) : Write :=
  putString user.canonicalId >=>
    putU8 (if user.favorite then 1 else 0) >=>
    putU64 user.favoriteRevision >=>
    putU64 user.lastPlayedSequence >=>
    putU32 user.playCount

def encodePayload (catalog : CatalogData) : Write :=
  fun bytes =>
    if kMaxCount < catalog.sources.length ∨ kMaxCount < catalog.entries.length ∨
        kMaxCount < catalog.users.length then
      none
    else
      (putU64 catalog.generation >=>
        putU32 (UInt32.ofNat catalog.sources.length) >=>
        putMany putSource catalog.sources >=>
        putU32 (UInt32.ofNat catalog.entries.length) >=>
        putMany putEntry catalog.entries >=>
        putU32 (UInt32.ofNat catalog.users.length) >=>
        putMany putUser catalog.users >=>
        putU64 catalog.nextFavoriteRevision >=>
        putU64 catalog.nextPlaySequence) bytes

/-- The bytes that are saved, if there are any. -/
def encodeFile (catalog : CatalogData) : Option Bytes := do
  let payload ← encodePayload catalog []
  let file ← (putBytes kMagic >=> putU32 kVersion >=> putBytes payload) []
  let file ← putBytes (sha256 file).bytes file
  if kMaxBytes < file.length then none else some file

/-! ### Reading -/

def takeI32 : Read Int32 := do
  let raw ← takeU32
  return raw.toInt32

def takeBlob : Read Bytes := do
  let size ← takeU32
  require (!(size.toNat > kMaxStringBytes))
  takeBytes size.toNat

def takeString : Read Bytes := takeBlob

def takeSource : Read SourceRecord := do
  let uuid ← takeBlock 16
  let scope ← takeU32
  let lastCompleteness ← takeU32
  return { key := { uuid, scope }, lastCompleteness }

def takeEntry : Read CatalogEntryData := do
  let uuid ← takeBlock 16
  let scope ← takeU32
  let payloadSize ← takeU64
  let physicalSize ← takeU64
  let expectedBytes ← takeU64
  let prgBytes ← takeU64
  let chrBytes ← takeU64
  let mapper ← takeI32
  let submapper ← takeI32
  let diskSides ← takeU32
  let payloadSha1 ← takeBlock 20
  let payloadSha256 ← takeBlock 32
  let physicalSha256 ← takeBlock 32
  let payloadCrc32 ← takeBlock 4
  let packageFormat ← takeU32
  let romFormat ← takeU32
  let compatibilityState ← takeU32
  let compatibilityReason ← takeU32
  let freshness ← takeU32
  let flags ← takeU32
  let canonicalId ← takeString
  let variantId ← takeString
  let displayName ← takeString
  let sourceRelativePath ← takeString
  let packageId ← takeString
  let zipRawName ← takeBlob
  let zipLocalHeaderOffset ← takeI32
  return {
    source := { uuid, scope }
    payloadSize, physicalSize, expectedBytes, prgBytes, chrBytes, mapper, submapper,
    diskSides, payloadSha1, payloadSha256, physicalSha256, payloadCrc32, packageFormat,
    romFormat, compatibilityState, compatibilityReason, freshness, flags, canonicalId,
    variantId, displayName, sourceRelativePath, packageId, zipRawName,
    zipLocalHeaderOffset }

def takeUser : Read UserRecord := do
  let canonicalId ← takeString
  let favorite ← takeU8
  require (!(favorite > 1))
  let favoriteRevision ← takeU64
  let lastPlayedSequence ← takeU64
  let playCount ← takeU32
  return {
    canonicalId, favorite := favorite != 0, favoriteRevision, lastPlayedSequence,
    playCount }

/-- A count of records, of which there is a maximum. -/
def takeCount : Read Nat := do
  let count ← takeU32
  require (!(count.toNat > kMaxCount))
  return count.toNat

def takeRecords : Read CatalogData := do
  let generation ← takeU64
  let sourceCount ← takeCount
  let sources ← takeMany takeSource sourceCount
  let entryCount ← takeCount
  let entries ← takeMany takeEntry entryCount
  let userCount ← takeCount
  let users ← takeMany takeUser userCount
  let nextFavoriteRevision ← takeU64
  let nextPlaySequence ← takeU64
  return { generation, entries, sources, users, nextFavoriteRevision, nextPlaySequence }

/-- The records, behind which nothing is left. -/
def decodePayload : Read CatalogData := do
  let catalog ← takeRecords
  let reader ← get
  require reader.atEnd
  return catalog

def decodeFile (encoded : Bytes) : Except Stop CatalogData := do
  let payload ← openSealed kMagic encoded
  let (catalog, _) ← decodePayload { bytes := payload }
  return catalog

end FlyNes.App
