import FlyNes.ByteString

namespace FlyNes.App

open ByteString

/-!
# The catalog

The sources that have been scanned, the entries found in them, and what the user has
done with a game.  Texts are byte strings.
-/

structure SourceKey where
  uuid : Block 16 := Block.zero 16
  scope : UInt32 := 0
deriving DecidableEq

def fullCompleteness : UInt32 := 1

structure SourceRecord where
  key : SourceKey
  lastCompleteness : UInt32 := fullCompleteness
deriving DecidableEq

structure UserRecord where
  canonicalId : Bytes := []
  favorite : Bool := false
  favoriteRevision : UInt64 := 0
  lastPlayedSequence : UInt64 := 0
  playCount : UInt32 := 0
deriving DecidableEq

structure CatalogEntryData where
  source : SourceKey := {}
  payloadSize : UInt64 := 0
  physicalSize : UInt64 := 0
  expectedBytes : UInt64 := 0
  prgBytes : UInt64 := 0
  chrBytes : UInt64 := 0
  mapper : Int32 := -1
  submapper : Int32 := -1
  diskSides : UInt32 := 0
  payloadSha1 : Block 20 := Block.zero 20
  payloadSha256 : Block 32 := Block.zero 32
  physicalSha256 : Block 32 := Block.zero 32
  payloadCrc32 : Block 4 := Block.zero 4
  packageFormat : UInt32 := 0
  romFormat : UInt32 := 0
  compatibilityState : UInt32 := 0
  compatibilityReason : UInt32 := 0
  freshness : UInt32 := 1
  flags : UInt32 := 0
  canonicalId : Bytes := []
  variantId : Bytes := []
  displayName : Bytes := []
  sourceRelativePath : Bytes := []
  packageId : Bytes := []
  zipRawName : Bytes := []
  zipLocalHeaderOffset : Int32 := -1
deriving DecidableEq

structure CatalogData where
  generation : UInt64 := 0
  entries : List CatalogEntryData := []
  sources : List SourceRecord := []
  users : List UserRecord := []
  nextFavoriteRevision : UInt64 := 0
  nextPlaySequence : UInt64 := 0
deriving DecidableEq

end FlyNes.App
