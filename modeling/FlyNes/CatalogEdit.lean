import FlyNes.CatalogData
import FlyNes.SortKeys

namespace FlyNes.App

open ByteString

/-!
# Editing a catalog

What a finished scan, the removal of a source and a user do to a catalog.  Each of them
makes a new catalog from the current one.
-/

def builtinScope : UInt32 := 1

def managedLibraryScope : UInt32 := 4

def partialCompleteness : UInt32 := 2

def fatalCompleteness : UInt32 := 3

def freshEntry : UInt32 := 1

def staleEntry : UInt32 := 2

/-! ### Sources -/

def sameSource (left right : SourceKey) : Bool :=
  left.scope == right.scope && left.uuid == right.uuid

theorem sameSource_iff {left right : SourceKey} :
    sameSource left right = true ↔ left = right := by
  cases left
  cases right
  simp [sameSource, and_comm]

/-- A source is known under another scope. -/
def sourceScopeConflicts (catalog : CatalogData) (source : SourceKey) : Bool :=
  catalog.sources.any fun existing =>
    existing.key.uuid == source.uuid && existing.key.scope != source.scope

def upsertSource
    (source : SourceKey)
    (completeness : UInt32) : List SourceRecord → List SourceRecord
  | [] => [{ key := source, lastCompleteness := completeness }]
  | existing :: rest =>
      if existing.key.uuid = source.uuid then
        { key := { existing.key with scope := source.scope }, lastCompleteness := completeness } ::
          rest
      else
        existing :: upsertSource source completeness rest

/-! ### Scanned files -/

inductive CandidateDisposition where
  | indexed
  | skipped
  | rejected
deriving DecidableEq

def ioErrorReason : UInt32 := 3

structure CandidateRecord where
  sourceRelativePath : Bytes
  disposition : CandidateDisposition := .rejected
  reason : UInt32 := ioErrorReason
  entries : List CatalogEntryData := []
deriving DecidableEq

/-- The first file of a path decides whether the path is rejected. -/
def candidateIsRejected (candidates : List CandidateRecord) (path : Bytes) : Bool :=
  match candidates.find? (fun candidate => candidate.sourceRelativePath == path) with
  | some candidate => candidate.disposition == .rejected
  | none => false

def eraseSourcePath
    (entries : List CatalogEntryData)
    (source : SourceKey)
    (path : Bytes) : List CatalogEntryData :=
  entries.filter fun entry =>
    !(sameSource entry.source source && entry.sourceRelativePath == path)

def entryOrder (left right : CatalogEntryData) : Bool :=
  if left.variantId ≠ right.variantId then
    decide (left.variantId < right.variantId)
  else if left.source.uuid.bytes ≠ right.source.uuid.bytes then
    decide (left.source.uuid.bytes < right.source.uuid.bytes)
  else if left.source.scope ≠ right.source.scope then
    decide (left.source.scope < right.source.scope)
  else if left.sourceRelativePath ≠ right.sourceRelativePath then
    decide (left.sourceRelativePath < right.sourceRelativePath)
  else
    decide (left.displayName < right.displayName)

abbrev EntrySorting := SortKeys.Sorting entryOrder

theorem strictWeak_entryOrder : SortKeys.StrictWeak entryOrder :=
  SortKeys.strictWeak_firstBy CatalogEntryData.variantId
    (SortKeys.strictWeak_firstBy (fun entry : CatalogEntryData => entry.source.uuid.bytes)
      (SortKeys.strictWeak_firstBy (fun entry : CatalogEntryData => entry.source.scope)
        (SortKeys.strictWeak_firstBy CatalogEntryData.sourceRelativePath
          (SortKeys.strictWeak_key CatalogEntryData.displayName))))

/-- One sort of entries. -/
def stableSorting : EntrySorting :=
  SortKeys.mergeSorting strictWeak_entryOrder

/-! ### A finished scan -/

/-- What becomes of an entry that was there before the scan. -/
def keepEntry
    (source : SourceKey)
    (completeness : UInt32)
    (candidates : List CandidateRecord)
    (existing : CatalogEntryData) : Option CatalogEntryData :=
  if !sameSource existing.source source then
    some existing
  else if completeness = partialCompleteness ∨
      completeness = fatalCompleteness ∨
      candidateIsRejected candidates existing.sourceRelativePath then
    some { existing with freshness := staleEntry }
  else
    none

/-- A file that was read replaces the entries of its path. -/
def mergeCandidate
    (source : SourceKey)
    (entries : List CatalogEntryData)
    (candidate : CandidateRecord) : List CatalogEntryData :=
  match candidate.disposition with
  | .rejected => entries
  | .skipped => eraseSourcePath entries source candidate.sourceRelativePath
  | .indexed =>
      eraseSourcePath entries source candidate.sourceRelativePath ++
        candidate.entries.map fun entry =>
          { entry with freshness := freshEntry }

def mergeEntries
    (entries : List CatalogEntryData)
    (source : SourceKey)
    (completeness : UInt32)
    (candidates : List CandidateRecord) : List CatalogEntryData :=
  let kept := entries.filterMap (keepEntry source completeness candidates)
  if completeness = fatalCompleteness then kept
  else candidates.foldl (mergeCandidate source) kept

/-- The catalog after a scan; there is none after the last generation. -/
def reconcileCatalog
    (sorting : EntrySorting)
    (current : CatalogData)
    (source : SourceKey)
    (completeness : UInt32)
    (candidates : List CandidateRecord) : Option CatalogData :=
  if current.generation = UInt64.ofNat (2 ^ 64 - 1) then
    none
  else
    some {
      current with
      generation := current.generation + 1
      sources := upsertSource source completeness current.sources
      entries := sorting.sort (mergeEntries current.entries source completeness candidates) }

/-- The catalog without a source. -/
def withoutSource (current : CatalogData) (target : SourceKey) : Option CatalogData :=
  if current.generation = UInt64.ofNat (2 ^ 64 - 1) then
    none
  else
    some {
      current with
      generation := current.generation + 1
      sources := current.sources.filter fun existing => !sameSource existing.key target
      entries := current.entries.filter fun entry => !sameSource entry.source target }

/-! ### What a user does -/

def findUser (catalog : CatalogData) (canonicalId : Bytes) : Option UserRecord :=
  catalog.users.find? fun user => user.canonicalId == canonicalId

/-- Edit the record of a game, which is created if there is none. -/
def upsertUser
    (canonicalId : Bytes)
    (edit : UserRecord → Option UserRecord) : List UserRecord → Option (List UserRecord)
  | [] => do
      let edited ← edit { canonicalId }
      return [edited]
  | user :: rest =>
      if user.canonicalId = canonicalId then do
        let edited ← edit user
        return edited :: rest
      else do
        let rest ← upsertUser canonicalId edit rest
        return user :: rest

def setFavorite
    (current : CatalogData)
    (canonicalId : Bytes)
    (favorite : Bool) : Option CatalogData :=
  if current.nextFavoriteRevision = UInt64.ofNat (2 ^ 64 - 1) then
    none
  else do
    let revision := current.nextFavoriteRevision + 1
    let users ←
      upsertUser canonicalId
        (fun user => some { user with favorite, favoriteRevision := revision }) current.users
    return { current with users, nextFavoriteRevision := revision }

/-- A game is counted as played, unless it has been played too often. -/
def markPlayed (current : CatalogData) (canonicalId : Bytes) : Option CatalogData :=
  if current.nextPlaySequence = UInt64.ofNat (2 ^ 64 - 1) then
    none
  else do
    let sequence := current.nextPlaySequence + 1
    let users ←
      upsertUser canonicalId
        (fun user =>
          if user.playCount = UInt32.ofNat (2 ^ 32 - 1) then none
          else
            some { user with playCount := user.playCount + 1, lastPlayedSequence := sequence })
        current.users
    return { current with users, nextPlaySequence := sequence }

end FlyNes.App
