import FlyNes.CatalogEdit

namespace FlyNes.App

open ByteString

/-!
# Calls on a catalog

A session is a catalog and the scans that have been begun.  Calls come one after
another in any order; a catalog that is edited replaces the current one if it is saved.
-/

/-! ### Texts -/

def isUtf8Continuation (byte : UInt8) : Bool :=
  byte ≥ 0x80 && byte ≤ 0xBF

/-- The characters of a text. -/
def isUtf8 : Bytes → Bool
  | [] => true
  | first :: rest =>
      if first ≤ 0x7F then
        first != 0 && isUtf8 rest
      else if first ≥ 0xC2 && first ≤ 0xDF then
        match rest with
        | second :: rest => isUtf8Continuation second && isUtf8 rest
        | [] => false
      else if first ≥ 0xE0 && first ≤ 0xEF then
        match rest with
        | second :: third :: rest =>
            isUtf8Continuation second && (first != 0xE0 || second ≥ 0xA0) &&
              (first != 0xED || second ≤ 0x9F) && isUtf8Continuation third && isUtf8 rest
        | _ => false
      else if first ≥ 0xF0 && first ≤ 0xF4 then
        match rest with
        | second :: third :: fourth :: rest =>
            isUtf8Continuation second && (first != 0xF0 || second ≥ 0x90) &&
              (first != 0xF4 || second ≤ 0x8F) && isUtf8Continuation third &&
              isUtf8Continuation fourth && isUtf8 rest
        | _ => false
      else
        false

def isValidUtf8 (bytes : Bytes) (maximumLength : Nat) : Bool :=
  !(bytes.isEmpty || bytes.length > maximumLength) && isUtf8 bytes

def isAsciiLetter (value : UInt8) : Bool :=
  (value ≥ 0x61 && value ≤ 0x7A) || (value ≥ 0x41 && value ≤ 0x5A)

/-- A text starts like `C:/`. -/
def namesDrive : Bytes → Bool
  | first :: second :: third :: _ =>
      isAsciiLetter first && second == 0x3A && third == 0x2F
  | _ => false

/-- The bytes `/`, `\`, `.` are 0x2F, 0x5C and 0x2E. -/
def isSafeRelativePath (path : Bytes) : Bool :=
  !(path.isEmpty || path.head? == some 0x2F || path.head? == some 0x5C ||
      path.getLast? == some 0x2F || path.getLast? == some 0x5C || path.contains 0x5C) &&
    !namesDrive path &&
    (path.splitOn 0x2F).all fun segment =>
      !(segment.isEmpty || segment == [0x2E] || segment == [0x2E, 0x2E])

def isSafeDisplayName (value : Bytes) : Bool :=
  !value.isEmpty && value != [0x2E] && value != [0x2E, 0x2E] && !value.contains 0x2F &&
    !value.contains 0x5C

/-! ### Arguments -/

def canonicalIdMaxBytes : Nat := 4096

def relativePathMaxBytes : Nat := 4096

def displayNameMaxBytes : Nat := 1024

def expectedPhysicalSha256Flag : UInt32 := 1

def isValidScope (scope : UInt32) : Bool :=
  scope ≥ builtinScope && scope ≤ managedLibraryScope

def isValidCompleteness (completeness : UInt32) : Bool :=
  completeness ≥ fullCompleteness && completeness ≤ fatalCompleteness

def isZeroUuid (uuid : Block 16) : Bool :=
  uuid == Block.zero 16

def validateCanonicalId (canonicalId : Bytes) : Bool :=
  isValidUtf8 canonicalId canonicalIdMaxBytes

/-- What reading and parsing a file comes to; it may throw. -/
inductive FileContents where
  | rejected (reason : UInt32)
  | skipped
  | indexed (found : List CatalogEntryData)
  | throws
deriving DecidableEq

structure ScanFile where
  flags : UInt32 := 0
  sourceRelativePath : Bytes
  displayName : Bytes
  contents : FileContents
deriving DecidableEq

def validateScanFile (file : ScanFile) : Bool :=
  file.flags &&& ~~~expectedPhysicalSha256Flag == 0 &&
    isValidUtf8 file.sourceRelativePath relativePathMaxBytes &&
    isValidUtf8 file.displayName displayNameMaxBytes &&
    isSafeRelativePath file.sourceRelativePath && isSafeDisplayName file.displayName

def indexedReason : UInt32 := 1

def noCatalogableRomReason : UInt32 := 2

/-- An entry says where it has been found. -/
def makeCatalogEntry
    (source : SourceKey)
    (path : Bytes)
    (found : CatalogEntryData) : CatalogEntryData :=
  { found with source, sourceRelativePath := path }

def scanCandidate (source : SourceKey) (file : ScanFile) : Option CandidateRecord :=
  match file.contents with
  | .rejected reason =>
      some { sourceRelativePath := file.sourceRelativePath, disposition := .rejected, reason }
  | .skipped =>
      some {
        sourceRelativePath := file.sourceRelativePath
        disposition := .skipped
        reason := noCatalogableRomReason }
  | .indexed found =>
      some {
        sourceRelativePath := file.sourceRelativePath
        disposition := .indexed
        reason := indexedReason
        entries := found.map (makeCatalogEntry source file.sourceRelativePath) }
  | .throws => none

def hasCandidatePath (candidates : List CandidateRecord) (path : Bytes) : Bool :=
  candidates.any fun candidate => candidate.sourceRelativePath == path

/-! ### Sessions -/

inductive FlyResult where
  | ok
  | invalidArgument
  | internalError
  | invalidState
  | conflict
  | notFound
  | forbidden
deriving DecidableEq

structure Scan where
  source : SourceKey
  baseGeneration : UInt64
  candidates : List CandidateRecord := []
  closed : Bool := false
  poisoned : Bool := false
deriving DecidableEq

/-- The place of a scan is its handle.  A scan that is aborted leaves its place. -/
structure Session where
  catalog : CatalogData := {}
  scans : List (Option Scan) := []
deriving DecidableEq

namespace Session

def scan? (session : Session) (handle : Nat) : Option Scan :=
  session.scans[handle]?.join

def setScan (session : Session) (handle : Nat) (scan : Option Scan) : Session :=
  { session with scans := session.scans.set handle scan }

/-- A catalog is replaced once the new one is saved. -/
def store (session : Session) (next : CatalogData) (saved : Bool) : FlyResult × Session :=
  if saved then (.ok, { session with catalog := next }) else (.internalError, session)

/-- The new catalog, if there is one. -/
def storeEdited
    (session : Session)
    (next : Option CatalogData)
    (saved : Bool) : FlyResult × Session :=
  match next with
  | none => (.internalError, session)
  | some next => session.store next saved

def scanBegin (session : Session) (source : SourceKey) : FlyResult × Session :=
  if isZeroUuid source.uuid || !isValidScope source.scope then
    (.invalidArgument, session)
  else if sourceScopeConflicts session.catalog source then
    (.conflict, session)
  else
    (.ok, {
      session with
      scans := session.scans ++
        [some { source, baseGeneration := session.catalog.generation }] })

def scanAddFile (session : Session) (handle : Nat) (file : ScanFile) : FlyResult × Session :=
  match session.scan? handle with
  | none => (.invalidArgument, session)
  | some scan =>
      if !validateScanFile file then
        (.invalidArgument, session)
      else if scan.closed || scan.poisoned then
        (.invalidState, session)
      else if hasCandidatePath scan.candidates file.sourceRelativePath then
        (.invalidArgument, session)
      else
        match scanCandidate scan.source file with
        | none => (.internalError, session.setScan handle (some { scan with poisoned := true }))
        | some candidate =>
            (.ok, session.setScan handle
              (some { scan with candidates := scan.candidates ++ [candidate] }))

def scanCommit
    (sorting : EntrySorting)
    (session : Session)
    (handle : Nat)
    (finalCompleteness : UInt32)
    (saved : Bool) : FlyResult × Session :=
  match session.scan? handle with
  | none => (.invalidArgument, session)
  | some scan =>
      if !isValidCompleteness finalCompleteness then
        (.invalidArgument, session)
      else if scan.closed || scan.poisoned then
        (.invalidState, session)
      else
        let finished := session.setScan handle (some { scan with closed := true })
        if session.catalog.generation ≠ scan.baseGeneration then
          (.conflict, finished)
        else
          finished.storeEdited
            (reconcileCatalog sorting session.catalog scan.source finalCompleteness
              scan.candidates)
            saved

def scanAbort (session : Session) (handle : Nat) : FlyResult × Session :=
  (.ok, session.setScan handle none)

def favoriteSet
    (session : Session)
    (canonicalId : Bytes)
    (favorite : UInt32)
    (saved : Bool) : FlyResult × Session :=
  if favorite ≠ 0 ∧ favorite ≠ 1 then
    (.invalidArgument, session)
  else if !validateCanonicalId canonicalId then
    (.invalidArgument, session)
  else
    session.storeEdited (setFavorite session.catalog canonicalId (favorite == 1)) saved

def markPlayed (session : Session) (canonicalId : Bytes) (saved : Bool) : FlyResult × Session :=
  if !validateCanonicalId canonicalId then
    (.invalidArgument, session)
  else
    session.storeEdited (App.markPlayed session.catalog canonicalId) saved

def sourceRemove (session : Session) (target : SourceKey) (saved : Bool) : FlyResult × Session :=
  if isZeroUuid target.uuid || !isValidScope target.scope then
    (.invalidArgument, session)
  else if target.scope = builtinScope then
    (.forbidden, session)
  else if !session.catalog.sources.any fun existing => sameSource existing.key target then
    (.notFound, session)
  else
    session.storeEdited (withoutSource session.catalog target) saved

end Session

/-- A call and, where it saves, whether the save succeeds. -/
inductive Call where
  | scanBegin (source : SourceKey)
  | scanAddFile (handle : Nat) (file : ScanFile)
  | scanCommit (handle : Nat) (finalCompleteness : UInt32) (saved : Bool)
  | scanAbort (handle : Nat)
  | favoriteSet (canonicalId : Bytes) (favorite : UInt32) (saved : Bool)
  | markPlayed (canonicalId : Bytes) (saved : Bool)
  | sourceRemove (target : SourceKey) (saved : Bool)
deriving DecidableEq

namespace Session

variable (sorting : EntrySorting)

def perform (session : Session) : Call → FlyResult × Session
  | .scanBegin source => session.scanBegin source
  | .scanAddFile handle file => session.scanAddFile handle file
  | .scanCommit handle finalCompleteness saved =>
      session.scanCommit sorting handle finalCompleteness saved
  | .scanAbort handle => session.scanAbort handle
  | .favoriteSet canonicalId favorite saved => session.favoriteSet canonicalId favorite saved
  | .markPlayed canonicalId saved => session.markPlayed canonicalId saved
  | .sourceRemove target saved => session.sourceRemove target saved

def after (session : Session) (calls : List Call) : Session :=
  calls.foldl (fun session call => (session.perform sorting call).2) session

/-- The calls with their results. -/
def log (session : Session) : List Call → List (Call × FlyResult)
  | [] => []
  | call :: rest =>
      (call, (session.perform sorting call).1) :: log (session.perform sorting call).2 rest

end Session

end FlyNes.App
