import FlyNes.CatalogCalls

namespace FlyNes.App

open ByteString

/-!
# What a call can do

A call is refused without a trace, changes one scan, or replaces the catalog.  Everything
that is shown of a session is shown for each of these effects.
-/

namespace Session

/-- The catalog has been replaced. -/
def withCatalog (session : Session) (next : CatalogData) : Session :=
  { session with catalog := next }

/-- A scan has been begun on the current catalog. -/
def withScan (session : Session) (source : SourceKey) : Session :=
  { session with
    scans := session.scans ++
      [some { source, baseGeneration := session.catalog.generation }] }

@[simp] theorem withScan_catalog (session : Session) (source : SourceKey) :
    (session.withScan source).catalog = session.catalog :=
  rfl

@[simp] theorem withCatalog_catalog (session : Session) (next : CatalogData) :
    (session.withCatalog next).catalog = next :=
  rfl

/-- The effects of calls, by what they return. -/
inductive Effect (sorting : EntrySorting) (session : Session) :
    Call → FlyResult → Session → Prop
  | refused
      (call : Call)
      {result : FlyResult}
      (failed : result ≠ .ok) :
      Effect sorting session call result session
  | begun
      (source : SourceKey)
      (clear : sourceScopeConflicts session.catalog source = false) :
      Effect sorting session (.scanBegin source) .ok (session.withScan source)
  | poisoned
      {handle : Nat}
      (file : ScanFile)
      {scan : Scan}
      (found : session.scan? handle = some scan) :
      Effect sorting session (.scanAddFile handle file) .internalError
        (session.setScan handle (some { scan with poisoned := true }))
  | added
      {handle : Nat}
      (file : ScanFile)
      {scan : Scan}
      {candidate : CandidateRecord}
      (found : session.scan? handle = some scan)
      (scanned : scanCandidate scan.source file = some candidate) :
      Effect sorting session (.scanAddFile handle file) .ok
        (session.setScan handle
          (some { scan with candidates := scan.candidates ++ [candidate] }))
  | finished
      {handle : Nat}
      (finalCompleteness : UInt32)
      (saved : Bool)
      {scan : Scan}
      {result : FlyResult}
      (found : session.scan? handle = some scan)
      (failed : result ≠ .ok) :
      Effect sorting session (.scanCommit handle finalCompleteness saved) result
        (session.setScan handle (some { scan with closed := true }))
  | committed
      {handle : Nat}
      {finalCompleteness : UInt32}
      {scan : Scan}
      {next : CatalogData}
      (found : session.scan? handle = some scan)
      (current : session.catalog.generation = scan.baseGeneration)
      (reconciled :
        reconcileCatalog sorting session.catalog scan.source finalCompleteness
          scan.candidates = some next) :
      Effect sorting session (.scanCommit handle finalCompleteness true) .ok
        ((session.setScan handle (some { scan with closed := true })).withCatalog next)
  | aborted
      (handle : Nat) :
      Effect sorting session (.scanAbort handle) .ok (session.setScan handle none)
  | favored
      {canonicalId : Bytes}
      {favorite : UInt32}
      {next : CatalogData}
      (flag : favorite = 0 ∨ favorite = 1)
      (edited : setFavorite session.catalog canonicalId (favorite == 1) = some next) :
      Effect sorting session (.favoriteSet canonicalId favorite true) .ok
        (session.withCatalog next)
  | played
      {canonicalId : Bytes}
      {next : CatalogData}
      (edited : App.markPlayed session.catalog canonicalId = some next) :
      Effect sorting session (.markPlayed canonicalId true) .ok (session.withCatalog next)
  | removed
      {target : SourceKey}
      {next : CatalogData}
      (edited : withoutSource session.catalog target = some next) :
      Effect sorting session (.sourceRemove target true) .ok (session.withCatalog next)

/-- An edited catalog is stored, or nothing happens. -/
theorem storeEdited_cases (session : Session) (next : Option CatalogData) (saved : Bool) :
    session.storeEdited next saved = (.internalError, session) ∨
      ∃ catalog, next = some catalog ∧ saved = true ∧
        session.storeEdited next saved = (.ok, session.withCatalog catalog) := by
  cases next with
  | none => exact .inl rfl
  | some catalog =>
      cases saved with
      | false => exact .inl rfl
      | true => exact .inr ⟨catalog, rfl, rfl, rfl⟩

variable (sorting : EntrySorting) (session : Session)

theorem effect_scanAddFile (handle : Nat) (file : ScanFile) :
    Effect sorting session (.scanAddFile handle file) (session.scanAddFile handle file).1
      (session.scanAddFile handle file).2 := by
  unfold scanAddFile
  split
  · exact .refused _ nofun
  · next scan found =>
    split
    · exact .refused _ nofun
    · split
      · exact .refused _ nofun
      · split
        · exact .refused _ nofun
        · split
          · exact .poisoned file found
          · next candidate scanned => exact .added file found scanned

theorem effect_scanCommit (handle : Nat) (finalCompleteness : UInt32) (saved : Bool) :
    Effect sorting session (.scanCommit handle finalCompleteness saved)
      (session.scanCommit sorting handle finalCompleteness saved).1
      (session.scanCommit sorting handle finalCompleteness saved).2 := by
  unfold scanCommit
  split
  · exact .refused _ nofun
  · next scan found =>
    split
    · exact .refused _ nofun
    · split
      · exact .refused _ nofun
      · dsimp only
        split
        · exact .finished finalCompleteness saved found nofun
        · next current =>
          rcases storeEdited_cases
              (session.setScan handle (some { scan with closed := true }))
              (reconcileCatalog sorting session.catalog scan.source finalCompleteness
                scan.candidates)
              saved with
            failed | ⟨next, reconciled, rfl, stored⟩
          · rw [failed]
            exact .finished finalCompleteness saved found nofun
          · rw [stored]
            exact .committed found (not_not.mp current) reconciled

/-- Every call has one of the effects. -/
theorem effect_perform (call : Call) :
    Effect sorting session call (session.perform sorting call).1
      (session.perform sorting call).2 := by
  cases call with
  | scanBegin source =>
      change Effect _ _ _ (session.scanBegin source).1 (session.scanBegin source).2
      unfold scanBegin
      split
      · exact .refused _ nofun
      · split
        · exact .refused _ nofun
        · next clear => exact .begun source (Bool.not_eq_true _ ▸ clear)
  | scanAddFile handle file => exact effect_scanAddFile sorting session handle file
  | scanCommit handle finalCompleteness saved =>
      exact effect_scanCommit sorting session handle finalCompleteness saved
  | scanAbort handle => exact .aborted handle
  | favoriteSet canonicalId favorite saved =>
      change Effect _ _ _ (session.favoriteSet canonicalId favorite saved).1
        (session.favoriteSet canonicalId favorite saved).2
      unfold favoriteSet
      split
      · exact .refused _ nofun
      · next flag =>
        split
        · exact .refused _ nofun
        · rcases session.storeEdited_cases
              (setFavorite session.catalog canonicalId (favorite == 1)) saved with
            failed | ⟨next, edited, rfl, stored⟩
          · rw [failed]
            exact .refused _ nofun
          · rw [stored]
            exact .favored (by tauto) edited
  | markPlayed canonicalId saved =>
      change Effect _ _ _ (session.markPlayed canonicalId saved).1
        (session.markPlayed canonicalId saved).2
      unfold markPlayed
      split
      · exact .refused _ nofun
      · rcases session.storeEdited_cases (App.markPlayed session.catalog canonicalId)
            saved with
          failed | ⟨next, edited, rfl, stored⟩
        · rw [failed]
          exact .refused _ nofun
        · rw [stored]
          exact .played edited
  | sourceRemove target saved =>
      change Effect _ _ _ (session.sourceRemove target saved).1
        (session.sourceRemove target saved).2
      unfold sourceRemove
      split
      · exact .refused _ nofun
      · split
        · exact .refused _ nofun
        · split
          · exact .refused _ nofun
          · rcases session.storeEdited_cases (withoutSource session.catalog target) saved with
              failed | ⟨next, edited, rfl, stored⟩
            · rw [failed]
              exact .refused _ nofun
            · rw [stored]
              exact .removed edited

end Session

end FlyNes.App
