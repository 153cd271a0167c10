import FlyNes.CatalogInvariant

namespace FlyNes.App

open ByteString

/-!
# What holds of a session

A scan that is as old as the catalog was begun on its sources, so they have not changed
since.  That carries the invariant of the catalog through a commit.
-/

/-- Generations count upward. -/
theorem toNat_succ
    {generation : UInt64}
    (left : generation ≠ UInt64.ofNat (2 ^ 64 - 1)) :
    (generation + 1).toNat = generation.toNat + 1 := by
  rw [UInt64.toNat_add]
  have below := generation.toNat_lt
  have last : generation.toNat ≠ 2 ^ 64 - 1 := by
    intro same
    apply left
    rw [← same, UInt64.ofNat_toNat]
  simp
  omega

/-! ### What edits leave alone -/

/-- The part of a catalog that only a user changes. -/
structure SameUsers (current next : CatalogData) : Prop where
  users : next.users = current.users
  revision : next.nextFavoriteRevision = current.nextFavoriteRevision
  sequence : next.nextPlaySequence = current.nextPlaySequence

/-- The part of a catalog that only scans and removals change. -/
structure SameContent (current next : CatalogData) : Prop where
  generation : next.generation = current.generation
  sources : next.sources = current.sources
  entries : next.entries = current.entries

section Frames

variable {current next : CatalogData} {canonicalId : Bytes}

theorem sameUsers_reconcile
    {sorting : EntrySorting}
    {source : SourceKey}
    {completeness : UInt32}
    {candidates : List CandidateRecord}
    (reconciled :
      reconcileCatalog sorting current source completeness candidates = some next) :
    SameUsers current next ∧ next.generation.toNat = current.generation.toNat + 1 := by
  unfold reconcileCatalog at reconciled
  split at reconciled
  · cases reconciled
  · next left =>
    obtain rfl := Option.some.inj reconciled
    exact ⟨⟨rfl, rfl, rfl⟩, toNat_succ left⟩

theorem sameUsers_withoutSource
    {target : SourceKey}
    (removed : withoutSource current target = some next) :
    SameUsers current next ∧ next.generation.toNat = current.generation.toNat + 1 := by
  unfold withoutSource at removed
  split at removed
  · cases removed
  · next left =>
    obtain rfl := Option.some.inj removed
    exact ⟨⟨rfl, rfl, rfl⟩, toNat_succ left⟩

theorem sameContent_setFavorite
    {favorite : Bool}
    (edited : setFavorite current canonicalId favorite = some next) :
    SameContent current next := by
  unfold setFavorite at edited
  split at edited
  · cases edited
  · obtain ⟨users, -, same⟩ := Option.bind_eq_some_iff.mp edited
    obtain rfl := Option.some.inj same
    exact ⟨rfl, rfl, rfl⟩

theorem sameContent_markPlayed
    (edited : markPlayed current canonicalId = some next) :
    SameContent current next := by
  unfold markPlayed at edited
  split at edited
  · cases edited
  · obtain ⟨users, -, same⟩ := Option.bind_eq_some_iff.mp edited
    obtain rfl := Option.some.inj same
    exact ⟨rfl, rfl, rfl⟩

theorem UsersSound.congr
    (sound : UsersSound current)
    (same : SameUsers current next) :
    UsersSound next := by
  obtain ⟨users, revision, sequence⟩ := same
  constructor
  · rw [users]
    exact sound.canonicalIds
  · rw [users]
    exact sound.revisions
  · rw [users, revision]
    exact sound.revisions_le
  · rw [users]
    exact sound.sequences
  · rw [users, sequence]
    exact sound.sequences_le

end Frames

/-! ### Open scans -/

structure ScanSound (catalog : CatalogData) (scan : Scan) : Prop where
  older : scan.baseGeneration ≤ catalog.generation
  clear : scan.baseGeneration = catalog.generation →
    sourceScopeConflicts catalog scan.source = false
  found : ∀ candidate ∈ scan.candidates, ∀ entry ∈ candidate.entries,
    entry.source = scan.source

structure SessionSound (session : Session) : Prop where
  catalog : CatalogSound session.catalog
  users : UsersSound session.catalog
  scans : ∀ scan, some scan ∈ session.scans → ScanSound session.catalog scan

section Scans

variable {catalog next : CatalogData} {scan : Scan}

theorem ScanSound.sameContent
    (sound : ScanSound catalog scan)
    (same : SameContent catalog next) :
    ScanSound next scan := by
  refine ⟨?_, ?_, sound.found⟩
  · rw [same.generation]
    exact sound.older
  · intro current
    rw [same.generation] at current
    unfold sourceScopeConflicts
    rw [same.sources]
    exact sound.clear current

/-- A scan is behind once the catalog is replaced. -/
theorem ScanSound.outdated
    (sound : ScanSound catalog scan)
    (later : next.generation.toNat = catalog.generation.toNat + 1) :
    ScanSound next scan := by
  have behind : scan.baseGeneration.toNat < next.generation.toNat := by
    have older := UInt64.le_iff_toNat_le.mp sound.older
    omega
  refine ⟨?_, ?_, sound.found⟩
  · exact UInt64.le_of_lt (UInt64.lt_iff_toNat_lt.mpr behind)
  · intro current
    rw [current] at behind
    exact absurd behind (Nat.lt_irrefl _)

theorem found_scanCandidate
    {source : SourceKey}
    {file : ScanFile}
    {candidate : CandidateRecord}
    (scanned : scanCandidate source file = some candidate) :
    ∀ entry ∈ candidate.entries, entry.source = source := by
  unfold scanCandidate at scanned
  intro entry member
  split at scanned
  · obtain rfl := Option.some.inj scanned
    cases member
  · obtain rfl := Option.some.inj scanned
    cases member
  · obtain rfl := Option.some.inj scanned
    obtain ⟨found, -, rfl⟩ := List.mem_map.mp member
    rfl
  · cases scanned

end Scans

namespace Session

variable {sorting : EntrySorting} {session : Session} {handle : Nat} {scan : Scan}

theorem mem_of_scan? (found : session.scan? handle = some scan) :
    some scan ∈ session.scans := by
  unfold scan? at found
  exact List.mem_of_getElem? (Option.join_eq_some_iff.mp found)

/-- A scan may be replaced by a sound one, or be forgotten. -/
theorem sound_setScan
    (sound : SessionSound session)
    (handle : Nat)
    {replaced : Option Scan}
    (fits : ∀ scan, replaced = some scan → ScanSound session.catalog scan) :
    SessionSound (session.setScan handle replaced) := by
  refine ⟨sound.catalog, sound.users, ?_⟩
  intro scan member
  rcases List.mem_or_eq_of_mem_set member with old | new
  · exact sound.scans scan old
  · exact fits scan new.symm

/-- A scan is closed or poisoned. -/
theorem sound_marked
    {marked : Scan}
    (sound : SessionSound session)
    (found : session.scan? handle = some scan)
    (source : marked.source = scan.source)
    (base : marked.baseGeneration = scan.baseGeneration)
    (candidates : marked.candidates = scan.candidates) :
    SessionSound (session.setScan handle (some marked)) := by
  refine sound_setScan sound handle fun other same => ?_
  obtain rfl := Option.some.inj same
  have before := sound.scans scan (mem_of_scan? found)
  constructor
  · rw [base]
    exact before.older
  · rw [base, source]
    exact before.clear
  · rw [candidates, source]
    exact before.found

theorem sound_withScan
    {source : SourceKey}
    (sound : SessionSound session)
    (clear : sourceScopeConflicts session.catalog source = false) :
    SessionSound (session.withScan source) := by
  refine ⟨sound.catalog, sound.users, ?_⟩
  intro scan member
  rcases List.mem_append.mp member with old | new
  · exact sound.scans scan old
  · obtain rfl := Option.some.inj (List.mem_singleton.mp new)
    exact ⟨UInt64.le_refl _, fun _ => clear, by simp⟩

/-- A user edits a catalog without its scans noticing. -/
theorem sound_userEdit
    {next : CatalogData}
    (sound : SessionSound session)
    (same : SameContent session.catalog next)
    (users : UsersSound next) :
    SessionSound (session.withCatalog next) :=
  ⟨sound.catalog.congr same.sources same.entries, users,
    fun scan member => (sound.scans scan member).sameContent same⟩

/-- Every effect keeps what holds of a session. -/
theorem Effect.sound
    {call : Call}
    {result : FlyResult}
    {later : Session}
    (effect : Effect sorting session call result later)
    (sound : SessionSound session) :
    SessionSound later := by
  cases effect with
  | refused call failed => exact sound
  | begun source clear => exact sound_withScan sound clear
  | poisoned file found => exact sound_marked sound found rfl rfl rfl
  | added file found scanned =>
      refine sound_setScan sound _ fun scan same => ?_
      obtain rfl := Option.some.inj same
      obtain ⟨older, clear, found⟩ := sound.scans _ (mem_of_scan? found)
      refine ⟨older, clear, ?_⟩
      intro candidate member
      rcases List.mem_append.mp member with old | new
      · exact found candidate old
      · rw [List.mem_singleton.mp new]
        exact found_scanCandidate scanned
  | finished finalCompleteness saved found failed =>
      exact sound_marked sound found rfl rfl rfl
  | committed found current reconciled =>
      have scan := sound.scans _ (mem_of_scan? found)
      obtain ⟨same, later⟩ := sameUsers_reconcile reconciled
      refine ⟨?_, sound.users.congr same, ?_⟩
      · exact catalogSound_reconcile sound.catalog (scan.clear current.symm) scan.found
          reconciled
      · intro other member
        refine ((sound_marked sound found ?_ ?_ ?_).scans other member).outdated later
        · rfl
        · rfl
        · rfl
  | aborted handle => exact sound_setScan sound handle nofun
  | favored flag edited =>
      exact sound_userEdit sound (sameContent_setFavorite edited)
        (usersSound_setFavorite sound.users edited)
  | played edited =>
      exact sound_userEdit sound (sameContent_markPlayed edited)
        (usersSound_markPlayed sound.users edited)
  | removed edited =>
      obtain ⟨same, later⟩ := sameUsers_withoutSource edited
      refine ⟨catalogSound_withoutSource sound.catalog edited, sound.users.congr same, ?_⟩
      exact fun scan member => (sound.scans scan member).outdated later

theorem sound_empty : SessionSound {} := by
  refine ⟨⟨?_, ?_, ?_, ?_⟩, ⟨?_, ?_, ?_, ?_, ?_⟩, ?_⟩ <;> simp [sourceKeys]

/-- Whatever calls come in whatever order. -/
theorem sound_after
    (sorting : EntrySorting)
    {session : Session}
    (sound : SessionSound session)
    (calls : List Call) :
    SessionSound (session.after sorting calls) := by
  induction calls generalizing session with
  | nil => exact sound
  | cons call rest inductionHypothesis =>
      exact inductionHypothesis ((effect_perform sorting session call).sound sound)

end Session

end FlyNes.App
