import FlyNes.CatalogEffects

namespace FlyNes.App

open ByteString

/-!
# What holds of a catalog

Sources are told apart by their identifiers, entries are sorted and belong to sources,
and the records of a user carry numbers that have been given out once.
-/

/-! ### Sources and entries -/

def sourceKeys (catalog : CatalogData) : List SourceKey :=
  catalog.sources.map SourceRecord.key

structure CatalogSound (catalog : CatalogData) : Prop where
  keys : (sourceKeys catalog).Nodup
  scopes : ∀ left ∈ sourceKeys catalog, ∀ right ∈ sourceKeys catalog,
    left.uuid = right.uuid → left.scope = right.scope
  registered : ∀ entry ∈ catalog.entries, entry.source ∈ sourceKeys catalog
  sorted : catalog.entries.Pairwise fun left right => entryOrder right left = false

variable {catalog : CatalogData} {source : SourceKey}

theorem sourceScopeConflicts_eq_false :
    sourceScopeConflicts catalog source = false ↔
      ∀ key ∈ sourceKeys catalog, key.uuid = source.uuid → key.scope = source.scope := by
  simp [sourceScopeConflicts, sourceKeys]

/-- Without a conflict only a new key is added. -/
theorem keys_upsertSource
    (completeness : UInt32)
    {sources : List SourceRecord}
    (clear : ∀ key ∈ sources.map SourceRecord.key,
      key.uuid = source.uuid → key.scope = source.scope) :
    (upsertSource source completeness sources).map SourceRecord.key =
      if source ∈ sources.map SourceRecord.key then sources.map SourceRecord.key
      else sources.map SourceRecord.key ++ [source] := by
  induction sources with
  | nil => rfl
  | cons existing rest inductionHypothesis =>
      rw [List.map_cons, List.forall_mem_cons] at clear
      unfold upsertSource
      by_cases same : existing.key.uuid = source.uuid
      · have here : existing.key = source := by
          cases keyed : existing.key
          cases source
          simp only [keyed] at same clear
          rw [same, clear.1 same]
        rw [if_pos same, List.map_cons, List.map_cons, here]
        simp
      · have other : source ≠ existing.key := fun equal => same (by rw [equal])
        rw [if_neg same, List.map_cons, List.map_cons, inductionHypothesis clear.2]
        by_cases member : source ∈ rest.map SourceRecord.key
        · rw [if_pos member, if_pos (List.mem_cons_of_mem _ member)]
        · rw [if_neg member, if_neg (by simp [other, member])]
          rfl

section Entries

variable {source : SourceKey} {candidates : List CandidateRecord} {completeness : UInt32}

theorem source_keepEntry
    {existing entry : CatalogEntryData}
    (kept : keepEntry source completeness candidates existing = some entry) :
    entry.source = existing.source := by
  unfold keepEntry at kept
  split at kept
  · rw [Option.some.inj kept]
  · split at kept
    · rw [← Option.some.inj kept]
    · cases kept

variable {entries : List CatalogEntryData} {entry : CatalogEntryData}

/-- An entry is from the scanned source, or it was there before. -/
theorem mem_mergeCandidate
    {candidate : CandidateRecord}
    (found : ∀ entry ∈ candidate.entries, entry.source = source)
    (member : entry ∈ mergeCandidate source entries candidate) :
    entry.source = source ∨ entry ∈ entries := by
  unfold mergeCandidate at member
  split at member
  · exact .inr member
  · exact .inr (List.mem_of_mem_filter member)
  · rcases List.mem_append.mp member with old | new
    · exact .inr (List.mem_of_mem_filter old)
    · obtain ⟨fresh, among, rfl⟩ := List.mem_map.mp new
      exact .inl (found fresh among)

theorem mem_foldl_mergeCandidate
    (found : ∀ candidate ∈ candidates, ∀ entry ∈ candidate.entries, entry.source = source)
    (member : entry ∈ candidates.foldl (mergeCandidate source) entries) :
    entry.source = source ∨ entry ∈ entries := by
  induction candidates generalizing entries with
  | nil => exact .inr member
  | cons candidate rest inductionHypothesis =>
      rw [List.forall_mem_cons] at found
      rcases inductionHypothesis found.2 member with here | earlier
      · exact .inl here
      · exact mem_mergeCandidate found.1 earlier

theorem source_mergeEntries
    (found : ∀ candidate ∈ candidates, ∀ entry ∈ candidate.entries, entry.source = source)
    (member : entry ∈ mergeEntries entries source completeness candidates) :
    entry.source = source ∨ ∃ existing ∈ entries, entry.source = existing.source := by
  have old (kept : entry ∈ entries.filterMap (keepEntry source completeness candidates)) :
      ∃ existing ∈ entries, entry.source = existing.source := by
    obtain ⟨existing, among, same⟩ := List.mem_filterMap.mp kept
    exact ⟨existing, among, source_keepEntry same⟩
  unfold mergeEntries at member
  dsimp only at member
  split at member
  · exact .inr (old member)
  · exact (mem_foldl_mergeCandidate found member).imp_right old

end Entries

section Edits

variable {current next : CatalogData} {source : SourceKey}

/-- A scan adds its source to a catalog in which that source has no other scope. -/
theorem catalogSound_reconcile
    {sorting : EntrySorting}
    {completeness : UInt32}
    {candidates : List CandidateRecord}
    (sound : CatalogSound current)
    (clear : sourceScopeConflicts current source = false)
    (found : ∀ candidate ∈ candidates, ∀ entry ∈ candidate.entries, entry.source = source)
    (reconciled :
      reconcileCatalog sorting current source completeness candidates = some next) :
    CatalogSound next := by
  unfold reconcileCatalog at reconciled
  split at reconciled
  · cases reconciled
  · obtain rfl := Option.some.inj reconciled
    have agree := sourceScopeConflicts_eq_false.mp clear
    have keys :
        (upsertSource source completeness current.sources).map SourceRecord.key =
          if source ∈ sourceKeys current then sourceKeys current
          else sourceKeys current ++ [source] :=
      keys_upsertSource completeness agree
    have known (key : SourceKey) :
        key ∈ (upsertSource source completeness current.sources).map SourceRecord.key ↔
          key = source ∨ key ∈ sourceKeys current := by
      rw [keys]
      split
      · next member =>
        constructor
        · exact .inr
        · rintro (rfl | among)
          · exact member
          · exact among
      · rw [List.mem_append, List.mem_singleton, or_comm]
    refine ⟨?_, ?_, ?_, sorting.sorted _⟩
    · change ((upsertSource source completeness current.sources).map SourceRecord.key).Nodup
      rw [keys]
      split
      · exact sound.keys
      · next absent =>
        rw [← List.concat_eq_append]
        exact sound.keys.concat absent
    · intro left among right among' same
      rcases (known left).mp among with rfl | old
      · rcases (known right).mp among' with rfl | old'
        · rfl
        · exact (agree right old' same.symm).symm
      · rcases (known right).mp among' with rfl | old'
        · exact agree left old same
        · exact sound.scopes left old right old' same
    · intro entry member
      have merged := (sorting.perm _).mem_iff.mp member
      refine (known entry.source).mpr ?_
      rcases source_mergeEntries found merged with here | ⟨existing, among, same⟩
      · exact .inl here
      · rw [same]
        exact .inr (sound.registered existing among)

/-- The entries of a source leave with it. -/
theorem catalogSound_withoutSource
    {target : SourceKey}
    (sound : CatalogSound current)
    (removed : withoutSource current target = some next) :
    CatalogSound next := by
  unfold withoutSource at removed
  split at removed
  · cases removed
  · obtain rfl := Option.some.inj removed
    have fewer :
        ((current.sources.filter fun existing => !sameSource existing.key target).map
          SourceRecord.key).Sublist (sourceKeys current) :=
      List.filter_sublist.map _
    refine ⟨sound.keys.sublist fewer, ?_, ?_, sound.sorted.sublist List.filter_sublist⟩
    · intro left among right among'
      exact sound.scopes left (fewer.subset among) right (fewer.subset among')
    · intro entry member
      obtain ⟨among, other⟩ := List.mem_filter.mp member
      obtain ⟨record, registered, same⟩ := List.mem_map.mp (sound.registered entry among)
      refine List.mem_map.mpr ⟨record, List.mem_filter.mpr ⟨registered, ?_⟩, same⟩
      rw [same]
      exact other

/-- What is not looked at may change. -/
theorem CatalogSound.congr
    (sound : CatalogSound current)
    (sources : next.sources = current.sources)
    (entries : next.entries = current.entries) :
    CatalogSound next := by
  have keys : sourceKeys next = sourceKeys current := by
    unfold sourceKeys
    rw [sources]
  constructor
  · rw [keys]
    exact sound.keys
  · rw [keys]
    exact sound.scopes
  · rw [keys, entries]
    exact sound.registered
  · rw [entries]
    exact sound.sorted

end Edits

/-! ### The records of a user -/

/-- A number that is not zero stands in one record only. -/
def NumbersDiffer (number : UserRecord → UInt64) (left right : UserRecord) : Prop :=
  number left ≠ 0 → number left ≠ number right

structure UsersSound (catalog : CatalogData) : Prop where
  canonicalIds : (catalog.users.map UserRecord.canonicalId).Nodup
  revisions : catalog.users.Pairwise (NumbersDiffer UserRecord.favoriteRevision)
  revisions_le : ∀ user ∈ catalog.users,
    user.favoriteRevision ≤ catalog.nextFavoriteRevision
  sequences : catalog.users.Pairwise (NumbersDiffer UserRecord.lastPlayedSequence)
  sequences_le : ∀ user ∈ catalog.users,
    user.lastPlayedSequence ≤ catalog.nextPlaySequence

/-- The records with one for the game. -/
def withUser (canonicalId : Bytes) (users : List UserRecord) : List UserRecord :=
  if canonicalId ∈ users.map UserRecord.canonicalId then users
  else users ++ [{ canonicalId := canonicalId }]

/-- The record of the game is edited, all others stay. -/
theorem upsertUser_eq_some
    {canonicalId : Bytes}
    {edit : UserRecord → Option UserRecord}
    {users edited : List UserRecord}
    (upserted : upsertUser canonicalId edit users = some edited) :
    ∃ before user rest new,
      withUser canonicalId users = before ++ user :: rest ∧
        (∀ other ∈ before, other.canonicalId ≠ canonicalId) ∧
        user.canonicalId = canonicalId ∧ edit user = some new ∧
        edited = before ++ new :: rest := by
  induction users generalizing edited with
  | nil =>
      obtain ⟨new, made, same⟩ := Option.bind_eq_some_iff.mp upserted
      exact ⟨[], { canonicalId }, [], new, rfl, by simp, rfl, made, (Option.some.inj same).symm⟩
  | cons first rest inductionHypothesis =>
      unfold upsertUser at upserted
      by_cases here : first.canonicalId = canonicalId
      · rw [if_pos here] at upserted
        obtain ⟨new, made, same⟩ := Option.bind_eq_some_iff.mp upserted
        refine ⟨[], first, rest, new, ?_, by simp, here, made, (Option.some.inj same).symm⟩
        exact if_pos (by simp [here])
      · rw [if_neg here] at upserted
        obtain ⟨others, made, same⟩ := Option.bind_eq_some_iff.mp upserted
        obtain ⟨before, user, behind, new, split, differ, found, changed, rfl⟩ :=
          inductionHypothesis made
        refine ⟨first :: before, user, behind, new, ?_, ?_, found, changed,
          (Option.some.inj same).symm⟩
        · have split' : withUser canonicalId (first :: rest) =
              first :: withUser canonicalId rest := by
            unfold withUser
            rw [List.map_cons]
            by_cases member : canonicalId ∈ rest.map UserRecord.canonicalId
            · rw [if_pos member, if_pos (List.mem_cons_of_mem _ member)]
            · rw [if_neg member, if_neg (by simp [Ne.symm here, member])]
              rfl
          rw [split', split, List.cons_append]
        · exact List.forall_mem_cons.mpr ⟨here, differ⟩

/-- A new record has no numbers. -/
theorem usersSound_withUser
    (sound : UsersSound catalog)
    (canonicalId : Bytes) :
    UsersSound { catalog with users := withUser canonicalId catalog.users } := by
  unfold withUser
  split
  · exact sound
  · next absent =>
    have pairwise {number : UserRecord → UInt64} (zero : number { canonicalId } = 0)
        (differ : catalog.users.Pairwise (NumbersDiffer number)) :
        (catalog.users ++ [({ canonicalId } : UserRecord)]).Pairwise
          (NumbersDiffer number) := by
      refine List.pairwise_append.mpr ⟨differ, List.pairwise_singleton _ _, ?_⟩
      intro user _ other last nonzero
      rw [List.mem_singleton.mp last, zero]
      exact nonzero
    have bounded {number : UserRecord → UInt64} {bound : UInt64}
        (zero : number { canonicalId } = 0)
        (below : ∀ user ∈ catalog.users, number user ≤ bound) :
        ∀ user ∈ catalog.users ++ [({ canonicalId } : UserRecord)], number user ≤ bound := by
      intro user member
      rcases List.mem_append.mp member with old | last
      · exact below user old
      · rw [List.mem_singleton.mp last, zero]
        exact UInt64.zero_le
    refine ⟨?_, pairwise rfl sound.revisions, bounded rfl sound.revisions_le,
      pairwise rfl sound.sequences, bounded rfl sound.sequences_le⟩
    rw [List.map_append, List.map_singleton, ← List.concat_eq_append]
    exact sound.canonicalIds.concat absent

section Replacing

variable {number : UserRecord → UInt64} {before rest : List UserRecord}
variable {user new : UserRecord} {bound : UInt64}

/-- A record takes the next number. -/
theorem numbers_replace_next
    (differ : (before ++ user :: rest).Pairwise (NumbersDiffer number))
    (below : ∀ other ∈ before ++ user :: rest, number other ≤ bound)
    (above : bound < number new) :
    (before ++ new :: rest).Pairwise (NumbersDiffer number) ∧
      ∀ other ∈ before ++ new :: rest, number other ≤ number new := by
  have small (other : UserRecord) (member : other ∈ before ∨ other ∈ rest) :
      number other < number new := by
    refine UInt64.lt_of_le_of_lt (below other ?_) above
    rcases member with front | back
    · exact List.mem_append_left _ front
    · exact List.mem_append_right _ (List.mem_cons_of_mem _ back)
  obtain ⟨front, back, between⟩ := List.pairwise_append.mp differ
  constructor
  · refine List.pairwise_append.mpr ⟨front, List.pairwise_cons.mpr ⟨?_, ?_⟩, ?_⟩
    · intro other member _
      exact (UInt64.ne_of_lt (small other (.inr member))).symm
    · exact (List.pairwise_cons.mp back).2
    · intro other member another among nonzero
      rcases List.mem_cons.mp among with rfl | later
      · exact UInt64.ne_of_lt (small other (.inl member))
      · exact between other member another (List.mem_cons_of_mem _ later) nonzero
  · intro other member
    rcases List.mem_append.mp member with front | back
    · exact UInt64.le_of_lt (small other (.inl front))
    · rcases List.mem_cons.mp back with rfl | later
      · exact UInt64.le_refl _
      · exact UInt64.le_of_lt (small other (.inr later))

/-- A record keeps its number. -/
theorem numbers_replace_same
    (differ : (before ++ user :: rest).Pairwise (NumbersDiffer number))
    (below : ∀ other ∈ before ++ user :: rest, number other ≤ bound)
    (same : number new = number user) :
    (before ++ new :: rest).Pairwise (NumbersDiffer number) ∧
      ∀ other ∈ before ++ new :: rest, number other ≤ bound := by
  obtain ⟨front, back, between⟩ := List.pairwise_append.mp differ
  constructor
  · refine List.pairwise_append.mpr ⟨front, List.pairwise_cons.mpr ⟨?_, ?_⟩, ?_⟩
    · intro other member
      unfold NumbersDiffer
      rw [same]
      exact (List.pairwise_cons.mp back).1 other member
    · exact (List.pairwise_cons.mp back).2
    · intro other member another among nonzero
      rcases List.mem_cons.mp among with rfl | later
      · rw [same]
        exact between other member user List.mem_cons_self nonzero
      · exact between other member another (List.mem_cons_of_mem _ later) nonzero
  · intro other member
    rcases List.mem_append.mp member with front | back
    · exact below other (List.mem_append_left _ front)
    · rcases List.mem_cons.mp back with rfl | later
      · rw [same]
        exact below user (List.mem_append_right _ List.mem_cons_self)
      · exact below other (List.mem_append_right _ (List.mem_cons_of_mem _ later))

theorem canonicalIds_replace
    (same : new.canonicalId = user.canonicalId) :
    (before ++ new :: rest).map UserRecord.canonicalId =
      (before ++ user :: rest).map UserRecord.canonicalId := by
  simp [same]

end Replacing

/-- A counter that is not exhausted has a next value. -/
theorem lt_next
    {counter : UInt64}
    (left : counter ≠ UInt64.ofNat (2 ^ 64 - 1)) :
    counter < counter + 1 := by
  rw [UInt64.lt_iff_toNat_lt, UInt64.toNat_add]
  have below := counter.toNat_lt
  have exact : counter.toNat ≠ 2 ^ 64 - 1 := by
    intro same
    apply left
    rw [← same, UInt64.ofNat_toNat]
  simp
  omega

section UserEdits

variable {current next : CatalogData} {canonicalId : Bytes}

theorem usersSound_setFavorite
    {favorite : Bool}
    (sound : UsersSound current)
    (edited : setFavorite current canonicalId favorite = some next) :
    UsersSound next := by
  unfold setFavorite at edited
  split at edited
  · cases edited
  · next left =>
    obtain ⟨users, upserted, same⟩ := Option.bind_eq_some_iff.mp edited
    obtain rfl := Option.some.inj same
    obtain ⟨before, user, rest, new, split, -, -, made, rfl⟩ := upsertUser_eq_some upserted
    have changed := Option.some.inj made
    have whole := usersSound_withUser sound canonicalId
    simp only [split] at whole
    have id : new.canonicalId = user.canonicalId := by rw [← changed]
    have revision : new.favoriteRevision = current.nextFavoriteRevision + 1 := by
      rw [← changed]
    have sequence : new.lastPlayedSequence = user.lastPlayedSequence := by rw [← changed]
    obtain ⟨revisions, bounded⟩ :=
      numbers_replace_next whole.revisions whole.revisions_le
        (revision ▸ lt_next left)
    obtain ⟨sequences, bounded'⟩ :=
      numbers_replace_same whole.sequences whole.sequences_le sequence
    rw [revision] at bounded
    refine ⟨?_, revisions, bounded, sequences, bounded'⟩
    rw [canonicalIds_replace id]
    exact whole.canonicalIds

theorem usersSound_markPlayed
    (sound : UsersSound current)
    (edited : markPlayed current canonicalId = some next) :
    UsersSound next := by
  unfold markPlayed at edited
  split at edited
  · cases edited
  · next left =>
    obtain ⟨users, upserted, same⟩ := Option.bind_eq_some_iff.mp edited
    obtain rfl := Option.some.inj same
    obtain ⟨before, user, rest, new, split, -, -, made, rfl⟩ := upsertUser_eq_some upserted
    split at made
    · cases made
    · have changed := Option.some.inj made
      have whole := usersSound_withUser sound canonicalId
      simp only [split] at whole
      have id : new.canonicalId = user.canonicalId := by rw [← changed]
      have revision : new.favoriteRevision = user.favoriteRevision := by rw [← changed]
      have sequence : new.lastPlayedSequence = current.nextPlaySequence + 1 := by
        rw [← changed]
      obtain ⟨revisions, bounded⟩ :=
        numbers_replace_same whole.revisions whole.revisions_le revision
      obtain ⟨sequences, bounded'⟩ :=
        numbers_replace_next whole.sequences whole.sequences_le
          (sequence ▸ lt_next left)
      rw [sequence] at bounded'
      refine ⟨?_, revisions, bounded, sequences, bounded'⟩
      rw [canonicalIds_replace id]
      exact whole.canonicalIds

end UserEdits

end FlyNes.App
