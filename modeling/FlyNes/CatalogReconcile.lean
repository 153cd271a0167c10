import FlyNes.CatalogSessions

namespace FlyNes.App

open ByteString

/-!
# What a scan makes of a catalog

The passes over the entries amount to one rule for each path.  What other sources have is
kept.  A fatal scan keeps all that its source had, as stale; any other scan has the fresh
entries of the files it indexed, and keeps as stale what its source had for a path that was
rejected or, if the scan was partial, not offered.
-/

/-- What comes to a commit: files of different paths that have been scanned for its source. -/
structure Scanned (source : SourceKey) (candidates : List CandidateRecord) : Prop where
  distinct : (candidates.map CandidateRecord.sourceRelativePath).Nodup
  scanned : ∀ candidate ∈ candidates, ∃ file, scanCandidate source file = some candidate

/-- The entry, read in a scan that has just been made. -/
def CatalogEntryData.fresh (entry : CatalogEntryData) : CatalogEntryData :=
  { entry with freshness := freshEntry }

/-- The entry, from before a scan. -/
def CatalogEntryData.stale (entry : CatalogEntryData) : CatalogEntryData :=
  { entry with freshness := staleEntry }

/-- A file was offered for the path, and it came out so. -/
def offeredAs
    (candidates : List CandidateRecord)
    (disposition : CandidateDisposition)
    (path : Bytes) : Bool :=
  candidates.any fun candidate =>
    candidate.sourceRelativePath == path && candidate.disposition == disposition

/-- A scan that is not fatal keeps what was there for the path. -/
def keepsPath (completeness : UInt32) (candidates : List CandidateRecord) (path : Bytes) : Bool :=
  offeredAs candidates .rejected path ||
    (completeness == partialCompleteness && !hasCandidatePath candidates path)

def indexedEntries (candidates : List CandidateRecord) : List CatalogEntryData :=
  (candidates.filter fun candidate => candidate.disposition == .indexed).flatMap fun candidate =>
    candidate.entries.map CatalogEntryData.fresh

/-- What the source has after a scan. -/
def scannedEntries
    (entries : List CatalogEntryData)
    (source : SourceKey)
    (completeness : UInt32)
    (candidates : List CandidateRecord) : List CatalogEntryData :=
  let own := entries.filter fun entry => sameSource entry.source source
  if completeness = fatalCompleteness then
    own.map CatalogEntryData.stale
  else
    indexedEntries candidates ++
      (own.filter fun entry =>
        keepsPath completeness candidates entry.sourceRelativePath).map CatalogEntryData.stale

/-- The entries after a scan. -/
def reconciledEntries
    (entries : List CatalogEntryData)
    (source : SourceKey)
    (completeness : UInt32)
    (candidates : List CandidateRecord) : List CatalogEntryData :=
  (entries.filter fun entry => !sameSource entry.source source) ++
    scannedEntries entries source completeness candidates

/-! ### Paths of the files -/

section Paths

variable {source : SourceKey} {candidates : List CandidateRecord} {candidate : CandidateRecord}

/-- What has been found in a file is known by its source and its path. -/
theorem Scanned.found
    (scanned : Scanned source candidates)
    (member : candidate ∈ candidates)
    {entry : CatalogEntryData}
    (among : entry ∈ candidate.entries) :
    entry.source = source ∧ entry.sourceRelativePath = candidate.sourceRelativePath := by
  obtain ⟨file, result⟩ := scanned.scanned candidate member
  unfold scanCandidate at result
  split at result
  · obtain rfl := Option.some.inj result
    cases among
  · obtain rfl := Option.some.inj result
    cases among
  · obtain rfl := Option.some.inj result
    obtain ⟨found, _, rfl⟩ := List.mem_map.mp among
    exact ⟨rfl, rfl⟩
  · cases result

theorem Scanned.tail
    (scanned : Scanned source (candidate :: candidates)) :
    Scanned source candidates where
  distinct := (List.nodup_cons.mp scanned.distinct).2
  scanned := fun later member => scanned.scanned later (List.mem_cons_of_mem candidate member)

/-- A path is offered once. -/
theorem Scanned.same
    (scanned : Scanned source candidates)
    {first second : CandidateRecord}
    (firstMember : first ∈ candidates)
    (secondMember : second ∈ candidates)
    (path : first.sourceRelativePath = second.sourceRelativePath) :
    first = second :=
  List.inj_on_of_nodup_map scanned.distinct firstMember secondMember path

variable {path : Bytes}

theorem offeredAs_iff
    {disposition : CandidateDisposition} :
    offeredAs candidates disposition path = true ↔
      ∃ candidate ∈ candidates,
        candidate.sourceRelativePath = path ∧ candidate.disposition = disposition := by
  simp [offeredAs]

theorem hasCandidatePath_iff :
    hasCandidatePath candidates path = true ↔
      ∃ candidate ∈ candidates, candidate.sourceRelativePath = path := by
  simp [hasCandidatePath]

/-- The first file of a path is its only one. -/
theorem Scanned.candidateIsRejected_eq
    (scanned : Scanned source candidates)
    (path : Bytes) :
    candidateIsRejected candidates path = offeredAs candidates .rejected path := by
  rw [Bool.eq_iff_iff, offeredAs_iff]
  unfold candidateIsRejected
  split
  · next candidate first =>
      have member := List.mem_of_find?_eq_some first
      have here : candidate.sourceRelativePath = path := by
        simpa using List.find?_some first
      rw [beq_iff_eq]
      constructor
      · intro rejected
        exact ⟨candidate, member, here, rejected⟩
      · rintro ⟨other, among, path', rejected⟩
        rw [scanned.same member among (here.trans path'.symm)]
        exact rejected
  · next none =>
      simp only [Bool.false_eq_true, false_iff]
      rintro ⟨candidate, member, here, _⟩
      have absent := List.find?_eq_none.mp none candidate member
      simp [here] at absent

/-- A file that is not rejected takes the place of what was there for its path. -/
def replacesPath (candidates : List CandidateRecord) (path : Bytes) : Bool :=
  candidates.any fun candidate =>
    candidate.sourceRelativePath == path && candidate.disposition != .rejected

theorem replacesPath_iff :
    replacesPath candidates path = true ↔
      ∃ candidate ∈ candidates,
        candidate.sourceRelativePath = path ∧ candidate.disposition ≠ .rejected := by
  simp [replacesPath]

/-- What is marked at first and not replaced afterwards is what the scan keeps. -/
theorem Scanned.keepsPath_eq
    (scanned : Scanned source candidates)
    (completeness : UInt32)
    (path : Bytes) :
    keepsPath completeness candidates path =
      ((completeness == partialCompleteness || candidateIsRejected candidates path) &&
        !replacesPath candidates path) := by
  unfold keepsPath
  rw [scanned.candidateIsRejected_eq]
  have offered :
      hasCandidatePath candidates path =
        (offeredAs candidates .rejected path || replacesPath candidates path) := by
    rw [Bool.eq_iff_iff, Bool.or_eq_true, hasCandidatePath_iff, offeredAs_iff, replacesPath_iff]
    grind
  have once :
      offeredAs candidates .rejected path = true →
        replacesPath candidates path = false := by
    intro rejected
    rw [Bool.eq_false_iff, ne_eq, replacesPath_iff]
    rintro ⟨other, among, here, read⟩
    obtain ⟨candidate, member, there, refused⟩ := offeredAs_iff.mp rejected
    rw [scanned.same among member (here.trans there.symm)] at read
    exact read refused
  rw [offered]
  cases rejected : offeredAs candidates .rejected path
  · simp
  · simp [once rejected]

end Paths

/-! ### The passes -/

/-- Values of two kinds: the others are kept, and some of a kind are kept changed. -/
theorem perm_filterMap
    {Value : Type}
    (kind keeps : Value → Bool)
    (change : Value → Value)
    (values : List Value) :
    (values.filterMap fun value =>
        if !kind value then some value
        else if keeps value then some (change value)
        else none).Perm
      ((values.filter fun value => !kind value) ++
        ((values.filter kind).filter keeps).map change) := by
  induction values with
  | nil => exact List.Perm.refl []
  | cons value rest inductionHypothesis =>
      cases kinds : kind value with
      | false =>
          simp only [List.filterMap_cons, List.filter_cons, kinds, Bool.not_false, if_true,
            List.cons_append, Bool.false_eq_true, if_false]
          exact inductionHypothesis.cons value
      | true =>
          cases kept : keeps value with
          | false =>
              simpa only [List.filterMap_cons, List.filter_cons, kinds, kept, Bool.not_true,
                Bool.false_eq_true, if_false, if_true] using inductionHypothesis
          | true =>
              simp only [List.filterMap_cons, List.filter_cons, kinds, kept, Bool.not_true,
                Bool.false_eq_true, if_false, if_true, List.map_cons]
              exact (inductionHypothesis.cons (change value)).trans List.perm_middle.symm

section Passes

variable {source : SourceKey} {candidates : List CandidateRecord}

theorem mergeCandidate_eq
    (entries : List CatalogEntryData)
    (candidate : CandidateRecord) :
    mergeCandidate source entries candidate =
      (entries.filter fun entry =>
        !(sameSource entry.source source &&
          replacesPath [candidate] entry.sourceRelativePath)) ++ indexedEntries [candidate] := by
  have path (entry : CatalogEntryData) :
      (candidate.sourceRelativePath == entry.sourceRelativePath) =
        (entry.sourceRelativePath == candidate.sourceRelativePath) :=
    Bool.beq_comm
  unfold mergeCandidate indexedEntries replacesPath eraseSourcePath
  cases disposition : candidate.disposition with
  | rejected => simp [disposition]
  | skipped =>
      have read : (CandidateDisposition.skipped != .rejected) = true := rfl
      simp [disposition, path, read]
  | indexed =>
      have read : (CandidateDisposition.indexed != .rejected) = true := rfl
      simp only [List.any_cons, List.any_nil, disposition, path, read, Bool.and_true,
        Bool.or_false, List.filter_cons, beq_self_eq_true, if_true, List.filter_nil,
        List.flatMap_cons, List.flatMap_nil, List.append_nil]
      rfl

/-- The files that are read one after the other, all at once. -/
theorem Scanned.foldl_mergeCandidate
    (scanned : Scanned source candidates)
    (entries : List CatalogEntryData) :
    candidates.foldl (mergeCandidate source) entries =
      (entries.filter fun entry =>
        !(sameSource entry.source source &&
          replacesPath candidates entry.sourceRelativePath)) ++ indexedEntries candidates := by
  induction candidates generalizing entries with
  | nil => simp [replacesPath, indexedEntries]
  | cons candidate rest inductionHypothesis =>
      have untouched :
          (indexedEntries [candidate]).filter (fun entry =>
              !(sameSource entry.source source &&
                replacesPath rest entry.sourceRelativePath)) =
            indexedEntries [candidate] := by
        rw [List.filter_eq_self]
        intro entry member
        obtain ⟨one, single, among⟩ := List.mem_flatMap.mp member
        obtain rfl := List.mem_singleton.mp (List.mem_of_mem_filter single)
        obtain ⟨found, here, rfl⟩ := List.mem_map.mp among
        have path := (scanned.found List.mem_cons_self here).2
        have fresh : found.fresh.sourceRelativePath = one.sourceRelativePath := path
        have absent : replacesPath rest one.sourceRelativePath = false := by
          rw [Bool.eq_false_iff, ne_eq, replacesPath_iff]
          rintro ⟨other, later, same, _⟩
          have distinct := scanned.distinct
          rw [List.map_cons, List.nodup_cons] at distinct
          exact distinct.1 (same ▸ List.mem_map_of_mem later)
        rw [fresh, absent, Bool.and_false, Bool.not_false]
      have together (path : Bytes) :
          replacesPath (candidate :: rest) path =
            (replacesPath [candidate] path || replacesPath rest path) := by
        simp [replacesPath]
      have indexed :
          indexedEntries (candidate :: rest) =
            indexedEntries [candidate] ++ indexedEntries rest := by
        unfold indexedEntries
        rw [← List.flatMap_append, ← List.filter_append, List.singleton_append]
      rw [List.foldl_cons, mergeCandidate_eq, inductionHypothesis scanned.tail,
        List.filter_append, untouched, List.filter_filter, indexed, List.append_assoc]
      congr 1
      apply List.filter_congr
      intro entry _
      rw [together]
      cases sameSource entry.source source <;> simp [Bool.and_comm]

/-- What becomes of an entry in the end that was there before. -/
theorem Scanned.kept_unless_replaced
    (scanned : Scanned source candidates)
    {completeness : UInt32}
    (notFatal : completeness ≠ fatalCompleteness)
    (entry : CatalogEntryData) :
    (keepEntry source completeness candidates entry).filter (fun kept =>
        !(sameSource kept.source source &&
          replacesPath candidates kept.sourceRelativePath)) =
      if !sameSource entry.source source then some entry
      else if keepsPath completeness candidates entry.sourceRelativePath then some entry.stale
      else none := by
  unfold keepEntry
  rw [scanned.keepsPath_eq]
  cases own : sameSource entry.source source with
  | false => simp [own]
  | true =>
      by_cases marked :
          completeness = partialCompleteness ∨
            candidateIsRejected candidates entry.sourceRelativePath = true
      · have marked' :
            (completeness == partialCompleteness ||
              candidateIsRejected candidates entry.sourceRelativePath) = true := by
          simpa using marked
        have kept :
            completeness = partialCompleteness ∨ completeness = fatalCompleteness ∨
              candidateIsRejected candidates entry.sourceRelativePath = true :=
          marked.imp_right Or.inr
        rw [if_neg (by simp), if_pos kept, marked', Bool.true_and, if_neg (by simp)]
        cases replaced : replacesPath candidates entry.sourceRelativePath <;>
          simp [own, replaced, CatalogEntryData.stale]
      · have marked' :
            (completeness == partialCompleteness ||
              candidateIsRejected candidates entry.sourceRelativePath) = false := by
          simpa using marked
        have dropped :
            ¬(completeness = partialCompleteness ∨ completeness = fatalCompleteness ∨
              candidateIsRejected candidates entry.sourceRelativePath = true) := by
          simpa [notFatal] using marked
        rw [if_neg (by simp), if_neg dropped, marked', Bool.false_and, if_neg (by simp)]
        simp

/-- The passes come to the rule for each path. -/
theorem Scanned.perm_mergeEntries
    (scanned : Scanned source candidates)
    (entries : List CatalogEntryData)
    (completeness : UInt32) :
    (mergeEntries entries source completeness candidates).Perm
      (reconciledEntries entries source completeness candidates) := by
  unfold mergeEntries reconciledEntries scannedEntries
  dsimp only
  by_cases fatal : completeness = fatalCompleteness
  · rw [if_pos fatal, if_pos fatal]
    have kept (entry : CatalogEntryData) :
        keepEntry source completeness candidates entry =
          if !sameSource entry.source source then some entry
          else if (fun _ => true) entry then some entry.stale
          else none := by
      simp [keepEntry, fatal, CatalogEntryData.stale]
    have split := perm_filterMap (fun entry : CatalogEntryData => sameSource entry.source source)
      (fun _ => true) CatalogEntryData.stale entries
    rw [List.filter_true] at split
    rw [funext kept]
    exact split
  · rw [if_neg fatal, if_neg fatal, scanned.foldl_mergeCandidate, List.filter_filterMap]
    have kept := funext (scanned.kept_unless_replaced fatal)
    rw [kept]
    have split := perm_filterMap (fun entry : CatalogEntryData => sameSource entry.source source)
      (fun entry => keepsPath completeness candidates entry.sourceRelativePath)
      CatalogEntryData.stale entries
    refine (split.append_right (indexedEntries candidates)).trans ?_
    rw [List.append_assoc]
    exact List.perm_append_comm.append_left _

end Passes

/-! ### The same scan once more -/

section Again

variable
  {source : SourceKey}
  {candidates : List CandidateRecord}
  {completeness : UInt32}
  {entries : List CatalogEntryData}

@[simp] theorem CatalogEntryData.sourceRelativePath_stale (entry : CatalogEntryData) :
    entry.stale.sourceRelativePath = entry.sourceRelativePath :=
  rfl

@[simp] theorem CatalogEntryData.stale_stale (entry : CatalogEntryData) :
    entry.stale.stale = entry.stale :=
  rfl

variable {entry : CatalogEntryData}

theorem Scanned.mem_indexedEntries
    (scanned : Scanned source candidates)
    (member : entry ∈ indexedEntries candidates) :
    entry.source = source ∧
      ∃ candidate ∈ candidates,
        candidate.disposition = .indexed ∧
          entry.sourceRelativePath = candidate.sourceRelativePath ∧
          ∃ found ∈ candidate.entries, entry = found.fresh := by
  obtain ⟨candidate, among, inside⟩ := List.mem_flatMap.mp member
  obtain ⟨here, indexed⟩ := List.mem_filter.mp among
  obtain ⟨found, foundMember, rfl⟩ := List.mem_map.mp inside
  obtain ⟨from_, path⟩ := scanned.found here foundMember
  exact ⟨from_, candidate, here, by simpa using indexed, path, found, foundMember, rfl⟩

/-- An indexed path is not kept from before. -/
theorem Scanned.not_keepsPath
    (scanned : Scanned source candidates)
    (completeness : UInt32)
    {candidate : CandidateRecord}
    (member : candidate ∈ candidates)
    (read : candidate.disposition ≠ .rejected) :
    keepsPath completeness candidates candidate.sourceRelativePath = false := by
  have replaced : replacesPath candidates candidate.sourceRelativePath = true :=
    replacesPath_iff.mpr ⟨candidate, member, rfl, read⟩
  rw [scanned.keepsPath_eq, replaced, Bool.not_true, Bool.and_false]

/-- All that a source has after a scan says that it is from there. -/
theorem Scanned.source_scannedEntries
    (scanned : Scanned source candidates)
    (member : entry ∈ scannedEntries entries source completeness candidates) :
    sameSource entry.source source = true := by
  unfold scannedEntries at member
  dsimp only at member
  split at member
  · obtain ⟨old, own, rfl⟩ := List.mem_map.mp member
    exact (List.mem_filter.mp own).2
  · rcases List.mem_append.mp member with new | kept
    · exact sameSource_iff.mpr (scanned.mem_indexedEntries new).1
    · obtain ⟨old, own, rfl⟩ := List.mem_map.mp kept
      exact (List.mem_filter.mp (List.mem_of_mem_filter own)).2

/-- What other sources have does not matter to a source. -/
theorem scannedEntries_congr
    {others : List CatalogEntryData}
    (same :
      entries.filter (fun entry => sameSource entry.source source) =
        others.filter fun entry => sameSource entry.source source) :
    scannedEntries entries source completeness candidates =
      scannedEntries others source completeness candidates := by
  unfold scannedEntries
  rw [same]

/-- The entries of a catalog that has nothing else. -/
theorem scannedEntries_of_own
    (own : entries.filter (fun entry => sameSource entry.source source) = entries) :
    scannedEntries entries source completeness candidates =
      if completeness = fatalCompleteness then
        entries.map CatalogEntryData.stale
      else
        indexedEntries candidates ++
          (entries.filter fun entry =>
            keepsPath completeness candidates entry.sourceRelativePath).map
              CatalogEntryData.stale := by
  unfold scannedEntries
  rw [own]

/-- What the source has is the same if it is scanned again. -/
theorem Scanned.scannedEntries_scannedEntries
    (scanned : Scanned source candidates) :
    scannedEntries (scannedEntries entries source completeness candidates)
        source completeness candidates =
      scannedEntries entries source completeness candidates := by
  have own :
      (scannedEntries entries source completeness candidates).filter
          (fun entry => sameSource entry.source source) =
        scannedEntries entries source completeness candidates := by
    rw [List.filter_eq_self]
    exact fun entry member => scanned.source_scannedEntries member
  rw [scannedEntries_of_own own]
  unfold scannedEntries
  dsimp only
  by_cases fatal : completeness = fatalCompleteness
  · rw [if_pos fatal, if_pos fatal, List.map_map]
    exact List.map_congr_left fun entry _ => entry.stale_stale
  · rw [if_neg fatal, if_neg fatal, List.filter_append, List.map_append]
    have replaced :
        (indexedEntries candidates).filter (fun entry =>
          keepsPath completeness candidates entry.sourceRelativePath) = [] := by
      rw [List.filter_eq_nil_iff]
      intro entry member
      obtain ⟨_, candidate, here, indexed, path, _⟩ := scanned.mem_indexedEntries member
      have read : candidate.disposition ≠ .rejected := by
        rw [indexed]
        decide
      rw [path, scanned.not_keepsPath completeness here read]
      exact Bool.false_ne_true
    rw [replaced, List.map_nil, List.nil_append]
    congr 1
    rw [List.filter_eq_self.mpr, List.map_map]
    · exact List.map_congr_left fun entry _ => entry.stale_stale
    · intro entry member
      obtain ⟨old, kept, rfl⟩ := List.mem_map.mp member
      exact (List.mem_filter.mp kept).2

/-- The rule for each path applies to what it has made of a catalog as it did before. -/
theorem Scanned.reconciledEntries_reconciledEntries
    (scanned : Scanned source candidates) :
    reconciledEntries (reconciledEntries entries source completeness candidates)
        source completeness candidates =
      reconciledEntries entries source completeness candidates := by
  have others :
      (reconciledEntries entries source completeness candidates).filter
          (fun entry => !sameSource entry.source source) =
        entries.filter fun entry => !sameSource entry.source source := by
    unfold reconciledEntries
    rw [List.filter_append, List.filter_filter]
    have none :
        (scannedEntries entries source completeness candidates).filter
          (fun entry => !sameSource entry.source source) = [] := by
      rw [List.filter_eq_nil_iff]
      intro entry member
      simp [scanned.source_scannedEntries member]
    rw [none, List.append_nil]
    simp
  have own :
      (reconciledEntries entries source completeness candidates).filter
          (fun entry => sameSource entry.source source) =
        (scannedEntries entries source completeness candidates).filter
          fun entry => sameSource entry.source source := by
    unfold reconciledEntries
    rw [List.filter_append, List.filter_filter]
    have none :
        entries.filter (fun entry =>
          sameSource entry.source source && !sameSource entry.source source) = [] := by
      simp
    rw [none, List.nil_append]
  calc
    reconciledEntries (reconciledEntries entries source completeness candidates)
        source completeness candidates
        = (reconciledEntries entries source completeness candidates).filter
              (fun entry => !sameSource entry.source source) ++
            scannedEntries (reconciledEntries entries source completeness candidates)
              source completeness candidates := rfl
    _ = entries.filter (fun entry => !sameSource entry.source source) ++
          scannedEntries entries source completeness candidates := by
        rw [others, scannedEntries_congr own, scanned.scannedEntries_scannedEntries]

end Again

/-- The rule for each path does not depend on the order of the entries. -/
theorem perm_reconciledEntries
    {entries others : List CatalogEntryData}
    (same : entries.Perm others)
    (source : SourceKey)
    (completeness : UInt32)
    (candidates : List CandidateRecord) :
    (reconciledEntries entries source completeness candidates).Perm
      (reconciledEntries others source completeness candidates) := by
  unfold reconciledEntries scannedEntries
  dsimp only
  refine (same.filter _).append ?_
  split
  · exact (same.filter _).map _
  · exact (((same.filter _).filter _).map _).append_left _

theorem upsertSource_upsertSource
    (source : SourceKey)
    (completeness : UInt32)
    (sources : List SourceRecord) :
    upsertSource source completeness (upsertSource source completeness sources) =
      upsertSource source completeness sources := by
  induction sources with
  | nil => simp [upsertSource]
  | cons existing rest inductionHypothesis =>
      by_cases same : existing.key.uuid = source.uuid
      · simp [upsertSource, same]
      · simp [upsertSource, same, inductionHypothesis]

/-! ### Scans of a session -/

namespace Session

variable {sorting : EntrySorting} {session : Session}

/-- What comes to a commit of any open scan has been scanned. -/
def ScansScanned (session : Session) : Prop :=
  ∀ scan, some scan ∈ session.scans → Scanned scan.source scan.candidates

theorem ScansScanned.setScan
    (scans : session.ScansScanned)
    (handle : Nat)
    {replaced : Option Scan}
    (fits : ∀ scan, replaced = some scan → Scanned scan.source scan.candidates) :
    (session.setScan handle replaced).ScansScanned := by
  intro scan member
  rcases List.mem_or_eq_of_mem_set member with old | new
  · exact scans scan old
  · exact fits scan new.symm

/-- A file is added to a scan unless its path has been offered before. -/
theorem ScansScanned.scanAddFile
    (scans : session.ScansScanned)
    (handle : Nat)
    (file : ScanFile) :
    (session.scanAddFile handle file).2.ScansScanned := by
  unfold Session.scanAddFile
  split
  · exact scans
  · next scan found =>
    have before := scans scan (mem_of_scan? found)
    split
    · exact scans
    · split
      · exact scans
      · split
        · exact scans
        · next offered =>
          split
          · refine scans.setScan handle fun other same => ?_
            obtain rfl := Option.some.inj same
            exact before
          · next candidate result =>
            refine scans.setScan handle fun other same => ?_
            obtain rfl := Option.some.inj same
            have path : candidate.sourceRelativePath = file.sourceRelativePath := by
              unfold scanCandidate at result
              split at result
              · rw [← Option.some.inj result]
              · rw [← Option.some.inj result]
              · rw [← Option.some.inj result]
              · cases result
            constructor
            · rw [List.map_append, List.map_singleton, path]
              refine List.nodup_append.mpr ⟨before.distinct, by simp, ?_⟩
              rintro _ old _ new rfl
              obtain ⟨other, member, same⟩ := List.mem_map.mp old
              rw [List.mem_singleton.mp new] at same
              exact offered (hasCandidatePath_iff.mpr ⟨other, member, same⟩)
            · intro other member
              rcases List.mem_append.mp member with old | new
              · exact before.scanned other old
              · rw [List.mem_singleton.mp new]
                exact ⟨file, result⟩

theorem ScansScanned.perform
    (scans : session.ScansScanned)
    (call : Call) :
    (session.perform sorting call).2.ScansScanned := by
  have effect := effect_perform sorting session call
  cases call with
  | scanAddFile handle file => exact scans.scanAddFile handle file
  | scanBegin source =>
      generalize (session.perform sorting (.scanBegin source)).1 = result at effect
      generalize (session.perform sorting (.scanBegin source)).2 = later at effect ⊢
      cases effect with
      | refused _ failed => exact scans
      | begun source clear =>
          intro scan member
          rcases List.mem_append.mp member with old | new
          · exact scans scan old
          · obtain rfl := Option.some.inj (List.mem_singleton.mp new)
            exact ⟨by simp, by simp⟩
  | scanCommit handle finalCompleteness saved =>
      generalize
        (session.perform sorting (.scanCommit handle finalCompleteness saved)).1 = result
        at effect
      generalize
        (session.perform sorting (.scanCommit handle finalCompleteness saved)).2 = later
        at effect ⊢
      cases effect with
      | refused _ failed => exact scans
      | finished _ _ found failed =>
          have before := scans _ (mem_of_scan? found)
          refine scans.setScan handle fun other same => ?_
          obtain rfl := Option.some.inj same
          exact before
      | committed found current reconciled =>
          have before := scans _ (mem_of_scan? found)
          refine @ScansScanned.setScan session scans handle _ fun other same => ?_
          obtain rfl := Option.some.inj same
          exact before
  | scanAbort handle => exact scans.setScan handle nofun
  | favoriteSet canonicalId favorite saved =>
      generalize (session.perform sorting (.favoriteSet canonicalId favorite saved)).1 = result
        at effect
      generalize (session.perform sorting (.favoriteSet canonicalId favorite saved)).2 = later
        at effect ⊢
      cases effect <;> exact scans
  | markPlayed canonicalId saved =>
      generalize (session.perform sorting (.markPlayed canonicalId saved)).1 = result at effect
      generalize (session.perform sorting (.markPlayed canonicalId saved)).2 = later at effect ⊢
      cases effect <;> exact scans
  | sourceRemove target saved =>
      generalize (session.perform sorting (.sourceRemove target saved)).1 = result at effect
      generalize (session.perform sorting (.sourceRemove target saved)).2 = later at effect ⊢
      cases effect <;> exact scans

theorem scansScanned_after
    (scans : session.ScansScanned)
    (calls : List Call) :
    (session.after sorting calls).ScansScanned := by
  induction calls generalizing session with
  | nil => exact scans
  | cons call rest inductionHypothesis => exact inductionHypothesis (scans.perform call)

end Session

/--
After a scan the entries are, in some order, those of the other sources and what the rule for
each path gives; nothing of a path that was indexed or skipped is left from before; and the
same scan once more changes the generation only.  The order of the entries is that of the
sort, which is free where two entries are the same in all of its keys.  The scans of a session
have files of different paths.
-/
theorem scan_reconciles :
    (∀ (sorting : EntrySorting) (calls : List Call) (scan : Scan),
      some scan ∈ (Session.after sorting {} calls).scans →
        Scanned scan.source scan.candidates) ∧
    ∀ (sorting : EntrySorting) (current next : CatalogData) (source : SourceKey)
        (completeness : UInt32) (candidates : List CandidateRecord),
      Scanned source candidates →
      reconcileCatalog sorting current source completeness candidates = some next →
        next.entries.Perm
            (reconciledEntries current.entries source completeness candidates) ∧
        (completeness ≠ fatalCompleteness →
          ∀ candidate ∈ candidates, candidate.disposition ≠ .rejected →
            ∀ entry ∈ next.entries,
              entry.source = source →
              entry.sourceRelativePath = candidate.sourceRelativePath →
                candidate.disposition = .indexed ∧
                  ∃ found ∈ candidate.entries, entry = found.fresh) ∧
        ∀ (sorting' : EntrySorting) (again : CatalogData),
          reconcileCatalog sorting' next source completeness candidates = some again →
            again.entries.Perm next.entries ∧
            { again with generation := next.generation, entries := next.entries } = next ∧
            ((∀ first ∈ next.entries, ∀ second ∈ next.entries,
                entryOrder first second = false → entryOrder second first = false →
                  first = second) →
              { again with generation := next.generation } = next) := by
  have empty : Session.ScansScanned {} := nofun
  refine ⟨fun sorting calls scan member =>
    Session.scansScanned_after empty calls scan member, ?_⟩
  intro sorting current next source completeness candidates scanned reconciled
  unfold reconcileCatalog at reconciled
  split at reconciled
  · cases reconciled
  obtain rfl := Option.some.inj reconciled
  have merged :
      (sorting.sort (mergeEntries current.entries source completeness candidates)).Perm
        (reconciledEntries current.entries source completeness candidates) :=
    (sorting.perm _).trans (scanned.perm_mergeEntries current.entries completeness)
  refine ⟨merged, ?_, ?_⟩
  · intro notFatal candidate member read entry among from_ path
    have placed := merged.mem_iff.mp among
    unfold reconciledEntries scannedEntries at placed
    dsimp only at placed
    rw [if_neg notFatal] at placed
    rcases List.mem_append.mp placed with other | own
    · have own := sameSource_iff.mpr from_
      rw [List.mem_filter, own] at other
      exact absurd other.2 Bool.false_ne_true
    · rcases List.mem_append.mp own with indexed | kept
      · obtain ⟨_, other, here, read', path', found, inside, fresh⟩ :=
          scanned.mem_indexedEntries indexed
        obtain rfl := scanned.same member here (path.symm.trans path')
        exact ⟨read', found, inside, fresh⟩
      · obtain ⟨old, keeps, rfl⟩ := List.mem_map.mp kept
        rw [List.mem_filter] at keeps
        have dropped := scanned.not_keepsPath completeness member read
        rw [← path, CatalogEntryData.sourceRelativePath_stale, keeps.2] at dropped
        cases dropped
  · intro sorting' again repeated
    unfold reconcileCatalog at repeated
    split at repeated
    · cases repeated
    obtain rfl := Option.some.inj repeated
    have same :
        (sorting'.sort (mergeEntries
            (sorting.sort (mergeEntries current.entries source completeness candidates))
            source completeness candidates)).Perm
          (sorting.sort (mergeEntries current.entries source completeness candidates)) := by
      refine ((sorting'.perm _).trans (scanned.perm_mergeEntries _ completeness)).trans ?_
      refine (perm_reconciledEntries merged source completeness candidates).trans ?_
      rw [scanned.reconciledEntries_reconciledEntries]
      exact merged.symm
    refine ⟨same, ?_, ?_⟩
    · simp only [upsertSource_upsertSource]
    · intro untied
      have ordered := List.Perm.eq_of_pairwise
        (fun first second inFirst inSecond forth back =>
          untied first (same.mem_iff.mp inFirst) second inSecond back forth)
        (sorting'.sorted _) (sorting.sorted _) same
      simp only [upsertSource_upsertSource, ordered]

/-! A card with three files, of which one has a game, one has none and one fails. -/

def cardSource : SourceKey where
  uuid := Block.copy 16 [1]
  scope := 2

def cardEntry (path : UInt8) : CatalogEntryData where
  source := cardSource
  sourceRelativePath := [path]

def cardCandidates : List CandidateRecord :=
  [({ sourceRelativePath := [97], displayName := [], contents := .indexed [{ mapper := 4 }] } :
      ScanFile),
    { sourceRelativePath := [98], displayName := [], contents := .skipped },
    { sourceRelativePath := [99], displayName := [],
      contents := .rejected ioErrorReason }].filterMap (scanCandidate cardSource)

/-- What was there for the files, for a path that is gone, and in another source. -/
def cardCatalog : CatalogData where
  entries :=
    [cardEntry 97, cardEntry 98, cardEntry 99, cardEntry 100, { sourceRelativePath := [98] }]

/-- The game is found anew, the file that fails is stale, and the other source stays. -/
theorem sample_reconciles :
    ∃ next,
      reconcileCatalog stableSorting cardCatalog cardSource fullCompleteness cardCandidates =
          some next ∧
        next.entries.Perm
          [{ sourceRelativePath := [98] }, { cardEntry 97 with mapper := 4 }.fresh,
            (cardEntry 99).stale] ∧
        ∀ again,
          reconcileCatalog stableSorting next cardSource fullCompleteness cardCandidates =
              some again →
            again.entries.Perm next.entries := by
  have scanned : Scanned cardSource cardCandidates := by
    refine ⟨by decide, fun candidate member => ?_⟩
    obtain ⟨file, -, found⟩ := List.mem_filterMap.mp member
    exact ⟨file, found⟩
  have rule :
      reconciledEntries cardCatalog.entries cardSource fullCompleteness cardCandidates =
        [{ sourceRelativePath := [98] }, { cardEntry 97 with mapper := 4 }.fresh,
          (cardEntry 99).stale] := by
    decide
  have reconciled := (@Option.some_get _ (reconcileCatalog stableSorting cardCatalog cardSource
    fullCompleteness cardCandidates) rfl).symm
  obtain ⟨placed, -, again⟩ := scan_reconciles.2 stableSorting _ _ _ _ _ scanned reconciled
  rw [rule] at placed
  exact ⟨_, reconciled, placed, fun _ repeated => (again stableSorting _ repeated).1⟩

end FlyNes.App
