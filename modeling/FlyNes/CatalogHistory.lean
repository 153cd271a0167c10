import FlyNes.CatalogSessions

namespace FlyNes.App

open ByteString

/-!
# What calls come to

The generation counts the commits and removals, and the record of a game says what its
user has done with it.  So nothing that has succeeded is lost to what comes later.
-/

/-- A commit or a removal that has succeeded. -/
def publishes : Call × FlyResult → Bool
  | (.scanCommit _ _ _, .ok) => true
  | (.sourceRemove _ _, .ok) => true
  | _ => false

/-- What a game has been set to. -/
def setsFavorite (canonicalId : Bytes) : Call × FlyResult → Option UInt32
  | (.favoriteSet id favorite _, .ok) => if id = canonicalId then some favorite else none
  | _ => none

/-- A game has been marked. -/
def marksPlayed (canonicalId : Bytes) : Call × FlyResult → Bool
  | (.markPlayed id _, .ok) => id = canonicalId
  | _ => false

/-- Calls that change the entries of a source. -/
def Call.concernsSource : Call → Bool
  | .scanCommit _ _ _ => true
  | .sourceRemove _ _ => true
  | _ => false

structure UserState where
  favorite : UInt32 := 0
  playCount : UInt32 := 0
  favoriteRevision : UInt64 := 0
  lastPlayedSequence : UInt64 := 0
deriving DecidableEq

/-- A game without a record reads as zeros. -/
def stateOf : Option UserRecord → UserState
  | none => {}
  | some user => {
      favorite := if user.favorite then 1 else 0
      playCount := user.playCount
      favoriteRevision := user.favoriteRevision
      lastPlayedSequence := user.lastPlayedSequence }

def userStateGet (catalog : CatalogData) (canonicalId : Bytes) : UserState :=
  stateOf (findUser catalog canonicalId)

/-! ### The record of a game -/

section Lookup

variable {canonicalId : Bytes} {before rest : List UserRecord} {user new : UserRecord}

/-- The record of a game among records. -/
def lookup (users : List UserRecord) (canonicalId : Bytes) : Option UserRecord :=
  users.find? fun user => user.canonicalId == canonicalId

theorem lookup_append (users users' : List UserRecord) (canonicalId : Bytes) :
    lookup (users ++ users') canonicalId =
      (lookup users canonicalId).or (lookup users' canonicalId) :=
  List.find?_append

theorem lookup_cons_self
    (found : user.canonicalId = canonicalId) :
    lookup (user :: rest) canonicalId = some user :=
  List.find?_cons_of_pos (by simpa using found)

theorem lookup_cons_of_ne
    (other : user.canonicalId ≠ canonicalId) :
    lookup (user :: rest) canonicalId = lookup rest canonicalId :=
  List.find?_cons_of_neg (by simpa using other)

theorem lookup_here
    (differ : ∀ other ∈ before, other.canonicalId ≠ canonicalId)
    (found : user.canonicalId = canonicalId) :
    lookup (before ++ user :: rest) canonicalId = some user := by
  have absent : lookup before canonicalId = none := by
    simpa [lookup] using differ
  rw [lookup_append, absent, lookup_cons_self found]
  rfl

theorem lookup_elsewhere
    {other : Bytes}
    (first : user.canonicalId ≠ other)
    (second : new.canonicalId ≠ other) :
    lookup (before ++ new :: rest) other = lookup (before ++ user :: rest) other := by
  rw [lookup_append, lookup_append, lookup_cons_of_ne first, lookup_cons_of_ne second]

/-- A new record reads as none. -/
theorem stateOf_lookup_withUser (users : List UserRecord) (other : Bytes) :
    stateOf (lookup (withUser canonicalId users) other) = stateOf (lookup users other) := by
  unfold withUser
  split
  · rfl
  · rw [lookup_append]
    cases found : lookup users other with
    | some user => rfl
    | none =>
        by_cases same : canonicalId = other
        · rw [lookup_cons_self same]
          rfl
        · rw [lookup_cons_of_ne same]
          rfl

/-- Only the state of one game is edited. -/
theorem stateOf_upsertUser
    {edit : UserRecord → Option UserRecord}
    {users edited : List UserRecord}
    (keeps : ∀ user new, edit user = some new → new.canonicalId = user.canonicalId)
    (upserted : upsertUser canonicalId edit users = some edited) :
    (∃ user new, edit user = some new ∧
      stateOf (lookup users canonicalId) = stateOf (some user) ∧
        lookup edited canonicalId = some new) ∧
      ∀ other, other ≠ canonicalId →
        stateOf (lookup edited other) = stateOf (lookup users other) := by
  obtain ⟨before, user, rest, new, split, differ, found, made, rfl⟩ :=
    upsertUser_eq_some upserted
  have found' : new.canonicalId = canonicalId := (keeps user new made).trans found
  constructor
  · refine ⟨user, new, made, ?_, lookup_here differ found'⟩
    rw [← @stateOf_lookup_withUser canonicalId users canonicalId, split,
      lookup_here differ found]
  · intro other different
    rw [← @stateOf_lookup_withUser canonicalId users other, split]
    rw [lookup_elsewhere (found ▸ different.symm) (found' ▸ different.symm)]

end Lookup

section Edits

variable {current next : CatalogData} {canonicalId : Bytes}

theorem userStateGet_setFavorite
    {favorite : Bool}
    (edited : setFavorite current canonicalId favorite = some next) :
    userStateGet next canonicalId =
        { userStateGet current canonicalId with
          favorite := if favorite then 1 else 0
          favoriteRevision := current.nextFavoriteRevision + 1 } ∧
      ∀ other, other ≠ canonicalId → userStateGet next other = userStateGet current other := by
  unfold setFavorite at edited
  split at edited
  · cases edited
  · obtain ⟨users, upserted, same⟩ := Option.bind_eq_some_iff.mp edited
    obtain rfl := Option.some.inj same
    obtain ⟨⟨user, new, made, old, found⟩, others⟩ := stateOf_upsertUser
      (fun user new made => by rw [← Option.some.inj made]) upserted
    refine ⟨?_, others⟩
    change stateOf (lookup users canonicalId) =
      { stateOf (lookup current.users canonicalId) with
        favorite := if favorite then 1 else 0
        favoriteRevision := current.nextFavoriteRevision + 1 }
    rw [old, found, ← Option.some.inj made]
    rfl

theorem userStateGet_markPlayed
    (edited : markPlayed current canonicalId = some next) :
    (userStateGet next canonicalId).favorite = (userStateGet current canonicalId).favorite ∧
      (userStateGet next canonicalId).playCount.toNat =
        (userStateGet current canonicalId).playCount.toNat + 1 ∧
      ∀ other, other ≠ canonicalId → userStateGet next other = userStateGet current other := by
  unfold markPlayed at edited
  split at edited
  · cases edited
  · obtain ⟨users, upserted, same⟩ := Option.bind_eq_some_iff.mp edited
    obtain rfl := Option.some.inj same
    obtain ⟨⟨user, new, made, old, found⟩, others⟩ := stateOf_upsertUser
      (fun user new made => by
        split at made
        · cases made
        · rw [← Option.some.inj made]) upserted
    split at made
    · cases made
    · next few =>
      change (stateOf (lookup users canonicalId)).favorite =
          (stateOf (lookup current.users canonicalId)).favorite ∧
        (stateOf (lookup users canonicalId)).playCount.toNat =
          (stateOf (lookup current.users canonicalId)).playCount.toNat + 1 ∧ _
      rw [old, found, ← Option.some.inj made]
      refine ⟨rfl, ?_, others⟩
      change (user.playCount + 1).toNat = user.playCount.toNat + 1
      rw [UInt32.toNat_add]
      have below := user.playCount.toNat_lt
      have last : user.playCount.toNat ≠ 2 ^ 32 - 1 := by
        intro same
        apply few
        rw [← same, UInt32.ofNat_toNat]
      simp
      omega

end Edits

namespace Session

variable {sorting : EntrySorting} {session later : Session} {call : Call} {result : FlyResult}

/-! ### What one effect counts for -/

theorem publishes_of_failed
    (failed : result ≠ .ok) :
    publishes (call, result) = false := by
  cases call <;> cases result <;> first | rfl | exact absurd rfl failed

variable {canonicalId : Bytes}

theorem setsFavorite_of_failed
    (failed : result ≠ .ok) :
    setsFavorite canonicalId (call, result) = none := by
  cases call <;> cases result <;> first | rfl | exact absurd rfl failed

theorem marksPlayed_of_failed
    (failed : result ≠ .ok) :
    marksPlayed canonicalId (call, result) = false := by
  cases call <;> cases result <;> first | rfl | exact absurd rfl failed

/-- A generation is a commit or a removal. -/
theorem Effect.generation
    (effect : Effect sorting session call result later) :
    later.catalog.generation.toNat =
      session.catalog.generation.toNat + if publishes (call, result) then 1 else 0 := by
  cases effect with
  | refused call failed => rw [publishes_of_failed failed]; rfl
  | begun source clear => rfl
  | poisoned file found => rfl
  | added file found scanned => rfl
  | finished finalCompleteness saved found failed => rw [publishes_of_failed failed]; rfl
  | committed found current reconciled => exact (sameUsers_reconcile reconciled).2
  | aborted handle => rfl
  | favored flag edited =>
      exact congrArg UInt64.toNat (sameContent_setFavorite edited).generation
  | played edited => exact congrArg UInt64.toNat (sameContent_markPlayed edited).generation
  | removed edited => exact (sameUsers_withoutSource edited).2

/-- Commits and removals do not look at what users have done. -/
theorem Effect.users
    (effect : Effect sorting session call result later)
    (concerns : call.concernsSource = true) :
    SameUsers session.catalog later.catalog := by
  cases effect with
  | refused call failed => exact ⟨rfl, rfl, rfl⟩
  | begun source clear => exact ⟨rfl, rfl, rfl⟩
  | poisoned file found => exact ⟨rfl, rfl, rfl⟩
  | added file found scanned => exact ⟨rfl, rfl, rfl⟩
  | finished finalCompleteness saved found failed => exact ⟨rfl, rfl, rfl⟩
  | committed found current reconciled => exact (sameUsers_reconcile reconciled).1
  | aborted handle => exact ⟨rfl, rfl, rfl⟩
  | favored flag edited => cases concerns
  | played edited => cases concerns
  | removed edited => exact (sameUsers_withoutSource edited).1

theorem SameUsers.userStateGet
    {current next : CatalogData}
    (same : SameUsers current next)
    (canonicalId : Bytes) :
    App.userStateGet next canonicalId = App.userStateGet current canonicalId := by
  unfold App.userStateGet findUser
  rw [same.users]

/-- The state of a game changes by what is done with that game. -/
theorem Effect.userState
    (effect : Effect sorting session call result later)
    (canonicalId : Bytes) :
    (userStateGet later.catalog canonicalId).favorite =
        (setsFavorite canonicalId (call, result)).getD
          (userStateGet session.catalog canonicalId).favorite ∧
      (userStateGet later.catalog canonicalId).playCount.toNat =
        (userStateGet session.catalog canonicalId).playCount.toNat +
          if marksPlayed canonicalId (call, result) then 1 else 0 := by
  cases effect with
  | refused call failed =>
      rw [setsFavorite_of_failed failed, marksPlayed_of_failed failed]
      exact ⟨rfl, rfl⟩
  | begun source clear => exact ⟨rfl, rfl⟩
  | poisoned file found => exact ⟨rfl, rfl⟩
  | added file found scanned => exact ⟨rfl, rfl⟩
  | finished finalCompleteness saved found failed =>
      rw [setsFavorite_of_failed failed, marksPlayed_of_failed failed]
      exact ⟨rfl, rfl⟩
  | committed found current reconciled =>
      have same := SameUsers.userStateGet (sameUsers_reconcile reconciled).1 canonicalId
      rw [withCatalog_catalog, same]
      exact ⟨rfl, rfl⟩
  | aborted handle => exact ⟨rfl, rfl⟩
  | @favored id favorite next flag edited =>
      obtain ⟨here, elsewhere⟩ := userStateGet_setFavorite edited
      by_cases same : id = canonicalId
      · subst same
        rw [withCatalog_catalog, here]
        simp only [setsFavorite, if_true, Option.getD_some]
        rcases flag with rfl | rfl <;> exact ⟨rfl, rfl⟩
      · rw [withCatalog_catalog, elsewhere canonicalId (Ne.symm same)]
        simp only [setsFavorite, if_neg same]
        exact ⟨rfl, rfl⟩
  | @played id next edited =>
      obtain ⟨favorite, count, elsewhere⟩ := userStateGet_markPlayed edited
      by_cases same : id = canonicalId
      · subst same
        refine ⟨favorite, ?_⟩
        rw [withCatalog_catalog, count]
        simp [marksPlayed]
      · rw [withCatalog_catalog, elsewhere canonicalId (Ne.symm same)]
        simp [marksPlayed, setsFavorite, same]
  | removed edited =>
      have same := SameUsers.userStateGet (sameUsers_withoutSource edited).1 canonicalId
      rw [withCatalog_catalog, same]
      exact ⟨rfl, rfl⟩

/-! ### What runs count for -/

section Runs

variable (sorting) (session)

theorem generation_after (calls : List Call) :
    (session.after sorting calls).catalog.generation.toNat =
      session.catalog.generation.toNat + (session.log sorting calls).countP publishes := by
  induction calls generalizing session with
  | nil => rfl
  | cons call rest inductionHypothesis =>
      have here := (effect_perform sorting session call).generation
      have later := inductionHypothesis (session.perform sorting call).2
      rw [log, List.countP_cons]
      change ((session.perform sorting call).2.after sorting rest).catalog.generation.toNat = _
      omega

theorem favorite_after (canonicalId : Bytes) (calls : List Call) :
    (userStateGet (session.after sorting calls).catalog canonicalId).favorite =
      (((session.log sorting calls).filterMap (setsFavorite canonicalId)).getLast?).getD
        (userStateGet session.catalog canonicalId).favorite := by
  induction calls generalizing session with
  | nil => rfl
  | cons call rest inductionHypothesis =>
      have here := ((effect_perform sorting session call).userState canonicalId).1
      have later := inductionHypothesis (session.perform sorting call).2
      change
        (userStateGet ((session.perform sorting call).2.after sorting rest).catalog
          canonicalId).favorite = _
      rw [later, here, log, List.filterMap_cons]
      cases setsFavorite canonicalId (call, (session.perform sorting call).1) with
      | none => rfl
      | some favorite =>
          rw [List.getLast?_cons]
          rfl

theorem playCount_after (canonicalId : Bytes) (calls : List Call) :
    (userStateGet (session.after sorting calls).catalog canonicalId).playCount.toNat =
      (userStateGet session.catalog canonicalId).playCount.toNat +
        (session.log sorting calls).countP (marksPlayed canonicalId) := by
  induction calls generalizing session with
  | nil => rfl
  | cons call rest inductionHypothesis =>
      have here := ((effect_perform sorting session call).userState canonicalId).2
      have later := inductionHypothesis (session.perform sorting call).2
      rw [log, List.countP_cons]
      change
        (userStateGet ((session.perform sorting call).2.after sorting rest).catalog
          canonicalId).playCount.toNat = _
      omega

end Runs

/-! ### The base of a scan -/

/-- A scan at this handle was begun on this generation. -/
def BegunAt (session : Session) (handle : Nat) (generation : UInt64) : Prop :=
  handle < session.scans.length ∧
    ∀ scan, session.scan? handle = some scan → scan.baseGeneration = generation

section Base

variable {handle : Nat} {generation : UInt64}

theorem scan?_setScan (session : Session) (handle other : Nat) (replaced : Option Scan) :
    (session.setScan other replaced).scan? handle =
      if other = handle ∧ handle < session.scans.length then replaced
      else session.scan? handle := by
  unfold scan? setScan
  dsimp only
  rw [List.getElem?_set]
  by_cases same : other = handle
  · by_cases within : handle < session.scans.length
    · simp [same, within]
    · simp [same, within]
  · simp [same]

theorem begunAt_withScan (session : Session) (source : SourceKey) :
    (session.withScan source).BegunAt session.scans.length session.catalog.generation := by
  constructor
  · simp [withScan]
  · intro scan found
    simp only [scan?, withScan, List.getElem?_concat_length, Option.join_some] at found
    rw [← Option.some.inj found]

/-- A scan never gets another base. -/
theorem BegunAt.setScan
    (begun : session.BegunAt handle generation)
    (other : Nat)
    {replaced : Option Scan}
    (keeps : ∀ scan, replaced = some scan →
      ∃ before, session.scan? other = some before ∧
        scan.baseGeneration = before.baseGeneration) :
    (session.setScan other replaced).BegunAt handle generation := by
  constructor
  · simpa [Session.setScan] using begun.1
  · intro scan found
    rw [scan?_setScan] at found
    split at found
    · next here =>
      obtain ⟨rfl, -⟩ := here
      obtain ⟨before, found', same⟩ := keeps scan found
      rw [same]
      exact begun.2 before found'
    · exact begun.2 scan found

theorem Effect.begunAt
    (effect : Effect sorting session call result later)
    (begun : session.BegunAt handle generation) :
    later.BegunAt handle generation := by
  have keeps {other : Nat} {scan marked : Scan} (found : session.scan? other = some scan)
      (same : marked.baseGeneration = scan.baseGeneration) :
      (session.setScan other (some marked)).BegunAt handle generation :=
    begun.setScan other fun _ equal => ⟨scan, found, Option.some.inj equal ▸ same⟩
  cases effect with
  | refused call failed => exact begun
  | begun source clear =>
      constructor
      · have below := begun.1
        simp only [withScan, List.length_append]
        omega
      · intro scan found
        simp only [scan?, withScan, List.getElem?_append_left begun.1] at found
        exact begun.2 scan found
  | poisoned file found => exact keeps found rfl
  | added file found scanned => exact keeps found rfl
  | finished finalCompleteness saved found failed => exact keeps found rfl
  | committed found current reconciled => exact keeps found rfl
  | aborted other => exact begun.setScan other nofun
  | favored flag edited => exact begun
  | played edited => exact begun
  | removed edited => exact begun

theorem begunAt_after
    (begun : session.BegunAt handle generation)
    (calls : List Call) :
    (session.after sorting calls).BegunAt handle generation := by
  induction calls generalizing session with
  | nil => exact begun
  | cons call rest inductionHypothesis =>
      exact inductionHypothesis ((effect_perform sorting session call).begunAt begun)

end Base

/-- A scan that is committed was begun on the current generation. -/
theorem current_of_committed
    {handle : Nat}
    {generation : UInt64}
    {finalCompleteness : UInt32}
    {saved : Bool}
    (begun : session.BegunAt handle generation)
    (committed : (session.scanCommit sorting handle finalCompleteness saved).1 = .ok) :
    session.catalog.generation = generation := by
  have effect := effect_scanCommit sorting session handle finalCompleteness saved
  rw [committed] at effect
  generalize (session.scanCommit sorting handle finalCompleteness saved).2 = later at effect
  cases effect with
  | refused call failed => exact absurd rfl failed
  | finished finalCompleteness saved found failed => exact absurd rfl failed
  | committed found current reconciled => exact current.trans (begun.2 _ found)

/-- A scan that has been begun is found at its handle. -/
theorem scanBegin_eq
    {source : SourceKey}
    (begun : (session.scanBegin source).1 = .ok) :
    (session.scanBegin source).2 = session.withScan source := by
  unfold scanBegin at begun ⊢
  split
  · next invalid =>
    rw [if_pos invalid] at begun
    cases begun
  · next valid =>
    rw [if_neg valid] at begun
    split
    · next conflict =>
      rw [if_pos conflict] at begun
      cases begun
    · rfl

end Session

/-- Whatever calls come from an empty catalog on, and whichever saves fail: the catalog is
sound, scans and removals leave to users what is theirs, each of them makes one generation,
a scan is committed only on the catalog it was begun on, and the state of a game is what
has been done with that game. -/
theorem catalog_calls_agree (sorting : EntrySorting) :
    (∀ calls,
      CatalogSound (Session.after sorting {} calls).catalog ∧
        UsersSound (Session.after sorting {} calls).catalog) ∧
    (∀ calls call,
      let session := Session.after sorting {} calls
      call.concernsSource = true →
        SameUsers session.catalog (session.perform sorting call).2.catalog) ∧
    (∀ calls,
      (Session.after sorting {} calls).catalog.generation.toNat =
        (Session.log sorting {} calls).countP publishes) ∧
    (∀ calls source middle finalCompleteness saved,
      let session := Session.after sorting {} calls
      let begun := (session.perform sorting (.scanBegin source)).2
      (session.perform sorting (.scanBegin source)).1 = .ok →
      ((begun.after sorting middle).perform sorting
        (.scanCommit session.scans.length finalCompleteness saved)).1 = .ok →
      (begun.log sorting middle).countP publishes = 0) ∧
    ∀ calls canonicalId,
      let state := userStateGet (Session.after sorting {} calls).catalog canonicalId
      let log := Session.log sorting {} calls
      state.favorite = ((log.filterMap (setsFavorite canonicalId)).getLast?).getD 0 ∧
        state.playCount.toNat = log.countP (marksPlayed canonicalId) := by
  refine ⟨?_, ?_, ?_, ?_, ?_⟩
  · intro calls
    have sound := Session.sound_after sorting Session.sound_empty calls
    exact ⟨sound.catalog, sound.users⟩
  · intro calls call session concerns
    exact (Session.effect_perform sorting session call).users concerns
  · intro calls
    have generation := Session.generation_after sorting {} calls
    rwa [show ({} : Session).catalog.generation.toNat = 0 from rfl, Nat.zero_add]
      at generation
  · intro calls source middle finalCompleteness saved session begun started committed
    have same : begun = session.withScan source := Session.scanBegin_eq started
    have base : begun.BegunAt session.scans.length session.catalog.generation := by
      rw [same]
      exact Session.begunAt_withScan session source
    have current := Session.current_of_committed
      (Session.begunAt_after base middle) committed
    have generation := Session.generation_after sorting begun middle
    rw [current, same, Session.withScan_catalog] at generation
    rw [same]
    omega
  · intro calls canonicalId
    have favorite := Session.favorite_after sorting {} canonicalId calls
    have count := Session.playCount_after sorting {} canonicalId calls
    refine ⟨favorite, ?_⟩
    rw [count]
    exact Nat.zero_add _

def sampleSource : SourceKey where
  uuid := Block.copy 16 [1]
  scope := 2

def sampleEdits : List Call :=
  [.favoriteSet [0x61] 1 true, .markPlayed [0x61] true, .markPlayed [0x61] false]

/-- A game is set and played while a scan is open. -/
theorem sample_commit :
    let begun := ((({} : Session).perform stableSorting (.scanBegin sampleSource)).2)
    ((begun.after stableSorting sampleEdits).perform stableSorting
        (.scanCommit 0 fullCompleteness true)).1 = .ok ∧
      (begun.log stableSorting sampleEdits).countP publishes = 0 := by
  have committed :
      ((((({} : Session).perform stableSorting (.scanBegin sampleSource)).2).after
          stableSorting sampleEdits).perform stableSorting
        (.scanCommit 0 fullCompleteness true)).1 = .ok := by
    decide
  exact ⟨committed, (catalog_calls_agree stableSorting).2.2.2.1 [] sampleSource sampleEdits
    fullCompleteness true (by decide) committed⟩

end FlyNes.App
