import FlyNes.ContentStore
import FlyNes.DualScheduler
import FlyNes.Logbook
import FlyNes.WireSha256

namespace FlyNes.Recovery

open ByteString ContentStore FlyNes.Dual FlyNes.Wire

/-!
# The durable root store

A root is published in two steps: its bytes are written under their hash, and a
guarded replace then switches the root.  A crash between the steps leaves the root
as it was.  The revision counts the publications, in 64 bits.
-/

inductive CrashPoint where
  | none
  | beforeFlush
  | afterFlushBeforeCas
  | afterCasBeforeAck
deriving DecidableEq

structure RootView where
  revision : UInt64 := 0
  hash : Block 32 := Block.zero 32
  bytes : Bytes := []
deriving DecidableEq

structure DurableRootStore where
  durable : Objects (Block 32) Bytes := ContentStore.empty
  pending : Objects (Block 32) Bytes := ContentStore.empty
  root : Option RootView := none
  crash : CrashPoint := .none

namespace DurableRootStore

variable (store : DurableRootStore)

def putImmutable (bytes : Bytes) : Block 32 × DurableRootStore :=
  (sha256 bytes, { store with pending := put sha256 store.pending bytes })

def flush : SessionResult × DurableRootStore :=
  if store.crash = .beforeFlush then
    (.unavailable, store)
  else
    (.ok,
      { store with
        durable := overlay store.pending store.durable
        pending := ContentStore.empty })

def revision : UInt64 :=
  match store.root with
  | some root => root.revision
  | none => 0

/-- The guard of the replace: the caller has seen the current root. -/
def expects (expectedRevision : UInt64) (expectedHash : Block 32) : Bool :=
  match store.root with
  | some root => root.revision = expectedRevision && root.hash = expectedHash
  | none => expectedRevision = 0

def casReplace
    (expectedRevision : UInt64)
    (expectedHash : Block 32)
    (newBytes : Bytes) : SessionResult × DurableRootStore :=
  if store.expects expectedRevision expectedHash then
    let (newHash, put) := store.putImmutable newBytes
    let flushed := put.flush
    if flushed.1 = .ok then
      if flushed.2.crash = .afterFlushBeforeCas then
        (.unavailable, flushed.2)
      else
        (.ok,
          { flushed.2 with
            root := some
              { revision := store.revision + 1
                hash := newHash
                bytes := newBytes } })
    else
      flushed
  else
    (.stale, store)

def readObject (hash : Block 32) : Except SessionResult Bytes :=
  match store.durable hash with
  | some bytes => .ok bytes
  | none => .error .unavailable

def injectCrash (point : CrashPoint) : DurableRootStore :=
  { store with crash := point }

/-- What was not flushed is lost, and no crash is armed any more. -/
def restart : DurableRootStore :=
  { store with pending := ContentStore.empty, crash := .none }

end DurableRootStore

/-! ## Calls and publications -/

inductive StoreCall where
  | putImmutable (bytes : Bytes)
  | flush
  | casReplace
      (expectedRevision : UInt64)
      (expectedHash : Block 32)
      (newBytes : Bytes)
  | injectCrash (point : CrashPoint)
  | restart
deriving DecidableEq

/-- The bytes that a call hands to the store. -/
def StoreCall.bytes : StoreCall → Option Bytes
  | .putImmutable bytes => some bytes
  | .casReplace _ _ newBytes => some newBytes
  | _ => none

def bytesUsed (calls : List StoreCall) : List Bytes :=
  calls.filterMap StoreCall.bytes

namespace DurableRootStore

def step
    (store : DurableRootStore) :
    StoreCall → SessionResult × DurableRootStore
  | .putImmutable bytes => (.ok, (store.putImmutable bytes).2)
  | .flush => store.flush
  | .casReplace expectedRevision expectedHash newBytes =>
      store.casReplace expectedRevision expectedHash newBytes
  | .injectCrash point => (.ok, store.injectCrash point)
  | .restart => (.ok, store.restart)

abbrev StoreEntry := Logbook.Entry DurableRootStore StoreCall SessionResult

/-- The revision that a successful publication expected. -/
def publishedOver (entry : StoreEntry) : Option UInt64 :=
  match entry.call with
  | .casReplace expectedRevision _ _ =>
      if entry.answer = .ok then some expectedRevision else none
  | _ => none

/-- The revisions that the successful publications of a run expected. -/
def publications (log : List StoreEntry) : List UInt64 :=
  log.filterMap publishedOver

/-! ## What the calls do -/

section Steps

variable
  {store : DurableRootStore}
  {expectedRevision : UInt64}
  {expectedHash : Block 32}
  {newBytes : Bytes}

@[simp] theorem flush_root :
    store.flush.2.root = store.root := by
  simp only [flush]
  split <;> rfl

theorem flush_ok
    (answer : store.flush.1 = .ok) :
    store.flush.2 =
      { store with
        durable := overlay store.pending store.durable
        pending := ContentStore.empty } := by
  unfold flush at answer ⊢
  split
  case isTrue crashing => simp [crashing] at answer
  case isFalse => rfl

/-- A replace that fails has at most written and flushed; else it switches the root. -/
theorem casReplace_cases
    (store : DurableRootStore)
    (expectedRevision : UInt64)
    (expectedHash : Block 32)
    (newBytes : Bytes) :
    ((store.casReplace expectedRevision expectedHash newBytes).1 ≠ .ok ∧
      ((store.casReplace expectedRevision expectedHash newBytes).2 = store ∨
        (store.casReplace expectedRevision expectedHash newBytes).2 =
          (store.putImmutable newBytes).2.flush.2)) ∨
    (store.expects expectedRevision expectedHash = true ∧
      (store.putImmutable newBytes).2.flush.1 = .ok ∧
      store.casReplace expectedRevision expectedHash newBytes =
        (.ok,
          { (store.putImmutable newBytes).2.flush.2 with
            root := some
              { revision := store.revision + 1
                hash := sha256 newBytes
                bytes := newBytes } })) := by
  unfold casReplace
  split
  case isFalse => exact Or.inl ⟨by simp, Or.inl rfl⟩
  case isTrue expected =>
    simp only
    split
    case isFalse refused => exact Or.inl ⟨refused, Or.inr rfl⟩
    case isTrue flushed =>
      split
      case isTrue => exact Or.inl ⟨by simp, Or.inr rfl⟩
      case isFalse => exact Or.inr ⟨expected, flushed, rfl⟩

/-- A publication raises the revision by one and publishes the new bytes. -/
theorem casReplace_ok
    (answer :
      (store.casReplace expectedRevision expectedHash newBytes).1 = .ok) :
    store.expects expectedRevision expectedHash = true ∧
      (store.casReplace expectedRevision expectedHash newBytes).2.root =
        some
          { revision := store.revision + 1
            hash := sha256 newBytes
            bytes := newBytes } := by
  rcases casReplace_cases store expectedRevision expectedHash newBytes with
    ⟨refused, _⟩ | ⟨expected, _, published⟩
  · exact absurd answer refused
  · exact ⟨expected, by rw [published]⟩

/-- A replace that is expected publishes unless a crash stops it on the way. -/
theorem casReplace_answer
    (expected : store.expects expectedRevision expectedHash = true) :
    (store.casReplace expectedRevision expectedHash newBytes).1 = .ok ↔
      store.crash ≠ .beforeFlush ∧ store.crash ≠ .afterFlushBeforeCas := by
  simp only [casReplace, expected, flush, putImmutable]
  grind

/-- Every other call, and a replace that fails, leaves the root as it was. -/
theorem step_root
    {call : StoreCall}
    (quiet : publishedOver (Logbook.entry step store call) = none) :
    (store.step call).2.root = store.root := by
  cases call with
  | casReplace expectedRevision expectedHash newBytes =>
      rcases casReplace_cases store expectedRevision expectedHash newBytes with
        ⟨_, same | flushed⟩ | ⟨_, _, published⟩
      · rw [step, same]
      · rw [step, flushed, flush_root]
        rfl
      · simp [publishedOver, Logbook.entry, step, published] at quiet
  | flush => exact flush_root
  | _ => rfl

end Steps

/-! ## The published root can be read -/

/-- The objects stand under their hashes, and the root is one of them. -/
structure Consistent
    (used : List Bytes)
    (store : DurableRootStore) : Prop where
  durable : Addressed sha256 used store.durable
  pending : Addressed sha256 used store.pending
  root :
    ∀ root,
      store.root = some root →
      root.hash = sha256 root.bytes ∧
        root.bytes ∈ used ∧
        (store.durable root.hash).isSome

namespace Consistent

variable {used : List Bytes} {store : DurableRootStore}

theorem start : Consistent used {} where
  durable := Addressed.empty
  pending := Addressed.empty
  root := by simp

theorem putImmutable
    (consistent : Consistent used store)
    {bytes : Bytes}
    (member : bytes ∈ used) :
    Consistent used (store.putImmutable bytes).2 :=
  { consistent with pending := consistent.pending.put member }

theorem flush
    (consistent : Consistent used store) :
    Consistent used store.flush.2 := by
  unfold DurableRootStore.flush
  split
  case isTrue => exact consistent
  case isFalse =>
    refine ⟨consistent.pending.overlay consistent.durable, Addressed.empty, ?_⟩
    intro root published
    obtain ⟨same, member, kept⟩ := consistent.root root published
    exact ⟨same, member, overlay_isSome_of_lower kept⟩

theorem casReplace
    (consistent : Consistent used store)
    (expectedRevision : UInt64)
    (expectedHash : Block 32)
    {newBytes : Bytes}
    (member : newBytes ∈ used) :
    Consistent used
      (store.casReplace expectedRevision expectedHash newBytes).2 := by
  have flushed := (consistent.putImmutable member).flush
  rcases casReplace_cases store expectedRevision expectedHash newBytes with
    ⟨_, same | moved⟩ | ⟨_, flushing, published⟩
  · rw [same]
    exact consistent
  · rw [moved]
    exact flushed
  · rw [published]
    refine { flushed with root := ?_ }
    intro root same
    obtain rfl := Option.some.inj same
    refine ⟨rfl, member, ?_⟩
    rw [flush_ok flushing]
    simp [overlay, DurableRootStore.putImmutable]

theorem step
    (consistent : Consistent used store)
    {call : StoreCall}
    (known : ∀ bytes ∈ call.bytes, bytes ∈ used) :
    Consistent used (store.step call).2 := by
  cases call with
  | putImmutable bytes => exact consistent.putImmutable (known bytes rfl)
  | flush => exact consistent.flush
  | casReplace expectedRevision expectedHash newBytes =>
      exact consistent.casReplace expectedRevision expectedHash
        (known newBytes rfl)
  | injectCrash point => exact { consistent with }
  | restart => exact { consistent with pending := Addressed.empty }

theorem run
    (calls : List StoreCall)
    (known : bytesUsed calls ⊆ used) :
    Consistent used (Logbook.after DurableRootStore.step {} calls) := by
  induction calls using List.reverseRecOn with
  | nil => exact start
  | append_singleton calls call inductionHypothesis =>
      simp only [bytesUsed, List.filterMap_append, List.append_subset] at known
      rw [Logbook.after_append]
      refine (inductionHypothesis known.1).step ?_
      intro bytes member
      apply known.2
      simpa using member

/-- Without collisions the published root reads back as its bytes. -/
theorem readObject
    (consistent : Consistent used store)
    (distinct : CollisionFree sha256 used)
    {root : RootView}
    (published : store.root = some root) :
    root.hash = sha256 root.bytes ∧
      store.readObject root.hash = .ok root.bytes := by
  obtain ⟨same, member, kept⟩ := consistent.root root published
  rw [same] at kept ⊢
  refine ⟨rfl, ?_⟩
  rw [DurableRootStore.readObject,
    consistent.durable.read distinct member kept]

end Consistent

/-! ## The revision counts the publications -/

theorem publishedOver_eq_some
    {entry : StoreEntry}
    {expected : UInt64} :
    publishedOver entry = some expected ↔
      entry.answer = .ok ∧
        ∃ expectedHash newBytes,
          entry.call = .casReplace expected expectedHash newBytes := by
  obtain ⟨before, call, answer⟩ := entry
  cases call with
  | casReplace =>
      simp only [publishedOver, StoreCall.casReplace.injEq]
      grind
  | _ => simp [publishedOver]

variable {store : DurableRootStore}

/-- A publication expected the revision it found. -/
theorem revision_of_expects
    {expectedRevision : UInt64}
    {expectedHash : Block 32}
    (expected : store.expects expectedRevision expectedHash = true) :
    store.revision = expectedRevision := by
  unfold expects at expected
  unfold revision
  split at expected <;> grind

theorem publications_concat
    (log : List StoreEntry)
    (entry : StoreEntry) :
    publications (log ++ [entry]) =
      publications log ++ (publishedOver entry).toList := by
  simp only [publications, List.filterMap_append, List.filterMap_cons,
    List.filterMap_nil]
  cases publishedOver entry <;> rfl

/-- The publications expected the revisions from zero on, the next one `revision`. -/
structure Counted
    (log : List StoreEntry)
    (store : DurableRootStore) : Prop where
  revisions :
    publications log = (List.range (publications log).length).map UInt64.ofNat
  next : store.revision = UInt64.ofNat (publications log).length

variable {log : List StoreEntry}

theorem Counted.keeps
    (counted : Counted log store)
    (call : StoreCall) :
    Counted (log ++ [Logbook.entry step store call]) (store.step call).2 := by
  have extended := publications_concat log (Logbook.entry step store call)
  cases published : publishedOver (Logbook.entry step store call) with
  | none =>
      rw [published, Option.toList_none, List.append_nil] at extended
      refine ⟨by rw [extended]; exact counted.revisions, ?_⟩
      rw [extended, ← counted.next, revision, revision, step_root published]
  | some expected =>
      rw [published, Option.toList_some] at extended
      obtain ⟨answer, expectedHash, newBytes, rfl⟩ :=
        publishedOver_eq_some.1 published
      obtain ⟨expects, moved⟩ := casReplace_ok answer
      have found := revision_of_expects expects
      have length :
          (publications
              (log ++
                [Logbook.entry step store
                  (.casReplace expected expectedHash newBytes)])).length =
            (publications log).length + 1 := by
        simp [extended]
      refine ⟨?_, ?_⟩
      · rw [length, List.range_succ, List.map_append, ← counted.revisions,
          extended, List.map_singleton, ← counted.next, found]
      · rw [length, UInt64.ofNat_add, ← counted.next]
        simp only [step, revision, moved]
        rfl

theorem Counted.run
    (calls : List StoreCall) :
    Counted (Logbook.log step {} calls) (Logbook.after step {} calls) :=
  Logbook.run_keeps step Counted ⟨rfl, rfl⟩
    (fun _ _ call counted => counted.keeps call) calls

/-- Publications over the same revision are whole rounds of revisions apart. -/
theorem Counted.apart
    (counted : Counted log store)
    {first second : Nat}
    {revision : UInt64}
    (one : (publications log)[first]? = some revision)
    (other : (publications log)[second]? = some revision)
    (ordered : first < second) :
    first + 2 ^ 64 ≤ second := by
  have read :
      ∀ place,
        (publications log)[place]? = some revision →
        place % 2 ^ 64 = revision.toNat := by
    intro place found
    rw [counted.revisions, List.getElem?_map] at found
    obtain ⟨value, inside, same⟩ := Option.map_eq_some_iff.1 found
    obtain ⟨_, rfl⟩ := List.getElem?_eq_some_iff.1 inside
    rw [← same, List.getElem_range, UInt64.toNat_ofNat']
  have firstRead := read first one
  have secondRead := read second other
  omega

/--
In every run of calls with crashes armed anywhere: the published root carries the
hash of its bytes and reads back as them, a publication raises the revision by one
(modulo 2^64) and publishes the new bytes, nothing else changes the root, and two
publications over the same revision are at least 2^64 publications apart.
-/
theorem root_publication_atomic
    (calls : List StoreCall) :
    (CollisionFree sha256 (bytesUsed calls) →
      ∀ root,
        (Logbook.after step {} calls).root = some root →
        root.hash = sha256 root.bytes ∧
          (Logbook.after step {} calls).readObject root.hash =
            .ok root.bytes) ∧
      (∀ (store : DurableRootStore) (expectedRevision : UInt64)
          (expectedHash : Block 32) (newBytes : Bytes),
        (store.casReplace expectedRevision expectedHash newBytes).1 = .ok →
        (store.casReplace expectedRevision expectedHash newBytes).2.root =
          some
            { revision := store.revision + 1
              hash := sha256 newBytes
              bytes := newBytes }) ∧
      (∀ (store : DurableRootStore) (call : StoreCall),
        publishedOver (Logbook.entry step store call) = none →
        (store.step call).2.root = store.root) ∧
      ∀ (first second : Nat) (expected : UInt64),
        (publications (Logbook.log step {} calls))[first]? = some expected →
        (publications (Logbook.log step {} calls))[second]? = some expected →
        first < second →
        first + 2 ^ 64 ≤ second := by
  refine ⟨fun distinct root published => ?_,
    fun _ _ _ _ answer => (casReplace_ok answer).2,
    fun _ _ quiet => step_root quiet,
    fun _ _ _ one other ordered => (Counted.run calls).apart one other ordered⟩
  exact (Consistent.run calls (List.Subset.refl _)).readObject distinct published

/-- Two publications, of which the second is lost in a crash and made again. -/
def crashedCalls : List StoreCall :=
  [.casReplace 0 (Block.zero 32) [1], .injectCrash .afterFlushBeforeCas,
    .casReplace 1 (sha256 [1]) [2], .restart, .casReplace 1 (sha256 [1]) [2],
    .casReplace 1 (sha256 [1]) [3]]

theorem crashed_publication_retried :
    publications (Logbook.log step {} crashedCalls) = [0, 1] ∧
      (Logbook.after step {} crashedCalls).readObject (sha256 [2]) =
        .ok [2] := by
  have distinct : CollisionFree sha256 (bytesUsed crashedCalls) := by
    unfold CollisionFree
    decide +kernel
  have published :
      (Logbook.after step {} crashedCalls).root = some ⟨2, sha256 [2], [2]⟩ := by
    decide +kernel
  exact ⟨by decide +kernel,
    ((root_publication_atomic crashedCalls).1 distinct _ published).2⟩

section Wrapping

def publishCall (revision : Nat) : StoreCall :=
  .casReplace (UInt64.ofNat revision) (sha256 []) []

def publishCalls (count : Nat) : List StoreCall :=
  (List.range count).map publishCall

theorem casReplace_crash
    (store : DurableRootStore)
    (expectedRevision : UInt64)
    (expectedHash : Block 32)
    (newBytes : Bytes) :
    (store.casReplace expectedRevision expectedHash newBytes).2.crash =
      store.crash := by
  simp only [casReplace, flush, putImmutable]
  grind

/-- Every call of the row publishes over the revision that it expects. -/
theorem publications_publishCalls
    (count : Nat) :
    (Logbook.after step {} (publishCalls count)).crash = .none ∧
      (Logbook.after step {} (publishCalls count)).expects
        (UInt64.ofNat count) (sha256 []) = true ∧
      publications (Logbook.log step {} (publishCalls count)) =
        (List.range count).map UInt64.ofNat := by
  induction count with
  | zero => exact ⟨rfl, rfl, rfl⟩
  | succ count inductionHypothesis =>
      obtain ⟨running, expected, published⟩ := inductionHypothesis
      have extended :
          publishCalls (count + 1) = publishCalls count ++ [publishCall count] := by
        simp [publishCalls, List.range_succ]
      rw [extended, Logbook.log_append, Logbook.after_append]
      have answer :
          ((Logbook.after step {} (publishCalls count)).casReplace
            (UInt64.ofNat count) (sha256 []) []).1 = .ok :=
        (casReplace_answer expected).2 (by simp [running])
      have root := (casReplace_ok answer).2
      refine ⟨(casReplace_crash _ _ _ _).trans running, ?_, ?_⟩
      · have next := revision_of_expects expected
        change (DurableRootStore.casReplace _ _ _ _).2.expects _ _ = true
        simp only [expects, root, next, UInt64.ofNat_add, Bool.and_eq_true,
          decide_eq_true_eq, and_true]
        rfl
      · change publications (_ ++ [Logbook.entry step _ _]) = _
        have found :
            publishedOver
                (Logbook.entry step
                  (Logbook.after step {} (publishCalls count))
                  (publishCall count)) =
              some (UInt64.ofNat count) :=
          publishedOver_eq_some.2 ⟨answer, _, _, rfl⟩
        rw [publications_concat, published, found, List.range_succ,
          List.map_append]
        rfl

/-- After 2^64 publications the revision is zero again, and expected again. -/
theorem revision_wraps :
    CollisionFree sha256 (bytesUsed (publishCalls (2 ^ 64 + 1))) ∧
      ¬ (publications
        (Logbook.log step {} (publishCalls (2 ^ 64 + 1)))).Nodup := by
  have empty :
      ∀ count, ∀ bytes ∈ bytesUsed (publishCalls count), bytes = [] := by
    intro count bytes member
    obtain ⟨call, inside, same⟩ := List.mem_filterMap.1 member
    obtain ⟨_, _, rfl⟩ := List.mem_map.1 inside
    exact (Option.some.inj same).symm
  refine ⟨?_, ?_⟩
  · intro first member second other _
    rw [empty _ first member, empty _ second other]
  · rw [(publications_publishCalls _).2.2]
    intro distinct
    have same :=
      List.inj_on_of_nodup_map distinct (List.mem_range.2 (Nat.succ_pos _))
        (List.mem_range.2 (Nat.lt_succ_self (2 ^ 64))) (by decide)
    omega

end Wrapping

end DurableRootStore

end FlyNes.Recovery
