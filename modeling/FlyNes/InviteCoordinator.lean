import FlyNes.InviteJoiner
import FlyNes.SlidingWindow
import FlyNes.Chronology

namespace FlyNes.InviteCode

open ByteString

/-!
# The coordinator of invitations

One invitation is open to two routes at a time and is given away once.  Joins and
lookups are limited by the times of those that were admitted within the lifetime
of an invitation, whatever happens to the invitations in between.  A lookup round
goes through its candidates and ends with a match only if all answers agree.
-/

def kInvitationLifetimeNs : Nat := 60000000000

def kLookupRoundLifetimeNs : Nat := 16000000000

def kLookupCandidateLifetimeNs : Nat := 2000000000

def kMaxUint64 : Nat := 2 ^ 64 - 1

def addSaturated (value delta : Nat) : Nat :=
  if value > kMaxUint64 - delta then kMaxUint64 else value + delta

inductive InviteCoordinatorResult where
  | ok
  | accepted
  | matchPendingApproval
  | duplicate
  | retry
  | notFound
  | invalid
  | stale
  | expired
  | consumed
  | rateLimited
  | busy
  | ambiguous
deriving DecidableEq

inductive InviteRoute where
  | bleAnonymous
  | qr
deriving DecidableEq

structure InviteChildMaterial where
  childId : Block 16
  nonce : Block 16
  commitment : Block 32
deriving DecidableEq, Inhabited

def nonzeroBytes {size : Nat} (block : Block size) : Bool :=
  block.bytes.any (· != 0)

def validCode (code : InviteCodeDigits) : Bool :=
  code.bytes.all asciiDigit

def validChild (child : InviteChildMaterial) : Bool :=
  nonzeroBytes child.childId && nonzeroBytes child.nonce &&
    nonzeroBytes child.commitment

structure InviteCoordinator where
  generation : Nat := 0
  deadlineNs : Nat := 0
  code : InviteCodeDigits := Block.zero kInviteCodeLength
  ble : InviteChildMaterial := default
  qr : InviteChildMaterial := default
  active : Bool := false
  consumed : Bool := false
  joinSubmissions : List Nat := []
  hostLookups : List Nat := []
  inflightGatt : List Nat := []
deriving DecidableEq

namespace InviteCoordinator

def create
    (coordinator : InviteCoordinator)
    (generation nowNs : Nat)
    (code : InviteCodeDigits)
    (ble qr : InviteChildMaterial) : InviteCoordinatorResult × InviteCoordinator :=
  if generation = 0 ∨ !validCode code ∨ !validChild ble ∨ !validChild qr ∨
      ble.childId = qr.childId ∨ ble.nonce = qr.nonce ∨
      ble.commitment = qr.commitment then
    (.invalid, coordinator)
  else
    (.ok,
      { coordinator with
        generation := generation
        deadlineNs := addSaturated nowNs kInvitationLifetimeNs
        code := code
        ble := ble
        qr := qr
        active := true
        consumed := false
        inflightGatt := [] })

def cancel
    (coordinator : InviteCoordinator)
    (generation : Nat) : InviteCoordinatorResult × InviteCoordinator :=
  if generation = 0 ∨ generation ≠ coordinator.generation then
    (.stale, coordinator)
  else
    (.ok,
      { coordinator with active := false, consumed := true, inflightGatt := [] })

def lookup
    (coordinator : InviteCoordinator)
    (code : InviteCodeDigits)
    (nowNs : Nat) : InviteCoordinatorResult × InviteCoordinator :=
  if !coordinator.active then
    (if coordinator.consumed then .consumed else .notFound, coordinator)
  else if coordinator.deadlineNs ≤ nowNs then
    (.expired, { coordinator with active := false })
  else
    (if code = coordinator.code then .matchPendingApproval else .notFound,
      coordinator)

def childOf (coordinator : InviteCoordinator) : InviteRoute → InviteChildMaterial
  | .bleAnonymous => coordinator.ble
  | .qr => coordinator.qr

/-- A route is `none` where it is neither of the two. -/
def accept
    (coordinator : InviteCoordinator)
    (generation : Nat)
    (route : Option InviteRoute)
    (childId : Block 16)
    (nowNs : Nat) : InviteCoordinatorResult × InviteCoordinator :=
  if generation = 0 ∨ generation ≠ coordinator.generation then
    (.stale, coordinator)
  else if coordinator.consumed then
    (.consumed, coordinator)
  else if !coordinator.active ∨ coordinator.deadlineNs ≤ nowNs then
    (.expired, { coordinator with active := false })
  else
    match route with
    | none => (.stale, coordinator)
    | some route =>
        if childId ≠ (coordinator.childOf route).childId then
          (.stale, coordinator)
        else
          (.accepted,
            { coordinator with active := false, consumed := true, inflightGatt := [] })

/-- Forget the times that lie a whole lifetime back. -/
def pruneWindow (timestamps : List Nat) (nowNs : Nat) : List Nat :=
  timestamps.filter fun timestamp =>
    !(decide (timestamp ≤ nowNs) && decide (kInvitationLifetimeNs ≤ nowNs - timestamp))

def beginJoinSubmission
    (coordinator : InviteCoordinator)
    (nowNs : Nat) : InviteCoordinatorResult × InviteCoordinator :=
  let pruned := pruneWindow coordinator.joinSubmissions nowNs
  if 5 ≤ pruned.length then
    (.rateLimited, { coordinator with joinSubmissions := pruned })
  else
    (.accepted, { coordinator with joinSubmissions := pruned ++ [nowNs] })

def beginHostLookup
    (coordinator : InviteCoordinator)
    (gattGeneration nowNs : Nat) : InviteCoordinatorResult × InviteCoordinator :=
  if gattGeneration = 0 then
    (.invalid, coordinator)
  else if coordinator.inflightGatt.contains gattGeneration then
    (.busy, coordinator)
  else
    let pruned := pruneWindow coordinator.hostLookups nowNs
    if 20 ≤ pruned.length then
      (.rateLimited, { coordinator with hostLookups := pruned })
    else
      (.accepted,
        { coordinator with
          hostLookups := pruned ++ [nowNs]
          inflightGatt := coordinator.inflightGatt ++ [gattGeneration] })

def endHostLookup
    (coordinator : InviteCoordinator)
    (gattGeneration : Nat) : InviteCoordinator :=
  { coordinator with
    inflightGatt := coordinator.inflightGatt.filter (· != gattGeneration) }

end InviteCoordinator

structure JoinLookupRound where
  submissionId : Nat := 0
  deadlineNs : Nat := 0
  candidates : List Nat := []
  nextIndex : Nat := 0
  matchedContext : Block 32 := Block.zero 32
  hasMatch : Bool := false
  active : Bool := false
deriving DecidableEq

namespace JoinLookupRound

def start
    (round : JoinLookupRound)
    (submissionId nowNs invitationDeadlineNs : Nat)
    (candidates : List Nat) : InviteCoordinatorResult × JoinLookupRound :=
  if submissionId = 0 ∨ candidates = [] ∨ candidates.length > 8 ∨
      invitationDeadlineNs ≤ nowNs then
    (.invalid, round)
  else if 0 ∈ candidates ∨ ¬ candidates.Nodup then
    (.invalid, round)
  else
    (.accepted,
      { submissionId := submissionId
        deadlineNs :=
          min invitationDeadlineNs (addSaturated nowNs kLookupRoundLifetimeNs)
        candidates := candidates
        nextIndex := 0
        matchedContext := Block.zero 32
        hasMatch := false
        active := true })

/-- What `nextCandidate` hands out: a handle and until when it may be asked. -/
structure Handout where
  handle : Nat := 0
  candidateDeadlineNs : Nat := 0
deriving DecidableEq

/-- The handout is `none` where there is no place for it. -/
def nextCandidate
    (round : JoinLookupRound)
    (outputs : Bool)
    (nowNs : Nat) :
    InviteCoordinatorResult × Option Handout × JoinLookupRound :=
  if !outputs ∨ round.submissionId = 0 then
    (.invalid, none, round)
  else if !round.active ∨ round.deadlineNs ≤ nowNs then
    (.expired, some {}, { round with active := false })
  else
    match round.candidates[round.nextIndex]? with
    | none =>
        (if round.hasMatch then .matchPendingApproval else .notFound, some {},
          { round with active := false })
    | some handle =>
        (.accepted,
          some
            { handle := handle
              candidateDeadlineNs :=
                min round.deadlineNs (addSaturated nowNs kLookupCandidateLifetimeNs) },
          { round with nextIndex := round.nextIndex + 1 })

def recordMatch
    (round : JoinLookupRound)
    (candidateHandle : Nat)
    (pairContextHash : Block 32) : InviteCoordinatorResult × JoinLookupRound :=
  if !round.active ∨ candidateHandle = 0 ∨ !nonzeroBytes pairContextHash ∨
      candidateHandle ∉ round.candidates then
    (.invalid, round)
  else if !round.hasMatch then
    (.matchPendingApproval,
      { round with matchedContext := pairContextHash, hasMatch := true })
  else if round.matchedContext = pairContextHash then
    (.duplicate, round)
  else
    (.ambiguous, { round with active := false })

end JoinLookupRound

inductive CoordinatorCall where
  | create
      (generation nowNs : Nat) (code : InviteCodeDigits) (ble qr : InviteChildMaterial)
  | cancel (generation : Nat)
  | lookup (code : InviteCodeDigits) (nowNs : Nat)
  | accept
      (generation : Nat) (route : Option InviteRoute) (childId : Block 16) (nowNs : Nat)
  | beginJoinSubmission (nowNs : Nat)
  | beginHostLookup (gattGeneration nowNs : Nat)
  | endHostLookup (gattGeneration : Nat)
deriving DecidableEq

/-- The clock value of a call, if it has one. -/
def CoordinatorCall.clock : CoordinatorCall → Option Nat
  | .create _ nowNs _ _ _ => some nowNs
  | .cancel _ => none
  | .lookup _ nowNs => some nowNs
  | .accept _ _ _ nowNs => some nowNs
  | .beginJoinSubmission nowNs => some nowNs
  | .beginHostLookup _ nowNs => some nowNs
  | .endHostLookup _ => none

/-- The clock of the calls never goes back. -/
def Nondecreasing (calls : List CoordinatorCall) : Prop :=
  (calls.filterMap CoordinatorCall.clock).Pairwise (· ≤ ·)

namespace InviteCoordinator

/-- A call and its result; the end of a lookup has none. -/
def perform
    (coordinator : InviteCoordinator) :
    CoordinatorCall → Option InviteCoordinatorResult × InviteCoordinator
  | .create generation nowNs code ble qr =>
      let (result, coordinator) := coordinator.create generation nowNs code ble qr
      (some result, coordinator)
  | .cancel generation =>
      let (result, coordinator) := coordinator.cancel generation
      (some result, coordinator)
  | .lookup code nowNs =>
      let (result, coordinator) := coordinator.lookup code nowNs
      (some result, coordinator)
  | .accept generation route childId nowNs =>
      let (result, coordinator) := coordinator.accept generation route childId nowNs
      (some result, coordinator)
  | .beginJoinSubmission nowNs =>
      let (result, coordinator) := coordinator.beginJoinSubmission nowNs
      (some result, coordinator)
  | .beginHostLookup gattGeneration nowNs =>
      let (result, coordinator) := coordinator.beginHostLookup gattGeneration nowNs
      (some result, coordinator)
  | .endHostLookup gattGeneration => (none, coordinator.endHostLookup gattGeneration)

end InviteCoordinator

abbrev CoordinatorEntry :=
  Logbook.Entry InviteCoordinator CoordinatorCall (Option InviteCoordinatorResult)

abbrev CoordinatorLog := List CoordinatorEntry

namespace CoordinatorLog

def ofCalls (calls : List CoordinatorCall) : CoordinatorLog :=
  Logbook.log InviteCoordinator.perform {} calls

/-- An invitation is created at a time. -/
def Creates (generation nowNs : Nat) (entry : CoordinatorEntry) : Prop :=
  ∃ code ble qr,
    entry.call = .create generation nowNs code ble qr ∧ entry.answer = some .ok

def Cancels (entry : CoordinatorEntry) : Prop :=
  ∃ generation, entry.call = .cancel generation ∧ entry.answer = some .ok

def Accepts (generation nowNs : Nat) (entry : CoordinatorEntry) : Prop :=
  ∃ route childId,
    entry.call = .accept generation route childId nowNs ∧
    entry.answer = some .accepted

/-- The times of the admitted joins. -/
def joinTimes (entries : CoordinatorLog) : List Nat :=
  entries.filterMap fun entry =>
    match entry.call, entry.answer with
    | .beginJoinSubmission nowNs, some .accepted => some nowNs
    | _, _ => none

/-- The times of the admitted lookups. -/
def lookupTimes (entries : CoordinatorLog) : List Nat :=
  entries.filterMap fun entry =>
    match entry.call, entry.answer with
    | .beginHostLookup _ nowNs, some .accepted => some nowNs
    | _, _ => none

/--
An invitation created at a time is still there: since then none was created, none
was accepted and it was not cancelled.
-/
def Available (generation createdNs : Nat) (entries : CoordinatorLog) : Prop :=
  ∃ earlier creating later,
    entries = earlier ++ creating :: later ∧ Creates generation createdNs creating ∧
    ∀ entry ∈ later,
      (∀ other nowNs, ¬ Creates other nowNs entry) ∧
      (∀ other nowNs, ¬ Accepts other nowNs entry) ∧ ¬ Cancels entry

end CoordinatorLog

inductive RoundCall where
  | start
      (submissionId nowNs invitationDeadlineNs : Nat) (candidates : List Nat)
  | nextCandidate (outputs : Bool) (nowNs : Nat)
  | recordMatch (candidateHandle : Nat) (pairContextHash : Block 32)
deriving DecidableEq

structure RoundAnswer where
  result : InviteCoordinatorResult
  handout : Option JoinLookupRound.Handout := none
deriving DecidableEq

namespace JoinLookupRound

def perform (round : JoinLookupRound) : RoundCall → RoundAnswer × JoinLookupRound
  | .start submissionId nowNs invitationDeadlineNs candidates =>
      let (result, round) :=
        round.start submissionId nowNs invitationDeadlineNs candidates
      ({ result := result }, round)
  | .nextCandidate outputs nowNs =>
      let (result, handout, round) := round.nextCandidate outputs nowNs
      ({ result := result, handout := handout }, round)
  | .recordMatch candidateHandle pairContextHash =>
      let (result, round) := round.recordMatch candidateHandle pairContextHash
      ({ result := result }, round)

end JoinLookupRound

abbrev RoundEntry := Logbook.Entry JoinLookupRound RoundCall RoundAnswer

abbrev RoundLog := List RoundEntry

namespace RoundLog

def ofCalls (calls : List RoundCall) : RoundLog :=
  Logbook.log JoinLookupRound.perform {} calls

def Starts (candidates : List Nat) (entry : RoundEntry) : Prop :=
  ∃ submissionId nowNs invitationDeadlineNs,
    entry.call = .start submissionId nowNs invitationDeadlineNs candidates ∧
    entry.answer.result = .accepted

/-- The handles that were handed out. -/
def handedOut (entries : RoundLog) : List Nat :=
  entries.filterMap fun entry =>
    match entry.call, entry.answer with
    | .nextCandidate _ _, { result := .accepted, handout := some handout } =>
        some handout.handle
    | _, _ => none

/-- The context hashes that were recorded. -/
def recorded (entries : RoundLog) : List (Block 32) :=
  entries.filterMap fun entry =>
    match entry.call with
    | .recordMatch _ pairContextHash =>
        if entry.answer.result = .invalid then none else some pairContextHash
    | _ => none

/-- The part of a log since its last start. -/
def Since (candidates : List Nat) (round entries : RoundLog) : Prop :=
  ∃ earlier starting,
    entries = earlier ++ starting :: round ∧ Starts candidates starting ∧
    ∀ entry ∈ round, ∀ others, ¬ Starts others entry

end RoundLog

namespace InviteCoordinator

open CoordinatorLog
open SlidingWindow

variable {coordinator : InviteCoordinator}
variable {entries : CoordinatorLog}

/-- Neither a creation nor an acceptance nor a cancel. -/
def Quiet (entry : CoordinatorEntry) : Prop :=
  (∀ generation nowNs, ¬ Creates generation nowNs entry) ∧
    (∀ generation nowNs, ¬ Accepts generation nowNs entry) ∧ ¬ Cancels entry

/-- What one call does to the invitation. -/
inductive Turn (coordinator : InviteCoordinator) (call : CoordinatorCall) : Prop where
  | created
      (generation nowNs : Nat)
      (creates :
        Creates generation nowNs (Logbook.entry perform coordinator call))
      (now :
        (coordinator.perform call).2.generation = generation ∧
          (coordinator.perform call).2.deadlineNs =
            addSaturated nowNs kInvitationLifetimeNs)
  | closed
      (inactive : (coordinator.perform call).2.active = false)
  | kept
      (quiet : Quiet (Logbook.entry perform coordinator call))
      (same :
        (coordinator.perform call).2.active = coordinator.active ∧
          (coordinator.perform call).2.generation = coordinator.generation ∧
          (coordinator.perform call).2.deadlineNs = coordinator.deadlineNs)

theorem create_cases
    (coordinator : InviteCoordinator)
    (generation nowNs : Nat)
    (code : InviteCodeDigits)
    (ble qr : InviteChildMaterial) :
    coordinator.create generation nowNs code ble qr = (.invalid, coordinator) ∨
      coordinator.create generation nowNs code ble qr =
        (.ok,
          { coordinator with
            generation := generation
            deadlineNs := addSaturated nowNs kInvitationLifetimeNs
            code := code
            ble := ble
            qr := qr
            active := true
            consumed := false
            inflightGatt := [] }) := by
  unfold create
  split
  · exact .inl rfl
  · exact .inr rfl

theorem turn
    (coordinator : InviteCoordinator)
    (call : CoordinatorCall) :
    coordinator.Turn call := by
  cases call with
  | create generation nowNs code ble qr =>
      rcases create_cases coordinator generation nowNs code ble qr with
        refused | created
      · refine .kept ⟨?_, ?_, ?_⟩ ?_ <;>
          simp [perform, refused, Creates, Accepts, Cancels, Logbook.entry]
      · refine .created generation nowNs ⟨code, ble, qr, rfl, ?_⟩ ?_ <;>
          simp [perform, created, Logbook.entry]
  | cancel generation =>
      by_cases refused : generation = 0 ∨ generation ≠ coordinator.generation
      · refine .kept ⟨?_, ?_, ?_⟩ ?_ <;>
          simp [perform, cancel, refused, Creates, Accepts, Cancels, Logbook.entry]
      · refine .closed ?_
        simp [perform, cancel, refused]
  | lookup code nowNs =>
      by_cases late : coordinator.active = true ∧ coordinator.deadlineNs ≤ nowNs
      · refine .closed ?_
        simp [perform, lookup, late]
      · refine .kept ⟨?_, ?_, ?_⟩ ?_
        · simp [Creates, Logbook.entry]
        · simp [Accepts, Logbook.entry]
        · simp [Cancels, Logbook.entry]
        · simp only [perform, lookup]
          split
          · exact ⟨rfl, rfl, rfl⟩
          next active =>
            rw [if_neg fun ended => late ⟨by simpa using active, ended⟩]
            exact ⟨rfl, rfl, rfl⟩
  | accept generation route childId nowNs =>
      by_cases taken :
          (coordinator.accept generation route childId nowNs).2.active = false
      · exact .closed taken
      · refine .kept ⟨?_, ?_, ?_⟩ ?_
        · simp [Creates, Logbook.entry]
        · rintro other otherNs ⟨otherRoute, otherChild, -, answer⟩
          refine taken ?_
          simp only [perform, Logbook.entry, Option.some.injEq] at answer
          unfold accept at answer ⊢
          grind
        · simp [Cancels, Logbook.entry]
        · simp only [perform]
          unfold accept at taken ⊢
          grind
  | beginJoinSubmission nowNs =>
      refine .kept ⟨?_, ?_, ?_⟩ ?_
      · simp [Creates, Logbook.entry]
      · simp [Accepts, Logbook.entry]
      · simp [Cancels, Logbook.entry]
      · simp only [perform, beginJoinSubmission]
        split <;> exact ⟨rfl, rfl, rfl⟩
  | beginHostLookup gattGeneration nowNs =>
      refine .kept ⟨?_, ?_, ?_⟩ ?_
      · simp [Creates, Logbook.entry]
      · simp [Accepts, Logbook.entry]
      · simp [Cancels, Logbook.entry]
      · simp only [perform, beginHostLookup]
        split
        · exact ⟨rfl, rfl, rfl⟩
        split
        · exact ⟨rfl, rfl, rfl⟩
        split <;> exact ⟨rfl, rfl, rfl⟩
  | endHostLookup gattGeneration =>
      refine .kept ⟨?_, ?_, ?_⟩ ⟨rfl, rfl, rfl⟩
      · simp [Creates, Logbook.entry]
      · simp [Accepts, Logbook.entry]
      · simp [Cancels, Logbook.entry]

/-- An open invitation was created at some time and is still there. -/
def Invites (entries : CoordinatorLog) (coordinator : InviteCoordinator) : Prop :=
  coordinator.active = true →
    ∃ createdNs,
      coordinator.deadlineNs = addSaturated createdNs kInvitationLifetimeNs ∧
      Available coordinator.generation createdNs entries

theorem Invites.perform
    (invites : Invites entries coordinator)
    (call : CoordinatorCall) :
    Invites (entries ++ [Logbook.entry InviteCoordinator.perform coordinator call])
      (coordinator.perform call).2 := by
  intro active
  cases coordinator.turn call with
  | created generation nowNs creates now =>
      refine ⟨nowNs, now.2, entries, _, [], rfl, ?_, by simp⟩
      rw [now.1]
      exact creates
  | closed inactive => rw [active] at inactive; cases inactive
  | kept quiet same =>
      obtain ⟨sameActive, sameGeneration, sameDeadline⟩ := same
      obtain ⟨createdNs, deadline, earlier, creating, later, rfl, creates, silent⟩ :=
        invites (sameActive ▸ active)
      refine ⟨createdNs, sameDeadline.trans deadline, earlier, creating,
        later ++ [Logbook.entry InviteCoordinator.perform coordinator call], by simp, ?_,
        ?_⟩
      · rwa [sameGeneration]
      · intro entry member
        rcases List.mem_append.1 member with old | new
        · exact silent entry old
        · obtain rfl := List.mem_singleton.1 new
          exact quiet

variable {call : CoordinatorCall}

/-- An acceptance finds its invitation open and before the deadline. -/
theorem accepts_active
    {generation nowNs : Nat}
    (accepts : Accepts generation nowNs (Logbook.entry perform coordinator call)) :
    coordinator.active = true ∧ coordinator.generation = generation ∧
      nowNs < coordinator.deadlineNs := by
  obtain ⟨route, childId, asked, answer⟩ := accepts
  obtain rfl : call = .accept generation route childId nowNs := asked
  simp only [perform, Logbook.entry, Option.some.injEq] at answer
  unfold accept at answer
  grind

/-- The clock values of a log. -/
def clocks (entries : CoordinatorLog) : List Nat :=
  (entries.map Logbook.Entry.call).filterMap CoordinatorCall.clock

/-- A limiter has stored what was recent at its last pruning. -/
def Remembers (entries : CoordinatorLog) (times stored : List Nat) : Prop :=
  ∃ pruned,
    (pruned = 0 ∨ pruned ∈ clocks entries) ∧
    stored = recent kInvitationLifetimeNs pruned times

theorem pruneWindow_eq
    (times : List Nat)
    (nowNs : Nat) :
    pruneWindow times nowNs = recent kInvitationLifetimeNs nowNs times := by
  unfold pruneWindow recent
  refine List.filter_congr fun time _ => ?_
  rw [Bool.eq_iff_iff]
  simp only [Bool.not_eq_true', Bool.and_eq_false_iff, decide_eq_false_iff_not,
    decide_eq_true_eq]
  have positive : 0 < kInvitationLifetimeNs := by decide
  omega

theorem clocks_append
    (first second : CoordinatorLog) :
    clocks (first ++ second) = clocks first ++ clocks second := by
  simp [clocks]

variable {times stored : List Nat}

theorem Remembers.mono
    (remembers : Remembers entries times stored)
    (more : CoordinatorLog) :
    Remembers (entries ++ more) times stored := by
  obtain ⟨pruned, since, stored⟩ := remembers
  refine ⟨pruned, since.imp_right fun member => ?_, stored⟩
  rw [clocks_append]
  exact List.mem_append_left _ member

variable {nowNs : Nat}

/-- Pruning now, with a clock that did not go back. -/
theorem Remembers.prune
    (remembers : Remembers entries times stored)
    (later : ∀ earlier ∈ clocks entries, earlier ≤ nowNs) :
    pruneWindow stored nowNs = recent kInvitationLifetimeNs nowNs times := by
  obtain ⟨pruned, since, rfl⟩ := remembers
  rw [pruneWindow_eq, recent_recent]
  rcases since with rfl | member
  · exact Nat.zero_le _
  · exact later pruned member

/-- What holds of the two limiters as long as the clock does not go back. -/
structure Limits (entries : CoordinatorLog) (coordinator : InviteCoordinator) : Prop where
  joins : Limited kInvitationLifetimeNs 5 (joinTimes entries)
  joinsStored : Remembers entries (joinTimes entries) coordinator.joinSubmissions
  lookups : Limited kInvitationLifetimeNs 20 (lookupTimes entries)
  lookupsStored : Remembers entries (lookupTimes entries) coordinator.hostLookups

theorem joinTimes_append
    (first second : CoordinatorLog) :
    joinTimes (first ++ second) = joinTimes first ++ joinTimes second :=
  List.filterMap_append ..

theorem lookupTimes_append
    (first second : CoordinatorLog) :
    lookupTimes (first ++ second) = lookupTimes first ++ lookupTimes second :=
  List.filterMap_append ..

/-- A call that is no admission keeps both limiters. -/
theorem Limits.unlimited
    (limits : Limits entries coordinator)
    (noJoin : joinTimes [Logbook.entry perform coordinator call] = [])
    (noLookup : lookupTimes [Logbook.entry perform coordinator call] = [])
    (sameJoins :
      (coordinator.perform call).2.joinSubmissions = coordinator.joinSubmissions)
    (sameLookups :
      (coordinator.perform call).2.hostLookups = coordinator.hostLookups) :
    Limits (entries ++ [Logbook.entry perform coordinator call])
      (coordinator.perform call).2 := by
  refine ⟨?_, ?_, ?_, ?_⟩
  · rw [joinTimes_append, noJoin, List.append_nil]
    exact limits.joins
  · rw [joinTimes_append, noJoin, List.append_nil, sameJoins]
    exact limits.joinsStored.mono _
  · rw [lookupTimes_append, noLookup, List.append_nil]
    exact limits.lookups
  · rw [lookupTimes_append, noLookup, List.append_nil, sameLookups]
    exact limits.lookupsStored.mono _

/-- A limiter that prunes at the time of a call. -/
theorem Remembers.pruned
    {entry : CoordinatorEntry}
    (remembers : Remembers entries times stored)
    (later : ∀ earlier ∈ clocks entries, earlier ≤ nowNs)
    (clock : entry.call.clock = some nowNs) :
    Remembers (entries ++ [entry]) times (pruneWindow stored nowNs) := by
  refine ⟨nowNs, .inr ?_, remembers.prune later⟩
  rw [clocks_append]
  exact List.mem_append_right _ (by simp [clocks, clock])

/-- A limiter that has room admits at the time of a call. -/
theorem Remembers.admitted
    {limit nowNs : Nat}
    (remembers : Remembers entries times stored)
    (limited : Limited kInvitationLifetimeNs limit times)
    (later : ∀ earlier ∈ clocks entries, earlier ≤ nowNs)
    (entry : CoordinatorEntry)
    (clock : entry.call.clock = some nowNs)
    (room : (pruneWindow stored nowNs).length < limit) :
    Limited kInvitationLifetimeNs limit (times ++ [nowNs]) ∧
      Remembers (entries ++ [entry]) (times ++ [nowNs])
        (pruneWindow stored nowNs ++ [nowNs]) := by
  have recents := remembers.prune later
  refine ⟨limited.concat (by rwa [← recents]), nowNs, .inr ?_, ?_⟩
  · rw [clocks_append]
    exact List.mem_append_right _ (by simp [clocks, clock])
  · rw [recents, recent_append (by decide)]

theorem Limits.beginJoinSubmission
    (limits : Limits entries coordinator)
    (later : ∀ earlier ∈ clocks entries, earlier ≤ nowNs) :
    Limits
      (entries ++
        [Logbook.entry InviteCoordinator.perform coordinator
          (.beginJoinSubmission nowNs)])
      (coordinator.perform (.beginJoinSubmission nowNs)).2 := by
  have noLookup :
      lookupTimes
          [Logbook.entry InviteCoordinator.perform coordinator
            (.beginJoinSubmission nowNs)] = [] :=
    rfl
  by_cases room : (pruneWindow coordinator.joinSubmissions nowNs).length < 5
  · have result :
        coordinator.perform (.beginJoinSubmission nowNs) =
          (some .accepted,
            { coordinator with
              joinSubmissions :=
                pruneWindow coordinator.joinSubmissions nowNs ++ [nowNs] }) := by
      simp only [InviteCoordinator.perform, InviteCoordinator.beginJoinSubmission]
      rw [if_neg (by omega)]
    obtain ⟨limited, remembers⟩ :=
      limits.joinsStored.admitted limits.joins later
        (Logbook.entry InviteCoordinator.perform coordinator
          (.beginJoinSubmission nowNs)) rfl room
    have joined :
        joinTimes
            [Logbook.entry InviteCoordinator.perform coordinator
              (.beginJoinSubmission nowNs)] = [nowNs] := by
      rw [Logbook.entry, result]
      rfl
    refine ⟨?_, ?_, ?_, ?_⟩
    · rw [joinTimes_append, joined]
      exact limited
    · rw [joinTimes_append, joined, result]
      exact remembers
    · rw [lookupTimes_append, noLookup, List.append_nil]
      exact limits.lookups
    · rw [lookupTimes_append, noLookup, List.append_nil, result]
      exact limits.lookupsStored.mono _
  · have result :
        coordinator.perform (.beginJoinSubmission nowNs) =
          (some .rateLimited,
            { coordinator with
              joinSubmissions := pruneWindow coordinator.joinSubmissions nowNs }) := by
      simp only [InviteCoordinator.perform, InviteCoordinator.beginJoinSubmission]
      rw [if_pos (by omega)]
    have joined :
        joinTimes
            [Logbook.entry InviteCoordinator.perform coordinator
              (.beginJoinSubmission nowNs)] = [] := by
      rw [Logbook.entry, result]
      rfl
    refine ⟨?_, ?_, ?_, ?_⟩
    · rw [joinTimes_append, joined, List.append_nil]
      exact limits.joins
    · rw [joinTimes_append, joined, List.append_nil, result]
      exact limits.joinsStored.pruned later rfl
    · rw [lookupTimes_append, noLookup, List.append_nil]
      exact limits.lookups
    · rw [lookupTimes_append, noLookup, List.append_nil, result]
      exact limits.lookupsStored.mono _

theorem Limits.beginHostLookup
    {gattGeneration nowNs : Nat}
    (limits : Limits entries coordinator)
    (later : ∀ earlier ∈ clocks entries, earlier ≤ nowNs) :
    Limits
      (entries ++
        [Logbook.entry InviteCoordinator.perform coordinator
          (.beginHostLookup gattGeneration nowNs)])
      (coordinator.perform (.beginHostLookup gattGeneration nowNs)).2 := by
  by_cases refused :
      gattGeneration = 0 ∨ coordinator.inflightGatt.contains gattGeneration = true
  · have result :
        ∃ answer, answer ≠ .accepted ∧
          coordinator.perform (.beginHostLookup gattGeneration nowNs) =
            (some answer, coordinator) := by
      simp only [InviteCoordinator.perform, InviteCoordinator.beginHostLookup]
      split
      · exact ⟨.invalid, by simp, rfl⟩
      next positive =>
        rw [if_pos (refused.resolve_left positive)]
        exact ⟨.busy, by simp, rfl⟩
    obtain ⟨answer, notAccepted, result⟩ := result
    refine limits.unlimited rfl ?_ (by rw [result]) (by rw [result])
    rw [Logbook.entry, result]
    cases answer <;> first | rfl | exact (notAccepted rfl).elim
  · obtain ⟨positive, free⟩ := not_or.1 refused
    have noJoin :
        joinTimes
            [Logbook.entry InviteCoordinator.perform coordinator
              (.beginHostLookup gattGeneration nowNs)] = [] :=
      rfl
    by_cases room : (pruneWindow coordinator.hostLookups nowNs).length < 20
    · have result :
          coordinator.perform (.beginHostLookup gattGeneration nowNs) =
            (some .accepted,
              { coordinator with
                hostLookups := pruneWindow coordinator.hostLookups nowNs ++ [nowNs]
                inflightGatt := coordinator.inflightGatt ++ [gattGeneration] }) := by
        simp only [InviteCoordinator.perform, InviteCoordinator.beginHostLookup]
        rw [if_neg positive, if_neg free, if_neg (by omega)]
      obtain ⟨limited, remembers⟩ :=
        limits.lookupsStored.admitted limits.lookups later
          (Logbook.entry InviteCoordinator.perform coordinator
            (.beginHostLookup gattGeneration nowNs)) rfl room
      have looked :
          lookupTimes
              [Logbook.entry InviteCoordinator.perform coordinator
                (.beginHostLookup gattGeneration nowNs)] = [nowNs] := by
        rw [Logbook.entry, result]
        rfl
      refine ⟨?_, ?_, ?_, ?_⟩
      · rw [joinTimes_append, noJoin, List.append_nil]
        exact limits.joins
      · rw [joinTimes_append, noJoin, List.append_nil, result]
        exact limits.joinsStored.mono _
      · rw [lookupTimes_append, looked]
        exact limited
      · rw [lookupTimes_append, looked, result]
        exact remembers
    · have result :
          coordinator.perform (.beginHostLookup gattGeneration nowNs) =
            (some .rateLimited,
              { coordinator with
                hostLookups := pruneWindow coordinator.hostLookups nowNs }) := by
        simp only [InviteCoordinator.perform, InviteCoordinator.beginHostLookup]
        rw [if_neg positive, if_neg free, if_pos (by omega)]
      have looked :
          lookupTimes
              [Logbook.entry InviteCoordinator.perform coordinator
                (.beginHostLookup gattGeneration nowNs)] = [] := by
        rw [Logbook.entry, result]
        rfl
      refine ⟨?_, ?_, ?_, ?_⟩
      · rw [joinTimes_append, noJoin, List.append_nil]
        exact limits.joins
      · rw [joinTimes_append, noJoin, List.append_nil, result]
        exact limits.joinsStored.mono _
      · rw [lookupTimes_append, looked, List.append_nil]
        exact limits.lookups
      · rw [lookupTimes_append, looked, List.append_nil, result]
        exact limits.lookupsStored.pruned later rfl

theorem Limits.perform
    (limits : Limits entries coordinator)
    (later : ∀ nowNs, call.clock = some nowNs →
      ∀ earlier ∈ clocks entries, earlier ≤ nowNs) :
    Limits (entries ++ [Logbook.entry InviteCoordinator.perform coordinator call])
      (coordinator.perform call).2 := by
  cases call with
  | create generation nowNs code ble qr =>
      rcases create_cases coordinator generation nowNs code ble qr with result | result <;>
        exact
          limits.unlimited rfl rfl
            (by simp only [InviteCoordinator.perform, result])
            (by simp only [InviteCoordinator.perform, result])
  | cancel generation =>
      refine limits.unlimited rfl rfl ?_ ?_ <;>
        simp only [InviteCoordinator.perform, InviteCoordinator.cancel] <;>
        split <;> rfl
  | lookup code nowNs =>
      refine limits.unlimited rfl rfl ?_ ?_ <;>
        simp only [InviteCoordinator.perform, InviteCoordinator.lookup] <;>
        split <;> first | rfl | (split <;> rfl)
  | accept generation route childId nowNs =>
      refine limits.unlimited rfl rfl ?_ ?_ <;>
        simp only [InviteCoordinator.perform] <;>
        unfold InviteCoordinator.accept <;> grind
  | beginJoinSubmission nowNs => exact limits.beginJoinSubmission (later nowNs rfl)
  | beginHostLookup gattGeneration nowNs =>
      exact limits.beginHostLookup (later nowNs rfl)
  | endHostLookup gattGeneration => exact limits.unlimited rfl rfl rfl rfl

/-- What holds of the log and the coordinator in every run. -/
structure Keeps (entries : CoordinatorLog) (coordinator : InviteCoordinator) : Prop where
  invites : Invites entries coordinator
  accepted : Chronology.Every
    (fun earlier entry =>
      ∀ generation nowNs,
        Accepts generation nowNs entry →
        ∃ createdNs,
          Available generation createdNs earlier ∧
          nowNs < addSaturated createdNs kInvitationLifetimeNs)
    entries
  limits : (clocks entries).Pairwise (· ≤ ·) → Limits entries coordinator

theorem Keeps.perform
    (keeps : Keeps entries coordinator)
    (call : CoordinatorCall) :
    Keeps (entries ++ [Logbook.entry InviteCoordinator.perform coordinator call])
      (coordinator.perform call).2 := by
  refine ⟨keeps.invites.perform call, keeps.accepted.concat ?_, ?_⟩
  · intro generation nowNs accepts
    obtain ⟨active, rfl, inTime⟩ := accepts_active accepts
    obtain ⟨createdNs, deadline, available⟩ := keeps.invites active
    exact ⟨createdNs, available, by rwa [← deadline]⟩
  · intro ordered
    rw [clocks_append, List.pairwise_append] at ordered
    refine (keeps.limits ordered.1).perform ?_
    intro nowNs clock earlier member
    exact ordered.2.2 earlier member nowNs (by simp [clocks, Logbook.entry, clock])

theorem keeps_run (calls : List CoordinatorCall) :
    Keeps (ofCalls calls) (Logbook.after perform {} calls) := by
  refine Logbook.run_keeps perform Keeps ?_ (fun _ _ call keeps => keeps.perform call) calls
  exact
    ⟨by simp [Invites], .nil, fun _ =>
      ⟨limited_nil, ⟨0, .inl rfl, rfl⟩, limited_nil, ⟨0, .inl rfl, rfl⟩⟩⟩

end InviteCoordinator

namespace JoinLookupRound

open RoundLog

variable {round : JoinLookupRound}
variable {entries : RoundLog}

theorem handedOut_append
    (first second : RoundLog) :
    handedOut (first ++ second) = handedOut first ++ handedOut second :=
  List.filterMap_append ..

theorem recorded_append
    (first second : RoundLog) :
    recorded (first ++ second) = recorded first ++ recorded second :=
  List.filterMap_append ..

/-- What the calls of a round since its start have left in it. -/
structure Holds (calls : RoundLog) (round : JoinLookupRound) : Prop where
  nodup : round.candidates.Nodup
  handed : handedOut calls = round.candidates.take round.nextIndex
  agreed : round.active = true → ∀ hash ∈ recorded calls, hash = round.matchedContext
  matched : round.active = true → (round.hasMatch = true ↔ recorded calls ≠ [])

/-- Where the rounds stand. -/
inductive Course (entries : RoundLog) (round : JoinLookupRound) : Prop where
  | unstarted
      (inactive : round.active = false)
      (unsubmitted : round.submissionId = 0)
      (none : ∀ entry ∈ entries, ∀ candidates, ¬ Starts candidates entry)
  | started
      (calls : RoundLog)
      (since : Since round.candidates calls entries)
      (holds : Holds calls round)

theorem start_cases
    (round : JoinLookupRound)
    (submissionId nowNs invitationDeadlineNs : Nat)
    (candidates : List Nat) :
    round.start submissionId nowNs invitationDeadlineNs candidates =
        (.invalid, round) ∨
      candidates.Nodup ∧
        round.start submissionId nowNs invitationDeadlineNs candidates =
          (.accepted,
            { submissionId := submissionId
              deadlineNs :=
                min invitationDeadlineNs (addSaturated nowNs kLookupRoundLifetimeNs)
              candidates := candidates
              nextIndex := 0
              matchedContext := Block.zero 32
              hasMatch := false
              active := true }) := by
  unfold start
  split
  · exact .inl rfl
  split
  · exact .inl rfl
  next distinct =>
    simp only [not_or, not_not] at distinct
    exact .inr ⟨distinct.2, rfl⟩

variable {calls : RoundLog}

theorem since_append
    {candidates : List Nat}
    {entry : RoundEntry}
    (since : Since candidates calls entries)
    (noStart : ∀ others, ¬ Starts others entry) :
    Since candidates (calls ++ [entry]) (entries ++ [entry]) := by
  obtain ⟨earlier, starting, rfl, starts, silent⟩ := since
  refine ⟨earlier, starting, by simp, starts, ?_⟩
  intro other member
  rcases List.mem_append.1 member with old | new
  · exact silent other old
  · obtain rfl := List.mem_singleton.1 new
    exact noStart

theorem nextCandidate_keeps
    (holds : Holds calls round)
    (outputs : Bool)
    (nowNs : Nat) :
    Holds (calls ++ [Logbook.entry perform round (.nextCandidate outputs nowNs)])
        (round.perform (.nextCandidate outputs nowNs)).2 ∧
      (round.perform (.nextCandidate outputs nowNs)).2.candidates =
        round.candidates := by
  have noRecord :
      recorded [Logbook.entry perform round (.nextCandidate outputs nowNs)] = [] :=
    rfl
  have silent
      (result :
        handedOut [Logbook.entry perform round (.nextCandidate outputs nowNs)] = []) :
      handedOut (calls ++ [Logbook.entry perform round (.nextCandidate outputs nowNs)]) =
        round.candidates.take round.nextIndex := by
    rw [handedOut_append, result, List.append_nil, holds.handed]
  have sameRecords :
      recorded (calls ++ [Logbook.entry perform round (.nextCandidate outputs nowNs)]) =
        recorded calls := by
    rw [recorded_append, noRecord, List.append_nil]
  by_cases invalid : !outputs ∨ round.submissionId = 0
  · have result :
        round.perform (.nextCandidate outputs nowNs) = ({ result := .invalid }, round) := by
      simp only [perform, nextCandidate, invalid, if_true]
    rw [Logbook.entry, result] at silent sameRecords ⊢
    exact
      ⟨⟨holds.nodup, silent rfl, by rw [sameRecords]; exact holds.agreed,
        by rw [sameRecords]; exact holds.matched⟩, rfl⟩
  by_cases late : !round.active ∨ round.deadlineNs ≤ nowNs
  · have result :
        round.perform (.nextCandidate outputs nowNs) =
          ({ result := .expired, handout := some {} }, { round with active := false }) := by
      simp only [perform, nextCandidate, invalid, late, if_true, if_false]
    rw [Logbook.entry, result] at silent ⊢
    exact ⟨⟨holds.nodup, silent rfl, by simp, by simp⟩, rfl⟩
  cases found : round.candidates[round.nextIndex]? with
  | none =>
      have result :
          round.perform (.nextCandidate outputs nowNs) =
            ({ result := if round.hasMatch then .matchPendingApproval else .notFound
               handout := some {} }, { round with active := false }) := by
        simp only [perform, nextCandidate, invalid, late, found, if_false]
      rw [Logbook.entry, result] at silent ⊢
      refine ⟨⟨holds.nodup, silent ?_, by simp, by simp⟩, rfl⟩
      cases round.hasMatch <;> rfl
  | some handle =>
      have result :
          round.perform (.nextCandidate outputs nowNs) =
            ({ result := .accepted
               handout :=
                some
                  { handle := handle
                    candidateDeadlineNs :=
                      min round.deadlineNs
                        (addSaturated nowNs kLookupCandidateLifetimeNs) } },
              { round with nextIndex := round.nextIndex + 1 }) := by
        simp only [perform, nextCandidate, invalid, late, found, if_false]
      rw [Logbook.entry, result] at sameRecords ⊢
      refine
        ⟨⟨holds.nodup, ?_, by rw [sameRecords]; exact holds.agreed,
          by rw [sameRecords]; exact holds.matched⟩, rfl⟩
      rw [handedOut_append, holds.handed, List.take_add_one, found]
      rfl

theorem recordMatch_keeps
    (holds : Holds calls round)
    (candidateHandle : Nat)
    (hash : Block 32) :
    Holds (calls ++ [Logbook.entry perform round (.recordMatch candidateHandle hash)])
        (round.perform (.recordMatch candidateHandle hash)).2 ∧
      (round.perform (.recordMatch candidateHandle hash)).2.candidates =
        round.candidates := by
  have handed :
      handedOut
          (calls ++ [Logbook.entry perform round (.recordMatch candidateHandle hash)]) =
        round.candidates.take round.nextIndex := by
    rw [handedOut_append, holds.handed]
    exact List.append_nil _
  by_cases invalid :
      !round.active ∨ candidateHandle = 0 ∨ !nonzeroBytes hash ∨
        candidateHandle ∉ round.candidates
  · have result :
        round.perform (.recordMatch candidateHandle hash) =
          ({ result := .invalid }, round) := by
      simp only [perform, recordMatch, invalid, if_true]
    have records :
        recorded
            (calls ++ [Logbook.entry perform round (.recordMatch candidateHandle hash)]) =
          recorded calls := by
      rw [recorded_append, Logbook.entry, result]
      exact List.append_nil _
    rw [result]
    exact
      ⟨⟨holds.nodup, handed, by rw [records]; exact holds.agreed,
        by rw [records]; exact holds.matched⟩, rfl⟩
  have active : round.active = true := by
    simp only [not_or] at invalid
    simpa using invalid.1
  have records
      (valid :
        (round.perform (.recordMatch candidateHandle hash)).1.result ≠ .invalid) :
      recorded
          (calls ++ [Logbook.entry perform round (.recordMatch candidateHandle hash)]) =
        recorded calls ++ [hash] := by
    rw [recorded_append]
    simp [recorded, Logbook.entry, valid]
  cases first : round.hasMatch with
  | false =>
      have result :
          round.perform (.recordMatch candidateHandle hash) =
            ({ result := .matchPendingApproval },
              { round with matchedContext := hash, hasMatch := true }) := by
        simp only [perform, recordMatch, invalid, first, Bool.not_false, if_true, if_false]
      have nothing : recorded calls = [] := by
        have matched := holds.matched active
        rw [first] at matched
        by_contra other
        exact Bool.false_ne_true (matched.2 other)
      have one := records (by rw [result]; simp)
      rw [nothing, List.nil_append] at one
      rw [result]
      exact
        ⟨⟨holds.nodup, handed, fun _ => by rw [one]; simp,
          fun _ => by rw [one]; simp⟩, rfl⟩
  | true =>
      by_cases same : round.matchedContext = hash
      · have result :
            round.perform (.recordMatch candidateHandle hash) =
              ({ result := .duplicate }, round) := by
          simp only [perform, recordMatch, invalid, first, same, Bool.not_true,
            Bool.false_eq_true, if_true, if_false]
        have more := records (by rw [result]; simp)
        rw [result]
        refine ⟨⟨holds.nodup, handed, ?_, ?_⟩, rfl⟩
        · intro _
          rw [more]
          intro other member
          rcases List.mem_append.1 member with old | new
          · exact holds.agreed active other old
          · exact (List.mem_singleton.1 new).trans same.symm
        · intro _
          rw [more]
          simp [first]
      · have result :
            round.perform (.recordMatch candidateHandle hash) =
              ({ result := .ambiguous }, { round with active := false }) := by
          simp only [perform, recordMatch, invalid, first, same, Bool.not_true,
            Bool.false_eq_true, if_false]
        rw [result]
        exact ⟨⟨holds.nodup, handed, by simp, by simp⟩, rfl⟩

theorem Course.perform
    (course : Course entries round)
    (call : RoundCall) :
    Course (entries ++ [Logbook.entry JoinLookupRound.perform round call])
      (round.perform call).2 := by
  have stays
      (noStart :
        ∀ others, ¬ Starts others (Logbook.entry JoinLookupRound.perform round call))
      (none : ∀ entry ∈ entries, ∀ candidates, ¬ Starts candidates entry) :
      ∀ entry ∈ entries ++ [Logbook.entry JoinLookupRound.perform round call],
        ∀ candidates, ¬ Starts candidates entry := by
    intro entry member
    rcases List.mem_append.1 member with old | new
    · exact none entry old
    · obtain rfl := List.mem_singleton.1 new
      exact noStart
  cases call with
  | start submissionId nowNs invitationDeadlineNs candidates =>
      rcases start_cases round submissionId nowNs invitationDeadlineNs candidates with
        refused | ⟨nodup, accepted⟩
      · have result :
            round.perform
                (.start submissionId nowNs invitationDeadlineNs candidates) =
              ({ result := .invalid }, round) := by
          simp only [JoinLookupRound.perform, refused]
        have noStart :
            ∀ others,
              ¬ Starts others
                (Logbook.entry JoinLookupRound.perform round
                  (.start submissionId nowNs invitationDeadlineNs candidates)) := by
          rintro others ⟨_, _, _, -, answer⟩
          rw [Logbook.entry, result] at answer
          cases answer
        rw [result]
        cases course with
        | unstarted inactive unsubmitted none =>
            exact .unstarted inactive unsubmitted (stays noStart none)
        | started calls since holds =>
            refine .started _ (since_append since noStart) ?_
            refine ⟨holds.nodup, ?_, ?_, ?_⟩
            · rw [handedOut_append, holds.handed]
              exact List.append_nil _
            · rw [recorded_append]
              simpa [recorded, Logbook.entry] using holds.agreed
            · rw [recorded_append]
              simpa [recorded, Logbook.entry] using holds.matched
      · have result :
            round.perform
                (.start submissionId nowNs invitationDeadlineNs candidates) =
              ({ result := .accepted },
                (round.start submissionId nowNs invitationDeadlineNs candidates).2) := by
          simp only [JoinLookupRound.perform, accepted]
        rw [result, accepted]
        refine .started [] ?_ ⟨nodup, rfl, by simp [recorded], by simp [recorded]⟩
        exact
          ⟨entries, _, rfl,
            ⟨submissionId, nowNs, invitationDeadlineNs, rfl, by
              rw [Logbook.entry, result]⟩,
            by simp⟩
  | nextCandidate outputs nowNs =>
      have noStart :
          ∀ others,
            ¬ Starts others
              (Logbook.entry JoinLookupRound.perform round
                (.nextCandidate outputs nowNs)) := by
        rintro others ⟨_, _, _, asked, -⟩
        cases asked
      cases course with
      | unstarted inactive unsubmitted none =>
          have result :
              round.perform (.nextCandidate outputs nowNs) =
                ({ result := .invalid }, round) := by
            simp only [JoinLookupRound.perform, nextCandidate, unsubmitted, or_true, if_true]
          rw [result]
          exact .unstarted inactive unsubmitted (stays noStart none)
      | started calls since holds =>
          obtain ⟨now, same⟩ := nextCandidate_keeps holds outputs nowNs
          exact .started _ (by rw [same]; exact since_append since noStart) now
  | recordMatch candidateHandle hash =>
      have noStart :
          ∀ others,
            ¬ Starts others
              (Logbook.entry JoinLookupRound.perform round
                (.recordMatch candidateHandle hash)) := by
        rintro others ⟨_, _, _, asked, -⟩
        cases asked
      cases course with
      | unstarted inactive unsubmitted none =>
          have result :
              round.perform (.recordMatch candidateHandle hash) =
                ({ result := .invalid }, round) := by
            simp [JoinLookupRound.perform, recordMatch, inactive]
          rw [result]
          exact .unstarted inactive unsubmitted (stays noStart none)
      | started calls since holds =>
          obtain ⟨now, same⟩ := recordMatch_keeps holds candidateHandle hash
          exact .started _ (by rw [same]; exact since_append since noStart) now

theorem course_run (calls : List RoundCall) :
    Course (ofCalls calls) (Logbook.after perform {} calls) := by
  refine Logbook.run_keeps perform Course ?_ (fun _ _ call course => course.perform call) calls
  exact .unstarted rfl rfl (by simp)

end JoinLookupRound

namespace InviteCoordinator

open CoordinatorLog
open SlidingWindow

/--
Every run of a coordinator whose clock does not go back, and every run of a lookup
round.  An acceptance comes at most once after each creation, before its deadline
and not after its cancel; no window of the length of a lifetime holds more than
five admitted joins or more than twenty admitted lookups.  A round hands out the
candidates of a start in their order, each once, and it ends with a match only if
all hashes that were recorded since the start are the same.
-/
theorem invitation_limits
    (calls : List CoordinatorCall)
    (roundCalls : List RoundCall)
    (clock : Nondecreasing calls) :
    (∀ earlier entry later,
      CoordinatorLog.ofCalls calls = earlier ++ entry :: later →
      ∀ generation nowNs,
        Accepts generation nowNs entry →
        ∃ createdNs,
          Available generation createdNs earlier ∧
          nowNs < addSaturated createdNs kInvitationLifetimeNs) ∧
    (∀ first,
      (windowed kInvitationLifetimeNs first
        (joinTimes (CoordinatorLog.ofCalls calls))).length ≤ 5) ∧
    (∀ first,
      (windowed kInvitationLifetimeNs first
        (lookupTimes (CoordinatorLog.ofCalls calls))).length ≤ 20) ∧
    (∀ candidates round,
      RoundLog.Since candidates round (RoundLog.ofCalls roundCalls) →
      candidates.Nodup ∧
      (∃ count, RoundLog.handedOut round = candidates.take count) ∧
      ∀ outputs nowNs,
        ((Logbook.after JoinLookupRound.perform {} roundCalls).nextCandidate outputs
            nowNs).1 = .matchPendingApproval →
        RoundLog.recorded round ≠ [] ∧
          ∃ agreed, ∀ hash ∈ RoundLog.recorded round, hash = agreed) := by
  have keeps := keeps_run calls
  have ordered : (clocks (CoordinatorLog.ofCalls calls)).Pairwise (· ≤ ·) := by
    rw [clocks, CoordinatorLog.ofCalls, Logbook.log_calls]
    exact clock
  have limits := keeps.limits ordered
  refine ⟨keeps.accepted, limits.joins, limits.lookups, ?_⟩
  rintro candidates round ⟨earlier, starting, shape, starts, silent⟩
  cases JoinLookupRound.course_run roundCalls with
  | unstarted inactive unsubmitted none =>
      exact (none starting (by rw [shape]; simp) candidates starts).elim
  | started calls' since holds =>
      obtain ⟨earlier', starting', shape', starts', silent'⟩ := since
      obtain ⟨-, rfl, rfl⟩ :=
        Logbook.last_unique (fun entry => ∃ others, RoundLog.Starts others entry)
          (shape.symm.trans shape') ⟨candidates, starts⟩ ⟨_, starts'⟩
          (fun other member => not_exists.2 (silent other member))
          (fun other member => not_exists.2 (silent' other member))
      have sameCandidates :
          (Logbook.after JoinLookupRound.perform {} roundCalls).candidates =
            candidates := by
        obtain ⟨_, _, _, asked, -⟩ := starts
        obtain ⟨_, _, _, asked', -⟩ := starts'
        rw [asked] at asked'
        injection asked' with _ _ _ same
        exact same.symm
      refine ⟨sameCandidates ▸ holds.nodup, ⟨_, sameCandidates ▸ holds.handed⟩, ?_⟩
      intro outputs nowNs ended
      unfold JoinLookupRound.nextCandidate at ended
      split at ended
      · cases ended
      split at ended
      · cases ended
      next live =>
        have active :
            (Logbook.after JoinLookupRound.perform {} roundCalls).active = true := by
          simp only [not_or] at live
          simpa using live.1
        refine ⟨?_, _, holds.agreed active⟩
        split at ended
        · split at ended
          next hasMatch => exact (holds.matched active).1 hasMatch
          · cases ended
        · cases ended

/-! Seven joins within one minute, of which the sixth is refused. -/

def sampleJoins : List CoordinatorCall :=
  [0, 1, 2, 3, 4, 5, 60000000000].map .beginJoinSubmission

theorem sample_windows :
    (windowed kInvitationLifetimeNs 1
      (joinTimes (CoordinatorLog.ofCalls sampleJoins))).length ≤ 5 :=
  (invitation_limits sampleJoins [] (by unfold Nondecreasing; decide)).2.1 1

/-- The limit is reached. -/
example :
    windowed kInvitationLifetimeNs 1 (joinTimes (CoordinatorLog.ofCalls sampleJoins)) =
      [1, 2, 3, 4, 60000000000] := by
  decide

end InviteCoordinator

end FlyNes.InviteCode
