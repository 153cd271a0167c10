import FlyNes.PairReducer
import Mathlib.Tactic.IntervalCases

namespace FlyNes.Pair

open ByteString
open FlyNes.Wire
open FlyNes.Ports

/-!
# The language of pair authentication

The calls of a reducer that lead to evidence form a script of eight lines: the
begin, the signatures of both roles, the approval of the user, the two key
confirmations with either role first, and the capability reveals of both roles.
A course of calls either follows the script of one start, or it has left it and
the reducer has failed, or the evidence has been released.
-/

/--
A call of the reducer.  A role is `none` where the argument names neither of the
two roles, and a start is `none` where its own role does not.
-/
inductive ReducerCall where
  | begin (start : Option PairAuthStart)
  | acceptProviderVerification
      (operationId : Nat) (payloadKind : PayloadKind) (role : Option PairRole)
  | approveLocal (approvalKind : Nat)
  | acceptCapabilityReveal
      (sender : Option PairRole) (summary : CapabilitySummary)
      (logicalHash : PlanHash)
  | takeVerifiedEvidence
deriving DecidableEq

inductive ReducerAnswer where
  | result (accepted : Bool)
  | evidence (released : Option VerifiedPairEvidence)
deriving DecidableEq

namespace ReducerCall

def takes : ReducerCall → Bool
  | .takeVerifiedEvidence => true
  | _ => false

/-- The approval kind that the entry mode, the known path and the role call for. -/
def approvalFor (start : PairAuthStart) : Nat :=
  if start.entryMode == 2 then
    if start.localRole = .initiator then approvalQrInviterAccept
    else approvalQrScannerJoin
  else if start.knownPath then
    if start.localRole = .initiator then approvalKnownFriendInvite
    else approvalKnownFriendAccept
  else
    approvalBleSasMatch

/-- A start is complete and its transcript can be built. -/
def Begins (start : PairAuthStart) : Prop :=
  PairAuthenticationReducer.validStart start = true ∧
    ∃ transcript,
      buildPairTranscriptPreimageV1 start.entryMode start.entryContextHash
        start.initiatorCommit.commitment start.responderCommit.commitment
        start.initiatorContribution start.responderContribution =
          .ok transcript

/-- The summary hash that the transcript binds for a role. -/
def summaryHashOf (start : PairAuthStart) : PairRole → PlanHash
  | .initiator => start.initiatorContribution.capabilitySummaryHash
  | .responder => start.responderContribution.capabilitySummaryHash

/-- A reveal of a role whose summary hashes to the value in the transcript. -/
def Reveals
    (wellFormed : CapabilitySummary → PlanHash → Prop)
    (start : PairAuthStart)
    (sender : PairRole)
    (call : ReducerCall) : Prop :=
  ∃ summary logicalHash,
    call = .acceptCapabilityReveal (some sender) summary logicalHash ∧
    domainHash (ascii "flynes-pair-capability-summary-v1") summary.bytes =
      summaryHashOf start sender ∧
    wellFormed summary logicalHash

/-- The lines of the script; `first` is the role that confirms its key first. -/
def Line
    (wellFormed : CapabilitySummary → PlanHash → Prop)
    (start : PairAuthStart)
    (first : PairRole) : Nat → ReducerCall → Prop
  | 0, call => call = .begin (some start) ∧ Begins start
  | 1, call =>
      call = .acceptProviderVerification
        (start.signatureOperationIds.get .initiator) .pairSignatureVerified
        (some .initiator)
  | 2, call =>
      call = .acceptProviderVerification
        (start.signatureOperationIds.get .responder) .pairSignatureVerified
        (some .responder)
  | 3, call => call = .approveLocal (approvalFor start)
  | 4, call =>
      call = .acceptProviderVerification
        (start.keyConfirmOperationIds.get first) .pairKeyConfirmVerified
        (some first)
  | 5, call =>
      call = .acceptProviderVerification
        (start.keyConfirmOperationIds.get first.other) .pairKeyConfirmVerified
        (some first.other)
  | 6, call => Reveals wellFormed start .initiator call
  | 7, call => Reveals wellFormed start .responder call
  | _, _ => False

/-- The calls stand in the script of one start, from its first line on. -/
def Follows
    (wellFormed : CapabilitySummary → PlanHash → Prop)
    (start : PairAuthStart)
    (first : PairRole)
    (calls : List ReducerCall) : Prop :=
  ∀ index call,
    calls[index]? = some call → Line wellFormed start first index call

/-- The calls are the first lines of some script. -/
def InOrder
    (wellFormed : CapabilitySummary → PlanHash → Prop)
    (calls : List ReducerCall) : Prop :=
  ∃ start first, Follows wellFormed start first calls

/-- The calls are a whole script. -/
def Authentic
    (wellFormed : CapabilitySummary → PlanHash → Prop)
    (calls : List ReducerCall) : Prop :=
  InOrder wellFormed calls ∧ calls.length = 8

/-- What the reducer asks of a reveal besides the hash of its summary. -/
def WellFormedReveal
    (summary : CapabilitySummary)
    (logicalHash : PlanHash) : Prop :=
  nonzero logicalHash = true ∧ validCapability summary = true

namespace Follows

variable {wellFormed : CapabilitySummary → PlanHash → Prop}
variable {start start' : PairAuthStart}
variable {first first' : PairRole}
variable {calls more : List ReducerCall}
variable {call : ReducerCall}

theorem append
    (follows : Follows wellFormed start first calls)
    (line : Line wellFormed start first calls.length call) :
    Follows wellFormed start first (calls ++ [call]) := by
  intro index other found
  rw [List.getElem?_append] at found
  split at found
  next => exact follows index other found
  next past =>
    obtain ⟨index, rfl⟩ := Nat.exists_eq_add_of_le (Nat.not_lt.1 past)
    cases index with
    | zero =>
        obtain rfl : call = other := by simpa using found
        exact line
    | succ index => simp at found

theorem of_append
    (follows : Follows wellFormed start first (calls ++ more)) :
    Follows wellFormed start first calls := by
  intro index call found
  refine follows index call ?_
  rw [List.getElem?_append_left (List.getElem?_eq_some_iff.1 found).1]
  exact found

theorem last
    (follows : Follows wellFormed start first (calls ++ [call])) :
    Line wellFormed start first calls.length call :=
  follows calls.length call (by simp)

theorem length_le
    (follows : Follows wellFormed start first calls) :
    calls.length ≤ 8 := by
  by_contra long
  exact follows 8 calls[8] (List.getElem?_eq_getElem (by omega))

/-- Which role confirms first is open up to the fourth line. -/
theorem repick
    (follows : Follows wellFormed start first calls)
    (undecided : calls.length ≤ 4)
    (again : PairRole) :
    Follows wellFormed start again calls := by
  intro index call found
  have line := follows index call found
  have bound := (List.getElem?_eq_some_iff.1 found).1
  match index with
  | 0 | 1 | 2 | 3 => exact line
  | _ + 4 => omega

/-- Calls follow one start, and from the fifth line on one first role. -/
theorem unique
    (follows : Follows wellFormed start first calls)
    (follows' : Follows wellFormed start' first' calls)
    (begun : 1 ≤ calls.length) :
    start' = start ∧ (calls.length ≤ 4 ∨ first' = first) := by
  have opening : calls[0]? = some calls[0] := List.getElem?_eq_getElem begun
  have sameStart : start' = start := by
    have line := (follows 0 _ opening).1
    have line' := (follows' 0 _ opening).1
    grind
  refine ⟨sameStart, ?_⟩
  by_cases undecided : calls.length ≤ 4
  · exact .inl undecided
  · have decided : calls[4]? = some calls[4] := List.getElem?_eq_getElem (by omega)
    have line : calls[4] = _ := follows 4 _ decided
    have line' : calls[4] = _ := follows' 4 _ decided
    rw [line] at line'
    simp only [ReducerCall.acceptProviderVerification.injEq, Option.some.injEq]
      at line'
    exact .inr line'.2.2.symm

end Follows

end ReducerCall

namespace PairAuthenticationReducer

open ReducerCall

def perform
    (state : PairAuthenticationReducer) :
    ReducerCall → ReducerAnswer × PairAuthenticationReducer
  | .begin (some start) =>
      let (accepted, state) := state.begin start
      (.result accepted, state)
  | .begin none =>
      let (accepted, state) := state.reject
      (.result accepted, state)
  | .acceptProviderVerification operationId payloadKind (some role) =>
      let (accepted, state) :=
        state.acceptProviderVerification operationId payloadKind role
      (.result accepted, state)
  | .acceptProviderVerification _ _ none =>
      let (accepted, state) := state.reject
      (.result accepted, state)
  | .approveLocal approvalKind =>
      let (accepted, state) := state.approveLocal approvalKind
      (.result accepted, state)
  | .acceptCapabilityReveal (some sender) summary logicalHash =>
      let (accepted, state) := state.acceptCapabilityReveal sender summary logicalHash
      (.result accepted, state)
  | .acceptCapabilityReveal none _ _ =>
      let (accepted, state) := state.reject
      (.result accepted, state)
  | .takeVerifiedEvidence =>
      let (released, state) := state.takeVerifiedEvidence
      (.evidence released, state)

def after (calls : List ReducerCall) : PairAuthenticationReducer :=
  calls.foldl (fun state call => (state.perform call).2) {}

/-- What a call answers after the calls before it. -/
def answerTo (calls : List ReducerCall) (call : ReducerCall) : ReducerAnswer :=
  ((after calls).perform call).1

/-- One of the calls released evidence. -/
def Released (calls : List ReducerCall) : Prop :=
  ∃ before rest evidence,
    calls = before ++ .takeVerifiedEvidence :: rest ∧
    answerTo before .takeVerifiedEvidence = .evidence (some evidence)

/-- The calls other than those that ask for the evidence. -/
def others (calls : List ReducerCall) : List ReducerCall :=
  calls.filter fun call => !call.takes

/-- How many operations a course has used after so many lines of the script. -/
def spent : Nat → Nat
  | 0 => 0
  | 1 => 0
  | 2 => 1
  | 3 => 2
  | 4 => 2
  | 5 => 3
  | _ => 4

/-- The operations of a script in the order of their lines. -/
def operationOrder (start : PairAuthStart) (first : PairRole) : List Nat :=
  [start.signatureOperationIds.get .initiator,
    start.signatureOperationIds.get .responder,
    start.keyConfirmOperationIds.get first,
    start.keyConfirmOperationIds.get first.other]

/-- The reducer after so many lines of the script of a start. -/
structure Stands
    (start : PairAuthStart)
    (first : PairRole)
    (lines : Nat)
    (state : PairAuthenticationReducer) : Prop where
  begun : state.begun = true
  failed : state.failed = false
  consumed : state.consumed = false
  signatureOperationIds : state.signatureOperationIds = start.signatureOperationIds
  keyConfirmOperationIds :
    state.keyConfirmOperationIds = start.keyConfirmOperationIds
  localRole : state.localRole = start.localRole
  entryMode : state.entryMode = start.entryMode
  knownPath : state.knownPath = start.knownPath
  expectedSummaryHashes :
    state.expectedSummaryHashes =
      ⟨summaryHashOf start .initiator, summaryHashOf start .responder⟩
  distinct :
    [start.signatureOperationIds.initiator, start.signatureOperationIds.responder,
      start.keyConfirmOperationIds.initiator,
      start.keyConfirmOperationIds.responder].Nodup
  operationIds :
    state.operationIds = (operationOrder start first).take (spent lines)
  signatureMask : state.signatureMask = ⟨decide (2 ≤ lines), decide (3 ≤ lines)⟩
  approvalKind : state.approvalKind = if 4 ≤ lines then approvalFor start else 0
  keyConfirmMask :
    state.keyConfirmMask =
      (RoleMask.none.set first (decide (5 ≤ lines))).set first.other
        (decide (6 ≤ lines))
  capabilityMask : state.capabilityMask = ⟨decide (7 ≤ lines), decide (8 ≤ lines)⟩

variable {state : PairAuthenticationReducer}

theorem begin_of_begun
    (begun : state.begun = true)
    (start : PairAuthStart) :
    state.begin start = state.reject := by
  simp [begin, begun]

theorem acceptProviderVerification_other
    (state : PairAuthenticationReducer)
    (operationId : Nat)
    {payloadKind : PayloadKind}
    (role : PairRole)
    (noSignature : payloadKind ≠ .pairSignatureVerified)
    (noKeyConfirm : payloadKind ≠ .pairKeyConfirmVerified) :
    state.acceptProviderVerification operationId payloadKind role =
      state.reject := by
  unfold acceptProviderVerification
  split
  · rfl
  · cases payloadKind <;> first | contradiction | rfl

/-- No call is accepted before a begin, after a failure or after the release. -/
def Open (state : PairAuthenticationReducer) : Prop :=
  state.begun = true ∧ state.failed = false ∧ state.consumed = false

/-- An operation fits into the list of those that were used. -/
def Fresh (state : PairAuthenticationReducer) (operationId : Nat) : Prop :=
  state.operationIds.length < 4 ∧ operationId ∉ state.operationIds

theorem acceptSignature_iff
    (state : PairAuthenticationReducer)
    (operationId : Nat)
    (role : PairRole) :
    (state.acceptProviderVerification operationId .pairSignatureVerified role).1 =
        true ↔
      state.Open ∧ state.Fresh operationId ∧ state.signatureMask ≠ .both ∧
        role = (if state.signatureMask = .none then .initiator else .responder) ∧
        operationId = state.signatureOperationIds.get role := by
  unfold acceptProviderVerification seenOperation Open Fresh reject
  simp only [apply_ite Prod.fst, Bool.if_false_left, Bool.and_true, Bool.and_eq_true,
    Bool.not_eq_true', decide_eq_false_iff_not, Bool.or_eq_true, not_or,
    decide_eq_true_eq, List.contains_eq_mem, bne_iff_ne, ne_eq, not_not]
  grind

variable {operationId : Nat} {role : PairRole}

theorem acceptSignature_eq
    (accepted :
      (state.acceptProviderVerification operationId .pairSignatureVerified role).1 =
        true) :
    (state.acceptProviderVerification operationId .pairSignatureVerified role).2 =
      { state with
        signatureMask := state.signatureMask.set role true
        operationIds := state.operationIds ++ [operationId] } := by
  unfold acceptProviderVerification reject at accepted ⊢
  grind

theorem acceptKeyConfirm_iff
    (state : PairAuthenticationReducer)
    (operationId : Nat)
    (role : PairRole) :
    (state.acceptProviderVerification operationId .pairKeyConfirmVerified role).1 =
        true ↔
      state.Open ∧ state.Fresh operationId ∧ state.signatureMask = .both ∧
        state.approvalKind ≠ 0 ∧ state.keyConfirmMask ≠ .both ∧
        state.keyConfirmMask.get role = false ∧
        operationId = state.keyConfirmOperationIds.get role := by
  unfold acceptProviderVerification seenOperation Open Fresh reject
  simp only [apply_ite Prod.fst, Bool.if_false_left, Bool.and_true, Bool.and_eq_true,
    Bool.not_eq_true', decide_eq_false_iff_not, Bool.or_eq_true, not_or,
    decide_eq_true_eq, List.contains_eq_mem, bne_iff_ne, beq_iff_eq, ne_eq, not_not]
  grind

theorem acceptKeyConfirm_eq
    (accepted :
      (state.acceptProviderVerification operationId .pairKeyConfirmVerified role).1 =
        true) :
    (state.acceptProviderVerification operationId .pairKeyConfirmVerified role).2 =
      { state with
        keyConfirmMask := state.keyConfirmMask.set role true
        operationIds := state.operationIds ++ [operationId] } := by
  unfold acceptProviderVerification reject at accepted ⊢
  grind

theorem approveLocal_iff
    (state : PairAuthenticationReducer)
    (approvalKind : Nat) :
    (state.approveLocal approvalKind).1 = true ↔
      state.Open ∧ state.signatureMask = .both ∧ state.approvalKind = 0 ∧
        approvalKind = state.expectedApproval := by
  unfold approveLocal Open reject
  simp only [apply_ite Prod.fst, Bool.if_false_left, Bool.and_true, Bool.and_eq_true,
    Bool.not_eq_true', decide_eq_false_iff_not, Bool.or_eq_true, not_or,
    decide_eq_true_eq, bne_iff_ne, ne_eq, not_not]
  grind

theorem approveLocal_eq
    {approvalKind : Nat}
    (accepted : (state.approveLocal approvalKind).1 = true) :
    (state.approveLocal approvalKind).2 =
      { state with approvalKind := approvalKind } := by
  unfold approveLocal reject at accepted ⊢
  grind

theorem acceptCapabilityReveal_iff
    (state : PairAuthenticationReducer)
    (sender : PairRole)
    (summary : CapabilitySummary)
    (logicalHash : PlanHash) :
    (state.acceptCapabilityReveal sender summary logicalHash).1 = true ↔
      state.Open ∧ state.keyConfirmMask = .both ∧
        WellFormedReveal summary logicalHash ∧
        state.capabilityMask.get sender = false ∧
        (state.capabilityMask = .none → sender = .initiator) ∧
        domainHash (ascii "flynes-pair-capability-summary-v1") summary.bytes =
          state.expectedSummaryHashes.get sender := by
  unfold acceptCapabilityReveal Open WellFormedReveal reject
  simp only [apply_ite Prod.fst, Bool.if_false_left, Bool.and_true, Bool.and_eq_true,
    Bool.not_eq_true', decide_eq_false_iff_not, Bool.or_eq_true, not_or,
    decide_eq_true_eq, bne_iff_ne, ne_eq, not_not]
  grind

variable {logicalHash : PlanHash}

theorem acceptCapabilityReveal_eq
    {sender : PairRole}
    {summary : CapabilitySummary}
    (accepted :
      (state.acceptCapabilityReveal sender summary logicalHash).1 = true) :
    (state.acceptCapabilityReveal sender summary logicalHash).2 =
      { state with
        summaries := state.summaries.set sender summary
        capabilities := state.capabilities.set sender logicalHash
        capabilityMask := state.capabilityMask.set sender true } := by
  unfold acceptCapabilityReveal reject at accepted ⊢
  grind

theorem begin_iff
    (state : PairAuthenticationReducer)
    (start : PairAuthStart) :
    (state.begin start).1 = true ↔
      state.begun = false ∧ state.failed = false ∧ Begins start := by
  unfold begin Begins reject
  grind

namespace Stands

variable {start : PairAuthStart}
variable {first : PairRole}
variable {lines : Nat}
variable {state : PairAuthenticationReducer}

variable (stands : Stands start first lines state)

include stands

theorem isOpen :
    state.Open :=
  ⟨stands.begun, stands.failed, stands.consumed⟩

theorem expectedApproval :
    state.expectedApproval = approvalFor start := by
  unfold PairAuthenticationReducer.expectedApproval approvalFor
  rw [stands.entryMode, stands.localRole, stands.knownPath]

omit stands in
theorem approvalFor_ne_zero (start : PairAuthStart) : approvalFor start ≠ 0 := by
  unfold approvalFor approvalQrInviterAccept approvalQrScannerJoin
    approvalKnownFriendInvite approvalKnownFriendAccept approvalBleSasMatch
  grind

theorem signature_iff
    (begun : 1 ≤ lines)
    (within : lines ≤ 8)
    (operationId : Nat)
    (role : PairRole) :
    (state.acceptProviderVerification operationId .pairSignatureVerified role).1 =
        true ↔
      Line WellFormedReveal start first lines
        (.acceptProviderVerification operationId .pairSignatureVerified
          (some role)) := by
  have distinct := stands.distinct
  simp only [List.nodup_cons, List.mem_cons, List.not_mem_nil,
    or_false, not_or] at distinct
  rw [acceptSignature_iff]
  simp only [stands.isOpen, Fresh, stands.operationIds, stands.signatureMask,
    stands.signatureOperationIds, true_and]
  interval_cases lines <;> cases role <;>
    simp [spent, operationOrder, RoleMask.none, RoleMask.both, Line, Reveals,
      RolePair.get]
  all_goals grind

theorem keyConfirm_iff
    (begun : 1 ≤ lines)
    (within : lines ≤ 8)
    (operationId : Nat)
    (role : PairRole) :
    (state.acceptProviderVerification operationId .pairKeyConfirmVerified role).1 =
        true ↔
      ∃ again, (lines ≤ 4 ∨ again = first) ∧
        Line WellFormedReveal start again lines
          (.acceptProviderVerification operationId .pairKeyConfirmVerified
            (some role)) := by
  have distinct := stands.distinct
  simp only [List.nodup_cons, List.mem_cons, List.not_mem_nil,
    or_false, not_or] at distinct
  rw [acceptKeyConfirm_iff]
  simp only [stands.isOpen, Fresh, stands.operationIds, stands.signatureMask,
    stands.keyConfirmOperationIds, stands.keyConfirmMask, stands.approvalKind, true_and]
  interval_cases lines <;> cases role <;> cases first <;>
    simp [spent, operationOrder, RoleMask.none, RoleMask.both, Line, Reveals,
      RolePair.set, RolePair.get, PairRole.other, approvalFor_ne_zero]
  all_goals grind

theorem approve_iff
    (begun : 1 ≤ lines)
    (within : lines ≤ 8)
    (approvalKind : Nat) :
    (state.approveLocal approvalKind).1 = true ↔
      Line WellFormedReveal start first lines (.approveLocal approvalKind) := by
  rw [approveLocal_iff]
  simp only [stands.isOpen, stands.signatureMask, stands.approvalKind,
    stands.expectedApproval, true_and]
  interval_cases lines <;>
    simp [RoleMask.both, Line, Reveals, approvalFor_ne_zero]

theorem reveal_iff
    (begun : 1 ≤ lines)
    (within : lines ≤ 8)
    (sender : PairRole)
    (summary : CapabilitySummary)
    (logicalHash : PlanHash) :
    (state.acceptCapabilityReveal sender summary logicalHash).1 = true ↔
      Line WellFormedReveal start first lines
        (.acceptCapabilityReveal (some sender) summary logicalHash) := by
  rw [acceptCapabilityReveal_iff]
  simp only [stands.isOpen, stands.keyConfirmMask, stands.capabilityMask,
    stands.expectedSummaryHashes, true_and]
  interval_cases lines <;> cases sender <;> cases first <;>
    simp [RoleMask.both, RoleMask.none, Line, Reveals, RolePair.set, RolePair.get,
      PairRole.other, and_comm]

/-- Which role confirms first is open until the fifth line. -/
theorem repick
    (undecided : lines ≤ 4)
    (again : PairRole) :
    Stands start again lines state := by
  refine { stands with operationIds := ?_, keyConfirmMask := ?_ }
  · rw [stands.operationIds]
    interval_cases lines <;> rfl
  · rw [stands.keyConfirmMask]
    interval_cases lines <;> cases again <;> cases first <;> rfl

variable {call : ReducerCall}

/-- A call that is the next line of the script moves on by one line. -/
theorem next
    (begun : 1 ≤ lines)
    (within : lines ≤ 8)
    (line : Line WellFormedReveal start first lines call) :
    Stands start first (lines + 1) (state.perform call).2 := by
  interval_cases lines
  case «1» =>
    obtain rfl := line
    have accepted := (stands.signature_iff begun within _ _).2 rfl
    simp only [perform, acceptSignature_eq accepted]
    exact
      { stands with
        operationIds := by rw [stands.operationIds]; rfl
        signatureMask := by rw [stands.signatureMask]; rfl }
  case «2» =>
    obtain rfl := line
    have accepted := (stands.signature_iff begun within _ _).2 rfl
    simp only [perform, acceptSignature_eq accepted]
    exact
      { stands with
        operationIds := by rw [stands.operationIds]; rfl
        signatureMask := by rw [stands.signatureMask]; rfl }
  case «3» =>
    obtain rfl := line
    have accepted := (stands.approve_iff begun within _).2 rfl
    simp only [perform, approveLocal_eq accepted]
    exact { stands with approvalKind := rfl }
  case «4» =>
    obtain rfl := line
    have accepted :=
      (stands.keyConfirm_iff begun within _ _).2 ⟨first, .inr rfl, rfl⟩
    simp only [perform, acceptKeyConfirm_eq accepted]
    exact
      { stands with
        operationIds := by rw [stands.operationIds]; rfl
        keyConfirmMask := by rw [stands.keyConfirmMask]; cases first <;> rfl }
  case «5» =>
    obtain rfl := line
    have accepted :=
      (stands.keyConfirm_iff begun within _ _).2 ⟨first, .inr rfl, rfl⟩
    simp only [perform, acceptKeyConfirm_eq accepted]
    exact
      { stands with
        operationIds := by rw [stands.operationIds]; rfl
        keyConfirmMask := by rw [stands.keyConfirmMask]; cases first <;> rfl }
  case «6» =>
    obtain ⟨summary, logicalHash, rfl, reveals⟩ := line
    have accepted :=
      (stands.reveal_iff begun within _ _ _).2 ⟨summary, logicalHash, rfl, reveals⟩
    simp only [perform, acceptCapabilityReveal_eq accepted]
    exact
      { stands with capabilityMask := by rw [stands.capabilityMask]; rfl }
  case «7» =>
    obtain ⟨summary, logicalHash, rfl, reveals⟩ := line
    have accepted :=
      (stands.reveal_iff begun within _ _ _).2 ⟨summary, logicalHash, rfl, reveals⟩
    simp only [perform, acceptCapabilityReveal_eq accepted]
    exact
      { stands with capabilityMask := by rw [stands.capabilityMask]; rfl }
  case «8» =>
    exact line.elim

omit stands in
/-- Only the key confirmations depend on the role that comes first. -/
theorem line_steady
    {again : PairRole}
    (noKeyConfirm :
      ∀ operationId role,
        call ≠ .acceptProviderVerification operationId .pairKeyConfirmVerified role)
    (line : Line WellFormedReveal start again lines call) :
    Line WellFormedReveal start first lines call := by
  match lines with
  | 0 | 1 | 2 | 3 | 6 | 7 => exact line
  | 4 | 5 => exact (noKeyConfirm _ _ line).elim
  | _ + 8 => exact line

/-- The reducer accepts exactly the next line of the script. -/
theorem accepts_iff
    (begun : 1 ≤ lines)
    (within : lines ≤ 8)
    (asks : call.takes = false) :
    (state.perform call).1 = .result true ↔
      ∃ again, (lines ≤ 4 ∨ again = first) ∧
        Line WellFormedReveal start again lines call := by
  have anyLine
      (line : Line WellFormedReveal start first lines call) :
      ∃ again, (lines ≤ 4 ∨ again = first) ∧
        Line WellFormedReveal start again lines call :=
    ⟨first, .inr rfl, line⟩
  cases call with
  | begin start' =>
      have refused : (state.perform (.begin start')).1 = .result false := by
        cases start' with
        | none => rfl
        | some start' => simp [perform, begin_of_begun stands.begun, reject]
      rw [refused]
      simp only [ReducerAnswer.result.injEq, Bool.false_eq_true, false_iff,
        not_exists, not_and]
      intro again _ line
      interval_cases lines <;> simp [Line, Reveals] at line
  | acceptProviderVerification operationId payloadKind role =>
      cases role with
      | none =>
          simp only [perform, reject, ReducerAnswer.result.injEq, Bool.false_eq_true,
            false_iff, not_exists, not_and]
          intro again _ line
          interval_cases lines <;> simp [Line, Reveals] at line
      | some role =>
          simp only [perform, ReducerAnswer.result.injEq]
          by_cases signature : payloadKind = .pairSignatureVerified
          · subst signature
            rw [stands.signature_iff begun within]
            refine ⟨anyLine, ?_⟩
            rintro ⟨again, -, line⟩
            exact line_steady (by simp) line
          · by_cases keyConfirm : payloadKind = .pairKeyConfirmVerified
            · subst keyConfirm
              exact stands.keyConfirm_iff begun within operationId role
            · rw [acceptProviderVerification_other state operationId role signature
                keyConfirm]
              simp only [reject, Bool.false_eq_true, false_iff, not_exists, not_and]
              intro again _ line
              interval_cases lines <;>
                simp [Line, Reveals, signature, keyConfirm] at line
  | approveLocal approvalKind =>
      simp only [perform, ReducerAnswer.result.injEq]
      rw [stands.approve_iff begun within]
      refine ⟨anyLine, ?_⟩
      rintro ⟨again, -, line⟩
      exact line_steady (by simp) line
  | acceptCapabilityReveal sender summary logicalHash =>
      cases sender with
      | none =>
          simp only [perform, reject, ReducerAnswer.result.injEq, Bool.false_eq_true,
            false_iff, not_exists, not_and]
          intro again _ line
          interval_cases lines <;> simp [Line, Reveals] at line
      | some sender =>
          simp only [perform, ReducerAnswer.result.injEq]
          rw [stands.reveal_iff begun within]
          refine ⟨anyLine, ?_⟩
          rintro ⟨again, -, line⟩
          exact line_steady (by simp) line
  | takeVerifiedEvidence => cases asks

/-- The evidence is there once all lines of the script were said. -/
theorem takes_iff
    (within : lines ≤ 8) :
    state.takeVerifiedEvidence.1.isSome = true ↔ lines = 8 := by
  unfold takeVerifiedEvidence
  rw [stands.begun, stands.failed, stands.consumed, stands.signatureMask,
    stands.keyConfirmMask, stands.capabilityMask, stands.approvalKind]
  interval_cases lines <;> cases first <;>
    simp [RoleMask.both, RoleMask.none, RolePair.set, PairRole.other,
      approvalFor_ne_zero]

end Stands

variable {call : ReducerCall}

/-- A call that asks for no evidence answers true or false. -/
theorem perform_result
    (state : PairAuthenticationReducer)
    (asks : call.takes = false) :
    ∃ accepted, (state.perform call).1 = .result accepted := by
  cases call with
  | begin start => cases start <;> exact ⟨_, rfl⟩
  | acceptProviderVerification operationId payloadKind role =>
      cases role <;> exact ⟨_, rfl⟩
  | approveLocal approvalKind => exact ⟨_, rfl⟩
  | acceptCapabilityReveal sender summary logicalHash =>
      cases sender <;> exact ⟨_, rfl⟩
  | takeVerifiedEvidence => cases asks

/-- A refused call fails the reducer for good. -/
theorem refused_failed
    (refused : (state.perform call).1 = .result false) :
    (state.perform call).2 = { state with failed := true } := by
  cases call with
  | begin start =>
      cases start with
      | none => rfl
      | some start =>
          simp only [perform, ReducerAnswer.result.injEq] at refused ⊢
          unfold begin reject at refused ⊢
          grind
  | acceptProviderVerification operationId payloadKind role =>
      cases role with
      | none => rfl
      | some role =>
          simp only [perform, ReducerAnswer.result.injEq] at refused ⊢
          unfold acceptProviderVerification reject at refused ⊢
          grind
  | approveLocal approvalKind =>
      simp only [perform, ReducerAnswer.result.injEq] at refused ⊢
      unfold approveLocal reject at refused ⊢
      grind
  | acceptCapabilityReveal sender summary logicalHash =>
      cases sender with
      | none => rfl
      | some sender =>
          simp only [perform, ReducerAnswer.result.injEq] at refused ⊢
          unfold acceptCapabilityReveal reject at refused ⊢
          grind
  | takeVerifiedEvidence => cases refused

/-- An open reducer accepts a call, and an untouched one a begin. -/
theorem accepted_cases
    (accepted : (state.perform call).1 = .result true) :
    state.Open ∨
      ∃ start,
        call = .begin (some start) ∧ state.begun = false ∧ state.failed = false ∧
          Begins start := by
  cases call with
  | begin start =>
      cases start with
      | none => cases accepted
      | some start =>
          simp only [perform, ReducerAnswer.result.injEq, begin_iff] at accepted
          exact .inr ⟨start, rfl, accepted⟩
  | acceptProviderVerification operationId payloadKind role =>
      cases role with
      | none => cases accepted
      | some role =>
          simp only [perform, ReducerAnswer.result.injEq] at accepted
          by_cases signature : payloadKind = .pairSignatureVerified
          · subst signature
            exact .inl ((acceptSignature_iff _ _ _).1 accepted).1
          · by_cases keyConfirm : payloadKind = .pairKeyConfirmVerified
            · subst keyConfirm
              exact .inl ((acceptKeyConfirm_iff _ _ _).1 accepted).1
            · rw [acceptProviderVerification_other state operationId role signature
                keyConfirm] at accepted
              cases accepted
  | approveLocal approvalKind =>
      simp only [perform, ReducerAnswer.result.injEq] at accepted
      exact .inl ((approveLocal_iff _ _).1 accepted).1
  | acceptCapabilityReveal sender summary logicalHash =>
      cases sender with
      | none => cases accepted
      | some sender =>
          simp only [perform, ReducerAnswer.result.injEq] at accepted
          exact .inl ((acceptCapabilityReveal_iff _ _ _ _).1 accepted).1
  | takeVerifiedEvidence => cases accepted

/-- A reducer that failed or released its evidence accepts nothing more. -/
theorem closed_refuses
    (closed : state.failed = true ∨ state.begun = true ∧ state.consumed = true)
    (asks : call.takes = false) :
    (state.perform call).1 = .result false := by
  obtain ⟨accepted, answer⟩ := state.perform_result asks
  cases accepted with
  | false => exact answer
  | true =>
      rcases accepted_cases answer with ⟨_, _, _⟩ | ⟨start, rfl, unbegun, live, -⟩ <;>
        grind

/-- Evidence that is not released leaves the reducer as it is. -/
theorem take_none
    (nothing : state.takeVerifiedEvidence.1 = none) :
    state.takeVerifiedEvidence.2 = state := by
  unfold takeVerifiedEvidence at nothing ⊢
  grind

theorem take_closed
    (closed : state.failed = true ∨ state.consumed = true) :
    state.takeVerifiedEvidence = (none, state) := by
  unfold takeVerifiedEvidence
  grind

theorem after_append
    (calls : List ReducerCall)
    (call : ReducerCall) :
    after (calls ++ [call]) = ((after calls).perform call).2 := by
  simp [after]

theorem others_append_other
    (calls : List ReducerCall)
    (asks : call.takes = false) :
    others (calls ++ [call]) = others calls ++ [call] := by
  simp [others, List.filter_append, asks]

theorem others_append_take
    (calls : List ReducerCall) :
    others (calls ++ [.takeVerifiedEvidence]) = others calls := by
  simp [others, List.filter_append, takes]

variable {calls : List ReducerCall}

theorem Released.append
    (released : Released calls)
    (more : List ReducerCall) :
    Released (calls ++ more) := by
  obtain ⟨before, rest, evidence, rfl, answer⟩ := released
  exact ⟨before, rest ++ more, evidence, by simp, answer⟩

theorem released_append_iff
    (calls : List ReducerCall)
    (call : ReducerCall) :
    Released (calls ++ [call]) ↔
      Released calls ∨
        call = .takeVerifiedEvidence ∧
          ∃ evidence, answerTo calls call = .evidence (some evidence) := by
  constructor
  · rintro ⟨before, rest, evidence, split, answer⟩
    rcases List.eq_nil_or_concat rest with rfl | ⟨rest, last, rfl⟩
    · obtain ⟨rfl, last⟩ := List.append_inj' split rfl
      obtain rfl := List.singleton_inj.1 last
      exact .inr ⟨rfl, evidence, answer⟩
    · have shape :
          calls ++ [call] =
            (before ++ .takeVerifiedEvidence :: rest) ++ [last] := by
        simpa using split
      obtain ⟨rfl, -⟩ := List.append_inj' shape rfl
      exact .inl ⟨before, rest, evidence, rfl, answer⟩
  · rintro (released | ⟨rfl, evidence, answer⟩)
    · exact released.append [call]
    · exact ⟨calls, [], evidence, rfl, answer⟩

/-- Where a course of calls stands. -/
inductive Course (calls : List ReducerCall) : Prop where
  | untouched
      (unreleased : ¬ Released calls)
      (silent : others calls = [])
      (state : after calls = {})
  | scripted
      (unreleased : ¬ Released calls)
      (start : PairAuthStart)
      (first : PairRole)
      (begun : 1 ≤ (others calls).length)
      (follows : Follows WellFormedReveal start first (others calls))
      (stands : Stands start first (others calls).length (after calls))
  | released
      (released : Released calls)
      (complete : Authentic WellFormedReveal (others calls))
      (begun : (after calls).begun = true)
      (consumed : (after calls).consumed = true)
  | strayed
      (strayed : ¬ InOrder WellFormedReveal (others calls))
      (failed : (after calls).failed = true)

variable {evidence : VerifiedPairEvidence}

theorem Released.of_take
    (answer :
      answerTo calls .takeVerifiedEvidence = .evidence (some evidence)) :
    Released (calls ++ [.takeVerifiedEvidence]) :=
  ⟨calls, [], evidence, rfl, answer⟩

theorem take_some
    (released : state.takeVerifiedEvidence.1 = some evidence) :
    state.takeVerifiedEvidence.2.begun = state.begun ∧
      state.takeVerifiedEvidence.2.consumed = true := by
  unfold takeVerifiedEvidence at released ⊢
  grind

theorem eq_take
    (takes : call.takes = true) :
    call = .takeVerifiedEvidence := by
  cases call <;> first | rfl | cases takes

theorem unreleased_append_other
    (unreleased : ¬ Released calls)
    (asks : call.takes = false) :
    ¬ Released (calls ++ [call]) := by
  rw [released_append_iff]
  rintro (released | ⟨rfl, -⟩)
  · exact unreleased released
  · cases asks

/-- A strayed course stays so. -/
theorem strayed_append
    (strayed : ¬ InOrder WellFormedReveal calls) :
    ¬ InOrder WellFormedReveal (calls ++ [call]) := by
  rintro ⟨start, first, follows⟩
  exact strayed ⟨start, first, follows.of_append⟩

theorem begin_stands
    {start : PairAuthStart}
    (first : PairRole)
    (begins : Begins start) :
    Stands start first 1 (({} : PairAuthenticationReducer).begin start).2 := by
  obtain ⟨valid, ⟨preimage, transcript⟩, built⟩ := begins
  have opened :
      (({} : PairAuthenticationReducer).begun ||
        ({} : PairAuthenticationReducer).failed || !validStart start) = false := by
    simp [valid]
  have distinct : distinctNonzeroOperations start = true := by
    unfold validStart at valid
    grind
  simp only [begin, opened, built, Bool.false_eq_true, if_false]
  constructor <;> try rfl
  · simp only [distinctNonzeroOperations, Bool.and_eq_true, decide_eq_true_eq]
      at distinct
    exact distinct.2
  · cases first <;> rfl

/-- A call that is refused ends the course. -/
theorem strayed_of_refused
    (asks : call.takes = false)
    (strays : ¬ InOrder WellFormedReveal (others calls ++ [call]))
    (refused : answerTo calls call = .result false) :
    Course (calls ++ [call]) ∧
      (answerTo calls call = .result true ↔
        ¬ Released calls ∧ InOrder WellFormedReveal (others calls ++ [call])) := by
  refine ⟨.strayed ?_ ?_, ?_⟩
  · rwa [others_append_other calls asks]
  · rw [after_append, refused_failed refused]
  · simp [refused, strays]

theorem Course.other
    (course : Course calls)
    (asks : call.takes = false) :
    Course (calls ++ [call]) ∧
      (answerTo calls call = .result true ↔
        ¬ Released calls ∧ InOrder WellFormedReveal (others calls ++ [call])) := by
  cases course with
  | untouched unreleased silent state =>
      rw [silent, List.nil_append]
      by_cases inOrder : InOrder WellFormedReveal [call]
      · obtain ⟨start, first, follows⟩ := inOrder
        obtain ⟨rfl, begins⟩ := follows 0 call rfl
        have accepted : answerTo calls (.begin (some start)) = .result true := by
          rw [answerTo, state]
          exact congrArg ReducerAnswer.result ((begin_iff _ _).2 ⟨rfl, rfl, begins⟩)
        have single : others (calls ++ [.begin (some start)]) = [.begin (some start)] := by
          rw [others_append_other calls asks, silent, List.nil_append]
        refine
          ⟨.scripted (unreleased_append_other unreleased asks) start first ?_ ?_ ?_,
            by simpa [accepted, unreleased] using ⟨start, first, follows⟩⟩
        · rw [single, List.length_singleton]
        · rwa [single]
        · rw [single, after_append, state]
          exact begin_stands first begins
      · obtain ⟨accepted, answer⟩ := (after calls).perform_result asks
        cases accepted with
        | false =>
            have strays := strayed_of_refused asks (by rwa [silent]) answer
            rwa [silent] at strays
        | true =>
            exfalso
            rw [state] at answer
            rcases accepted_cases answer with ⟨begun, -⟩ | ⟨start, rfl, -, -, begins⟩
            · cases begun
            · refine inOrder ⟨start, .initiator, ?_⟩
              intro index call found
              cases index with
              | zero =>
                  obtain rfl : _ = call := by simpa using found
                  exact ⟨rfl, begins⟩
              | succ index => simp at found
  | scripted unreleased start first begun follows stands =>
      have within := follows.length_le
      have next :
          answerTo calls call = .result true ↔
            InOrder WellFormedReveal (others calls ++ [call]) := by
        rw [answerTo, stands.accepts_iff begun within asks]
        constructor
        · rintro ⟨again, undecided | rfl, line⟩
          · exact ⟨start, again, (follows.repick undecided again).append line⟩
          · exact ⟨start, again, follows.append line⟩
        · rintro ⟨start', again, continues⟩
          obtain ⟨rfl, same⟩ := follows.unique continues.of_append begun
          exact ⟨again, same, continues.last⟩
      by_cases inOrder : InOrder WellFormedReveal (others calls ++ [call])
      · refine ⟨?_, by simp [next, unreleased]⟩
        obtain ⟨start', again, continues⟩ := inOrder
        obtain ⟨rfl, same⟩ := follows.unique continues.of_append begun
        have standsAgain : Stands start' again (others calls).length (after calls) := by
          rcases same with undecided | rfl
          · exact stands.repick undecided again
          · exact stands
        refine .scripted (unreleased_append_other unreleased asks) start' again ?_ ?_ ?_
        · simp [others_append_other calls asks]
        · rwa [others_append_other calls asks]
        · rw [others_append_other calls asks, after_append, List.length_append]
          exact standsAgain.next begun within continues.last
      · obtain ⟨accepted, answer⟩ := (after calls).perform_result asks
        cases accepted with
        | true => exact (inOrder (next.1 answer)).elim
        | false => exact strayed_of_refused asks inOrder answer
  | released released complete begun consumed =>
      refine strayed_of_refused asks ?_ (closed_refuses (.inr ⟨begun, consumed⟩) asks)
      rintro ⟨start, first, follows⟩
      have length := follows.length_le
      rw [List.length_append, complete.2] at length
      simp at length
  | strayed strayed failed =>
      exact
        strayed_of_refused asks (strayed_append strayed)
          (closed_refuses (.inl failed) asks)

theorem Course.take
    (course : Course calls) :
    Course (calls ++ [.takeVerifiedEvidence]) ∧
      ((∃ evidence,
          answerTo calls .takeVerifiedEvidence = .evidence (some evidence)) ↔
        ¬ Released calls ∧ Authentic WellFormedReveal (others calls)) := by
  have stays
      (nothing : (after calls).takeVerifiedEvidence.1 = none) :
      after (calls ++ [.takeVerifiedEvidence]) = after calls ∧
        ¬ ∃ evidence,
          answerTo calls .takeVerifiedEvidence = .evidence (some evidence) := by
    refine ⟨by rw [after_append]; exact take_none nothing, ?_⟩
    rintro ⟨evidence, answer⟩
    simp only [answerTo, perform, nothing, ReducerAnswer.evidence.injEq] at answer
    cases answer
  have unreleasedStill
      (unreleased : ¬ Released calls)
      (nothing :
        ¬ ∃ evidence,
          answerTo calls .takeVerifiedEvidence = .evidence (some evidence)) :
      ¬ Released (calls ++ [.takeVerifiedEvidence]) := by
    rw [released_append_iff]
    rintro (released | ⟨-, answer⟩)
    · exact unreleased released
    · exact nothing answer
  cases course with
  | untouched unreleased silent state =>
      obtain ⟨same, nothing⟩ := stays (by rw [state]; rfl)
      refine ⟨.untouched (unreleasedStill unreleased nothing) ?_ ?_, ?_⟩
      · rw [others_append_take, silent]
      · rw [same, state]
      · simp [nothing, silent, Authentic]
  | scripted unreleased start first begun follows stands =>
      have whole := stands.takes_iff follows.length_le
      by_cases complete : (others calls).length = 8
      · obtain ⟨evidence, answer⟩ := Option.isSome_iff_exists.1 (whole.2 complete)
        have released :
            answerTo calls .takeVerifiedEvidence = .evidence (some evidence) :=
          congrArg ReducerAnswer.evidence answer
        have authentic : Authentic WellFormedReveal (others calls) :=
          ⟨⟨start, first, follows⟩, complete⟩
        refine
          ⟨.released (.of_take released) ?_ ?_ ?_,
            ⟨fun _ => ⟨unreleased, authentic⟩, fun _ => ⟨evidence, released⟩⟩⟩
        · rwa [others_append_take]
        · rw [after_append]
          exact (take_some answer).1.trans stands.begun
        · rw [after_append]
          exact (take_some answer).2
      · have nothing : (after calls).takeVerifiedEvidence.1 = none := by
          rw [← Option.not_isSome_iff_eq_none, whole]
          exact complete
        obtain ⟨same, nothing⟩ := stays nothing
        refine
          ⟨.scripted (unreleasedStill unreleased nothing) start first ?_ ?_ ?_, ?_⟩
        · rwa [others_append_take]
        · rwa [others_append_take]
        · rwa [others_append_take, same]
        · simp [nothing, complete, Authentic]
  | released released complete begun consumed =>
      obtain ⟨same, nothing⟩ := stays (by rw [take_closed (.inr consumed)])
      refine ⟨.released (released.append _) ?_ ?_ ?_, ?_⟩
      · rwa [others_append_take]
      · rwa [same]
      · rwa [same]
      · simp [nothing, released]
  | strayed strayed failed =>
      obtain ⟨same, nothing⟩ := stays (by rw [take_closed (.inl failed)])
      refine ⟨.strayed ?_ ?_, ?_⟩
      · rwa [others_append_take]
      · rwa [same]
      · simp [nothing, strayed, Authentic]

theorem course (calls : List ReducerCall) : Course calls := by
  induction calls using List.reverseRecOn with
  | nil =>
      refine .untouched ?_ rfl rfl
      rintro ⟨before, rest, evidence, split, -⟩
      simp at split
  | append_singleton calls call course =>
      cases takes : call.takes with
      | false => exact (course.other takes).1
      | true =>
          obtain rfl := eq_take takes
          exact course.take.1

/--
Evidence is released once, to exactly those courses whose other calls are a whole
script.  Any other call is answered with true only as the next line of a script
whose evidence is still there, and after a refusal there is no evidence any more.
-/
theorem evidence_iff_authentic (calls : List ReducerCall) :
    ((∃ evidence,
        answerTo calls .takeVerifiedEvidence = .evidence (some evidence)) ↔
      ¬ Released calls ∧ Authentic WellFormedReveal (others calls)) ∧
    ∀ call, call.takes = false →
      (answerTo calls call = .result true ↔
        ¬ Released calls ∧ InOrder WellFormedReveal (others calls ++ [call])) ∧
      (answerTo calls call = .result false →
        ∀ more evidence,
          answerTo (calls ++ call :: more) .takeVerifiedEvidence ≠
            .evidence (some evidence)) := by
  refine ⟨(course calls).take.2, ?_⟩
  intro call asks
  refine ⟨((course calls).other asks).2, ?_⟩
  intro refused more evidence answer
  have split : calls ++ call :: more = (calls ++ [call]) ++ more := by simp
  obtain ⟨unreleased, ⟨start, first, follows⟩, -⟩ :=
    (course (calls ++ call :: more)).take.2.1 ⟨evidence, answer⟩
  rw [split] at unreleased follows
  have together :
      others ((calls ++ [call]) ++ more) =
        (others calls ++ [call]) ++ others more := by
    simp [others, List.filter_append, asks]
  rw [together] at follows
  have before : ¬ Released calls := fun released =>
    unreleased ((released.append [call]).append more)
  have accepted :=
    ((course calls).other asks).2.2 ⟨before, start, first, follows.of_append⟩
  rw [refused] at accepted
  cases accepted

/-! A whole script, and one whose last reveal has no logical hash. -/

/-- A summary without plans. -/
def plainSummary : CapabilitySummary :=
  Block.copy 512
    ([0, 1] ++ List.replicate 6 0 ++ [1, 0] ++ List.replicate 22 0 ++
      List.replicate 64 9)

def plainContribution (role : PairRole) : PairContribution where
  role := role
  bytes := Block.copy 320 [role.code]
  commitment := pairCommitmentV1 (Block.copy 320 [role.code]).bytes
  identityPublicKey := Block.zero 65
  ephemeralPublicKey := Block.zero 65
  capabilitySummaryHash :=
    domainHash (ascii "flynes-pair-capability-summary-v1") plainSummary.bytes

def plainCommit (sender : PairRole) : PairCommit where
  sender := sender
  receiver := sender.other
  pairContextHash := Block.copy 32 [5]
  commitment := (plainContribution sender).commitment
  ephemeralPublicKey := Block.zero 65

def plainStart : PairAuthStart where
  generation := 1
  engineInstanceId := Block.copy 16 [1]
  linkId := Block.copy 16 [2]
  signatureOperationIds := ⟨1, 2⟩
  keyConfirmOperationIds := ⟨3, 4⟩
  localRole := .initiator
  entryMode := 1
  pairContextHash := Block.copy 32 [5]
  initiatorCommit := plainCommit .initiator
  responderCommit := plainCommit .responder
  initiatorContribution := plainContribution .initiator
  responderContribution := plainContribution .responder
  initiatorRevealLogicalHash := Block.copy 32 [6]
  responderRevealLogicalHash := Block.copy 32 [7]

/-- A script in which the responder reveals with a logical hash. -/
def plainScript (logicalHash : PlanHash) : List ReducerCall :=
  [.begin (some plainStart),
    .acceptProviderVerification 1 .pairSignatureVerified (some .initiator),
    .acceptProviderVerification 2 .pairSignatureVerified (some .responder),
    .approveLocal approvalBleSasMatch,
    .acceptProviderVerification 4 .pairKeyConfirmVerified (some .responder),
    .acceptProviderVerification 3 .pairKeyConfirmVerified (some .initiator),
    .acceptCapabilityReveal (some .initiator) plainSummary (Block.copy 32 [8]),
    .acceptCapabilityReveal (some .responder) plainSummary logicalHash]

theorem plainStart_begins : Begins plainStart := by
  refine ⟨by decide +kernel, ?_⟩
  have built :
      (buildPairTranscriptPreimageV1 plainStart.entryMode plainStart.entryContextHash
        plainStart.initiatorCommit.commitment plainStart.responderCommit.commitment
        plainStart.initiatorContribution
        plainStart.responderContribution).toOption.isSome = true := by
    decide +kernel
  cases result :
      buildPairTranscriptPreimageV1 plainStart.entryMode plainStart.entryContextHash
        plainStart.initiatorCommit.commitment plainStart.responderCommit.commitment
        plainStart.initiatorContribution plainStart.responderContribution with
  | ok transcript => exact ⟨transcript, rfl⟩
  | error status =>
      rw [result] at built
      cases built

theorem plainScript_follows
    {wellFormed : CapabilitySummary → PlanHash → Prop}
    (initiator : wellFormed plainSummary (Block.copy 32 [8]))
    (responder : wellFormed plainSummary logicalHash) :
    Follows wellFormed plainStart .responder (plainScript logicalHash) := by
  intro index call found
  match index with
  | 0 =>
    obtain rfl : _ = call := Option.some.inj found
    exact ⟨rfl, plainStart_begins⟩
  | 1 | 2 | 3 | 4 | 5 =>
    obtain rfl : _ = call := Option.some.inj found
    exact rfl
  | 6 =>
    obtain rfl : _ = call := Option.some.inj found
    exact ⟨_, _, rfl, rfl, initiator⟩
  | 7 =>
    obtain rfl : _ = call := Option.some.inj found
    exact ⟨_, _, rfl, rfl, responder⟩
  | _ + 8 => cases found

theorem plainScript_unreleased (logicalHash : PlanHash) :
    ¬ Released (plainScript logicalHash) := by
  rintro ⟨before, rest, evidence, split, -⟩
  have takes : ReducerCall.takeVerifiedEvidence ∈ plainScript logicalHash := by
    rw [split]
    simp
  simp [plainScript] at takes

theorem plainScript_releases_evidence :
    ∃ evidence,
      answerTo (plainScript (Block.copy 32 [10])) .takeVerifiedEvidence =
        .evidence (some evidence) :=
  (evidence_iff_authentic (plainScript (Block.copy 32 [10]))).1.2
    ⟨plainScript_unreleased _, ⟨plainStart, .responder,
      plainScript_follows ⟨by decide +kernel, by decide +kernel⟩
        ⟨by decide +kernel, by decide +kernel⟩⟩, rfl⟩

/-- Without a logical hash the second reveal is refused. -/
theorem reveal_without_logical_hash_releases_nothing :
    ¬ ∀ calls : List ReducerCall,
      (∃ evidence,
        answerTo calls .takeVerifiedEvidence = .evidence (some evidence)) ↔
      ¬ Released calls ∧ Authentic (fun _ _ => True) (others calls) := by
  intro claimed
  obtain ⟨evidence, answer⟩ :=
    (claimed (plainScript (Block.zero 32))).2
      ⟨plainScript_unreleased _, ⟨plainStart, .responder,
        plainScript_follows trivial trivial⟩, rfl⟩
  have nothing :
      answerTo (plainScript (Block.zero 32)) .takeVerifiedEvidence =
        .evidence none := by
    decide +kernel
  rw [nothing] at answer
  cases answer

end PairAuthenticationReducer

end FlyNes.Pair
