import FlyNes.WireCodec

namespace FlyNes.Wire

open ByteString
open FlyNes.Dual (WireStatus)

/-!
# Capability summaries and the choice of a bearer plan

Each device sums up the bearer plans it supports in 512 bytes.  A plan is chosen
among those that stand in both summaries, byte for byte, by a fixed preference,
so that both devices choose alike.
-/

def kSummarySize : Nat := 512

def kPlansOffset : Nat := 96

def kPlanSize : Nat := 48

def kMaxPlans : Nat := 8

/-- The bytes of a bearer plan. -/
abbrev BearerPlanBytes := Block 48

inductive PairSelectionStatus where
  | invalidInitiator
  | invalidResponder
  | noCommonPlan
deriving DecidableEq

def validatePlan (plan : Bytes) (platform : UInt8) : Except WireStatus Unit := do
  let field := fun offset => plan.getD offset 0
  demand (field 7 == 0 && zeros plan 44 4) .nonzeroReserved
  demand
    (2 ≤ field 0 && field 0 ≤ 4 && 1 ≤ field 1 && field 1 ≤ 2 &&
      1 ≤ field 2 && field 2 ≤ 2 && 1 ≤ field 3 && field 3 ≤ 2 &&
      1 ≤ field 4 && field 4 ≤ 3 && field 5 ≤ 2) .unknownEnum
  let expectedRank : UInt8 :=
    if field 0 == 2 then 10 else if field 0 == 3 then 20 else 30
  let expectedCodec : UInt8 := if field 0 == 4 then 1 else 2
  demand
    (field 6 == expectedRank && field 3 == expectedCodec &&
      !(field 4 == 3 && (platform != 3 || field 0 != 3 || field 3 != 2)) &&
      !zeros plan 8 4 && !zeros plan 12 32) .invalidField

/-- The fields of a plan in the order in which they are compared. -/
def preferenceFields : List Nat :=
  [6, 5, 0, 1, 2, 3, 4]

/-- A plan comes before another one. -/
def preferred (candidate current : Bytes) : Bool :=
  match preferenceFields.find? fun offset =>
      candidate.getD offset 0 != current.getD offset 0 with
  | some offset => candidate.getD offset 0 < current.getD offset 0
  | none => slice candidate 8 36 < slice current 8 36

def validateBearerPlanV1
    (plan : BearerPlanBytes)
    (platform : UInt8) : Except WireStatus Unit :=
  if 1 ≤ platform && platform ≤ 3 then
    validatePlan plan.bytes platform
  else
    .error .unknownEnum

def selectedBearerPlanHashV1 (plan : BearerPlanBytes) : Block 32 :=
  domainHash (ascii "flynes-selected-bearer-plan-v1") plan.bytes

/-- The plans of a summary. -/
def plansOf (summary : Bytes) : List Bytes :=
  (List.range (summary.getD 9 0).toNat).map fun index =>
    slice summary (kPlansOffset + index * kPlanSize) kPlanSize

/-- Each plan is valid and comes after the one before it. -/
def validatePlans
    (platform : UInt8) : Option Bytes → List Bytes → Except WireStatus Unit
  | _, [] => .ok ()
  | previous, plan :: rest => do
      validatePlan plan platform
      demand (previous.all fun before => before < plan) .invalidField
      validatePlans platform (some plan) rest

def validatePairCapability (bytes : Bytes) : Except WireStatus Unit := do
  demand (kSummarySize ≤ bytes.length) .truncated
  demand (bytes.length ≤ kSummarySize) .trailing
  demand (bytes.getD 0 0 == 0 && bytes.getD 1 0 == 1) .invalidField
  demand
    (zeros bytes 2 6 && zeros bytes 10 2 && zeros bytes 16 16 &&
      zeros bytes 480 32) .nonzeroReserved
  demand (1 ≤ bytes.getD 8 0 && bytes.getD 8 0 ≤ 3) .unknownEnum
  let count := (bytes.getD 9 0).toNat
  demand (count ≤ kMaxPlans && !zeros bytes 32 32 && !zeros bytes 64 32)
    .invalidField
  validatePlans (bytes.getD 8 0) none (plansOf bytes)
  demand
    (zeros bytes (kPlansOffset + count * kPlanSize)
      ((kMaxPlans - count) * kPlanSize)) .nonzeroReserved

/-- Take a candidate if the other summary has it too and it is preferred. -/
def betterPlan
    (remotes : List Bytes)
    (best : Option Bytes)
    (candidate : Bytes) : Option Bytes :=
  remotes.foldl
    (fun best remote =>
      if candidate = remote && best.all (preferred candidate) then
        some candidate
      else
        best)
    best

def selectPairPlan
    (initiator responder : Bytes) : Except PairSelectionStatus BearerPlanBytes :=
  match validatePairCapability initiator, validatePairCapability responder with
  | .error _, _ => .error .invalidInitiator
  | .ok _, .error _ => .error .invalidResponder
  | .ok _, .ok _ =>
      match (plansOf initiator).foldl (betterPlan (plansOf responder)) none with
      | none => .error .noCommonPlan
      | some best => .ok (Block.copy kPlanSize best)

/-- A demanded condition holds once the check goes on. -/
theorem demand_eq_ok
    {condition : Bool}
    {status : WireStatus}
    {result : Unit}
    (passed : demand condition status = .ok result) :
    condition = true := by
  unfold demand at passed
  split at passed
  · assumption
  · cases passed

variable {platform : UInt8} {plan : Bytes}

/-- Every plan of a list that passes is valid. -/
theorem validatePlan_of_mem
    {plans : List Bytes}
    {previous : Option Bytes}
    (passed : validatePlans platform previous plans = .ok ())
    (member : plan ∈ plans) :
    validatePlan plan platform = .ok () := by
  induction plans generalizing previous with
  | nil =>
      cases member
  | cons head rest inductionHypothesis =>
      cases valid : validatePlan head platform with
      | error _ =>
          simp [validatePlans, valid, bind, Except.bind] at passed
      | ok _ =>
          simp only [validatePlans, valid, bind, Except.bind] at passed
          split at passed
          · cases passed
          · rcases List.mem_cons.mp member with rfl | later
            · exact valid
            · exact inductionHypothesis passed later

variable {bytes : Bytes}

/-- The sizes, the number of plans and the plans of a valid summary. -/
theorem validatePairCapability_ok
    (valid : validatePairCapability bytes = .ok ()) :
    bytes.length = kSummarySize ∧ (bytes.getD 9 0).toNat ≤ kMaxPlans ∧
      validatePlans (bytes.getD 8 0) none (plansOf bytes) = .ok () := by
  unfold validatePairCapability at valid
  simp only [bind, Except.bind] at valid
  split at valid
  · cases valid
  rename_i longEnough
  split at valid
  · cases valid
  rename_i shortEnough
  split at valid
  · cases valid
  split at valid
  · cases valid
  split at valid
  · cases valid
  split at valid
  · cases valid
  rename_i counted
  split at valid
  · cases valid
  rename_i plans
  have lower := of_decide_eq_true (demand_eq_ok longEnough)
  have upper := of_decide_eq_true (demand_eq_ok shortEnough)
  have fields := demand_eq_ok counted
  simp only [Bool.and_eq_true, decide_eq_true_eq] at fields
  exact ⟨Nat.le_antisymm upper lower, fields.1.1, plans⟩

/-- The plans of a valid summary have the size of a plan. -/
theorem length_of_mem_plansOf
    (valid : validatePairCapability bytes = .ok ())
    (member : plan ∈ plansOf bytes) :
    plan.length = kPlanSize := by
  obtain ⟨size, count, -⟩ := validatePairCapability_ok valid
  obtain ⟨index, inside, rfl⟩ := List.mem_map.mp member
  have bound := List.mem_range.mp inside
  simp only [slice, List.length_take, List.length_drop, size, kSummarySize,
    kPlansOffset, kPlanSize, kMaxPlans] at count ⊢
  omega

/-! ### The order of the plans -/

/-- What two plans are compared by, as one string. -/
def preferenceKey (plan : Bytes) : Bytes :=
  preferenceFields.map (plan.getD · 0) ++ slice plan 8 36

theorem append_lt_append_iff
    (leading first second : Bytes) :
    leading ++ first < leading ++ second ↔ first < second := by
  induction leading with
  | nil =>
      rfl
  | cons head rest inductionHypothesis =>
      simp [inductionHypothesis]

theorem preferred_iff
    (candidate current : Bytes) :
    preferred candidate current = true ↔
      preferenceKey candidate < preferenceKey current := by
  unfold preferred preferenceKey
  split
  · rename_i offset found
    obtain ⟨differs, before, after, fields, same⟩ :=
      List.find?_eq_some_iff_append.mp found
    have agree :
        before.map (candidate.getD · 0) = before.map (current.getD · 0) :=
      List.map_congr_left fun field member => by simpa using same field member
    rw [bne_iff_ne] at differs
    rw [fields, List.map_append, List.map_append, agree, List.append_assoc,
      List.append_assoc, append_lt_append_iff, List.map_cons, List.map_cons,
      List.cons_append, List.cons_append, List.cons_lt_cons_iff]
    simp only [differs, false_and, or_false, decide_eq_true_eq]
  · rename_i none
    have agree :
        preferenceFields.map (candidate.getD · 0) =
          preferenceFields.map (current.getD · 0) :=
      List.map_congr_left fun field member => by
        simpa using List.find?_eq_none.mp none field member
    rw [agree, append_lt_append_iff, decide_eq_true_eq]

variable {index : Nat}

theorem getD_slice
    {offset count : Nat}
    (inside : index < count) :
    (slice bytes offset count).getD index 0 = bytes.getD (offset + index) 0 := by
  simp [slice, List.getElem?_take_of_lt inside]

/-- The bytes of a valid plan that are compared by no field are zero. -/
theorem validatePlan_reserved
    (valid : validatePlan plan platform = .ok ())
    (reserved : index = 7 ∨ 44 ≤ index ∧ index < 48) :
    plan.getD index 0 = 0 := by
  cases checked : plan.getD 7 0 == 0 && zeros plan 44 4 with
  | false =>
      simp only [validatePlan, checked, demand, bind, Except.bind] at valid
      cases valid
  | true =>
      rw [Bool.and_eq_true, beq_iff_eq] at checked
      rcases reserved with rfl | ⟨lower, upper⟩
      · exact checked.1
      · have inside : index - 44 < 4 := by omega
        have zero := List.all_eq_true.mp checked.2
        rw [← Nat.add_sub_cancel' lower, ← getD_slice inside,
          List.getD_eq_getElem?_getD]
        cases entry : (slice plan 44 4)[index - 44]? with
        | none =>
            rfl
        | some value =>
            exact beq_iff_eq.mp (zero value (List.mem_of_getElem? entry))

/-- Valid plans that are compared alike are the same. -/
theorem preferenceKey_injective
    {first second : Bytes}
    {other : UInt8}
    (validFirst : validatePlan first platform = .ok ())
    (validSecond : validatePlan second other = .ok ())
    (sizeFirst : first.length = kPlanSize)
    (sizeSecond : second.length = kPlanSize)
    (same : preferenceKey first = preferenceKey second) :
    first = second := by
  obtain ⟨fields, rest⟩ := List.append_inj same (by simp)
  refine List.ext_getElem (sizeFirst.trans sizeSecond.symm) fun index inside _ => ?_
  rw [List.getElem_eq_getD 0, List.getElem_eq_getD 0]
  rw [sizeFirst] at inside
  by_cases reserved : index = 7 ∨ 44 ≤ index ∧ index < 48
  · rw [validatePlan_reserved validFirst reserved,
      validatePlan_reserved validSecond reserved]
  by_cases field : index < 8
  · have member : index ∈ preferenceFields := by
      simp only [preferenceFields, List.mem_cons]
      omega
    exact List.map_inj_left.mp fields index member
  · have here : index - 8 < 36 := by
      unfold kPlanSize at inside
      omega
    have value := congrArg (List.getD · (index - 8) 0) rest
    simpa only [getD_slice here, Nat.add_sub_cancel' (Nat.not_lt.mp field)] using value

/-- The inner loop takes the candidate if it is common and preferred. -/
theorem betterPlan_eq
    (remotes : List Bytes)
    (best : Option Bytes)
    (candidate : Bytes) :
    betterPlan remotes best candidate =
      if candidate ∈ remotes ∧ best.all (preferred candidate) = true then
        some candidate
      else
        best := by
  have settled : preferred candidate candidate = false := by
    rw [Bool.eq_false_iff, ne_eq, preferred_iff]
    exact Std.lt_irrefl
  unfold betterPlan
  induction remotes generalizing best with
  | nil =>
      simp
  | cons remote rest inductionHypothesis =>
      rw [List.foldl_cons, inductionHypothesis]
      grind

variable {candidates remotes : List Bytes} {first : Option Bytes}

/-- The outer loop ends with a plan of both lists, if it had one or none. -/
theorem mem_of_bestPlan
    {best : Bytes}
    (found : candidates.foldl (betterPlan remotes) first = some best) :
    first = some best ∨ best ∈ candidates ∧ best ∈ remotes := by
  induction candidates generalizing first with
  | nil =>
      exact .inl found
  | cons candidate rest inductionHypothesis =>
      rw [List.foldl_cons, betterPlan_eq] at found
      rcases inductionHypothesis found with earlier | ⟨member, shared⟩
      · split at earlier
        · rename_i taken
          rw [← Option.some.inj earlier]
          exact .inr ⟨List.mem_cons_self, taken.1⟩
        · exact .inl earlier
      · exact .inr ⟨List.mem_cons_of_mem _ member, shared⟩

/-- The inner loop ends with nothing worse than what it had or was offered. -/
theorem betterPlan_least
    {best : Option Bytes}
    {candidate : Bytes}
    (offered : best = some plan ∨ plan = candidate ∧ candidate ∈ remotes) :
    ∃ better, betterPlan remotes best candidate = some better ∧
      preferenceKey better ≤ preferenceKey plan := by
  rw [betterPlan_eq]
  split
  · rename_i taken
    refine ⟨candidate, rfl, ?_⟩
    rcases offered with rfl | ⟨rfl, -⟩
    · exact Std.le_of_lt ((preferred_iff candidate plan).mp taken.2)
    · exact Std.le_refl _
  · rename_i kept
    rcases offered with rfl | ⟨rfl, shared⟩
    · exact ⟨plan, rfl, Std.le_refl _⟩
    · cases best with
      | none =>
          exact absurd ⟨shared, rfl⟩ kept
      | some current =>
          refine ⟨current, rfl, Std.not_lt.mp fun less => kept ⟨shared, ?_⟩⟩
          exact (preferred_iff plan current).mpr less

theorem bestPlan_least
    (offered : first = some plan ∨ plan ∈ candidates ∧ plan ∈ remotes) :
    ∃ best, candidates.foldl (betterPlan remotes) first = some best ∧
      preferenceKey best ≤ preferenceKey plan := by
  induction candidates generalizing first plan with
  | nil =>
      rcases offered with rfl | ⟨member, -⟩
      · exact ⟨plan, rfl, Std.le_refl _⟩
      · cases member
  | cons candidate rest inductionHypothesis =>
      rw [List.foldl_cons]
      by_cases later : plan ∈ rest ∧ plan ∈ remotes
      · exact inductionHypothesis (.inr later)
      · have here : first = some plan ∨ plan = candidate ∧ candidate ∈ remotes := by
          grind
        obtain ⟨better, taken, below⟩ := betterPlan_least here
        obtain ⟨best, found, least⟩ := inductionHypothesis (.inl taken)
        exact ⟨best, found, Std.le_trans least below⟩

/-- A plan stands in both summaries and comes before every other such plan. -/
structure FirstCommon (initiator responder plan : Bytes) : Prop where
  offered : plan ∈ plansOf initiator
  common : plan ∈ plansOf responder
  first :
    ∀ other ∈ plansOf initiator, other ∈ plansOf responder →
      other = plan ∨ preferred plan other = true

variable {initiator responder : Bytes}

theorem FirstCommon.unique
    {other : Bytes}
    (one : FirstCommon initiator responder plan)
    (two : FirstCommon responder initiator other) :
    other = plan := by
  rcases one.first other two.common two.offered with same | before
  · exact same
  · rcases two.first plan one.common one.offered with same | after
    · exact same.symm
    · rw [preferred_iff] at before after
      exact absurd after (Std.not_lt.mpr (Std.le_of_lt before))

theorem selectPairPlan_cases
    (validInitiator : validatePairCapability initiator = .ok ())
    (validResponder : validatePairCapability responder = .ok ()) :
    selectPairPlan initiator responder = .error .noCommonPlan ∧
        (∀ plan ∈ plansOf initiator, plan ∉ plansOf responder) ∨
      ∃ plan, selectPairPlan initiator responder = .ok plan ∧
        FirstCommon initiator responder plan.bytes := by
  obtain ⟨-, -, plans⟩ := validatePairCapability_ok validInitiator
  simp only [selectPairPlan, validInitiator, validResponder]
  cases found : (plansOf initiator).foldl (betterPlan (plansOf responder)) none with
  | none =>
      refine .inl ⟨rfl, fun plan member shared => ?_⟩
      obtain ⟨best, other, -⟩ := bestPlan_least (.inr ⟨member, shared⟩)
      rw [found] at other
      cases other
  | some best =>
      obtain ⟨member, shared⟩ := (mem_of_bestPlan found).resolve_left nofun
      have size := length_of_mem_plansOf validInitiator member
      have copied : (Block.copy kPlanSize best).bytes = best := by
        rw [Block.bytes_copy_of_le (Nat.le_of_eq size.symm)]
        exact List.take_of_length_le (Nat.le_of_eq size)
      refine .inr ⟨_, rfl, ?_⟩
      rw [copied]
      refine ⟨member, shared, fun other offered common => ?_⟩
      obtain ⟨same, taken, least⟩ := bestPlan_least (.inr ⟨offered, common⟩)
      rw [found] at taken
      rw [preferred_iff, ← Std.not_le]
      by_cases equal : preferenceKey other = preferenceKey best
      · exact .inl (preferenceKey_injective (validatePlan_of_mem plans offered)
          (validatePlan_of_mem plans member)
          (length_of_mem_plansOf validInitiator offered) size equal)
      · rw [← Option.some.inj taken] at least
        exact .inr fun below => equal (Std.le_antisymm below least)

theorem FirstCommon.of_selected
    {plan : BearerPlanBytes}
    (selected : selectPairPlan initiator responder = .ok plan) :
    FirstCommon initiator responder plan.bytes := by
  have opened := selected
  unfold selectPairPlan at opened
  split at opened
  · cases opened
  · cases opened
  · rename_i validInitiator validResponder
    rcases selectPairPlan_cases validInitiator validResponder with
      ⟨refused, -⟩ | ⟨best, chosen, first⟩
    · cases refused.symm.trans selected
    · cases chosen.symm.trans selected
      exact first

/--
Both devices select the same plan, whichever of them started: the one that comes
before every other common plan.  They select none only if they share none.
-/
theorem selected_plan_agreed
    (validInitiator : validatePairCapability initiator = .ok ())
    (validResponder : validatePairCapability responder = .ok ()) :
    selectPairPlan responder initiator = selectPairPlan initiator responder ∧
      (selectPairPlan initiator responder = .error .noCommonPlan ∧
          (∀ plan ∈ plansOf initiator, plan ∉ plansOf responder) ∨
        ∃ plan, selectPairPlan initiator responder = .ok plan ∧
          FirstCommon initiator responder plan.bytes) := by
  have here := selectPairPlan_cases validInitiator validResponder
  refine ⟨?_, here⟩
  rcases here with ⟨refused, apart⟩ | ⟨plan, selected, first⟩
  · rcases selectPairPlan_cases validResponder validInitiator with
      ⟨refused', -⟩ | ⟨other, -, first'⟩
    · rw [refused, refused']
    · exact absurd first'.offered (apart _ first'.common)
  · rcases selectPairPlan_cases validResponder validInitiator with
      ⟨-, apart⟩ | ⟨other, selected', first'⟩
    · exact absurd first.offered (apart _ first.common)
    · rw [selected, selected', Block.ext (first.unique first')]

/-- A summary of some plans of 48 bytes. -/
def sampleSummary (plans : List Bytes) : Bytes :=
  (Block.copy kSummarySize
    ([0, 1, 0, 0, 0, 0, 0, 0, 1, UInt8.ofNat plans.length] ++
      List.replicate 22 0 ++ List.replicate 64 1 ++ plans.flatten)).bytes

def samplePlan (bearer rank : UInt8) : Bytes :=
  [bearer, 1, 1, 2, 1, 2, rank, 0] ++ List.replicate 36 1 ++ List.replicate 4 0

theorem sample_plan_agreed :
    selectPairPlan (sampleSummary [samplePlan 3 20])
        (sampleSummary [samplePlan 2 10, samplePlan 3 20]) =
      selectPairPlan (sampleSummary [samplePlan 2 10, samplePlan 3 20])
        (sampleSummary [samplePlan 3 20]) :=
  (selected_plan_agreed (by decide +kernel) (by decide +kernel)).1

end FlyNes.Wire
