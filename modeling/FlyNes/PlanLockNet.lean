import FlyNes.PlanLockCourse

namespace FlyNes.Pair

open FlyNes.Wire

/-!
# Two plan locks

Two devices hold the same evidence about the pair, each under its own role.  A
message of the other device is handed to a lock only after the other device
completed the command that sends it; everything else happens in any order, at
any time or never.  A run keeps the commands each lock has offered and those that
were completed.
-/

namespace PairRole

/-- The command by which a device locks the plan. -/
def lockKind : PairRole → InitialPlanCommandKind
  | .initiator => .persistAckAndLock
  | .responder => .persistPlanAndLock

@[simp] theorem other_other (role : PairRole) :
    role.other.other = role := by
  cases role <;> rfl

end PairRole

namespace PlanMessage

/-- The command that sends the message. -/
def sending : PlanMessage → InitialPlanCommandKind
  | .plan _ => .sendPlan
  | .ack _ => .sendAck
  | .final _ => .sendFinal
  | .credentials _ => .publishCredentials

/-- The command sends this message. -/
def sentBy (message : PlanMessage) (command : InitialPlanCommand) : Bool :=
  command.kind == message.sending && command.evidence == message.binding &&
    match message with
    | .credentials evidence =>
        command.credentialLogicalHash == evidence.credentialLogicalHash
    | _ => true

end PlanMessage

/-- A lock, the commands it completed and all the commands it has offered. -/
structure PlanParty where
  lock : InitialPlanLock := {}
  log : List InitialPlanCommand := []
  offered : List InitialPlanCommand := []
deriving DecidableEq

namespace PlanParty

/-- A call on the lock; a command that is pending afterwards is a new one. -/
def advance
    (party : PlanParty)
    (completed : List InitialPlanCommand)
    (after : InitialPlanLock) : PlanParty where
  lock := after
  log := party.log ++ completed
  offered := party.offered ++ after.poll.toList

end PlanParty

/-- The evidence of a device: that of the pair, under its role and its seal. -/
def VerifiedPairEvidence.mirrored
    (shared : VerifiedPairEvidence)
    (role : PairRole)
    (authenticationSeal : PlanHash) : VerifiedPairEvidence :=
  { shared with localRole := role, authenticationSeal := authenticationSeal }

structure PlanNet where
  initiator : PlanParty := {}
  responder : PlanParty := {}
deriving DecidableEq

/-- A call on one of the two locks. -/
inductive PlanMove where
  | begin (authenticationSeal : PlanHash)
  | receive (message : PlanMessage)
  | complete (id generation : Nat) (success : Bool)
  | invalidate
deriving DecidableEq

namespace PlanNet

def party (net : PlanNet) : PairRole → PlanParty
  | .initiator => net.initiator
  | .responder => net.responder

def update (net : PlanNet) (role : PairRole) (party : PlanParty) : PlanNet :=
  match role with
  | .initiator => { net with initiator := party }
  | .responder => { net with responder := party }

/-- What a message of the other device waits for. -/
def allowed (net : PlanNet) (role : PairRole) : PlanMove → Bool
  | .receive message =>
      message.binding.sender != role.other ||
        (net.party role.other).log.any message.sentBy
  | _ => true

end PlanNet

/-- One call on the lock of a device. -/
def PlanParty.move
    (shared : VerifiedPairEvidence)
    (role : PairRole)
    (party : PlanParty) : PlanMove → PlanParty
  | .begin authenticationSeal =>
      party.advance [] (party.lock.begin (shared.mirrored role authenticationSeal)).2
  | .receive message => party.advance [] (party.lock.receive message).2
  | .complete id generation success =>
      party.advance (party.lock.completed? id generation success).toList
        (party.lock.complete id generation success).2
  | .invalidate => party.advance [] party.lock.invalidate

/-- A run of both devices, if every message of the other was sent before. -/
def PlanNet.run
    (shared : VerifiedPairEvidence) :
    PlanNet → List (PairRole × PlanMove) → Option PlanNet
  | net, [] => some net
  | net, (role, move) :: rest =>
      if net.allowed role move then
        run shared
          (net.update role ((net.party role).move shared role move)) rest
      else
        none

namespace PlanParty

/-- The script of a device under the plan it selected. -/
def casting (party : PlanParty) (role : PairRole) : Casting :=
  Casting.under role party.lock.selected

/-- The lock was begun with the evidence of the pair. -/
structure Begun
    (shared : VerifiedPairEvidence)
    (role : PairRole)
    (lock : InitialPlanLock) : Prop where
  localRole : lock.pair.localRole = role
  selected :
    selectPairPlan shared.initiatorSummary.bytes shared.responderSummary.bytes =
      .ok lock.selected

/-- A live lock stands at a beat, with the commands before it completed. -/
structure At
    (role : PairRole)
    (party : PlanParty)
    (position : Nat) : Prop where
  stands : party.lock.StandsAt (party.casting role).script[position]?
  log :
    party.log.map (·.kind) =
      Casting.commands ((party.casting role).script.take position)
  offered : party.offered = party.log ++ party.lock.pending.toList

/-- What holds of one device in every run. -/
structure Course
    (shared : VerifiedPairEvidence)
    (role : PairRole)
    (party : PlanParty) : Prop where
  begun :
    party.offered ≠ [] ∨
        (party.lock.failed = false ∧ party.lock.phase ≠ .idle) →
      Begun shared role party.lock
  position : party.lock.failed = false → ∃ position, At role party position
  gone : party.lock.failed = true → party.lock.pending = none
  offers :
    ∃ reach, party.offered.map (·.kind) =
      Casting.commands ((party.casting role).script.take reach)
  logged : ∃ lost, party.offered = party.log ++ lost ∧ lost.length ≤ 1
  plan :
    ∀ command ∈ party.offered,
      command.evidence.planLogicalHash = party.lock.evidence.planLogicalHash ∧
        command.evidence.selectedPlan = party.lock.selected
  locked :
    party.lock.locked = true ↔ ∃ command ∈ party.log, command.kind.locks = true
  mutuallyLocked :
    party.lock.mutuallyLocked = true ↔
      ∃ command ∈ party.log, command.kind = .persistMutualLock
  prompts :
    ∀ command ∈ party.offered, command.mayPrompt = true →
      command.kind.raisesBearer = true ∧ (party.casting role).designated = true
  persisted :
    ∀ command ∈ party.offered, ∀ kind,
      command.kind.persistedBefore = some kind →
        ∃ earlier ∈ party.log, earlier.kind = kind ∧
          earlier.evidence = command.evidence

namespace Course

variable {shared : VerifiedPairEvidence} {role : PairRole} {party : PlanParty}

/-- The course of a lock that was never called. -/
theorem start : Course shared role {} where
  begun moved := by
    rcases moved with offered | ⟨-, begun⟩
    · exact (offered rfl).elim
    · exact (begun rfl).elim
  position _ := ⟨0, ⟨rfl, rfl, rfl⟩, rfl, rfl⟩
  gone failed := by cases failed
  offers := ⟨0, rfl⟩
  logged := ⟨[], rfl, Nat.zero_le 1⟩
  plan _ member := by cases member
  locked := by simp
  mutuallyLocked := by simp
  prompts _ member := by cases member
  persisted _ member := by cases member

/-- A lock that is invalidated keeps what is durable. -/
theorem invalidate (course : Course shared role party) :
    Course shared role (party.advance [] party.lock.invalidate) := by
  have log : (party.advance [] party.lock.invalidate).log = party.log :=
    List.append_nil _
  have offered : (party.advance [] party.lock.invalidate).offered = party.offered :=
    List.append_nil _
  constructor
  case begun =>
    intro moved
    rw [offered] at moved
    rcases moved with offers | ⟨live, -⟩
    · have begun := course.begun (.inl offers)
      exact ⟨begun.localRole, begun.selected⟩
    · cases live
  case position =>
    intro live
    cases live
  case gone => exact fun _ => rfl
  case offers =>
    rw [offered]
    exact course.offers
  case logged =>
    rw [offered, log]
    exact course.logged
  case plan =>
    rw [offered]
    exact course.plan
  case locked =>
    rw [log]
    exact course.locked
  case mutuallyLocked =>
    rw [log]
    exact course.mutuallyLocked
  case prompts =>
    rw [offered]
    exact course.prompts
  case persisted =>
    rw [offered, log]
    exact course.persisted

/-- A lock that waits to be begun has offered nothing. -/
theorem unbegun
    (course : Course shared role party)
    (live : party.lock.failed = false)
    (idle : party.lock.phase = .idle) :
    party.log = [] ∧ party.offered = [] ∧ party.lock.pending = none := by
  obtain ⟨position, here⟩ := course.position live
  have stands := here.stands
  cases beat : (party.casting role).script[position]? with
  | none =>
      rw [beat] at stands
      obtain ⟨-, phase, -⟩ := stands
      rw [idle] at phase
      cases phase
  | some found =>
      rw [beat] at stands
      cases found with
      | await phase =>
          obtain ⟨-, same, free⟩ := stands
          rw [idle] at same
          subst same
          have log : party.log = [] := by
            apply List.map_eq_nil_iff.mp
            exact here.log.trans (Casting.commands_before_plan beat (.inl rfl))
          exact ⟨log, by rw [here.offered, log, free]; rfl, free⟩
      | command kind =>
          obtain ⟨-, phase, -⟩ := stands
          rw [idle] at phase
          cases phase

/-- Nothing is durable before a lock offers something. -/
theorem nothing_durable
    (course : Course shared role party)
    (log : party.log = []) :
    party.lock.locked = false ∧ party.lock.mutuallyLocked = false := by
  have unlocked : ¬party.lock.locked = true := by
    rw [course.locked, log]
    simp
  have unshared : ¬party.lock.mutuallyLocked = true := by
    rw [course.mutuallyLocked, log]
    simp
  exact ⟨Bool.eq_false_iff.mpr unlocked, Bool.eq_false_iff.mpr unshared⟩

variable {after : InitialPlanLock}

/-- The course of a lock that has offered nothing. -/
theorem blank
    (log : party.log = [])
    (offered : party.offered = [])
    (unlocked : after.locked = false)
    (unshared : after.mutuallyLocked = false)
    (free : after.pending = none)
    (outcome :
      after.failed = true ∨
        (after.StandsAt (some (.await .plan)) ∧ Begun shared role after)) :
    Course shared role (party.advance [] after) := by
  have noLog : (party.advance [] after).log = [] := by
    simp [advance, log]
  have noOffer : (party.advance [] after).offered = [] := by
    simp [advance, offered, InitialPlanLock.poll, free]
  constructor
  case begun =>
    intro moved
    rw [noOffer] at moved
    rcases moved with offers | ⟨live, -⟩
    · exact (offers rfl).elim
    · rcases outcome with failed | ⟨-, begun⟩
      · exact (Bool.false_ne_true (live.symm.trans failed)).elim
      · exact begun
  case position =>
    intro live
    rcases outcome with failed | ⟨stands, -⟩
    · exact (Bool.false_ne_true (live.symm.trans failed)).elim
    · refine ⟨1, stands, by rw [noLog]; rfl, ?_⟩
      rw [noOffer, noLog]
      change [] = [] ++ after.pending.toList
      rw [free]
      rfl
  case gone => exact fun _ => free
  case offers => exact ⟨0, by rw [noOffer]; rfl⟩
  case logged => exact ⟨[], by rw [noOffer, noLog]; rfl, Nat.zero_le 1⟩
  case plan =>
    rw [noOffer]
    intro _ member
    cases member
  case locked =>
    rw [noLog]
    change after.locked = true ↔ _
    simp [unlocked]
  case mutuallyLocked =>
    rw [noLog]
    change after.mutuallyLocked = true ↔ _
    simp [unshared]
  case prompts =>
    rw [noOffer]
    intro _ member
    cases member
  case persisted =>
    rw [noOffer]
    intro _ member
    cases member

variable (course : Course shared role party)

include course

/-- A lock is begun, or gives up before it offered anything. -/
theorem begin
    (authenticationSeal : PlanHash) :
    Course shared role
      (party.move shared role (.begin authenticationSeal)) := by
  unfold PlanParty.move
  rcases party.lock.begin_cases (shared.mirrored role authenticationSeal) with
    refused | ⟨live, idle, outcome⟩
  · simp only [refused]
    exact course.invalidate
  · obtain ⟨log, offered, free⟩ := course.unbegun live idle
    obtain ⟨unlocked, unshared⟩ := course.nothing_durable log
    rcases outcome with ⟨notSupported, failed⟩ | ⟨plan, selected, begun⟩
    · simp only [failed]
      exact blank log offered unlocked unshared rfl (.inl rfl)
    · simp only [begun]
      exact blank log offered unlocked unshared free
        (.inr ⟨⟨live, rfl, free⟩, ⟨rfl, selected⟩⟩)

/-- No command is pending after a lock was begun. -/
theorem begin_free
    (evidence : VerifiedPairEvidence) :
    (party.lock.begin evidence).2.pending = none := by
  rcases party.lock.begin_cases evidence with refused | ⟨live, idle, outcome⟩
  · rw [refused]
    rfl
  · rcases outcome with ⟨notSupported, failed⟩ | ⟨plan, -, begun⟩
    · rw [failed]
      rfl
    · rw [begun]
      exact (course.unbegun live idle).2.2

/-- What a call does to a live lock that stands at a beat. -/
structure Proceeds
    (shared : VerifiedPairEvidence)
    (role : PairRole)
    (party : PlanParty)
    (beat : Beat)
    (after : InitialPlanLock) : Prop where
  begun : Begun shared role after
  selected : after.selected = party.lock.selected
  samePlan :
    party.offered ≠ [] →
      after.evidence.planLogicalHash = party.lock.evidence.planLogicalHash
  bound : after.evidence.selectedPlan = after.selected
  keeps : beat.kind? ≠ none → after.evidence = party.lock.evidence
  locked :
    after.locked = (party.lock.locked || beat.kind?.any (·.locks))
  mutuallyLocked :
    after.mutuallyLocked =
      (party.lock.mutuallyLocked || beat.kind? == some .persistMutualLock)
  outcome :
    after.Gone ∨ after.StandsAt ((party.casting role).follows beat)

variable {beat : Beat} {position : Nat}

omit course in
/-- The completed commands after a call on a live lock are those offered before. -/
theorem offered_kinds
    (here : At role party position)
    (found : (party.casting role).script[position]? = some beat) :
    party.offered.map (·.kind) =
      Casting.commands ((party.casting role).script.take (position + 1)) := by
  have stands := here.stands
  rw [found] at stands
  rw [Casting.commands_take_succ found, here.offered, List.map_append, here.log,
    ← stands.pending_kind]
  cases party.lock.pending <;> rfl

variable {command : InitialPlanCommand}

omit course in
/-- A command that is pending after a call on a live lock. -/
theorem Proceeds.pending
    (proceeds : Proceeds shared role party beat after)
    (pending : after.pending = some command) :
    (party.casting role).follows beat = some (.command command.kind) ∧
      command.evidence = after.evidence ∧
      command.mayPrompt =
        (command.kind.raisesBearer && (party.casting role).designated) := by
  rcases proceeds.outcome with ⟨-, free⟩ | stands
  · rw [free] at pending
    cases pending
  · cases next : (party.casting role).follows beat with
    | none =>
        rw [next] at stands
        obtain ⟨-, -, free⟩ := stands
        rw [free] at pending
        cases pending
    | some beat =>
        rw [next] at stands
        cases beat with
        | await phase =>
            obtain ⟨-, -, free⟩ := stands
            rw [free] at pending
            cases pending
        | command kind =>
            obtain ⟨-, -, other, same, kindSame, evidence, prompt⟩ := stands
            rw [pending] at same
            cases same
            have designated : after.designated = (party.casting role).designated := by
              unfold InitialPlanLock.designated casting Casting.under
              rw [proceeds.begun.localRole, proceeds.selected]
            subst kindSame
            rw [designated] at prompt
            exact ⟨rfl, evidence, prompt⟩

/-- A live lock goes on to the next beat of its script, or gives up. -/
theorem proceed
    (here : At role party position)
    (found : (party.casting role).script[position]? = some beat)
    (proceeds : Proceeds shared role party beat after) :
    Course shared role (party.advance party.lock.pending.toList after) := by
  have stands := here.stands
  rw [found] at stands
  have kinds := offered_kinds here found
  -- The commands completed so far are the ones offered before the call.
  have log :
      (party.advance party.lock.pending.toList after).log = party.offered :=
    here.offered.symm
  have casting :
      (party.advance party.lock.pending.toList after).casting role =
        party.casting role :=
    congrArg (Casting.under role) proceeds.selected
  have members :
      ∀ command ∈ (party.advance party.lock.pending.toList after).offered,
        command ∈ party.offered ∨ after.pending = some command := by
    intro command member
    rcases List.mem_append.mp member with old | new
    · exact .inl old
    · exact .inr (Option.mem_toList.mp new)
  constructor
  case begun => exact fun _ => proceeds.begun
  case position =>
    intro live
    rcases proceeds.outcome with ⟨failed, -⟩ | stands
    · exact (Bool.false_ne_true (live.symm.trans failed)).elim
    · refine ⟨position + 1, ?_, ?_, ?_⟩
      · rw [casting, Casting.script_follows found]
        exact stands
      · rw [casting, log]
        exact kinds
      · rw [log]
        rfl
  case gone =>
    intro failed
    rcases proceeds.outcome with ⟨-, free⟩ | stands
    · exact free
    · exact (Bool.false_ne_true (stands.live.symm.trans failed)).elim
  case offers =>
    rw [casting]
    cases pending : after.pending with
    | none =>
        refine ⟨position + 1, ?_⟩
        simpa [advance, InitialPlanLock.poll, pending] using kinds
    | some command =>
        refine ⟨position + 2, ?_⟩
        obtain ⟨next, -, -⟩ := proceeds.pending pending
        rw [← Casting.script_follows found] at next
        rw [Casting.commands_take_succ next, ← kinds]
        simp [advance, InitialPlanLock.poll, pending, Beat.kind?]
  case logged =>
    rw [log]
    exact ⟨after.poll.toList, rfl, Option.length_toList_le⟩
  case plan =>
    intro command member
    rcases members command member with old | pending
    · obtain ⟨hash, plan⟩ := course.plan command old
      have offered : party.offered ≠ [] := List.ne_nil_of_mem old
      exact ⟨hash.trans (proceeds.samePlan offered).symm,
        plan.trans proceeds.selected.symm⟩
    · obtain ⟨-, evidence, -⟩ := proceeds.pending pending
      exact ⟨congrArg _ evidence, by rw [evidence]; exact proceeds.bound⟩
  case locked =>
    change after.locked = true ↔ ∃ command ∈ party.log ++ _, _
    rw [proceeds.locked, Bool.or_eq_true, course.locked, ← stands.pending_kind]
    cases party.lock.pending <;> simp [or_and_right, exists_or]
  case mutuallyLocked =>
    change after.mutuallyLocked = true ↔ ∃ command ∈ party.log ++ _, _
    rw [proceeds.mutuallyLocked, Bool.or_eq_true, course.mutuallyLocked,
      ← stands.pending_kind]
    cases party.lock.pending <;> simp [or_and_right, exists_or]
  case prompts =>
    rw [casting]
    intro command member prompt
    rcases members command member with old | pending
    · exact course.prompts command old prompt
    · obtain ⟨-, -, same⟩ := proceeds.pending pending
      rw [same, Bool.and_eq_true] at prompt
      exact prompt
  case persisted =>
    rw [log]
    intro command member kind needs
    rcases members command member with old | pending
    · obtain ⟨earlier, logged, facts⟩ := course.persisted command old kind needs
      refine ⟨earlier, ?_, facts⟩
      rw [here.offered]
      exact List.mem_append_left _ logged
    · obtain ⟨next, evidence, -⟩ := proceeds.pending pending
      have before := Casting.persisted_of_follows next needs
      subst before
      obtain ⟨-, -, earlier, wasPending, same, itsEvidence, -⟩ := stands
      refine ⟨earlier, ?_, same, ?_⟩
      · rw [here.offered, wasPending]
        exact List.mem_append_right _ List.mem_cons_self
      · rw [itsEvidence, evidence]
        exact (proceeds.keeps (by simp [Beat.kind?])).symm

/-- A lock that waits for a message stands at that beat. -/
theorem awaiting
    {phase : Phase}
    (live : party.lock.failed = false)
    (waits : party.lock.phase = phase)
    (open_ : phase ≠ .pending)
    (unfinished : phase ≠ .done) :
    ∃ position, At role party position ∧
      (party.casting role).script[position]? = some (.await phase) ∧
      party.lock.pending = none := by
  obtain ⟨position, here⟩ := course.position live
  have stands := here.stands
  refine ⟨position, here, ?_⟩
  cases beat : (party.casting role).script[position]? with
  | none =>
      rw [beat] at stands
      exact (unfinished (waits.symm.trans stands.2.1)).elim
  | some found =>
      rw [beat] at stands
      cases found with
      | await other =>
          obtain ⟨-, same, free⟩ := stands
          rw [← same, waits]
          exact ⟨rfl, free⟩
      | command kind =>
          exact (open_ (waits.symm.trans stands.2.1)).elim

/-- A lock with a pending command stands at that command. -/
theorem executing
    (live : party.lock.failed = false)
    (pending : party.lock.pending = some command) :
    ∃ position, At role party position ∧
      (party.casting role).script[position]? = some (.command command.kind) ∧
      command.evidence = party.lock.evidence := by
  obtain ⟨position, here⟩ := course.position live
  have stands := here.stands
  refine ⟨position, here, ?_⟩
  cases beat : (party.casting role).script[position]? with
  | none =>
      rw [beat] at stands
      exact (Option.some_ne_none _ (pending.symm.trans stands.2.2)).elim
  | some found =>
      rw [beat] at stands
      cases found with
      | await phase =>
          exact (Option.some_ne_none _ (pending.symm.trans stands.2.2)).elim
      | command kind =>
          obtain ⟨-, -, other, same, kindSame, evidence, -⟩ := stands
          rw [pending] at same
          cases same
          exact ⟨congrArg _ (congrArg _ kindSame.symm), evidence⟩

omit course in
/-- The casting of a lock that was begun. -/
theorem casting_of_begun
    (begun : Begun shared role party.lock) :
    party.lock.casting = party.casting role := by
  unfold InitialPlanLock.casting
  rw [begun.localRole]
  rfl

/-- A lock that takes a message goes on from the beat of the message. -/
theorem takes_proceeds
    {message : PlanMessage}
    (takes : party.lock.Takes message after) :
    Proceeds shared role party (.await message.phase) after ∧
      party.lock.pending = none ∧
      ∃ position, At role party position ∧
        (party.casting role).script[position]? = some (.await message.phase) := by
  obtain ⟨notIdle, notPending, notDone⟩ := message.phase_ne
  obtain ⟨position, here, found, free⟩ :=
    course.awaiting takes.live takes.phase notPending notDone
  have begun : Begun shared role party.lock := by
    refine course.begun (.inr ⟨takes.live, ?_⟩)
    rw [takes.phase]
    exact notIdle
  refine ⟨?_, free, position, here, found⟩
  constructor
  case begun =>
    constructor
    · rw [takes.record.pair]
      exact begun.localRole
    · rw [takes.record.selected]
      exact begun.selected
  case selected => exact takes.record.selected
  case samePlan =>
    intro offered
    rw [takes.record.evidence]
    apply takes.samePlan
    intro first
    have log : party.log = [] := by
      apply List.map_eq_nil_iff.mp
      exact here.log.trans (Casting.commands_before_plan found (.inr first))
    apply offered
    rw [here.offered, log, free]
    rfl
  case bound =>
    rw [takes.record.evidence, takes.record.selected]
    exact takes.bound
  case keeps => exact fun command => (command rfl).elim
  case locked =>
    rw [takes.record.locked]
    simp [Beat.kind?]
  case mutuallyLocked =>
    rw [takes.record.mutuallyLocked]
    simp [Beat.kind?]
  case outcome =>
    rw [← casting_of_begun begun]
    exact takes.outcome

/-- A lock is handed a message. -/
theorem receive
    (message : PlanMessage) :
    Course shared role (party.move shared role (.receive message)) := by
  unfold PlanParty.move
  rcases party.lock.receive_cases message with refused | takes
  · simp only [refused]
    exact course.invalidate
  · obtain ⟨proceeds, free, position, here, found⟩ := course.takes_proceeds takes
    have onward := course.proceed here found proceeds
    rw [free] at onward
    exact onward

/-- A lock whose command is completed goes on from that command. -/
theorem completed_proceeds
    {id generation : Nat}
    {success : Bool}
    (completed : party.lock.completed? id generation success = some command) :
    Proceeds shared role party (.command command.kind)
        (InitialPlanLock.finish { party.lock with pending := none } command.kind).2 ∧
      party.lock.pending = some command ∧
      ∃ position, At role party position ∧
        (party.casting role).script[position]? = some (.command command.kind) := by
  obtain ⟨pending, passed⟩ := Option.filter_eq_some_iff.mp completed
  simp only [Bool.and_eq_true, Bool.not_eq_eq_eq_not, Bool.not_true] at passed
  have live : party.lock.failed = false := passed.1.1.1.1
  obtain ⟨position, here, found, evidence⟩ := course.executing live pending
  have offered : command ∈ party.offered := by
    rw [here.offered, pending]
    exact List.mem_append_right _ List.mem_cons_self
  have begun : Begun shared role party.lock :=
    course.begun (.inl (List.ne_nil_of_mem offered))
  have finishes :=
    InitialPlanLock.finish_finishes { party.lock with pending := none } live rfl
      command.kind
  have record := finishes.record
  refine ⟨?_, pending, position, here, found⟩
  constructor
  case begun =>
    constructor
    · rw [record.pair]
      exact begun.localRole
    · rw [record.selected]
      exact begun.selected
  case selected => exact record.selected
  case samePlan =>
    intro _
    rw [record.evidence]
    rfl
  case bound =>
    rw [record.evidence, record.selected]
    change party.lock.evidence.selectedPlan = party.lock.selected
    rw [← evidence]
    exact (course.plan command offered).2
  case keeps => exact fun _ => record.evidence
  case locked => exact record.locked
  case mutuallyLocked => exact record.mutuallyLocked
  case outcome =>
    rw [← casting_of_begun begun]
    exact finishes.outcome

/-- A command of a lock is reported completed. -/
theorem complete
    (id generation : Nat)
    (success : Bool) :
    Course shared role
      (party.move shared role (.complete id generation success)) := by
  unfold PlanParty.move InitialPlanLock.complete
  simp only
  cases completed : party.lock.completed? id generation success with
  | none => exact course.invalidate
  | some command =>
      obtain ⟨proceeds, pending, position, here, found⟩ :=
        course.completed_proceeds completed
      have onward := course.proceed here found proceeds
      rw [pending] at onward
      exact onward

/-- Every command that is polled is on record. -/
theorem polled
    (pending : party.lock.poll = some command) :
    command ∈ party.offered := by
  have live : party.lock.failed = false := by
    by_contra failed
    have free := course.gone (eq_true_of_ne_false failed)
    exact Option.some_ne_none _ (pending.symm.trans free)
  obtain ⟨position, here, -, -⟩ := course.executing live pending
  rw [here.offered, show party.lock.pending = some command from pending]
  exact List.mem_append_right _ List.mem_cons_self

/-- Every call on a lock keeps its course. -/
theorem move
    (call : PlanMove) :
    Course shared role (party.move shared role call) := by
  cases call with
  | begin authenticationSeal => exact course.begin authenticationSeal
  | receive message => exact course.receive message
  | complete id generation success => exact course.complete id generation success
  | invalidate => exact course.invalidate

end Course

end PlanParty

end FlyNes.Pair
