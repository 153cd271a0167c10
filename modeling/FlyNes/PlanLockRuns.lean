import FlyNes.PlanLockNet

namespace FlyNes.Pair

open ByteString
open FlyNes.Wire

/-!
# Agreement of two plan locks

In every run the devices lock the same plan: a device that knows both are locked
is right, whatever was lost or failed.  What a device persists of a message of
the other one was sent by it, and the scripts of both devices do the rest.
-/

namespace PairRole

theorem code_of_ofCode
    {code : UInt8}
    {role : PairRole}
    (decoded : ofCode code = some role) :
    code = role.code := by
  unfold ofCode at decoded
  split at decoded
  · cases decoded
    assumption
  split at decoded
  · cases decoded
    assumption
  · cases decoded

theorem eq_other_of_ne
    {first second : PairRole}
    (different : first ≠ second) :
    first = second.other := by
  cases first <;> cases second <;> first | rfl | exact (different rfl).elim

end PairRole

namespace Casting

/-- The command of the other device that a command of this one rests on. -/
def heard (casting : Casting) : InitialPlanCommandKind → Option InitialPlanCommandKind
  | .persistPlanAndLock => some .sendPlan
  | .persistAckAndLock => some .sendAck
  | .persistFinal => if casting.role = .responder then some .sendFinal else none
  | .persistCredentials => if casting.creator then none else some .publishCredentials
  | _ => none

variable {kind : InitialPlanCommandKind}

/-- A command that rests on the other device only comes with its message. -/
theorem heard_of_follows
    {role : PairRole}
    {plan : BearerPlanBytes}
    {message : PlanMessage}
    {sent : InitialPlanCommandKind}
    (next : (under role plan).follows (.await message.phase) = some (.command kind))
    (rests : (under role plan).heard kind = some sent)
    (sender : message.sender? plan = some message.binding.sender) :
    message.binding.sender = role.other ∧ sent = message.sending := by
  cases message with
  | plan evidence =>
      cases role with
      | initiator =>
          cases next
          cases rests
      | responder =>
          cases next
          cases rests
          exact ⟨(Option.some.inj sender).symm, rfl⟩
  | ack evidence =>
      cases role with
      | initiator =>
          cases next
          cases rests
          exact ⟨(Option.some.inj sender).symm, rfl⟩
      | responder =>
          cases next
          cases rests
  | final evidence =>
      cases next
      cases role with
      | initiator => cases rests
      | responder =>
          cases rests
          exact ⟨(Option.some.inj sender).symm, rfl⟩
  | credentials evidence =>
      cases next
      have joins : ¬(under role plan).creator = true := by
        intro creates
        simp only [heard, creates] at rests
        cases rests
      simp only [heard, joins] at rests
      refine ⟨?_, (Option.some.inj rests).symm⟩
      apply PairRole.eq_other_of_ne
      intro own
      apply joins
      have code := PairRole.code_of_ofCode sender
      rw [own] at code
      exact beq_iff_eq.mpr code

variable {casting : Casting}

/-- No command that rests on the other device follows a command. -/
theorem heard_after_command
    {next : InitialPlanCommandKind}
    (follows : casting.follows (.command kind) = some (.command next)) :
    casting.heard next = none := by
  obtain ⟨role, creator, designated⟩ := casting
  cases kind <;> cases role <;> cases creator <;> cases designated <;>
    cases follows <;> rfl

/-- The command of a device that rests on the lock of the other one. -/
def trusting : PairRole → InitialPlanCommandKind
  | .initiator => .persistAckAndLock
  | .responder => .persistFinal

/-- The command of the other device that it rests on. -/
def trusted : PairRole → InitialPlanCommandKind
  | .initiator => .sendAck
  | .responder => .sendFinal

/-- The command by which a device persists the plan. -/
def planKind : PairRole → InitialPlanCommandKind
  | .initiator => .persistPlan
  | .responder => .persistPlanAndLock

/-- A command is completed before another one is offered. -/
def Ahead (casting : Casting) (early late : InitialPlanCommandKind) : Prop :=
  ∀ count < 16, late ∈ (commands casting.script).take count →
    early ∈ (commands casting.script).take (count - 1)

instance
    (casting : Casting)
    (early late : InitialPlanCommandKind) :
    Decidable (casting.Ahead early late) :=
  inferInstanceAs (Decidable (∀ count < 16, _ → _))

/-- A device trusts the other one before it knows that both are locked. -/
theorem trusting_ahead (casting : Casting) :
    casting.Ahead (trusting casting.role) .persistMutualLock := by
  obtain ⟨role, creator, designated⟩ := casting
  cases role <;> cases creator <;> cases designated <;> decide

theorem heard_trusting (casting : Casting) :
    casting.heard (trusting casting.role) = some (trusted casting.role) := by
  obtain ⟨role, creator, designated⟩ := casting
  cases role <;> rfl

/-- A device locks before it sends what the other one trusts. -/
theorem lockKind_ahead (casting : Casting) :
    casting.Ahead casting.role.lockKind (trusted casting.role.other) := by
  obtain ⟨role, creator, designated⟩ := casting
  cases role <;> cases creator <;> cases designated <;> decide

/-- Both devices are locked before the bearer is raised. -/
theorem mutualLock_ahead
    (casting : Casting)
    (bearer : kind.raisesBearer = true) :
    casting.Ahead .persistMutualLock kind := by
  obtain ⟨role, creator, designated⟩ := casting
  cases kind <;> cases bearer <;> cases role <;> cases creator <;>
    cases designated <;> decide

/-- The plan is persisted before the bearer is raised. -/
theorem planKind_ahead
    (casting : Casting)
    (bearer : kind.raisesBearer = true) :
    casting.Ahead (planKind casting.role) kind := by
  obtain ⟨role, creator, designated⟩ := casting
  cases kind <;> cases bearer <;> cases role <;> cases creator <;>
    cases designated <;> decide

/-- The credentials are persisted before a device joins the bearer. -/
theorem credentials_ahead (casting : Casting) :
    casting.Ahead .persistCredentials .joinBearer := by
  obtain ⟨role, creator, designated⟩ := casting
  cases role <;> cases creator <;> cases designated <;> decide

/-- Only a device that does not create the bearer joins it. -/
theorem creator_of_join
    (joins : .joinBearer ∈ commands casting.script) :
    casting.creator = false := by
  obtain ⟨role, creator, designated⟩ := casting
  cases creator
  · rfl
  · revert joins
    cases role <;> cases designated <;> decide

/-- Only a device that creates the bearer publishes its credentials. -/
theorem creator_of_publish
    (publishes : .publishCredentials ∈ commands casting.script) :
    casting.creator = true := by
  obtain ⟨role, creator, designated⟩ := casting
  cases creator
  · revert publishes
    cases role <;> cases designated <;> decide
  · rfl

/-- The bearer is raised once. -/
theorem countP_raisesBearer (casting : Casting) :
    (commands casting.script).countP (·.raisesBearer) ≤ 1 := by
  obtain ⟨role, creator, designated⟩ := casting
  cases role <;> cases creator <;> cases designated <;> decide

theorem length_commands_lt (casting : Casting) :
    (commands casting.script).length < 16 := by
  obtain ⟨role, creator, designated⟩ := casting
  cases role <;> cases creator <;> cases designated <;> decide

end Casting

/-- The kind and the evidence of the command that sends a message. -/
theorem PlanMessage.of_sentBy
    (message : PlanMessage)
    {command : InitialPlanCommand}
    (sent : message.sentBy command = true) :
    command.kind = message.sending ∧ command.evidence = message.binding := by
  simp only [sentBy, Bool.and_eq_true, beq_iff_eq] at sent
  exact sent.1

/-- A call records the command that is pending after it. -/
theorem PlanParty.move_offered
    (party : PlanParty)
    (shared : VerifiedPairEvidence)
    (role : PairRole)
    (call : PlanMove) :
    (party.move shared role call).offered =
      party.offered ++ (party.move shared role call).lock.pending.toList := by
  cases call <;> rfl

namespace PlanParty.Course

variable {shared : VerifiedPairEvidence} {role : PairRole} {party : PlanParty}

/-- The offered commands follow the script. -/
theorem offered_take (course : Course shared role party) :
    party.offered.map (·.kind) =
      (Casting.commands (party.casting role).script).take party.offered.length := by
  obtain ⟨reach, same⟩ := course.offers
  have starts :
      party.offered.map (·.kind) <+:
        Casting.commands (party.casting role).script := by
    rw [same]
    exact (List.take_prefix reach _).filterMap _
  have taken := List.prefix_iff_eq_take.mp starts
  rw [List.length_map] at taken
  exact taken

variable {command : InitialPlanCommand}

/-- What comes ahead of an offered command was completed. -/
theorem ahead
    (course : Course shared role party)
    {early : InitialPlanCommandKind}
    (order : (party.casting role).Ahead early command.kind)
    (member : command ∈ party.offered) :
    ∃ earlier ∈ party.log, earlier.kind = early := by
  have taken := course.offered_take
  have short : party.offered.length < 16 := by
    have same := congrArg List.length taken
    rw [List.length_map, List.length_take] at same
    have bound := (party.casting role).length_commands_lt
    omega
  have late :
      command.kind ∈
        (Casting.commands (party.casting role).script).take party.offered.length := by
    rw [← taken]
    exact List.mem_map_of_mem member
  have found := order party.offered.length short late
  obtain ⟨lost, offered, single⟩ := course.logged
  have inLog : early ∈ party.log.map (·.kind) := by
    have log :
        party.log.map (·.kind) =
          (Casting.commands (party.casting role).script).take party.log.length := by
      have front := congrArg (List.take party.log.length) taken
      rw [offered, List.map_append, List.take_left' (by simp), List.take_take] at front
      rw [front]
      congr 1
      simp
    rw [log]
    refine (List.take_subset_take_left _ ?_) found
    rw [offered, List.length_append]
    omega
  exact List.mem_map.mp inLog

/-- Every offered command stands in the script. -/
theorem offered_scripted
    (course : Course shared role party)
    (member : command ∈ party.offered) :
    command.kind ∈ Casting.commands (party.casting role).script := by
  have found : command.kind ∈ party.offered.map (·.kind) :=
    List.mem_map_of_mem member
  rw [course.offered_take] at found
  exact List.mem_of_mem_take found

/-- One device raises the prompt at most once. -/
theorem prompted_once (course : Course shared role party) :
    party.offered.countP (·.mayPrompt) ≤ 1 := by
  calc
    party.offered.countP (·.mayPrompt) ≤
        party.offered.countP (fun command => command.kind.raisesBearer) :=
      List.countP_mono_left fun command member prompt =>
        (course.prompts command member prompt).1
    _ = (party.offered.map (·.kind)).countP (·.raisesBearer) := by
      rw [List.countP_map]
      rfl
    _ ≤ (Casting.commands (party.casting role).script).countP (·.raisesBearer) := by
      rw [course.offered_take]
      exact (List.take_sublist _ _).countP_le
    _ ≤ 1 := (party.casting role).countP_raisesBearer

theorem offered_of_log
    (course : Course shared role party)
    (member : command ∈ party.log) :
    command ∈ party.offered := by
  obtain ⟨lost, offered, -⟩ := course.logged
  rw [offered]
  exact List.mem_append_left _ member

/-- A new command that rests on the other device comes with its message. -/
theorem move_heard
    (course : Course shared role party)
    {call : PlanMove}
    {sent : InitialPlanCommandKind}
    (pending : (party.move shared role call).lock.pending = some command)
    (rests :
      (Casting.under role (party.move shared role call).lock.selected).heard
        command.kind = some sent) :
    ∃ message, call = .receive message ∧
      message.binding.sender = role.other ∧ sent = message.sending ∧
      command.evidence = message.binding := by
  cases call with
  | begin authenticationSeal =>
      have free := course.begin_free (shared.mirrored role authenticationSeal)
      exact (Option.some_ne_none _ (pending.symm.trans free)).elim
  | receive message =>
      refine ⟨message, rfl, ?_⟩
      change (party.lock.receive message).2.pending = some command at pending
      change (Casting.under role (party.lock.receive message).2.selected).heard
        command.kind = some sent at rests
      rcases party.lock.receive_cases message with refused | takes
      · rw [refused] at pending
        cases pending
      · obtain ⟨proceeds, -⟩ := course.takes_proceeds takes
        obtain ⟨next, evidence, -⟩ := proceeds.pending pending
        rw [proceeds.selected] at rests
        obtain ⟨sender, sending⟩ := Casting.heard_of_follows next rests takes.sender
        exact ⟨sender, sending, evidence.trans takes.record.evidence⟩
  | complete id generation success =>
      change (party.lock.complete id generation success).2.pending = some command
        at pending
      change (Casting.under role
        (party.lock.complete id generation success).2.selected).heard
          command.kind = some sent at rests
      unfold InitialPlanLock.complete at pending rests
      cases completed : party.lock.completed? id generation success with
      | none =>
          simp only [completed] at pending
          cases pending
      | some done =>
          simp only [completed] at pending rests
          obtain ⟨proceeds, -⟩ := course.completed_proceeds completed
          obtain ⟨next, -, -⟩ := proceeds.pending pending
          rw [proceeds.selected] at rests
          exact (Option.some_ne_none _
            (rests.symm.trans (Casting.heard_after_command next))).elim
  | invalidate => cases pending

end PlanParty.Course

/-- What holds of both devices in every run. -/
structure PlanNet.Joined
    (shared : VerifiedPairEvidence)
    (net : PlanNet) : Prop where
  course : ∀ role, (net.party role).Course shared role
  heard :
    ∀ role, ∀ command ∈ (net.party role).offered, ∀ sent,
      ((net.party role).casting role).heard command.kind = some sent →
        ∃ other ∈ (net.party role.other).log, other.kind = sent ∧
          other.evidence = command.evidence

namespace PlanNet

@[simp] theorem party_update_same
    (net : PlanNet)
    (role : PairRole)
    (party : PlanParty) :
    (net.update role party).party role = party := by
  cases role <;> rfl

@[simp] theorem party_update_other
    (net : PlanNet)
    (role : PairRole)
    (party : PlanParty) :
    (net.update role party).party role.other = net.party role.other := by
  cases role <;> rfl

/-- The log of a device only grows. -/
theorem log_update
    (net : PlanNet)
    (shared : VerifiedPairEvidence)
    (role other : PairRole)
    (call : PlanMove)
    {command : InitialPlanCommand}
    (member : command ∈ (net.party other).log) :
    command ∈
      ((net.update role ((net.party role).move shared role call)).party other).log := by
  by_cases same : other = role
  · subst same
    rw [party_update_same]
    cases call <;> exact List.mem_append_left _ member
  · rw [PairRole.eq_other_of_ne same] at member ⊢
    rw [party_update_other]
    exact member

namespace Joined

variable {shared : VerifiedPairEvidence} {net : PlanNet}

theorem start : Joined shared {} where
  course role := by
    cases role <;> exact PlanParty.Course.start
  heard role command member := by
    cases role <;> cases member

/-- Two devices that have offered something selected the same plan. -/
theorem same_selected
    {first second : InitialPlanLock}
    {firstRole secondRole : PairRole}
    (one : PlanParty.Begun shared firstRole first)
    (two : PlanParty.Begun shared secondRole second) :
    first.selected = second.selected :=
  Except.ok.inj (one.selected.symm.trans two.selected)

/-- A call on one of the devices, its message sent before. -/
theorem step
    (joined : Joined shared net)
    {role : PairRole}
    {call : PlanMove}
    (mayCall : net.allowed role call = true) :
    Joined shared
      (net.update role ((net.party role).move shared role call)) := by
  have courses :
      ∀ other,
        ((net.update role ((net.party role).move shared role call)).party
          other).Course shared other := by
    intro other
    by_cases same : other = role
    · subst same
      rw [party_update_same]
      exact (joined.course other).move call
    · rw [PairRole.eq_other_of_ne same, party_update_other]
      exact joined.course role.other
  refine ⟨courses, ?_⟩
  intro other command member sent rests
  by_cases same : other = role
  · subst same
    have course := courses other
    rw [party_update_same] at member rests course
    rw [party_update_other]
    have record := (net.party other).move_offered shared other call
    have offers := List.ne_nil_of_mem member
    rw [record] at member
    rcases List.mem_append.mp member with old | new
    · have begun :=
        (joined.course other).begun (.inl (List.ne_nil_of_mem old))
      unfold PlanParty.casting at rests
      rw [same_selected (course.begun (.inl offers)) begun] at rests
      exact joined.heard other command old sent rests
    · obtain ⟨message, isReceive, sender, sending, evidence⟩ :=
        (joined.course other).move_heard (Option.mem_toList.mp new) rests
      subst isReceive
      simp only [allowed, sender, bne_self_eq_false, Bool.false_or,
        List.any_eq_true] at mayCall
      obtain ⟨earlier, logged, sentBy⟩ := mayCall
      obtain ⟨kind, same⟩ := message.of_sentBy sentBy
      exact ⟨earlier, logged, kind.trans sending.symm, same.trans evidence.symm⟩
  · have isOther := PairRole.eq_other_of_ne same
    subst isOther
    rw [party_update_other] at member rests
    obtain ⟨earlier, logged, facts⟩ :=
      joined.heard role.other command member sent rests
    exact ⟨earlier, net.log_update shared role _ call logged, facts⟩

/-- Every run keeps both devices joined. -/
theorem run
    {moves : List (PairRole × PlanMove)}
    {after : PlanNet}
    (joined : Joined shared net)
    (runs : net.run shared moves = some after) :
    Joined shared after := by
  induction moves generalizing net with
  | nil =>
      cases runs
      exact joined
  | cons move rest inductionHypothesis =>
      obtain ⟨role, call⟩ := move
      simp only [PlanNet.run] at runs
      split at runs
      · rename_i allowed
        exact inductionHypothesis (joined.step allowed) runs
      · cases runs

end Joined

/-- What two plan locks guarantee, whatever was lost or failed. -/
structure Agrees (net : PlanNet) : Prop where
  /-- Every command that a lock has ever had pending is on record. -/
  polled :
    ∀ role command, (net.party role).lock.poll = some command →
      command ∈ (net.party role).offered
  /-- A device that knows both are locked is right, and about the same plan. -/
  locked :
    ∀ role, (net.party role).lock.mutuallyLocked = true →
      (net.party role.other).lock.locked = true ∧
        (net.party role.other).lock.selected = (net.party role).lock.selected ∧
        ∃ command ∈ (net.party role.other).log,
          command.kind = role.other.lockKind ∧
            command.evidence.selectedPlan = (net.party role).lock.selected ∧
            command.evidence.planLogicalHash =
              (net.party role).lock.evidence.planLogicalHash
  /-- Nothing is sent that was not persisted. -/
  persisted :
    ∀ role, ∀ command ∈ (net.party role).offered, ∀ kind,
      command.kind.persistedBefore = some kind →
        ∃ earlier ∈ (net.party role).log, earlier.kind = kind ∧
          earlier.evidence = command.evidence
  /-- The bearer is raised only on a device that knows both are locked. -/
  bearer :
    ∀ role, ∀ command ∈ (net.party role).offered,
      command.kind.raisesBearer = true →
        (net.party role).lock.mutuallyLocked = true
  /-- A device joins only what the creator has published. -/
  joined :
    ∀ role, ∀ command ∈ (net.party role).offered, command.kind = .joinBearer →
      (net.party role.other).lock.creator = true ∧
        ∃ published ∈ (net.party role.other).log,
          published.kind = .publishCredentials
  /-- The prompt is raised once. -/
  promptedOnce :
    (net.initiator.offered ++ net.responder.offered).countP (·.mayPrompt) ≤ 1
  /-- The prompt is raised by the designated device, with the plan persisted. -/
  prompted :
    ∀ role, ∀ command ∈ (net.party role).offered, command.mayPrompt = true →
      (net.party role).lock.selected.bytes.getD 5 0 = role.code ∧
        ∃ earlier ∈ (net.party role).log, earlier.kind.persistsPlan = true

namespace Joined

variable {shared : VerifiedPairEvidence} {net : PlanNet}

variable {role : PairRole} {command : InitialPlanCommand}

theorem offered_begun
    (joined : Joined shared net)
    (member : command ∈ (net.party role).offered) :
    PlanParty.Begun shared role (net.party role).lock :=
  (joined.course role).begun (.inl (List.ne_nil_of_mem member))

/-- The other device locked before a device knows that both are locked. -/
theorem other_locked
    (joined : Joined shared net)
    (role : PairRole)
    (mutual_ : (net.party role).lock.mutuallyLocked = true) :
    ∃ command ∈ (net.party role.other).log,
      command.kind = role.other.lockKind ∧
        command.evidence.selectedPlan = (net.party role).lock.selected ∧
        command.evidence.planLogicalHash =
          (net.party role).lock.evidence.planLogicalHash := by
  have own := joined.course role
  have other := joined.course role.other
  -- The device trusted a message of the other one.
  obtain ⟨last, lastLogged, lastKind⟩ := own.mutuallyLocked.mp mutual_
  have before := ((net.party role).casting role).trusting_ahead
  rw [← lastKind] at before
  obtain ⟨trusting, trustingLogged, trustingKind⟩ :=
    own.ahead before (own.offered_of_log lastLogged)
  have trustingOffered := own.offered_of_log trustingLogged
  have rests := ((net.party role).casting role).heard_trusting
  rw [← trustingKind] at rests
  obtain ⟨sent, sentLogged, sentKind, sameEvidence⟩ :=
    joined.heard role trusting trustingOffered _ rests
  have sentOffered := other.offered_of_log sentLogged
  -- The other one locked before it sent that message.
  have order := ((net.party role.other).casting role.other).lockKind_ahead
  change Casting.Ahead _ role.other.lockKind (Casting.trusted role.other.other) at order
  rw [PairRole.other_other] at order
  change sent.kind = Casting.trusted role at sentKind
  rw [← sentKind] at order
  obtain ⟨command, logged, kind⟩ := other.ahead order sentOffered
  have offered := other.offered_of_log logged
  have sameSelected :=
    same_selected (joined.offered_begun offered) (joined.offered_begun trustingOffered)
  have hashes :
      command.evidence.planLogicalHash =
        (net.party role).lock.evidence.planLogicalHash :=
    calc
      command.evidence.planLogicalHash =
          (net.party role.other).lock.evidence.planLogicalHash :=
        (other.plan command offered).1
      _ = sent.evidence.planLogicalHash := (other.plan sent sentOffered).1.symm
      _ = trusting.evidence.planLogicalHash := by rw [sameEvidence]
      _ = (net.party role).lock.evidence.planLogicalHash :=
        (own.plan trusting trustingOffered).1
  exact ⟨command, logged, kind, (other.plan command offered).2.trans sameSelected,
    hashes⟩

/-- A device that joins the bearer has the credentials of the creator. -/
theorem published
    (joined : Joined shared net)
    (member : command ∈ (net.party role).offered)
    (joins : command.kind = .joinBearer) :
    ∃ published ∈ (net.party role.other).log,
      published.kind = .publishCredentials := by
  have own := joined.course role
  have order := ((net.party role).casting role).credentials_ahead
  rw [← joins] at order
  obtain ⟨persisted, logged, kind⟩ := own.ahead order member
  have scripted := own.offered_scripted member
  rw [joins] at scripted
  have rests :
      ((net.party role).casting role).heard persisted.kind =
        some .publishCredentials := by
    rw [kind]
    simp [Casting.heard, Casting.creator_of_join scripted]
  obtain ⟨sent, sentLogged, sentKind, -⟩ :=
    joined.heard role persisted (own.offered_of_log logged) _ rests
  exact ⟨sent, sentLogged, sentKind⟩

/-- A prompt of a device is its own by the plan, with the plan persisted. -/
theorem prompt_by
    (joined : Joined shared net)
    (member : command ∈ (net.party role).offered)
    (prompts : command.mayPrompt = true) :
    (net.party role).lock.selected.bytes.getD 5 0 = role.code ∧
      ∃ earlier ∈ (net.party role).log, earlier.kind.persistsPlan = true := by
  have own := joined.course role
  obtain ⟨bearer, designated⟩ := own.prompts command member prompts
  have order := ((net.party role).casting role).planKind_ahead bearer
  obtain ⟨earlier, logged, kind⟩ := own.ahead order member
  refine ⟨beq_iff_eq.mp designated, earlier, logged, ?_⟩
  rw [kind]
  cases role <;> rfl

/-- The two devices do not both raise a prompt. -/
theorem one_prompts
    (joined : Joined shared net)
    {first second : InitialPlanCommand}
    (own : first ∈ net.initiator.offered)
    (other : second ∈ net.responder.offered)
    (firstPrompts : first.mayPrompt = true)
    (secondPrompts : second.mayPrompt = true) :
    False := by
  have firstMember : first ∈ (net.party .initiator).offered := own
  have secondMember : second ∈ (net.party .responder).offered := other
  have firstCode := (joined.prompt_by firstMember firstPrompts).1
  have secondCode := (joined.prompt_by secondMember secondPrompts).1
  rw [same_selected (joined.offered_begun firstMember)
    (joined.offered_begun secondMember), secondCode] at firstCode
  revert firstCode
  decide

/-- Over both devices the prompt is raised at most once. -/
theorem prompted_once (joined : Joined shared net) :
    (net.initiator.offered ++ net.responder.offered).countP (·.mayPrompt) ≤ 1 := by
  have initiator := (joined.course .initiator).prompted_once
  have responder := (joined.course .responder).prompted_once
  change net.initiator.offered.countP (·.mayPrompt) ≤ 1 at initiator
  change net.responder.offered.countP (·.mayPrompt) ≤ 1 at responder
  rw [List.countP_append]
  by_cases quiet : net.initiator.offered.countP (·.mayPrompt) = 0
  · omega
  · obtain ⟨first, own, firstPrompts⟩ :=
      List.countP_pos_iff.mp (Nat.pos_of_ne_zero quiet)
    have silent : net.responder.offered.countP (·.mayPrompt) = 0 := by
      rw [List.countP_eq_zero]
      intro second other secondPrompts
      exact joined.one_prompts own other firstPrompts secondPrompts
    omega

/-- The bearer is raised only where both are known to be locked. -/
theorem bearer_locked
    (joined : Joined shared net)
    (member : command ∈ (net.party role).offered)
    (bearer : command.kind.raisesBearer = true) :
    (net.party role).lock.mutuallyLocked = true := by
  have own := joined.course role
  have order := ((net.party role).casting role).mutualLock_ahead bearer
  exact own.mutuallyLocked.mpr (own.ahead order member)

/-- A device that published its credentials created the bearer. -/
theorem creator_of_published
    (joined : Joined shared net)
    (member : command ∈ (net.party role).log)
    (published : command.kind = .publishCredentials) :
    (net.party role).lock.creator = true := by
  have offered := (joined.course role).offered_of_log member
  have scripted := (joined.course role).offered_scripted offered
  rw [published] at scripted
  have creator := Casting.creator_of_publish scripted
  unfold InitialPlanLock.creator
  rw [(joined.offered_begun offered).localRole]
  exact creator

end Joined

/-- Whatever is lost or fails in a run of two plan locks that hold the same
evidence, they agree on the plan, persist before they send, raise the bearer only
when both are locked and prompt at most once. -/
theorem plan_lock_agreement
    (shared : VerifiedPairEvidence)
    (moves : List (PairRole × PlanMove))
    (net : PlanNet)
    (runs : PlanNet.run shared {} moves = some net) :
    net.Agrees := by
  have joined : Joined shared net := Joined.start.run runs
  constructor
  case polled =>
    intro role command pending
    exact (joined.course role).polled pending
  case locked =>
    intro role mutual_
    obtain ⟨command, logged, kind, plan, hash⟩ := joined.other_locked role mutual_
    have other := joined.course role.other
    have locks : command.kind.locks = true := by
      rw [kind]
      cases role <;> rfl
    have selected := (other.plan command (other.offered_of_log logged)).2
    exact ⟨other.locked.mpr ⟨command, logged, locks⟩, selected.symm.trans plan,
      command, logged, kind, plan, hash⟩
  case persisted => exact fun role => (joined.course role).persisted
  case bearer => exact fun role command member => joined.bearer_locked member
  case joined =>
    intro role command member joins
    obtain ⟨published, logged, kind⟩ := joined.published member joins
    exact ⟨joined.creator_of_published logged kind, published, logged, kind⟩
  case promptedOnce => exact joined.prompted_once
  case prompted => exact fun role command member => joined.prompt_by member

/-- Every command of a run is about the first plan that both summaries offer. -/
theorem offered_first_common
    {shared : VerifiedPairEvidence}
    {moves : List (PairRole × PlanMove)}
    {net : PlanNet}
    (runs : PlanNet.run shared {} moves = some net)
    (role : PairRole) :
    ∀ command ∈ (net.party role).offered,
      FirstCommon shared.initiatorSummary.bytes shared.responderSummary.bytes
        command.evidence.selectedPlan.bytes := by
  intro command member
  have joined := Joined.start.run runs
  rw [((joined.course role).plan command member).2]
  exact .of_selected (joined.offered_begun member).selected

/-! A run in which the initiator creates the bearer and the responder prompts. -/

namespace Sample

def plan : Bytes :=
  [2, 1, 1, 2, 1, 2, 10, 0] ++ List.replicate 36 1 ++ List.replicate 4 0

def summary : CapabilitySummary :=
  Block.copy 512
    ([0, 1, 0, 0, 0, 0, 0, 0, 1, 1] ++ List.replicate 22 0 ++
      List.replicate 64 1 ++ plan)

def hash (value : UInt8) : PlanHash where
  bytes := List.replicate 32 value
  sized := List.length_replicate

/-- A hash as one number. -/
def digest (value : Nat) : PlanHash :=
  Block.copy 32 (bigEndian 32 value)

def authenticationSeal : PairRole → PlanHash
  | .initiator =>
      digest 0x0a7248a16145d01e58421547857787cc0904e4d5fc5cd09b32e4cd1e43f9a8d1
  | .responder =>
      digest 0x61e9388ccdb919325feb1333fedbfaa2299645b224cc53b0617c01025018d72e

def shared : VerifiedPairEvidence where
  localRole := .initiator
  generation := 1
  transcript := hash 1
  initiatorReveal := hash 2
  responderReveal := hash 3
  initiatorCapability := hash 4
  responderCapability := hash 5
  initiatorSummary := summary
  responderSummary := summary
  authenticationSeal := hash 0

def evidence (sender : PairRole) (ack final : UInt8) : VerifiedPlanEvidence where
  generation := 1
  sender := sender
  receiver := sender.other
  transcript := hash 1
  initiatorReveal := hash 2
  responderReveal := hash 3
  initiatorCapability := hash 4
  responderCapability := hash 5
  selectedPlan := Block.copy 48 plan
  selectedPlanHash :=
    digest 0xc259d56d4376b463d79046c91904926322e61d3116da141501185ee0c69db455
  planLogicalHash := hash 6
  ackLogicalHash := hash ack
  finalLogicalHash := hash final

def credentials : VerifiedCredentialEvidence where
  binding := evidence .initiator 7 8
  credentialLogicalHash := hash 9

def begin (role : PairRole) : PlanMove :=
  .begin (authenticationSeal role)

def done (id : Nat) : PlanMove :=
  .complete id 1 true

def moves : List (PairRole × PlanMove) :=
  [(.initiator, begin .initiator), (.responder, begin .responder),
    (.initiator, .receive (.plan (evidence .initiator 0 0))),
    (.initiator, done 1), (.initiator, done 2),
    (.responder, .receive (.plan (evidence .initiator 0 0))),
    (.responder, done 1),
    (.responder, .receive (.ack (evidence .responder 7 0))),
    (.responder, done 2), (.responder, done 3),
    (.initiator, .receive (.ack (evidence .responder 7 0))),
    (.initiator, done 3),
    (.initiator, .receive (.final (evidence .initiator 7 8))),
    (.initiator, done 4), (.initiator, done 5), (.initiator, done 6),
    (.responder, .receive (.final (evidence .initiator 7 8))),
    (.responder, done 4), (.responder, done 5), (.initiator, done 7),
    (.initiator, .receive (.credentials credentials)),
    (.initiator, done 8), (.initiator, done 9),
    (.responder, .receive (.credentials credentials)),
    (.responder, done 6), (.responder, done 7)]

end Sample

theorem sample_run_agrees :
    ∃ net, PlanNet.run Sample.shared {} Sample.moves = some net ∧
      net.initiator.lock.mutuallyLocked = true ∧
      net.responder.lock.mutuallyLocked = true ∧
      net.responder.lock.poll.map (·.mayPrompt) = some true ∧ net.Agrees := by
  have runs :
      ((PlanNet.run Sample.shared {} Sample.moves).map fun net =>
        (net.initiator.lock.mutuallyLocked, net.responder.lock.mutuallyLocked,
          net.responder.lock.poll.map (·.mayPrompt))) =
        some (true, true, some true) := by
    decide +kernel
  cases ended : PlanNet.run Sample.shared {} Sample.moves with
  | none =>
      rw [ended] at runs
      cases runs
  | some net =>
      rw [ended] at runs
      simp only [Option.map_some, Option.some.injEq, Prod.mk.injEq] at runs
      obtain ⟨initiator, responder, prompt⟩ := runs
      exact ⟨net, rfl, initiator, responder, prompt,
        plan_lock_agreement Sample.shared Sample.moves net ended⟩

theorem sample_first_common :
    ∃ net, PlanNet.run Sample.shared {} (Sample.moves.take 5) = some net ∧
      net.initiator.offered.length = 2 ∧
      ∀ command ∈ net.initiator.offered,
        FirstCommon Sample.summary.bytes Sample.summary.bytes
          command.evidence.selectedPlan.bytes := by
  have ran :
      (PlanNet.run Sample.shared {} (Sample.moves.take 5)).any
        (·.initiator.offered.length == 2) := by
    decide +kernel
  obtain ⟨net, ended, two⟩ := (Option.any_eq_true _ _).mp ran
  exact ⟨net, ended, beq_iff_eq.mp two, offered_first_common ended .initiator⟩

end PlanNet

end FlyNes.Pair
