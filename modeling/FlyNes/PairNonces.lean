import FlyNes.InitialPlanTurns
import FlyNes.PairKnownTurns
import FlyNes.PairKeyConfirmTurns
import FlyNes.PairRevealTurns

namespace FlyNes.Pair

open ByteString
open FlyNes.Wire
open FlyNes.Dual (loadAt)
open FlyNes.Ports
open Staircase

/-!
# Nonces are used once

Two devices of opposite roles, each with the five schedulers that seal messages
under the control keys, take any calls in any order.  A nonce tells the role of
the device, the scheduler and how many messages that one has handed out; so a
second message under a nonce would have to be handed out on the same level.
-/

/-- The schedulers of a device that seal messages under the control keys. -/
structure PairDevice where
  signature : PairSignatureScheduler := {}
  known : PairKnownScheduler := {}
  keyConfirm : PairKeyConfirmScheduler := {}
  capability : PairCapabilityScheduler := {}
  plan : InitialPlanScheduler := {}
deriving DecidableEq

/-- A call of one of the schedulers: of its engine, its peer or a provider. -/
inductive PairMove where
  | beginSignature (start : PairSignatureStart)
  | completeSignature (event : PortEvent)
  | acceptSignature (body : Bytes) (logicalHash : PlanHash)
  | signatureSent
  | cancelSignature
  | approveLocal (approvalKind : Nat)
  | takeVerifiedEvidence
  | beginKnown (start : PairKnownStart)
  | completeKnown (event : PortEvent)
  | acceptKnown (logicalType : UInt8) (body : Bytes) (logicalHash : PlanHash)
  | knownSent (logicalHash : PlanHash)
  | cancelKnown
  | beginKeyConfirm (start : PairKeyConfirmStart)
  | completeKeyConfirm (event : PortEvent)
  | acceptKeyConfirm (body : Bytes) (logicalHash : PlanHash)
  | keyConfirmSent
  | cancelKeyConfirm
  | beginCapability (start : PairCapabilityStart)
  | completeCapability (event : PortEvent)
  | acceptCapability (body : Bytes) (logicalHash : PlanHash)
  | capabilitySent (logicalHash : PlanHash)
  | cancelCapability
  | beginPlan (start : InitialPlanStart)
  | completePlan (event : PortEvent)
  | acceptPlan (bytes : Bytes)
  | planSent
  | cancelPlan
  | acceptCredentials (evidence : VerifiedCredentialEvidence)
  | completeCommand (id : Nat) (success : Bool)

namespace PairDevice

/-- What a call makes of the device of a role.  Every scheduler is begun with the
role of its device. -/
def step (role : PairRole) (device : PairDevice) : PairMove → PairDevice
  | .beginSignature start =>
      { device with
        signature := (device.signature.begin { start with localRole := role }).2 }
  | .completeSignature event =>
      { device with signature := (device.signature.complete event).2 }
  | .acceptSignature body logicalHash =>
      { device with
        signature := (device.signature.acceptPeerEnvelope body logicalHash).2 }
  | .signatureSent =>
      { device with signature := device.signature.markLocalSignatureSent.2 }
  | .cancelSignature =>
      { device with signature := device.signature.cancelPending.2 }
  | .approveLocal approvalKind =>
      { device with signature := (device.signature.approveLocal approvalKind).2 }
  | .takeVerifiedEvidence =>
      { device with signature := device.signature.takeVerifiedEvidence.2 }
  | .beginKnown start =>
      { device with known := (device.known.begin { start with localRole := role }).2 }
  | .completeKnown event =>
      { device with known := (device.known.complete event).2 }
  | .acceptKnown logicalType body logicalHash =>
      { device with
        known := (device.known.acceptPeerEnvelope logicalType body logicalHash).2 }
  | .knownSent logicalHash =>
      { device with known := (device.known.markLocalSent logicalHash).2 }
  | .cancelKnown =>
      { device with known := device.known.cancelPending.2 }
  | .beginKeyConfirm start =>
      { device with
        keyConfirm :=
          (device.keyConfirm.begin device.signature
            { start with localRole := role }).2 }
  | .completeKeyConfirm event =>
      let outcome := device.keyConfirm.complete device.signature event
      { device with keyConfirm := outcome.2.1, signature := outcome.2.2 }
  | .acceptKeyConfirm body logicalHash =>
      { device with
        keyConfirm := (device.keyConfirm.acceptPeerEnvelope body logicalHash).2 }
  | .keyConfirmSent =>
      { device with
        keyConfirm := (device.keyConfirm.markLocalSent device.signature).2 }
  | .cancelKeyConfirm =>
      { device with keyConfirm := device.keyConfirm.cancelPending.2 }
  | .beginCapability start =>
      { device with
        capability :=
          (device.capability.begin device.signature
            { start with localRole := role }).2 }
  | .completeCapability event =>
      let outcome := device.capability.complete device.signature event
      { device with capability := outcome.2.1, signature := outcome.2.2 }
  | .acceptCapability body logicalHash =>
      { device with
        capability := (device.capability.acceptPeerEnvelope body logicalHash).2 }
  | .capabilitySent logicalHash =>
      let outcome := device.capability.markLocalSent device.signature logicalHash
      { device with capability := outcome.2.1, signature := outcome.2.2 }
  | .cancelCapability =>
      { device with capability := device.capability.cancelPending.2 }
  | .beginPlan start =>
      { device with plan := (device.plan.begin { start with localRole := role }).2 }
  | .completePlan event =>
      { device with plan := (device.plan.complete event).2 }
  | .acceptPlan bytes =>
      { device with plan := (device.plan.acceptPeerLogical bytes).2 }
  | .planSent =>
      { device with plan := device.plan.markLocalSent.2 }
  | .cancelPlan =>
      { device with plan := device.plan.cancelPending.2 }
  | .acceptCredentials evidence =>
      { device with plan := (device.plan.acceptCredentials evidence).2 }
  | .completeCommand id success =>
      { device with plan := (device.plan.completeCommand id success).2 }

end PairDevice

/-- The schedulers of a device. -/
inductive PairPart where
  | signature
  | known
  | keyConfirm
  | capability
  | plan
deriving DecidableEq

def PairDevice.standing (device : PairDevice) : PairPart → Standing
  | .signature => device.signature.standing
  | .known => device.known.standing
  | .keyConfirm => device.keyConfirm.standing
  | .capability => device.capability.standing
  | .plan => device.plan.standing

/-- What holds of the device of a role. -/
structure PairDevice.Sound (role : PairRole) (device : PairDevice) : Prop where
  standing : ∀ part, Standing.Sound role (device.standing part)
  paced : device.plan.IsPaced

/-- What a call of one scheduler makes of the device. -/
structure PairDevice.Turn (role : PairRole) (before after : PairDevice) : Prop where
  signature : PairSignatureScheduler.Turn role before.signature after.signature
  known : PairKnownScheduler.Turn role before.known after.known
  keyConfirm : PairKeyConfirmScheduler.Turn role before.keyConfirm after.keyConfirm
  capability : PairCapabilityScheduler.Turn role before.capability after.capability
  plan : InitialPlanScheduler.Turn role before.plan after.plan

namespace PairDevice

theorem Turn.refl
    (role : PairRole)
    (device : PairDevice) :
    Turn role device device :=
  ⟨View.Turn.refl _, View.Turn.refl _, View.Turn.refl _, View.Turn.refl _,
    InitialPlanScheduler.turn_same rfl id⟩

variable {role : PairRole}

/-- Another scheduler worked on the verification of the signature scheduler. -/
theorem turn_signature_of_eq
    {before after : PairSignatureScheduler}
    (same : after.standing = before.standing) :
    PairSignatureScheduler.Turn role before after := by
  unfold PairSignatureScheduler.Turn
  rw [same]
  exact View.Turn.refl _

theorem turn_step
    (role : PairRole)
    (device : PairDevice)
    (move : PairMove) :
    Turn role device (device.step role move) := by
  have still := Turn.refl role device
  cases move with
  | beginSignature start =>
      exact { still with signature := device.signature.turn_begin _ rfl }
  | completeSignature event =>
      exact { still with signature := device.signature.turn_complete event }
  | acceptSignature body logicalHash =>
      exact { still with
        signature := device.signature.turn_acceptPeerEnvelope body logicalHash }
  | signatureSent =>
      exact { still with signature := device.signature.turn_markLocalSignatureSent }
  | cancelSignature =>
      exact { still with signature := device.signature.turn_cancelPending }
  | approveLocal approvalKind =>
      exact { still with signature := device.signature.turn_approveLocal approvalKind }
  | takeVerifiedEvidence =>
      exact { still with signature := device.signature.turn_takeVerifiedEvidence }
  | beginKnown start =>
      exact { still with known := device.known.turn_begin _ rfl }
  | completeKnown event =>
      exact { still with known := device.known.turn_complete event }
  | acceptKnown logicalType body logicalHash =>
      exact { still with
        known := device.known.turn_acceptPeerEnvelope logicalType body logicalHash }
  | knownSent logicalHash =>
      exact { still with known := device.known.turn_markLocalSent logicalHash }
  | cancelKnown =>
      exact { still with known := device.known.turn_cancelPending }
  | beginKeyConfirm start =>
      exact { still with
        keyConfirm := device.keyConfirm.turn_begin device.signature _ rfl }
  | completeKeyConfirm event =>
      exact { still with
        keyConfirm := device.keyConfirm.turn_complete device.signature event
        signature := turn_signature_of_eq
          (device.keyConfirm.complete_standing device.signature event) }
  | acceptKeyConfirm body logicalHash =>
      exact { still with
        keyConfirm := device.keyConfirm.turn_acceptPeerEnvelope body logicalHash }
  | keyConfirmSent =>
      exact { still with
        keyConfirm := device.keyConfirm.turn_markLocalSent device.signature }
  | cancelKeyConfirm =>
      exact { still with keyConfirm := device.keyConfirm.turn_cancelPending }
  | beginCapability start =>
      exact { still with
        capability := device.capability.turn_begin device.signature _ rfl }
  | completeCapability event =>
      exact { still with
        capability := device.capability.turn_complete device.signature event
        signature := turn_signature_of_eq
          (device.capability.complete_standing device.signature event) }
  | acceptCapability body logicalHash =>
      exact { still with
        capability := device.capability.turn_acceptPeerEnvelope body logicalHash }
  | capabilitySent logicalHash =>
      exact { still with
        capability := device.capability.turn_markLocalSent device.signature logicalHash
        signature := turn_signature_of_eq
          (device.capability.markLocalSent_standing device.signature logicalHash) }
  | cancelCapability =>
      exact { still with capability := device.capability.turn_cancelPending }
  | beginPlan start =>
      exact { still with plan := device.plan.turn_begin _ rfl }
  | completePlan event =>
      exact { still with plan := device.plan.turn_complete event }
  | acceptPlan bytes =>
      exact { still with plan := device.plan.turn_acceptPeerLogical bytes }
  | planSent =>
      exact { still with plan := device.plan.turn_markLocalSent }
  | cancelPlan =>
      exact { still with plan := device.plan.turn_cancelPending }
  | acceptCredentials evidence =>
      exact { still with plan := device.plan.turn_acceptCredentials evidence }
  | completeCommand id success =>
      exact { still with plan := device.plan.turn_completeCommand id success }

/-- The device of a role stays sound, and each of its schedulers takes a turn. -/
theorem sound_step
    {device : PairDevice}
    (sound : Sound role device)
    (move : PairMove) :
    Sound role (device.step role move) ∧
      ∀ part, (Standing.view role).Turn (device.standing part)
        ((device.step role move).standing part) := by
  have turn := turn_step role device move
  have plan := turn.plan sound.paced (sound.standing .plan)
  have turns : ∀ part, (Standing.view role).Turn (device.standing part)
      ((device.step role move).standing part) := by
    intro part
    cases part with
    | signature => exact turn.signature
    | known => exact turn.known
    | keyConfirm => exact turn.keyConfirm
    | capability => exact turn.capability
    | plan => exact plan.turn
  exact ⟨⟨fun part => (turns part (sound.standing part)).1, plan.paced⟩, turns⟩

end PairDevice

/-- Both devices of a pair. -/
abbrev PairDevices := RolePair PairDevice

namespace PairDevices

/-- Both devices before anything has been started. -/
def initial : PairDevices :=
  ⟨{}, {}⟩

/-- The device of one role takes a call. -/
def step (devices : PairDevices) (move : PairRole × PairMove) : PairDevices :=
  devices.set move.1 ((devices.get move.1).step move.1 move.2)

/-- What is watched of one scheduler of one device. -/
def view (role : PairRole) (part : PairPart) : View PairDevices PairEffect where
  inv devices := (devices.get role).Sound role
  shows devices := Seals ((devices.get role).standing part).pending
  level devices := (Standing.view role).level ((devices.get role).standing part)
  single := Seals.single

theorem turn_step
    (role : PairRole)
    (part : PairPart)
    (devices : PairDevices)
    (move : PairRole × PairMove) :
    (view role part).Turn devices (devices.step move) := by
  obtain ⟨mover, move⟩ := move
  by_cases own : mover = role
  · subst own
    intro sound
    have same : (devices.step (mover, move)).get mover =
        (devices.get mover).step mover move := by
      cases mover <;> rfl
    obtain ⟨stillSound, turns⟩ := PairDevice.sound_step sound move
    have turn := turns part (sound.standing part)
    simp only [view, same]
    exact ⟨stillSound, turn.2⟩
  · have same : (devices.step (mover, move)).get role = devices.get role := by
      revert own
      cases mover <;> cases role <;> intro own <;> first | rfl | exact absurd rfl own
    intro sound
    simp only [view, same] at sound ⊢
    exact ⟨sound, le_rfl, fun effect shown => Or.inl shown⟩

theorem initial_sound
    (role : PairRole) :
    (initial.get role).Sound role := by
  have start : initial.get role = {} := by
    cases role <;> rfl
  rw [start]
  refine ⟨?_, InitialPlanScheduler.paced_of_stage rfl⟩
  intro part
  have idle : ∀ standing : Standing, standing.begun = false →
      standing.pending = none → standing.idle = true →
        Standing.Sound role standing := by
    intro standing unbegun nothing isIdle
    refine ⟨?_, fun _ => nothing, fun _ => isIdle, ?_⟩
    · intro begun
      rw [unbegun] at begun
      cases begun
    · intro effect shown
      rw [nothing] at shown
      exact absurd shown (seals_none effect)
  cases part <;> exact idle _ rfl rfl rfl

/-- The device of a role hands an effect to a provider that seals a message. -/
def Hands (role : PairRole) (devices : PairDevices) (effect : PairEffect) : Prop :=
  ∃ part, Seals ((devices.get role).standing part).pending effect

/-- At some moment of a run, the device of a role hands out a message to be sealed. -/
def HandsOut
    (moves : List (PairRole × PairMove))
    (role : PairRole)
    (effect : PairEffect) : Prop :=
  Offered step (Hands role) initial moves effect

end PairDevices

/-- The messages that are sealed under the control keys. -/
inductive PairMessage where
  | signature
  | knownStatus
  | knownBranch
  | keyConfirm
  | capability
  | plan
  | ack
  | final
deriving DecidableEq

namespace PairMessage

def logicalType : PairMessage → UInt8
  | .signature => 6
  | .knownStatus => 21
  | .knownBranch => 17
  | .keyConfirm => 7
  | .capability => 23
  | .plan => 24
  | .ack => 25
  | .final => 26

def counter : PairMessage → Nat
  | .signature => 1
  | .knownStatus => 2
  | .knownBranch => 3
  | .keyConfirm => 4
  | .capability => 5
  | .plan => 6
  | .ack => 6
  | .final => 7

/-- The direction in which a message is sent, if there is only one. -/
def sentBy : PairMessage → PairRole → Bool
  | .plan, role => role = .initiator
  | .ack, role => role = .responder
  | .final, role => role = .initiator
  | _, _ => true

/-- The scheduler that seals a message. -/
def part : PairMessage → PairPart
  | .signature => .signature
  | .knownStatus => .known
  | .knownBranch => .known
  | .keyConfirm => .keyConfirm
  | .capability => .capability
  | .plan => .plan
  | .ack => .plan
  | .final => .plan

/-- How many messages its scheduler has handed out with this one. -/
def rank : PairMessage → Nat
  | .knownBranch => 2
  | .final => 2
  | _ => 1

/-- In one direction, a counter belongs to one message. -/
theorem counter_injective
    {role : PairRole}
    {first second : PairMessage}
    (firstSent : first.sentBy role = true)
    (secondSent : second.sentBy role = true)
    (same : first.counter = second.counter) :
    first = second := by
  revert firstSent secondSent same
  cases role <;> cases first <;> cases second <;> decide

end PairMessage

/-- A scheduler that is about to seal is about to seal one of the messages. -/
def Announces (standing : Standing) (part : PairPart) (role : PairRole) : Prop :=
  ∀ logicalType counter, standing.message = some (logicalType, counter) →
    ∃ message : PairMessage,
      message.part = part ∧ message.sentBy role = true ∧
        message.logicalType = logicalType ∧ message.counter = counter ∧
          standing.rank = message.rank

theorem signature_announces
    (state : PairSignatureScheduler)
    (role : PairRole) :
    Announces state.standing .signature role := by
  intro logicalType counter isMessage
  cases stage : state.stage <;>
    simp [PairSignatureScheduler.standing, PairSignatureScheduler.message, stage]
      at isMessage
  obtain ⟨rfl, rfl⟩ := isMessage
  refine ⟨.signature, rfl, rfl, rfl, rfl, ?_⟩
  simp [PairSignatureScheduler.standing, stage, PairSignatureScheduler.rank,
    PairMessage.rank]

theorem known_announces
    (state : PairKnownScheduler)
    (role : PairRole) :
    Announces state.standing .known role := by
  intro logicalType counter isMessage
  cases stage : state.stage <;>
    simp [PairKnownScheduler.standing, PairKnownScheduler.message, stage]
      at isMessage
  · obtain ⟨rfl, rfl⟩ := isMessage
    refine ⟨.knownStatus, rfl, rfl, rfl, rfl, ?_⟩
    simp [PairKnownScheduler.standing, stage, PairKnownScheduler.rank,
      PairMessage.rank]
  · obtain ⟨rfl, rfl⟩ := isMessage
    refine ⟨.knownBranch, rfl, rfl, rfl, rfl, ?_⟩
    simp [PairKnownScheduler.standing, stage, PairKnownScheduler.rank,
      PairMessage.rank]

theorem keyConfirm_announces
    (state : PairKeyConfirmScheduler)
    (role : PairRole) :
    Announces state.standing .keyConfirm role := by
  intro logicalType counter isMessage
  cases stage : state.stage <;>
    simp [PairKeyConfirmScheduler.standing, PairKeyConfirmScheduler.message, stage]
      at isMessage
  obtain ⟨rfl, rfl⟩ := isMessage
  refine ⟨.keyConfirm, rfl, rfl, rfl, rfl, ?_⟩
  simp [PairKeyConfirmScheduler.standing, stage, PairKeyConfirmScheduler.rank,
    PairMessage.rank]

theorem capability_announces
    (state : PairCapabilityScheduler)
    (role : PairRole) :
    Announces state.standing .capability role := by
  intro logicalType counter isMessage
  cases stage : state.stage <;>
    simp [PairCapabilityScheduler.standing, PairCapabilityScheduler.message, stage]
      at isMessage
  obtain ⟨rfl, rfl⟩ := isMessage
  refine ⟨.capability, rfl, rfl, rfl, rfl, ?_⟩
  simp [PairCapabilityScheduler.standing, stage, PairCapabilityScheduler.rank,
    PairMessage.rank]

variable {role : PairRole}

theorem plan_announces
    {state : InitialPlanScheduler}
    (paced : state.IsPaced)
    (placed : state.start.localRole = role) :
    Announces state.standing .plan role := by
  intro logicalType counter isMessage
  simp only [InitialPlanScheduler.standing] at isMessage
  split at isMessage
  · rename_i stage
    have own := paced.sealed stage
    rw [placed] at own
    cases isMessage
    have rank : state.standing.rank =
        InitialPlanScheduler.rank role state.currentMessage .sealLocal := by
      rw [InitialPlanScheduler.rank_of_stage stage, placed]
    cases current : state.currentMessage with
    | none =>
        rw [current] at own
        cases role <;> cases own
    | plan =>
        rw [current] at own rank
        cases role with
        | initiator => exact ⟨.plan, rfl, rfl, rfl, rfl, rank⟩
        | responder => cases own
    | ack =>
        rw [current] at own rank
        cases role with
        | initiator => cases own
        | responder => exact ⟨.ack, rfl, rfl, rfl, rfl, rank⟩
    | final =>
        rw [current] at own rank
        cases role with
        | initiator => exact ⟨.final, rfl, rfl, rfl, rfl, rank⟩
        | responder => cases own
  · cases isMessage

variable {effect : PairEffect}

/-- What a sound device seals is one of the messages, on the level of the message. -/
theorem PairDevice.Sound.message
    {device : PairDevice}
    (sound : device.Sound role)
    {part : PairPart}
    (seals : Seals (device.standing part).pending effect) :
    ∃ message : PairMessage,
      message.part = part ∧ message.sentBy role = true ∧
        SealedAs effect message.logicalType role message.counter ∧
          (Standing.view role).level (device.standing part) = message.rank := by
  have whole := sound.standing part
  have begun := whole.begun_of_pending seals.1
  obtain ⟨logicalType, counter, isMessage, sealed⟩ := whole.sealed effect seals
  have announces : Announces (device.standing part) part role := by
    cases part with
    | signature => exact signature_announces _ role
    | known => exact known_announces _ role
    | keyConfirm => exact keyConfirm_announces _ role
    | capability => exact capability_announces _ role
    | plan => exact plan_announces sound.paced (whole.placed begun)
  obtain ⟨message, isPart, sent, rfl, rfl, rank⟩ :=
    announces logicalType counter isMessage
  refine ⟨message, isPart, sent, sealed, ?_⟩
  simp only [Standing.view, begun, if_true]
  exact rank

/-- The counter in the nonce of an effect. -/
def PairEffect.counter (effect : PairEffect) : Nat :=
  loadAt 8 4 effect.nonce

/-- The word of the sender in the nonce of an effect. -/
def PairEffect.senderWord (effect : PairEffect) : Nat :=
  loadAt 4 0 effect.nonce

/-- The logical type in the associated text of an effect. -/
def PairEffect.logicalType (effect : PairEffect) : UInt8 :=
  effect.aad.getD 20 0

/-- What is sealed can be read from the nonce and from the associated text. -/
theorem SealedAs.fields
    {message : PairMessage}
    (sealed : SealedAs effect message.logicalType role message.counter) :
    effect.counter = message.counter ∧ effect.senderWord = role.nonceWord ∧
      effect.logicalType = message.logicalType := by
  obtain ⟨nonceBuilt, transcript, aadBuilt⟩ := sealed
  obtain ⟨_, -, nonceBuilt⟩ := bind_ok nonceBuilt
  obtain ⟨_, -, aadBuilt⟩ := bind_ok aadBuilt
  have nonce : bigEndian 4 role.nonceWord ++ bigEndian 8 message.counter =
      effect.nonce :=
    Except.ok.inj nonceBuilt
  refine ⟨?_, ?_, ?_⟩
  · unfold PairEffect.counter
    rw [← nonce, Dual.loadAt_skip (length_bigEndian 4 _).le, length_bigEndian]
    have loaded := Dual.loadAt_bigEndian 8 message.counter []
    rw [List.append_nil] at loaded
    rw [Nat.sub_self, loaded]
    cases message <;> rfl
  · unfold PairEffect.senderWord
    rw [← nonce, Dual.loadAt_bigEndian]
    cases role <;> rfl
  · unfold PairEffect.logicalType
    split at aadBuilt
    · cases aadBuilt
    · rw [← Except.ok.inj aadBuilt]
      rfl

namespace PairDevices

variable {moves : List (PairRole × PairMove)} {role : PairRole}

/-- A message that a device hands out to be sealed, and the moment at which it does. -/
theorem message_of_handsOut
    {effect : PairEffect}
    (handsOut : HandsOut moves role effect) :
    ∃ (message : PairMessage) (played rest : List (PairRole × PairMove)),
      moves = played ++ rest ∧ message.sentBy role = true ∧
        SealedAs effect message.logicalType role message.counter ∧
          (view role message.part).shows (run step initial played) effect ∧
            (view role message.part).level (run step initial played) =
              message.rank := by
  obtain ⟨played, rest, split, part, seals⟩ := handsOut
  have turns := turn_step role part
  have sound := (View.turn_run turns initial played (initial_sound role)).1
  obtain ⟨message, rfl, sent, sealed, level⟩ := sound.message seals
  exact ⟨message, played, rest, split, sent, sealed, seals, level⟩

/-- A device hands out no two effects for one message. -/
theorem handsOut_eq
    {first second : PairEffect}
    (firstOut : HandsOut moves role first)
    (secondOut : HandsOut moves role second)
    (counters : first.counter = second.counter) :
    first = second := by
  obtain ⟨message, sooner, soonerRest, rfl, sent, sealed, shown, level⟩ :=
    message_of_handsOut firstOut
  obtain ⟨other, later, laterRest, oneRun, otherSent, otherSealed, otherShown,
    otherLevel⟩ := message_of_handsOut secondOut
  have same : message = other := by
    apply PairMessage.counter_injective sent otherSent
    rw [← sealed.fields.1, ← otherSealed.fields.1]
    exact counters
  subst same
  exact View.shown_eq (turn_step role message.part) (initial_sound role) oneRun shown
    otherShown (level.trans otherLevel.symm)

/--
In any run of both devices of a pair, under any order of the calls, answers,
failures, cancellations and polls, two messages that are handed out to be sealed
under one nonce are the same message with the same associated text, whichever key
they are sealed under; and in one direction, the counters of the messages of
different types are different.
-/
theorem aead_nonce_unique
    (moves : List (PairRole × PairMove))
    (role other : PairRole)
    (first second : PairEffect)
    (firstOut : HandsOut moves role first)
    (secondOut : HandsOut moves other second) :
    (first.nonce = second.nonce →
        first.input = second.input ∧ first.aad = second.aad) ∧
      (role = other → first.logicalType ≠ second.logicalType →
        first.counter ≠ second.counter) ∧
      ∃ message : PairMessage,
        message.sentBy role = true ∧ first.logicalType = message.logicalType ∧
          first.counter = message.counter := by
  obtain ⟨message, _, _, _, sent, sealed, _, _⟩ := message_of_handsOut firstOut
  obtain ⟨_, _, _, _, _, otherSealed, _, _⟩ := message_of_handsOut secondOut
  obtain ⟨counter, word, logicalType⟩ := sealed.fields
  refine ⟨?_, ?_, message, sent, logicalType, counter⟩
  · intro nonces
    have words : role.nonceWord = other.nonceWord := by
      rw [← word, ← otherSealed.fields.2.1]
      unfold PairEffect.senderWord
      rw [nonces]
    have sameRole : role = other := by
      revert words
      cases role <;> cases other <;> decide
    subst sameRole
    have counters : first.counter = second.counter := by
      unfold PairEffect.counter
      rw [nonces]
    have same := handsOut_eq firstOut secondOut counters
    exact ⟨congrArg PairEffect.input same, congrArg PairEffect.aad same⟩
  · rintro rfl types counters
    have same := handsOut_eq firstOut secondOut counters
    exact types (congrArg PairEffect.logicalType same)

/-! A run of the known-peer scheduler of an initiator, up to its second seal. -/

/-- The base point of the curve, as a public key. -/
def sampleKey : PublicKey :=
  Block.copy 65
    (4 ::
      (bigEndian 32
          0x6b17d1f2e12c4247f8bce6e563a440f277037d812deb33a0f4a13945d898c296 ++
        bigEndian 32
          0x4fe342e2fe1a7f9b8ee7eb4a7c0f9e162bce33576b315ececbb6406837bf51f5))

def sampleStart : PairKnownStart where
  engineInstanceId := Block.copy 16 (List.replicate 16 1)
  linkId := Block.copy 16 (List.replicate 16 2)
  generation := 1
  firstOperationId := 1
  localRole := .initiator
  transcriptHash := Block.copy 32 (List.replicate 32 3)
  initiatorPublicKey := sampleKey
  responderPublicKey := sampleKey
  localIdentityKey := 1
  gattI2rKey := 2
  gattR2iKey := 3
  controlI2rKey := 4
  controlR2iKey := 5
  localKnown := false

/-- A provider answers an operation with bytes. -/
def sampleAnswer
    (operationId : Nat)
    (payloadKind : PayloadKind)
    (content : Bytes) : PortEvent where
  token :=
    linkToken sampleStart.engineInstanceId sampleStart.linkId sampleStart.generation
      operationId
  header := .ok
  terminal := true
  result := .ok
  payloadKind := payloadKind
  asResource := .error .invalidArgument
  asBuffer := .ok
    { buffer := some { handle := 1, content := content }
      generation := 1
      logicalSize := content.length
      flags := 0 }
  asStore := .error .invalidArgument
  asHash := .error .invalidArgument
  asMetrics := .error .invalidArgument
  asEnd := .error .invalidArgument

def sampleHash : PlanHash :=
  Block.copy 32 (List.replicate 32 6)

/-- The status of a responder that does not know the initiator. -/
def sampleStatus : Bytes :=
  match encodeKnownStatusInnerV1 sampleStart.transcriptHash .responder false sampleKey
      sampleKey sampleHash with
  | .ok inner => inner
  | .error _ => []

def sampleMoves : List (PairRole × PairMove) :=
  [(.initiator, .beginKnown sampleStart),
    (.initiator, .completeKnown (sampleAnswer 1 .cryptoMac sampleHash.bytes)),
    (.initiator, .completeKnown (sampleAnswer 2 .cryptoAead (List.replicate 160 7))),
    (.initiator, .knownSent sampleHash),
    (.initiator, .acceptKnown 21
      ([1, 0, 0, 0] ++ bigEndian 8 2 ++ List.replicate 160 8) sampleHash),
    (.initiator, .completeKnown (sampleAnswer 3 .cryptoAead sampleStatus)),
    (.initiator, .completeKnown (sampleAnswer 4 .cryptoMac sampleHash.bytes))]

/-- What the known-peer scheduler waits for after some of the calls. -/
def samplePending (count : Nat) : Option PairEffect :=
  (run step initial (sampleMoves.take count)).initiator.known.pending

def sampleEffect (count : Nat) : PairEffect :=
  (samplePending count).getD
    { kind := .aeadOpen, token := (sampleAnswer 0 .cryptoAead []).token }

theorem sample_handsOut
    {count : Nat}
    (seals : (samplePending count).map PairEffect.kind = some .aeadSeal) :
    HandsOut sampleMoves .initiator (sampleEffect count) := by
  obtain ⟨effect, pending, kind⟩ := Option.map_eq_some_iff.mp seals
  refine ⟨sampleMoves.take count, sampleMoves.drop count,
    (List.take_append_drop _ _).symm, .known, ?_, ?_⟩
  · unfold sampleEffect
    rw [pending]
    exact pending
  · unfold sampleEffect
    rw [pending]
    exact kind

theorem sample_counters_differ :
    (sampleEffect 2).counter ≠ (sampleEffect 7).counter :=
  (aead_nonce_unique sampleMoves .initiator .initiator (sampleEffect 2)
    (sampleEffect 7) (sample_handsOut (by decide +kernel))
    (sample_handsOut (by decide +kernel))).2.1 rfl (by decide +kernel)

end PairDevices

end FlyNes.Pair
