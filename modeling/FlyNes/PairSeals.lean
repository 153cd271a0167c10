import FlyNes.PairSignature

namespace FlyNes.Pair

open FlyNes.Dual (SessionResult loadAt)
open FlyNes.Ports
open Staircase

/-!
# What is sealed

A sealed message has its sender and its counter in the nonce and its logical type
in the associated text.  What a scheduler seals is watched through its standing:
how many messages it has handed out so far, and which one its stage seals.
-/

/-- The pending effect seals a message. -/
def Seals (pending : Option PairEffect) (effect : PairEffect) : Prop :=
  pending = some effect ∧ effect.kind = .aeadSeal

theorem Seals.single
    {pending : Option PairEffect}
    {first second : PairEffect}
    (one : Seals pending first)
    (other : Seals pending second) :
    first = second := by
  have same := one.1.symm.trans other.1
  exact Option.some.inj same

@[simp] theorem seals_none
    (effect : PairEffect) :
    ¬Seals none effect := by
  rintro ⟨pending, -⟩
  cases pending

/-- The effect seals a message of a logical type of a sender under a counter. -/
def SealedAs
    (effect : PairEffect)
    (logicalType : UInt8)
    (sender : PairRole)
    (counter : Nat) : Prop :=
  buildPairSecureNonceV1 sender counter = .ok effect.nonce ∧
    ∃ transcript,
      buildPairSecureAadV1 logicalType sender transcript counter = .ok effect.aad

theorem orElseFail_ok
    {Value : Type}
    {result : SessionResult}
    {outcome : Except Dual.WireStatus Value}
    {value : Value}
    (success : orElseFail result outcome = .ok value) :
    outcome = .ok value := by
  cases outcome with
  | error status =>
      cases success
  | ok found =>
      cases success
      rfl

/-- A sequence of two fallible computations that succeeds. -/
theorem bind_ok
    {Error First Second : Type}
    {first : Except Error First}
    {next : First → Except Error Second}
    {value : Second}
    (success : first >>= next = .ok value) :
    ∃ middle, first = .ok middle ∧ next middle = .ok value := by
  cases first with
  | error failure =>
      cases success
  | ok middle =>
      exact ⟨middle, rfl, success⟩

theorem aeadEffect_ok
    {kind : PairEffectKind}
    {token : OpToken}
    {resource : ResourceHandle}
    {logicalType : UInt8}
    {sender : PairRole}
    {transcript : PlanHash}
    {counter : Nat}
    {effect : PairEffect}
    (success :
      aeadEffect kind token resource logicalType sender transcript counter =
        .ok effect) :
    effect.kind = kind ∧ SealedAs effect logicalType sender counter := by
  obtain ⟨nonce, built, success⟩ := bind_ok success
  obtain ⟨aad, authenticated, success⟩ := bind_ok success
  cases success
  exact ⟨rfl, orElseFail_ok built, transcript, orElseFail_ok authenticated⟩

theorem PairRole.eq_responder
    {role : PairRole}
    (other : role ≠ .initiator) :
    role = .responder := by
  cases role with
  | initiator => exact absurd rfl other
  | responder => rfl

/-- What counts of the state of a pairing scheduler for the messages it seals. -/
structure Standing where
  begun : Bool
  localRole : PairRole
  pending : Option PairEffect
  /-- Its stage is the first one or the one of a failure. -/
  idle : Bool
  /-- The logical type and the counter of the message that its stage seals. -/
  message : Option (UInt8 × Nat)
  /-- How many messages it has handed out to be sealed. -/
  rank : Nat

namespace Standing

/-- What holds of a scheduler of the device of a role. -/
structure Sound (role : PairRole) (standing : Standing) : Prop where
  placed : standing.begun = true → standing.localRole = role
  waiting : standing.begun = false → standing.pending = none
  idle : standing.begun = false → standing.idle = true
  sealed : ∀ effect, Seals standing.pending effect →
    ∃ logicalType counter,
      standing.message = some (logicalType, counter) ∧
        SealedAs effect logicalType role counter

namespace Sound

variable {role : PairRole} {standing : Standing}

/-- A scheduler that waits for an answer has been started. -/
theorem begun_of_pending
    (sound : Sound role standing)
    {effect : PairEffect}
    (pending : standing.pending = some effect) :
    standing.begun = true := by
  cases begun : standing.begun with
  | true =>
      rfl
  | false =>
      rw [sound.waiting begun] at pending
      cases pending

theorem begun_of_ne_none
    (sound : Sound role standing)
    (some : standing.pending ≠ none) :
    standing.begun = true := by
  obtain ⟨effect, pending⟩ := Option.ne_none_iff_exists'.mp some
  exact sound.begun_of_pending pending

/-- A scheduler in the middle of its stages has been started. -/
theorem begun_of_busy
    (sound : Sound role standing)
    (busy : standing.idle = false) :
    standing.begun = true := by
  cases begun : standing.begun with
  | true =>
      rfl
  | false =>
      rw [sound.idle begun] at busy
      cases busy

end Sound

def view (role : PairRole) : View Standing PairEffect where
  inv := Sound role
  shows standing := Seals standing.pending
  level standing := if standing.begun then standing.rank else 0
  single := Seals.single

/-- The calls other than `begin` leave the start of a scheduler as it is. -/
structure Keeps (before after : Standing) : Prop where
  begun : after.begun = before.begun
  localRole : after.localRole = before.localRole

variable {role : PairRole} {before after : Standing}

theorem Keeps.of_eq
    (same : after = before) :
    Keeps before after :=
  ⟨congrArg Standing.begun same, congrArg Standing.localRole same⟩

theorem turn_of_eq
    {middle : Standing}
    (same : middle = before)
    (turn : (view role).Turn middle after) :
    (view role).Turn before after :=
  same ▸ turn

theorem Keeps.level_le
    (keeps : Keeps before after)
    (rises : before.rank ≤ after.rank) :
    (view role).level before ≤ (view role).level after := by
  simp only [view, keeps.begun]
  split
  · exact rises
  · exact le_rfl

/-- A call that seals nothing. -/
theorem turn_quiet
    (keeps : Keeps before after)
    (rises : before.rank ≤ after.rank)
    (started : before.begun = true ∨ (after.pending = none ∧ after.idle = true))
    (quiet : ∀ effect, ¬Seals after.pending effect) :
    (view role).Turn before after := by
  intro holds
  have ended : before.begun = false → after.pending = none ∧ after.idle = true := by
    intro unbegun
    rcases started with begun | isEnded
    · rw [unbegun] at begun
      cases begun
    · exact isEnded
  refine ⟨⟨?_, ?_, ?_, ?_⟩, keeps.level_le rises, ?_⟩
  · intro begun
    rw [keeps.localRole]
    exact holds.placed (keeps.begun ▸ begun)
  · intro unbegun
    exact (ended (keeps.begun ▸ unbegun)).1
  · intro unbegun
    exact (ended (keeps.begun ▸ unbegun)).2
  · intro effect shown
    exact absurd shown (quiet effect)
  · intro effect shown
    exact absurd shown (quiet effect)

/-- A call that fails. -/
theorem turn_fail
    (keeps : Keeps before after)
    (rises : before.rank ≤ after.rank)
    (nothing : after.pending = none)
    (idle : after.idle = true) :
    (view role).Turn before after := by
  refine turn_quiet keeps rises (Or.inr ⟨nothing, idle⟩) ?_
  intro effect
  rw [nothing]
  exact seals_none effect

/-- A call after which nothing is pending. -/
theorem turn_wait
    (keeps : Keeps before after)
    (begun : before.begun = true)
    (rises : before.rank ≤ after.rank)
    (nothing : after.pending = none) :
    (view role).Turn before after := by
  refine turn_quiet keeps rises (Or.inl begun) ?_
  intro effect
  rw [nothing]
  exact seals_none effect

variable {effect : PairEffect}

/-- A call that issues an effect of another kind. -/
theorem turn_other
    (keeps : Keeps before after)
    (begun : before.begun = true)
    (rises : before.rank ≤ after.rank)
    (pending : after.pending = some effect)
    (other : effect.kind ≠ .aeadSeal) :
    (view role).Turn before after := by
  refine turn_quiet keeps rises (Or.inl begun) ?_
  rintro found ⟨isPending, kind⟩
  rw [pending] at isPending
  cases isPending
  exact other kind

/-- A call that hands out the next message to be sealed. -/
theorem turn_seal
    {logicalType : UInt8}
    {counter : Nat}
    (keeps : Keeps before after)
    (begun : before.begun = true)
    (rises : before.rank < after.rank)
    (pending : after.pending = some effect)
    (message : after.message = some (logicalType, counter))
    (sealed : SealedAs effect logicalType before.localRole counter) :
    (view role).Turn before after := by
  intro holds
  have placed := holds.placed begun
  have stillBegun : after.begun = true := keeps.begun.trans begun
  refine ⟨⟨?_, ?_, ?_, ?_⟩, keeps.level_le rises.le, ?_⟩
  · intro _
    rw [keeps.localRole]
    exact placed
  · intro unbegun
    rw [stillBegun] at unbegun
    cases unbegun
  · intro unbegun
    rw [stillBegun] at unbegun
    cases unbegun
  · rintro other ⟨isPending, -⟩
    rw [pending] at isPending
    cases isPending
    exact ⟨logicalType, counter, message, placed ▸ sealed⟩
  · intro other _
    refine Or.inr ?_
    simpa only [view, keeps.begun, begun, if_true] using rises

/-- The call that starts a scheduler. -/
theorem turn_begin
    (unbegun : before.begun = false)
    (begun : after.begun = true)
    (placed : after.localRole = role)
    (quiet : ∀ effect, ¬Seals after.pending effect) :
    (view role).Turn before after := by
  intro _
  refine ⟨⟨fun _ => placed, ?_, ?_, ?_⟩, ?_, ?_⟩
  · intro stillUnbegun
    rw [begun] at stillUnbegun
    cases stillUnbegun
  · intro stillUnbegun
    rw [begun] at stillUnbegun
    cases stillUnbegun
  · intro effect shown
    exact absurd shown (quiet effect)
  · simp only [view, unbegun]
    exact Nat.zero_le _
  · intro effect shown
    exact absurd shown (quiet effect)

/-- The call that starts a scheduler and issues its first effect. -/
theorem turn_beginOther
    (unbegun : before.begun = false)
    (begun : after.begun = true)
    (placed : after.localRole = role)
    (pending : after.pending = some effect)
    (other : effect.kind ≠ .aeadSeal) :
    (view role).Turn before after := by
  refine turn_begin unbegun begun placed ?_
  rintro found ⟨isPending, kind⟩
  rw [pending] at isPending
  cases isPending
  exact other kind

/-- The call that starts a scheduler, which then waits for its peer. -/
theorem turn_beginWaiting
    (unbegun : before.begun = false)
    (begun : after.begun = true)
    (placed : after.localRole = role)
    (pending : after.pending = before.pending) :
    (view role).Turn before after := by
  intro holds
  refine turn_begin unbegun begun placed ?_ holds
  intro effect
  rw [pending, holds.waiting unbegun]
  exact seals_none effect

/-- A call that does not start a scheduler after all. -/
theorem turn_unbegun
    (unbegun : before.begun = false)
    (stillUnbegun : after.begun = false)
    (pending : after.pending = before.pending)
    (idle : after.idle = before.idle) :
    (view role).Turn before after := by
  intro holds
  have nothing : after.pending = none := pending.trans (holds.waiting unbegun)
  have quiet : ∀ effect, ¬Seals after.pending effect := by
    intro effect
    rw [nothing]
    exact seals_none effect
  refine ⟨⟨?_, fun _ => nothing, fun _ => idle.trans (holds.idle unbegun), ?_⟩, ?_, ?_⟩
  · intro begun
    rw [stillUnbegun] at begun
    cases begun
  · intro effect shown
    exact absurd shown (quiet effect)
  · simp only [view, unbegun]
    exact Nat.zero_le _
  · intro effect shown
    exact absurd shown (quiet effect)

/-- A scheduler whose stage seals nothing goes on to another stage. -/
theorem turn_onward
    (keeps : Keeps before after)
    (busy : before.idle = false)
    (rises : before.rank ≤ after.rank)
    (pending : after.pending = before.pending)
    (quiet : before.message = none) :
    (view role).Turn before after := by
  intro holds
  refine turn_quiet keeps rises (Or.inl (holds.begun_of_busy busy)) ?_ holds
  intro effect shown
  rw [pending] at shown
  obtain ⟨logicalType, counter, message, -⟩ := holds.sealed effect shown
  rw [quiet] at message
  cases message

end Standing

end FlyNes.Pair
