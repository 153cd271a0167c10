import Mathlib.Algebra.GroupWithZero.Nat
import Mathlib.Data.List.AList

namespace FlyNes.LanMvp.Lockstep

/-!
# The lockstep input buffer

One slot per frame holds at most one local and one remote button mask.  Masks
are accepted inside a window that starts at the next frame to run; a frame is
handed out when both masks are there, and frames are handed out in order.
-/

/-- Reduction of a 64-bit counter. -/
def wrap64 (value : Nat) : Nat :=
  value % 2 ^ 64

@[simp] theorem wrap64_wrap64
    (value : Nat) :
    wrap64 (wrap64 value) = wrap64 value :=
  Nat.mod_mod value (2 ^ 64)

/-- Outcome of storing one mask. -/
inductive Put where
  | accepted
  | duplicate
  | conflict
  | late
  | outOfWindow
deriving DecidableEq

/-- A frame ready to run. -/
structure Frame where
  index : Nat
  localMask : UInt32
  remoteMask : UInt32
deriving DecidableEq

/-- The masks stored for one frame so far. -/
structure Slot where
  localMask : Option UInt32 := none
  remoteMask : Option UInt32 := none
deriving DecidableEq

namespace Slot

/-- A slot's mask on one side. -/
def mask (slot : Slot) (isLocal : Bool) : Option UInt32 :=
  if isLocal then slot.localMask else slot.remoteMask

/-- A slot with one side's mask stored. -/
def store (slot : Slot) (isLocal : Bool) (mask : UInt32) : Slot :=
  if isLocal then
    { slot with localMask := some mask }
  else
    { slot with remoteMask := some mask }

/-- Storing a mask fills its own side. -/
@[simp] theorem mask_store_same
    (slot : Slot)
    (isLocal : Bool)
    (mask : UInt32) :
    (slot.store isLocal mask).mask isLocal = some mask := by
  cases isLocal <;> rfl

/-- Storing a mask leaves the other side alone. -/
@[simp] theorem mask_store_other
    (slot : Slot)
    (isLocal : Bool)
    (mask : UInt32) :
    (slot.store isLocal mask).mask (!isLocal) = slot.mask (!isLocal) := by
  cases isLocal <;> rfl

end Slot

/-- Masks by frame index, from the next frame on. -/
structure Buffer where
  window : Nat
  nextFrame : Nat := 0
  slots : AList (fun _ : Nat => Slot) := ∅

namespace Buffer

/-- The slot of a frame; an absent one reads as empty. -/
def slot (buffer : Buffer) (index : Nat) : Slot :=
  (buffer.slots.lookup index).getD {}

/-- Store one side's mask for a frame. -/
def put
    (buffer : Buffer)
    (index : Nat)
    (mask : UInt32)
    (isLocal : Bool) : Put × Buffer :=
  if index < buffer.nextFrame then
    (.late, buffer)
  else if index - buffer.nextFrame ≥ buffer.window then
    (.outOfWindow, buffer)
  else
    match (buffer.slot index).mask isLocal with
    | none =>
        (.accepted,
          { buffer with
            slots := buffer.slots.insert index
              ((buffer.slot index).store isLocal mask) })
    | some stored =>
        (if stored = mask then .duplicate else .conflict, buffer)

/-- Store the local mask of a frame. -/
def putLocal (buffer : Buffer) (index : Nat) (mask : UInt32) : Put × Buffer :=
  buffer.put index mask true

/-- Store the remote mask of a frame. -/
def putRemote (buffer : Buffer) (index : Nat) (mask : UInt32) : Put × Buffer :=
  buffer.put index mask false

/-- Hand out the next frame when both of its masks are stored. -/
def popReady (buffer : Buffer) : Option (Frame × Buffer) :=
  match buffer.slots.lookup buffer.nextFrame with
  | some { localMask := some localMask, remoteMask := some remoteMask } =>
      some
        (⟨buffer.nextFrame, localMask, remoteMask⟩,
          { buffer with
            nextFrame := wrap64 (buffer.nextFrame + 1)
            slots := buffer.slots.erase buffer.nextFrame })
  | _ => none

/-- The mask one side has stored for a frame. -/
def mask (buffer : Buffer) (isLocal : Bool) (index : Nat) : Option UInt32 :=
  (buffer.slot index).mask isLocal

variable {buffer after : Buffer} {index : Nat} {isLocal : Bool} {mask : UInt32}

/-- Everything a successful put does. -/
theorem put_accepted
    (stored : buffer.put index mask isLocal = (.accepted, after)) :
    buffer.nextFrame ≤ index ∧
      index < buffer.nextFrame + buffer.window ∧
      buffer.mask isLocal index = none ∧
      after =
        { buffer with
          slots := buffer.slots.insert index
            ((buffer.slot index).store isLocal mask) } := by
  unfold put at stored
  split at stored
  · simp at stored
  · next notLate =>
      split at stored
      · simp at stored
      · next inside =>
          cases empty : (buffer.slot index).mask isLocal with
          | none =>
              simp only [empty, Prod.mk.injEq, true_and] at stored
              exact ⟨by omega, by omega, empty, stored.symm⟩
          | some present =>
              simp only [empty, Prod.mk.injEq] at stored
              have outcome := stored.1
              split at outcome <;> simp at outcome

/-- A put that is not accepted leaves the buffer unchanged. -/
theorem put_refused
    {outcome : Put}
    (stored : buffer.put index mask isLocal = (outcome, after))
    (refused : outcome ≠ .accepted) :
    after = buffer := by
  unfold put at stored
  split at stored
  · exact (Prod.mk.inj stored).2.symm
  · split at stored
    · exact (Prod.mk.inj stored).2.symm
    · split at stored
      · exact (refused (Prod.mk.inj stored).1.symm).elim
      · exact (Prod.mk.inj stored).2.symm

variable {buffer : Buffer}

/-- A frame inside the window with an empty side is accepted. -/
theorem put_of_empty
    (mask : UInt32)
    (notLate : buffer.nextFrame ≤ index)
    (inside : index < buffer.nextFrame + buffer.window)
    (empty : buffer.mask isLocal index = none) :
    buffer.put index mask isLocal =
      (.accepted,
        { buffer with
          slots := buffer.slots.insert index
            ((buffer.slot index).store isLocal mask) }) := by
  have slotEmpty : (buffer.slot index).mask isLocal = none := empty
  unfold put
  rw [if_neg (by omega), if_neg (by omega)]
  simp only [slotEmpty]

/-- An accepted put fills its own frame and side and no other. -/
theorem mask_of_insert
    (buffer : Buffer)
    (index query : Nat)
    (isLocal side : Bool)
    (mask : UInt32) :
    ({ buffer with
        slots := buffer.slots.insert index
          ((buffer.slot index).store isLocal mask) } : Buffer).mask side query =
      if query = index ∧ side = isLocal then
        some mask
      else
        buffer.mask side query := by
  by_cases sameFrame : query = index
  · subst sameFrame
    by_cases sameSide : side = isLocal
    · subst sameSide
      simp [Buffer.mask, slot]
    · have other : side = !isLocal := by
        cases side <;> cases isLocal <;> simp_all
      subst other
      simp [Buffer.mask, slot]
  · simp [Buffer.mask, slot, sameFrame,
      AList.lookup_insert_ne sameFrame]

/-- Everything a successful pop does. -/
theorem popReady_eq_some
    {frame : Frame}
    (popped : buffer.popReady = some (frame, after)) :
    frame.index = buffer.nextFrame ∧
      buffer.mask true buffer.nextFrame = some frame.localMask ∧
      buffer.mask false buffer.nextFrame = some frame.remoteMask ∧
      after =
        { buffer with
          nextFrame := wrap64 (buffer.nextFrame + 1)
          slots := buffer.slots.erase buffer.nextFrame } := by
  unfold popReady at popped
  split at popped
  · next localMask remoteMask found =>
      simp only [Option.some.injEq, Prod.mk.injEq] at popped
      obtain ⟨rfl, rfl⟩ := popped
      simp [mask, slot, found, Slot.mask]
  · simp at popped

/-- A frame with both masks stored is handed out. -/
theorem popReady_of_masks
    {localMask remoteMask : UInt32}
    (hasLocal : buffer.mask true buffer.nextFrame = some localMask)
    (hasRemote : buffer.mask false buffer.nextFrame = some remoteMask) :
    ∃ after,
      buffer.popReady =
        some (⟨buffer.nextFrame, localMask, remoteMask⟩, after) := by
  unfold mask slot at hasLocal hasRemote
  unfold popReady
  cases found : buffer.slots.lookup buffer.nextFrame with
  | none =>
      simp [found, Slot.mask] at hasLocal
  | some stored =>
      obtain ⟨storedLocal, storedRemote⟩ := stored
      simp only [found, Option.getD_some, Slot.mask, ↓reduceIte,
        Bool.false_eq_true] at hasLocal hasRemote
      subst hasLocal
      subst hasRemote
      exact ⟨_, rfl⟩

/-- Popping forgets the popped frame and keeps every other. -/
theorem mask_of_erase
    (buffer : Buffer)
    (next index query : Nat)
    (side : Bool) :
    ({ buffer with
        nextFrame := next
        slots := buffer.slots.erase index } : Buffer).mask side query =
      if query = index then none else buffer.mask side query := by
  by_cases sameFrame : query = index
  · subst sameFrame
    cases side <;> simp [mask, slot, Slot.mask]
  · simp [mask, slot, sameFrame, AList.lookup_erase_ne sameFrame]

end Buffer

end FlyNes.LanMvp.Lockstep
