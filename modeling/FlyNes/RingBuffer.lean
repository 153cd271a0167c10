import Mathlib.Algebra.GroupWithZero.Nat
import Mathlib.Data.List.Basic

namespace RingBuffer

/-!
# Ring buffers that overwrite

A ring keeps its items in a fixed number of slots, from a read position on.  What
it contains is a list; a push onto a full ring forgets the oldest item, so a ring
contains the last items of everything that was pushed since it was empty.
-/

variable {Item : Type} {capacity : Nat}

/-- The last items of a list, as many as there are slots. -/
def newest (capacity : Nat) (items : List Item) : List Item :=
  items.drop (items.length - capacity)

theorem newest_of_le
    {items : List Item}
    (few : items.length ≤ capacity) :
    newest capacity items = items := by
  simp [newest, Nat.sub_eq_zero_of_le few]

/-- Only the newest items of a list matter for what is newest behind it. -/
theorem newest_newest (first second : List Item) :
    newest capacity (newest capacity first ++ second) =
      newest capacity (first ++ second) := by
  simp only [newest, List.length_append, List.length_drop]
  rw [← List.drop_append_of_le_length (Nat.sub_le _ _), List.drop_drop]
  congr 1
  omega

/-- The slots of a ring, where the oldest item is, and how many there are. -/
structure Ring (Item : Type) (capacity : Nat) where
  slots : Vector Item capacity
  read : Nat
  count : Nat

namespace Ring

/-- Forget the oldest items. -/
def advance (ring : Ring Item capacity) (taken : Nat) : Ring Item capacity :=
  { ring with
    read := (ring.read + taken) % capacity
    count := ring.count - taken }

/-- A full ring forgets its oldest item. -/
def makeRoom (ring : Ring Item capacity) : Ring Item capacity :=
  if ring.count = capacity then ring.advance 1 else ring

/-- The read position is a slot, and no slot holds two items. -/
structure Sound (ring : Ring Item capacity) : Prop where
  read : ring.read < capacity
  count : ring.count ≤ capacity

variable [NeZero capacity]

/-- The slot that lies some way behind the read position. -/
def slot (ring : Ring Item capacity) (distance : Nat) : Fin capacity :=
  Fin.ofNat capacity (ring.read + distance)

/-- The items of a ring, the oldest first. -/
def contents (ring : Ring Item capacity) : List Item :=
  (List.range ring.count).map fun distance => ring.slots[ring.slot distance]

/-- Write an item behind the newest one. -/
def write (ring : Ring Item capacity) (item : Item) : Ring Item capacity :=
  { ring with
    slots :=
      ring.slots.set (ring.slot ring.count) item (ring.slot ring.count).isLt
    count := ring.count + 1 }

def push (ring : Ring Item capacity) (item : Item) : Ring Item capacity :=
  ring.makeRoom.write item

variable {ring : Ring Item capacity} {item : Item}

@[simp] theorem length_contents (ring : Ring Item capacity) :
    ring.contents.length = ring.count := by
  simp [contents]

theorem contents_empty (empty : ring.count = 0) : ring.contents = [] := by
  simp [contents, empty]

/-- Slots less than a whole turn apart differ. -/
theorem slot_ne
    {first second : Nat}
    (before : first < second)
    (turn : second < first + capacity) :
    (ring.slot first).val ≠ (ring.slot second).val := by
  simp only [slot, Fin.val_ofNat]
  intro same
  have apart := Nat.sub_mod_eq_zero_of_mod_eq same.symm
  rw [Nat.add_sub_add_left, Nat.mod_eq_of_lt (by omega)] at apart
  omega

/-- Advancing moves every slot as far as it moves the read position. -/
theorem slot_advance (taken distance : Nat) :
    (ring.advance taken).slot distance = ring.slot (taken + distance) := by
  apply Fin.ext
  simp only [slot, advance, Fin.val_ofNat, Nat.mod_add_mod, Nat.add_assoc]

theorem contents_advance (taken : Nat) :
    (ring.advance taken).contents = ring.contents.drop taken := by
  apply List.ext_getElem
  · simp [advance]
  · intro index _ _
    simp only [contents, List.getElem_map, List.getElem_range, List.getElem_drop,
      slot_advance]
    rfl

/-- A ring with room takes an item behind the others. -/
theorem contents_write (room : ring.count < capacity) :
    (ring.write item).contents = ring.contents ++ [item] := by
  simp only [contents, write, List.range_succ, List.map_append, List.map_cons,
    List.map_nil]
  congr 1
  · refine List.map_congr_left ?_
    intro distance member
    have earlier : distance < ring.count := List.mem_range.mp member
    have apart := @slot_ne Item capacity _ ring distance ring.count earlier (by omega)
    exact Vector.getElem_set_ne _ _ (Ne.symm apart)
  · exact congrArg (fun last => [last]) (Vector.getElem_set_self _)

theorem Sound.advance (sound : ring.Sound) (taken : Nat) : (ring.advance taken).Sound where
  read := Nat.mod_lt _ (Nat.pos_of_neZero capacity)
  count := Nat.le_trans (Nat.sub_le _ _) sound.count

theorem Sound.makeRoom (sound : ring.Sound) :
    ring.makeRoom.Sound ∧ ring.makeRoom.count < capacity := by
  by_cases full : ring.count = capacity
  · have positive : 0 < capacity := Nat.pos_of_neZero capacity
    rw [Ring.makeRoom, if_pos full]
    refine ⟨sound.advance 1, ?_⟩
    simp only [Ring.advance]
    omega
  · rw [Ring.makeRoom, if_neg full]
    exact ⟨sound, Nat.lt_of_le_of_ne sound.count full⟩

theorem Sound.push (sound : ring.Sound) : (ring.push item).Sound := by
  obtain ⟨kept, room⟩ := sound.makeRoom
  exact ⟨kept.read, room⟩

/-- A push keeps the newest of what the ring contained and the item. -/
theorem Sound.contents_push (sound : ring.Sound) :
    (ring.push item).contents = newest capacity (ring.contents ++ [item]) := by
  rw [Ring.push, contents_write sound.makeRoom.2]
  by_cases full : ring.count = capacity
  · have one : 1 ≤ ring.contents.length := by
      rw [length_contents, full]
      exact Nat.pos_of_neZero capacity
    rw [Ring.makeRoom, if_pos full, contents_advance, newest, List.length_append,
      length_contents, full, List.length_singleton, Nat.add_sub_cancel_left,
      List.drop_append_of_le_length one]
  · have few : (ring.contents ++ [item]).length ≤ capacity := by
      have := sound.count
      simp only [List.length_append, length_contents, List.length_singleton]
      omega
    rw [Ring.makeRoom, if_neg full, newest_of_le few]

/-- Pushing a list keeps the newest items. -/
theorem Sound.pushAll
    (sound : ring.Sound)
    (items : List Item) :
    (items.foldl Ring.push ring).Sound ∧
      (items.foldl Ring.push ring).contents =
        newest capacity (ring.contents ++ items) := by
  induction items generalizing ring with
  | nil =>
      refine ⟨sound, ?_⟩
      rw [List.append_nil, newest_of_le (by simpa using sound.count)]
      rfl
  | cons item rest inductionHypothesis =>
      obtain ⟨kept, holds⟩ := inductionHypothesis (@Sound.push Item capacity _ ring item sound)
      refine ⟨kept, ?_⟩
      rw [List.foldl_cons, holds, sound.contents_push, newest_newest, List.append_assoc,
        List.singleton_append]

end Ring

end RingBuffer
