import FlyNes.LanLockstep
import FlyNes.Logbook

namespace FlyNes.LanMvp.Lockstep

/-!
# Runs of the lockstep buffer

A log of puts and pops says which frames were handed out and which masks were
accepted.  The frames come in the order of a 64-bit counter, with the first masks
that were accepted for them, and the stored masks are those of the frames that are
still to come.
-/

/-- A put of one side, or a pop. -/
inductive BufferCall where
  | put (isLocal : Bool) (index : UInt64) (mask : UInt32)
  | popReady

inductive BufferAnswer where
  | put (outcome : Put)
  | popped (frame : Option Frame)
deriving DecidableEq

/-- A frame's mask on one side. -/
def Frame.mask (frame : Frame) (isLocal : Bool) : UInt32 :=
  if isLocal then frame.localMask else frame.remoteMask

namespace Buffer

def perform (buffer : Buffer) : BufferCall → BufferAnswer × Buffer
  | .put isLocal index mask =>
      let stored :=
        if isLocal then
          buffer.putLocal index.toNat mask
        else
          buffer.putRemote index.toNat mask
      (.put stored.1, stored.2)
  | .popReady =>
      match buffer.popReady with
      | none => (.popped none, buffer)
      | some (frame, after) => (.popped (some frame), after)

theorem perform_put
    (buffer : Buffer)
    (isLocal : Bool)
    (index : UInt64)
    (mask : UInt32) :
    buffer.perform (.put isLocal index mask) =
      (.put (buffer.put index.toNat mask isLocal).1,
        (buffer.put index.toNat mask isLocal).2) := by
  cases isLocal <;> rfl

end Buffer

abbrev BufferEntry := Logbook.Entry Buffer BufferCall BufferAnswer

abbrev BufferLog := List BufferEntry

namespace BufferLog

def poppedFrame (entry : BufferEntry) : Option Frame :=
  match entry.answer with
  | .popped frame => frame
  | .put _ => none

/-- The mask that an entry has accepted for a frame on one side. -/
def acceptedMask
    (isLocal : Bool)
    (index : Nat)
    (entry : BufferEntry) : Option UInt32 :=
  match entry.call, entry.answer with
  | .put side frame mask, .put .accepted =>
      if side = isLocal ∧ frame.toNat = index then some mask else none
  | _, _ => none

/-- The frames that were handed out. -/
def popped (log : BufferLog) : List Frame :=
  log.filterMap poppedFrame

/-- The masks that were accepted for a frame on one side. -/
def accepted (isLocal : Bool) (index : Nat) (log : BufferLog) : List UInt32 :=
  log.filterMap (acceptedMask isLocal index)

theorem popped_concat
    (log : BufferLog)
    (entry : BufferEntry) :
    popped (log ++ [entry]) = popped log ++ (poppedFrame entry).toList := by
  cases frame : poppedFrame entry <;>
    simp [popped, frame]

theorem accepted_concat
    (isLocal : Bool)
    (index : Nat)
    (log : BufferLog)
    (entry : BufferEntry) :
    accepted isLocal index (log ++ [entry]) =
      accepted isLocal index log ++ (acceptedMask isLocal index entry).toList := by
  cases mask : acceptedMask isLocal index entry <;>
    simp [accepted, mask]

/-- What holds of a log and of the buffer behind it. -/
structure Aligned (window : Nat) (log : BufferLog) (buffer : Buffer) : Prop where
  size : buffer.window = window
  next : buffer.nextFrame = wrap64 (popped log).length
  indices :
    (popped log).map Frame.index =
      (List.range (popped log).length).map wrap64
  keys :
    ∀ index ∈ buffer.slots.keys,
      buffer.nextFrame ≤ index ∧
        index < buffer.nextFrame + window ∧
        index < 2 ^ 64
  /-- Before the counter wraps, a frame to come has the masks that were accepted. -/
  pending :
    (popped log).length < 2 ^ 64 →
      ∀ isLocal index,
        (popped log).length ≤ index →
          accepted isLocal index log = (buffer.mask isLocal index).toList
  handed :
    (popped log).length ≤ 2 ^ 64 →
      ∀ frame ∈ popped log, ∀ isLocal,
        (accepted isLocal frame.index log).head? = some (frame.mask isLocal)

section Steps

variable {window : Nat}
variable {log : BufferLog}
variable {buffer : Buffer}

theorem Aligned.start :
    Aligned window [] { window := window } where
  size := rfl
  next := rfl
  indices := rfl
  keys := by
    intro index member
    simp at member
  pending := by
    intro _ isLocal index _
    cases isLocal <;> rfl
  handed := by
    intro _ frame member
    simp [popped] at member

variable {entry : BufferEntry}

/-- An entry that neither pops a frame nor accepts a mask. -/
theorem Aligned.idle
    (aligned : Aligned window log buffer)
    (noFrame : poppedFrame entry = none)
    (noMask : ∀ isLocal index, acceptedMask isLocal index entry = none) :
    Aligned window (log ++ [entry]) buffer := by
  have frames : popped (log ++ [entry]) = popped log := by
    simp [popped_concat, noFrame]
  have masks (isLocal : Bool) (index : Nat) :
      accepted isLocal index (log ++ [entry]) = accepted isLocal index log := by
    simp [accepted_concat, noMask]
  constructor
  · exact aligned.size
  · rw [frames]
    exact aligned.next
  · rw [frames]
    exact aligned.indices
  · exact aligned.keys
  · simp only [frames, masks]
    exact aligned.pending
  · simp only [frames, masks]
    exact aligned.handed

variable {after : Buffer}

theorem Aligned.accept
    (aligned : Aligned window log buffer)
    {isLocal : Bool}
    {index : UInt64}
    {mask : UInt32}
    (stored : buffer.put index.toNat mask isLocal = (.accepted, after))
    (call : entry.call = .put isLocal index mask)
    (answer : entry.answer = .put .accepted) :
    Aligned window (log ++ [entry]) after := by
  obtain ⟨notLate, inside, empty, rfl⟩ := Buffer.put_accepted stored
  have frames : popped (log ++ [entry]) = popped log := by
    simp [popped_concat, poppedFrame, answer]
  have masks (side : Bool) (query : Nat) :
      accepted side query (log ++ [entry]) =
        accepted side query log ++
          if isLocal = side ∧ index.toNat = query then [mask] else [] := by
    rw [accepted_concat]
    simp only [acceptedMask, call, answer]
    split <;> rfl
  constructor
  · exact aligned.size
  · rw [frames]
    exact aligned.next
  · rw [frames]
    exact aligned.indices
  · intro key member
    rw [AList.keys_insert] at member
    rcases List.mem_cons.mp member with rfl | old
    · rw [← aligned.size]
      exact ⟨notLate, inside, index.toNat_lt⟩
    · exact aligned.keys key (List.mem_of_mem_erase old)
  · intro early side query later
    rw [frames] at early later
    rw [masks, Buffer.mask_of_insert, aligned.pending early side query later]
    by_cases here : isLocal = side ∧ index.toNat = query
    · obtain ⟨rfl, rfl⟩ := here
      simp [empty]
    · have elsewhere : ¬ (query = index.toNat ∧ side = isLocal) :=
        fun same => here ⟨same.2.symm, same.1.symm⟩
      simp [here, elsewhere]
  · intro early frame member side
    rw [frames] at early member
    rw [masks, List.head?_append, aligned.handed early frame member side]
    rfl

theorem Aligned.pop
    (aligned : Aligned window log buffer)
    {frame : Frame}
    (ready : buffer.popReady = some (frame, after))
    (call : entry.call = .popReady)
    (answer : entry.answer = .popped (some frame)) :
    Aligned window (log ++ [entry]) after := by
  obtain ⟨first, hasLocal, hasRemote, rfl⟩ := Buffer.popReady_eq_some ready
  have frames : popped (log ++ [entry]) = popped log ++ [frame] := by
    simp [popped_concat, poppedFrame, answer]
  have masks (side : Bool) (query : Nat) :
      accepted side query (log ++ [entry]) = accepted side query log := by
    simp [accepted_concat, acceptedMask, call]
  have hasMask (side : Bool) :
      buffer.mask side buffer.nextFrame = some (frame.mask side) := by
    cases side with
    | true => exact hasLocal
    | false => exact hasRemote
  have counted : (popped (log ++ [entry])).length = (popped log).length + 1 := by
    rw [frames, List.length_append, List.length_singleton]
  constructor
  · exact aligned.size
  · rw [counted]
    change wrap64 (buffer.nextFrame + 1) = _
    rw [aligned.next, wrap64, wrap64, wrap64, Nat.mod_add_mod]
  · rw [counted, frames, List.map_append, aligned.indices, List.range_succ,
      List.map_append, List.map_singleton, List.map_singleton, first, aligned.next]
  · intro key member
    rw [AList.keys_erase] at member
    have other : key ≠ buffer.nextFrame := by
      rintro rfl
      exact List.Nodup.not_mem_erase buffer.slots.keys_nodup member
    obtain ⟨notLate, inside, small⟩ :=
      aligned.keys key (List.mem_of_mem_erase member)
    -- A frame behind the next one leaves the counter below its largest value.
    have next : wrap64 (buffer.nextFrame + 1) = buffer.nextFrame + 1 :=
      Nat.mod_eq_of_lt (by omega)
    change wrap64 (buffer.nextFrame + 1) ≤ key ∧
      key < wrap64 (buffer.nextFrame + 1) + window ∧ key < 2 ^ 64
    rw [next]
    exact ⟨by omega, by omega, small⟩
  · intro early side query later
    rw [counted] at early later
    have next : buffer.nextFrame = (popped log).length := by
      rw [aligned.next]
      exact Nat.mod_eq_of_lt (by omega)
    rw [masks, Buffer.mask_of_erase, if_neg (by omega)]
    exact aligned.pending (by omega) side query (by omega)
  · intro early other member side
    rw [counted] at early
    rw [masks]
    rw [frames] at member
    rcases List.mem_append.mp member with old | new
    · exact aligned.handed (by omega) other old side
    · obtain rfl := List.mem_singleton.mp new
      have next : buffer.nextFrame = (popped log).length := by
        rw [aligned.next]
        exact Nat.mod_eq_of_lt (by omega)
      have waiting :=
        aligned.pending (by omega) side buffer.nextFrame (Nat.le_of_eq next.symm)
      rw [first, waiting, hasMask]
      rfl

theorem Aligned.perform
    (aligned : Aligned window log buffer)
    (call : BufferCall) :
    Aligned window (log ++ [Logbook.entry Buffer.perform buffer call])
      (buffer.perform call).2 := by
  cases call with
  | put isLocal index mask =>
      have performed := buffer.perform_put isLocal index mask
      rcases stored : buffer.put index.toNat mask isLocal with ⟨outcome, after⟩
      rw [stored] at performed
      by_cases accepted : outcome = .accepted
      · subst accepted
        rw [performed]
        exact aligned.accept stored rfl (congrArg Prod.fst performed)
      · obtain rfl := Buffer.put_refused stored accepted
        rw [performed]
        have answer := congrArg Prod.fst performed
        refine aligned.idle ?_ ?_
        · simp only [poppedFrame, Logbook.entry, answer]
        · intro side query
          simp only [acceptedMask, Logbook.entry, answer]
          cases outcome with
          | accepted => exact (accepted rfl).elim
          | _ => rfl
  | popReady =>
      cases ready : buffer.popReady with
      | none =>
          have performed : buffer.perform .popReady = (.popped none, buffer) := by
            simp only [Buffer.perform, ready]
          rw [performed]
          refine aligned.idle ?_ fun _ _ => rfl
          simp only [poppedFrame, Logbook.entry, performed]
      | some pair =>
          obtain ⟨frame, after⟩ := pair
          have performed :
              buffer.perform .popReady = (.popped (some frame), after) := by
            simp only [Buffer.perform, ready]
          rw [performed]
          exact aligned.pop ready rfl (congrArg Prod.fst performed)

end Steps

theorem aligned_run
    (window : Nat)
    (calls : List BufferCall) :
    Aligned window (Logbook.log Buffer.perform { window := window } calls)
      (Logbook.after Buffer.perform { window := window } calls) :=
  Logbook.run_keeps Buffer.perform (Aligned window) Aligned.start
    (fun _ _ call aligned => aligned.perform call) calls

/-! ### A run in which the counter wraps -/

/-- Both masks of a frame, and its pop, one frame after another. -/
def rounds : Nat → List BufferCall
  | 0 => []
  | count + 1 =>
      rounds count ++
        [.put true (UInt64.ofNat count) 0, .put false (UInt64.ofNat count) 0, .popReady]

/-- A frame is run through an empty buffer. -/
theorem round_pops
    {buffer : Buffer}
    (size : buffer.window = 1)
    (empty : ∀ isLocal index, buffer.mask isLocal index = none)
    {index : UInt64}
    (next : buffer.nextFrame = index.toNat) :
    ∃ frame after,
      (∀ isLocal index, after.mask isLocal index = none) ∧
        ∃ first second third,
          Logbook.log Buffer.perform buffer
              [.put true index 0, .put false index 0, .popReady] =
            [first, second, third] ∧
          poppedFrame first = none ∧ poppedFrame second = none ∧
          poppedFrame third = some frame ∧
          Logbook.after Buffer.perform buffer
              [.put true index 0, .put false index 0, .popReady] =
            after := by
  have inside : index.toNat < buffer.nextFrame + buffer.window := by
    omega
  have store :=
    Buffer.put_of_empty 0 (Nat.le_of_eq next) inside (empty true index.toNat)
  generalize stored :
    ({ buffer with
        slots := buffer.slots.insert index.toNat
          ((buffer.slot index.toNat).store true 0) } : Buffer) = half at store
  have half_mask (side : Bool) (query : Nat) :
      half.mask side query =
        if query = index.toNat ∧ side = true then some 0 else buffer.mask side query := by
    rw [← stored]
    exact Buffer.mask_of_insert buffer index.toNat query true side 0
  have halfNext : half.nextFrame = index.toNat := by
    rw [← stored]
    exact next
  have halfSize : half.window = 1 := by
    rw [← stored]
    exact size
  have complete :=
    @Buffer.put_of_empty index.toNat false half 0 (Nat.le_of_eq halfNext) (by omega)
      (by simp [half_mask, empty])
  generalize completed :
    ({ half with
        slots := half.slots.insert index.toNat
          ((half.slot index.toNat).store false 0) } : Buffer) = whole at complete
  have whole_mask (side : Bool) (query : Nat) :
      whole.mask side query =
        if query = index.toNat ∧ side = false then some 0 else half.mask side query := by
    rw [← completed]
    exact Buffer.mask_of_insert half index.toNat query false side 0
  have wholeNext : whole.nextFrame = index.toNat := by
    rw [← completed]
    exact halfNext
  obtain ⟨after, ready⟩ :=
    @Buffer.popReady_of_masks whole 0 0 (by simp [whole_mask, half_mask, wholeNext])
      (by simp [whole_mask, wholeNext])
  obtain ⟨-, -, -, shape⟩ := Buffer.popReady_eq_some ready
  have putFirst :
      buffer.perform (.put true index 0) = (.put .accepted, half) := by
    rw [Buffer.perform_put, store]
  have putSecond :
      half.perform (.put false index 0) = (.put .accepted, whole) := by
    rw [Buffer.perform_put, complete]
  have popThird :
      whole.perform .popReady = (.popped (some ⟨whole.nextFrame, 0, 0⟩), after) := by
    simp only [Buffer.perform, ready]
  refine ⟨_, after, ?_, ⟨buffer, .put true index 0, .put .accepted⟩,
    ⟨half, .put false index 0, .put .accepted⟩,
    ⟨whole, .popReady, .popped (some ⟨whole.nextFrame, 0, 0⟩)⟩, ?_, rfl, rfl, rfl, ?_⟩
  · intro side query
    rw [shape, Buffer.mask_of_erase, wholeNext, whole_mask, half_mask, empty]
    by_cases here : query = index.toNat
    · rw [if_pos here]
    · simp [here]
  · simp only [Logbook.log, Logbook.entry, putFirst, putSecond, popThird]
  · simp only [Logbook.after, List.foldl, putFirst, putSecond, popThird]

theorem rounds_pop
    (count : Nat) :
    (∀ isLocal index,
        (Logbook.after Buffer.perform { window := 1 } (rounds count)).mask isLocal index =
          none) ∧
      (popped (Logbook.log Buffer.perform { window := 1 } (rounds count))).length =
        count := by
  induction count with
  | zero =>
      refine ⟨?_, rfl⟩
      intro isLocal index
      cases isLocal <;> rfl
  | succ count inductionHypothesis =>
      obtain ⟨empty, length⟩ := inductionHypothesis
      have aligned := aligned_run 1 (rounds count)
      have next := aligned.next
      rw [length] at next
      have index : (UInt64.ofNat count).toNat = wrap64 count := UInt64.toNat_ofNat'
      obtain ⟨frame, after, emptied, first, second, third, log, none1, none2, some3, ends⟩ :=
        round_pops aligned.size empty (next.trans index.symm)
      rw [rounds, Logbook.after_append, Logbook.log_append, ends, log]
      refine ⟨emptied, ?_⟩
      rw [popped] at length ⊢
      rw [List.filterMap_append, List.length_append, length]
      simp [none1, none2, some3]

/-- In a run of more than 2 ^ 64 frames the counter starts again. -/
theorem counter_wraps :
    ¬ ∀ (window : Nat) (calls : List BufferCall),
      (popped (Logbook.log Buffer.perform { window := window } calls)).map Frame.index =
        List.range
          (popped (Logbook.log Buffer.perform { window := window } calls)).length := by
  intro always
  have claimed := always 1 (rounds (2 ^ 64 + 1))
  rw [(aligned_run 1 (rounds (2 ^ 64 + 1))).indices, (rounds_pop (2 ^ 64 + 1)).2] at claimed
  have last := congrArg (·[2 ^ 64]?) claimed
  simp only [List.getElem?_map] at last
  rw [List.getElem?_range (by decide)] at last
  simp [wrap64] at last

/-- The frames are handed out in the order of the counter, and before it wraps each one
is the next, with the first masks that were accepted for it.  The stored masks lie in
the window, and a put that is not accepted leaves the buffer as it was. -/
theorem buffer_aligned
    (window : Nat)
    (calls : List BufferCall) :
    let log := Logbook.log Buffer.perform { window := window } calls
    let buffer := Logbook.after Buffer.perform { window := window } calls
    (popped log).map Frame.index = (List.range (popped log).length).map wrap64 ∧
      ((popped log).length ≤ 2 ^ 64 →
        (popped log).map Frame.index = List.range (popped log).length ∧
          ∀ frame ∈ popped log, ∀ isLocal,
            (accepted isLocal frame.index log).head? = some (frame.mask isLocal)) ∧
      (∀ index ∈ buffer.slots.keys,
        buffer.nextFrame ≤ index ∧ index < buffer.nextFrame + window) ∧
      ∀ (current : Buffer) isLocal index mask,
        (current.perform (.put isLocal index mask)).1 ≠ .put .accepted →
          (current.perform (.put isLocal index mask)).2 = current := by
  intro log buffer
  have aligned : Aligned window log buffer := aligned_run window calls
  refine ⟨aligned.indices, fun early => ⟨?_, aligned.handed early⟩, ?_, ?_⟩
  · rw [aligned.indices]
    rw [List.map_congr_left (g := id), List.map_id]
    intro index member
    exact Nat.mod_eq_of_lt (Nat.lt_of_lt_of_le (List.mem_range.mp member) early)
  · intro index member
    obtain ⟨notLate, inside, -⟩ := aligned.keys index member
    exact ⟨notLate, inside⟩
  · intro current isLocal index mask refused
    rw [Buffer.perform_put] at refused ⊢
    exact Buffer.put_refused rfl fun accepted => refused (congrArg BufferAnswer.put accepted)

end BufferLog

end FlyNes.LanMvp.Lockstep
