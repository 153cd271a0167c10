import Mathlib.Data.List.Sort
import Mathlib.Data.List.Range
import Mathlib.Data.List.Perm.Subperm

namespace Reassembly

/-!
# Reassembling messages from numbered parts

Messages are cut into numbered parts, and the parts arrive in any order,
interleaved and repeated.  A desk keeps the messages it has seen a part of, up to
a limit, and remembers the messages it finished last.  What a desk holds is a
function of the parts that arrived: this module states which arrivals a desk can
follow and proves that it finishes exactly the messages whose parts all arrived.
-/

/-- One part of one message. -/
structure Part (Message : Type) where
  message : Message
  index : Nat
deriving DecidableEq

/-- The messages in the hands of a desk, and those it finished, oldest first. -/
structure Desk (Message : Type) where
  pending : List (Message × List Nat) := []
  finished : List Message := []

/-- What a desk answers to a part. -/
inductive Answer where
  | accepted
  | duplicate
  | complete
  | refused
deriving DecidableEq

/-- The last `memory` items of a list. -/
def recent
    {Item : Type}
    (memory : Nat)
    (items : List Item) : List Item :=
  items.drop (items.length - memory)

/-- One more item pushes the oldest of a full memory out. -/
theorem recent_append
    {Item : Type}
    {memory : Nat}
    (positive : 0 < memory)
    (items : List Item)
    (item : Item) :
    recent memory (items ++ [item]) =
      (if (recent memory items).length = memory then
        (recent memory items).drop 1
      else
        recent memory items) ++ [item] := by
  unfold recent
  rw [List.length_append, List.length_singleton, List.length_drop]
  by_cases full : memory ≤ items.length
  · rw [if_pos (by omega), List.drop_drop, List.drop_append_of_le_length (by omega)]
    congr 2
    omega
  · rw [if_neg (by omega), List.drop_append_of_le_length (by omega)]
    congr 2
    omega

section Desk

variable {Message : Type} [DecidableEq Message]
variable (parts : Message → Nat) (limit memory : Nat)

namespace Desk

/-- The position of a message among the pending ones. -/
def slot
    (desk : Desk Message)
    (message : Message) : Nat :=
  desk.pending.findIdx (·.1 = message)

/-- Put a part to a pending message, finishing it with its last part. -/
def extend
    (desk : Desk Message)
    (slot : Nat)
    (message : Message)
    (held : List Nat)
    (index : Nat) : Desk Message × Answer :=
  if index ∈ held then
    (desk, .duplicate)
  else if held.length + 1 ≠ parts message then
    ({ desk with pending := desk.pending.set slot (message, held ++ [index]) },
      .accepted)
  else
    ({ pending := desk.pending.eraseIdx slot
       finished := desk.finished ++ [message] }, .complete)

/-- Receive one part. -/
def receive
    (desk : Desk Message)
    (part : Part Message) : Desk Message × Answer :=
  if part.message ∈ recent memory desk.finished then
    (desk, .duplicate)
  else
    match desk.pending[desk.slot part.message]? with
    | some entry =>
        desk.extend parts (desk.slot part.message) entry.1 entry.2 part.index
    | none =>
        if desk.pending.length ≥ limit then
          (desk, .refused)
        else
          ({ desk with pending := desk.pending ++ [(part.message, [])] } :
            Desk Message).extend parts desk.pending.length part.message []
              part.index

end Desk

/-- All parts of a message are among those that arrived. -/
def Whole
    (past : List (Part Message))
    (message : Message) : Prop :=
  ∀ index < parts message, (⟨message, index⟩ : Part Message) ∈ past

/-- Some parts of a message arrived, but not all. -/
def Incomplete
    (past : List (Part Message))
    (message : Message) : Prop :=
  (∃ part ∈ past, part.message = message) ∧ ¬ Whole parts past message

instance
    (past : List (Part Message))
    (message : Message) :
    Decidable (Whole parts past message) :=
  inferInstanceAs (Decidable (∀ index < parts message, _ ∈ past))

instance
    (past : List (Part Message))
    (message : Message) :
    Decidable (Incomplete parts past message) :=
  inferInstanceAs (Decidable (_ ∧ _))

/-- A part is the last one its message was waiting for. -/
def Finishes
    (past : List (Part Message))
    (part : Part Message) : Prop :=
  ¬ Whole parts past part.message ∧ Whole parts (past ++ [part]) part.message

instance
    (past : List (Part Message))
    (part : Part Message) :
    Decidable (Finishes parts past part) :=
  inferInstanceAs (Decidable (_ ∧ _))

/-- The messages that later parts finish, in that order. -/
def finishOrderFrom :
    List (Part Message) → List (Part Message) → List Message
  | _, [] => []
  | past, part :: later =>
      (if Finishes parts past part then [part.message] else []) ++
        finishOrderFrom (past ++ [part]) later

/-- The messages that the parts finish, in that order. -/
def finishOrder (past : List (Part Message)) : List Message :=
  finishOrderFrom parts [] past

/-- A part that arrived before belongs to a message that is still remembered. -/
def Remembered
    (past : List (Part Message))
    (part : Part Message) : Prop :=
  part ∈ past →
    Incomplete parts past part.message ∨
      part.message ∈ recent memory (finishOrder parts past)

/--
There is room for a part: counting a message from the arrival of its first part
until all its parts arrived, at most `limit` messages are in progress.
-/
def Room
    (messages : List Message)
    (past : List (Part Message))
    (part : Part Message) : Prop :=
  (messages.filter fun message =>
    Incomplete parts past message ∨
      (message = part.message ∧ ¬ Whole parts past message)).length ≤ limit

instance
    (past : List (Part Message))
    (part : Part Message) :
    Decidable (Remembered parts memory past part) :=
  inferInstanceAs (Decidable (_ → _))

instance
    (messages : List Message)
    (past : List (Part Message))
    (part : Part Message) :
    Decidable (Room parts limit messages past part) :=
  inferInstanceAs (Decidable (_ ≤ _))

/-- The next part is one that a desk can follow. -/
structure Follows
    (messages : List Message)
    (past : List (Part Message))
    (part : Part Message) : Prop where
  listed : part.message ∈ messages
  numbered : part.index < parts part.message
  remembered : Remembered parts memory past part
  room : Room parts limit messages past part

instance
    (messages : List Message)
    (past : List (Part Message))
    (part : Part Message) :
    Decidable (Follows parts limit memory messages past part) :=
  decidable_of_iff
    (part.message ∈ messages ∧ part.index < parts part.message ∧
      Remembered parts memory past part ∧ Room parts limit messages past part)
    ⟨fun ⟨listed, numbered, remembered, room⟩ =>
        ⟨listed, numbered, remembered, room⟩,
      fun follows =>
        ⟨follows.listed, follows.numbered, follows.remembered, follows.room⟩⟩

/-- Every later part is one that a desk can follow. -/
def FollowsFrom
    (messages : List Message) :
    List (Part Message) → List (Part Message) → Prop
  | _, [] => True
  | past, part :: later =>
      Follows parts limit memory messages past part ∧
        FollowsFrom messages (past ++ [part]) later

instance decidableFollowsFrom
    (messages : List Message) :
    ∀ past later,
      Decidable (FollowsFrom parts limit memory messages past later)
  | _, [] => isTrue trivial
  | past, part :: later =>
      have := decidableFollowsFrom messages (past ++ [part]) later
      inferInstanceAs (Decidable (_ ∧ _))

/-- What a desk that follows the arrivals answers to the next part. -/
def expected
    (past : List (Part Message))
    (part : Part Message) : Answer :=
  if part ∈ past then
    .duplicate
  else if Whole parts (past ++ [part]) part.message then
    .complete
  else
    .accepted

/-- The entry of a message holds the parts that arrived, and one is missing. -/
structure Holds
    (past : List (Part Message))
    (entry : Message × List Nat) : Prop where
  distinct : entry.2.Nodup
  arrived :
    ∀ index, index ∈ entry.2 ↔ (⟨entry.1, index⟩ : Part Message) ∈ past
  missing : entry.2.length < parts entry.1

/-- What a desk holds is what arrived. -/
structure Tracks
    (messages : List Message)
    (past : List (Part Message))
    (desk : Desk Message) : Prop where
  listed : ∀ part ∈ past, part.message ∈ messages
  numbered : ∀ part ∈ past, part.index < parts part.message
  holds : ∀ entry ∈ desk.pending, Holds parts past entry
  distinct : (desk.pending.map Prod.fst).Nodup
  covers :
    ∀ message,
      Incomplete parts past message → message ∈ desk.pending.map Prod.fst
  finished : desk.finished = finishOrder parts past

/-- A desk tracks the parts that arrived, and holds no message without a part. -/
structure Mirrors
    (messages : List Message)
    (past : List (Part Message))
    (desk : Desk Message) : Prop extends
    Tracks parts messages past desk where
  started : ∀ entry ∈ desk.pending, entry.2 ≠ []

end Desk

section History

variable {Message : Type} [DecidableEq Message]
variable {parts : Message → Nat} {limit memory : Nat}
variable {messages : List Message} {past later : List (Part Message)}
variable {part : Part Message} {message : Message}

omit [DecidableEq Message] in
/-- More parts leave a whole message whole. -/
theorem Whole.append
    (whole : Whole parts past message)
    (later : List (Part Message)) :
    Whole parts (past ++ later) message := by
  intro index numbered
  exact List.mem_append_left later (whole index numbered)

omit [DecidableEq Message] in
/-- A repeated part changes nothing of what arrived. -/
theorem mem_append_repeated
    (repeated : part ∈ past)
    (other : Part Message) :
    other ∈ past ++ [part] ↔ other ∈ past := by
  constructor
  · intro member
    rcases List.mem_append.mp member with early | last
    · exact early
    · rw [List.mem_singleton] at last
      exact last ▸ repeated
  · exact List.mem_append_left [part]

omit [DecidableEq Message] in
theorem whole_append_repeated
    (repeated : part ∈ past)
    (message : Message) :
    Whole parts (past ++ [part]) message ↔ Whole parts past message := by
  unfold Whole
  simp only [mem_append_repeated repeated]

omit [DecidableEq Message] in
theorem incomplete_append_repeated
    (repeated : part ∈ past)
    (message : Message) :
    Incomplete parts (past ++ [part]) message ↔
      Incomplete parts past message := by
  unfold Incomplete
  simp only [mem_append_repeated repeated, whole_append_repeated repeated]

omit [DecidableEq Message] in
/-- A part of one message leaves every other message as it was. -/
theorem mem_append_other
    (other : part.message ≠ message)
    (index : Nat) :
    (⟨message, index⟩ : Part Message) ∈ past ++ [part] ↔
      (⟨message, index⟩ : Part Message) ∈ past := by
  rw [List.mem_append, List.mem_singleton]
  constructor
  · rintro (early | last)
    · exact early
    · exact (other (last ▸ rfl)).elim
  · exact Or.inl

omit [DecidableEq Message] in
theorem whole_append_other
    (other : part.message ≠ message) :
    Whole parts (past ++ [part]) message ↔ Whole parts past message := by
  unfold Whole
  simp only [mem_append_other other]

omit [DecidableEq Message] in
theorem incomplete_append_other
    (other : part.message ≠ message) :
    Incomplete parts (past ++ [part]) message ↔
      Incomplete parts past message := by
  unfold Incomplete
  rw [whole_append_other other]
  have started :
      (∃ any ∈ past ++ [part], any.message = message) ↔
        ∃ any ∈ past, any.message = message := by
    constructor
    · rintro ⟨any, member, own⟩
      rcases List.mem_append.mp member with early | last
      · exact ⟨any, early, own⟩
      · rw [List.mem_singleton] at last
        exact (other (last ▸ own)).elim
    · rintro ⟨any, member, own⟩
      exact ⟨any, List.mem_append_left [part] member, own⟩
  rw [started]

theorem finishOrderFrom_append
    (past first : List (Part Message)) :
    finishOrderFrom parts past (first ++ [part]) =
      finishOrderFrom parts past first ++
        (if Finishes parts (past ++ first) part then [part.message] else []) := by
  induction first generalizing past with
  | nil =>
      simp [finishOrderFrom]
  | cons head rest inductionHypothesis =>
      simp only [List.cons_append, finishOrderFrom]
      rw [inductionHypothesis (past ++ [head]), List.append_assoc past [head] rest,
        List.singleton_append, List.append_assoc]

/-- The last part appends its message to the order if it finishes it. -/
theorem finishOrder_append :
    finishOrder parts (past ++ [part]) =
      finishOrder parts past ++
        (if Finishes parts past part then [part.message] else []) := by
  simpa [finishOrder] using finishOrderFrom_append [] past

/-- The messages in the order of finishing are the whole ones. -/
theorem mem_finishOrder
    (nonempty : 0 < parts message) :
    message ∈ finishOrder parts past ↔ Whole parts past message := by
  induction past using List.reverseRecOn with
  | nil =>
      constructor
      · intro member
        simp [finishOrder, finishOrderFrom] at member
      · intro whole
        exact absurd (whole 0 nonempty) List.not_mem_nil
  | append_singleton past part inductionHypothesis =>
      rw [finishOrder_append, List.mem_append, inductionHypothesis]
      by_cases own : part.message = message
      · subst own
        by_cases whole : Whole parts past part.message
        · simp [whole, whole.append]
        · by_cases now : Whole parts (past ++ [part]) part.message
          · simp [Finishes, whole, now]
          · simp [Finishes, whole, now]
      · rw [whole_append_other own]
        have apart :
            message ∉ if Finishes parts past part then [part.message] else [] := by
          split
          · rw [List.mem_singleton]
            exact fun same => own same.symm
          · exact List.not_mem_nil
        simp [apart]

omit [DecidableEq Message] in
/-- A message all of whose parts arrived was finished by one of them. -/
theorem Whole.exists_finishing
    (nonempty : 0 < parts message)
    (whole : Whole parts past message) :
    ∃ earlier part rest,
      past = earlier ++ part :: rest ∧
        part.message = message ∧ Finishes parts earlier part := by
  induction past using List.reverseRecOn with
  | nil =>
      exact absurd (whole 0 nonempty) List.not_mem_nil
  | append_singleton past part inductionHypothesis =>
      by_cases before : Whole parts past message
      · obtain ⟨earlier, finishing, rest, shape, own, finishes⟩ :=
          inductionHypothesis before
        refine ⟨earlier, finishing, rest ++ [part], ?_, own, finishes⟩
        simp [shape]
      · have own : part.message = message := by
          by_contra other
          exact before ((whole_append_other other).mp whole)
        subst own
        exact ⟨past, part, [], rfl, rfl, before, whole⟩

/-- A part that finishes its message is new. -/
theorem Finishes.expected_eq
    (finishes : Finishes parts past part) :
    expected parts past part = .complete := by
  have fresh : part ∉ past := by
    intro again
    exact finishes.1 ((whole_append_repeated again part.message).mp finishes.2)
  rw [expected, if_neg fresh, if_pos finishes.2]

/-- Parts that can be followed can be followed up to any point. -/
theorem FollowsFrom.initial
    {first second : List (Part Message)}
    (follows :
      FollowsFrom parts limit memory messages past (first ++ second)) :
    FollowsFrom parts limit memory messages past first := by
  induction first generalizing past with
  | nil =>
      trivial
  | cons part rest inductionHypothesis =>
      exact ⟨follows.1, inductionHypothesis follows.2⟩

end History

section Receiving

variable {Message : Type} [DecidableEq Message]
variable {parts : Message → Nat} {limit memory : Nat}
variable {messages : List Message} {past : List (Part Message)}
variable {part : Part Message} {desk : Desk Message}
variable {slot index : Nat} {held : List Nat} {Item : Type} {items : List Item} {test : Item → Bool}

/-- The item at the position where a search stops passes the test. -/
theorem getElem?_findIdx_some
    {item : Item}
    (located : items[items.findIdx test]? = some item) :
    test item = true := by
  obtain ⟨bounded, found⟩ := List.getElem?_eq_some_iff.mp located
  have passed := List.findIdx_getElem (w := bounded)
  rwa [found] at passed

/-- A search that runs off the end has seen every item fail the test. -/
theorem getElem?_findIdx_none
    (located : items[items.findIdx test]? = none) :
    ∀ item ∈ items, test item = false := by
  rw [List.getElem?_eq_none_iff] at located
  intro item member
  cases outcome : test item with
  | false =>
      rfl
  | true =>
      have stops : items.findIdx test < items.length :=
        List.findIdx_lt_length_of_exists ⟨item, member, outcome⟩
      exact absurd located (Nat.not_le_of_lt stops)

/-- Two tests that agree on the items of a list stop at the same place. -/
theorem findIdx_eq_of_agree
    {first second : Item → Bool}
    (agree : ∀ item ∈ items, first item = second item) :
    items.findIdx first = items.findIdx second := by
  induction items with
  | nil =>
      rfl
  | cons item rest inductionHypothesis =>
      rw [List.findIdx_cons, List.findIdx_cons, agree item List.mem_cons_self,
        inductionHypothesis fun later member =>
          agree later (List.mem_cons_of_mem item member)]

/-- Numbers below a bound, each once, are as many as the bound allows. -/
theorem perm_range_of_full
    {numbers : List Nat}
    {bound : Nat}
    (distinct : numbers.Nodup)
    (below : ∀ number ∈ numbers, number < bound)
    (full : numbers.length = bound) :
    numbers.Perm (List.range bound) := by
  have within : numbers ⊆ List.range bound := by
    intro number member
    exact List.mem_range.mpr (below number member)
  refine (List.Nodup.subperm distinct within).perm_of_length_le ?_
  rw [full, List.length_range]

/-- A repeated part changes nothing of what a desk tracks. -/
theorem Tracks.repeated
    (tracks : Tracks parts messages past desk)
    (again : part ∈ past) :
    Tracks parts messages (past ++ [part]) desk where
  listed := by
    intro any member
    exact tracks.listed any ((mem_append_repeated again any).mp member)
  numbered := by
    intro any member
    exact tracks.numbered any ((mem_append_repeated again any).mp member)
  holds := by
    intro entry member
    have before := tracks.holds entry member
    refine ⟨before.distinct, ?_, before.missing⟩
    intro index
    rw [before.arrived, mem_append_repeated again]
  distinct := tracks.distinct
  covers := by
    intro message incomplete
    exact tracks.covers message
      ((incomplete_append_repeated again message).mp incomplete)
  finished := by
    have unfinished : ¬ Finishes parts past part := by
      rintro ⟨before, after⟩
      exact before ((whole_append_repeated again part.message).mp after)
    rw [finishOrder_append, if_neg unfinished, List.append_nil]
    exact tracks.finished

omit [DecidableEq Message] in
/-- A held list with a part missing does not make a message whole. -/
theorem Holds.not_whole
    {entry : Message × List Nat}
    (holds : Holds parts past entry) :
    ¬ Whole parts past entry.1 := by
  intro whole
  have within : List.range (parts entry.1) ⊆ entry.2 := by
    intro index member
    exact (holds.arrived index).mpr (whole index (List.mem_range.mp member))
  have short := (List.Nodup.subperm List.nodup_range within).length_le
  rw [List.length_range] at short
  exact absurd holds.missing (by omega)

omit [DecidableEq Message] in
/-- A part of another message leaves an entry as it is. -/
theorem Holds.after_other
    {entry : Message × List Nat}
    (holds : Holds parts past entry)
    (other : part.message ≠ entry.1) :
    Holds parts (past ++ [part]) entry := by
  refine ⟨holds.distinct, ?_, holds.missing⟩
  intro index
  rw [holds.arrived, mem_append_other other]

omit [DecidableEq Message] in
/-- The parts of a message that arrived, one part later. -/
theorem Holds.arrived_next
    (holds : Holds parts past (part.message, held))
    (index : Nat) :
    index ∈ held ++ [part.index] ↔
      (⟨part.message, index⟩ : Part Message) ∈ past ++ [part] := by
  rw [List.mem_append, List.mem_append, holds.arrived index,
    List.mem_singleton, List.mem_singleton]
  constructor
  · rintro (early | last)
    · exact Or.inl early
    · exact Or.inr (by rw [last])
  · rintro (early | last)
    · exact Or.inl early
    · exact Or.inr (congrArg Part.index last)

omit [DecidableEq Message] in
/-- With the last missing part a message is whole, and not before. -/
theorem Holds.whole_iff
    (holds : Holds parts past (part.message, held))
    (numbered : ∀ any ∈ past ++ [part], any.index < parts any.message)
    (fresh : part.index ∉ held) :
    Whole parts (past ++ [part]) part.message ↔
      held.length + 1 = parts part.message := by
  have arrived := holds.arrived_next
  have distinct : (held ++ [part.index]).Nodup := by
    refine List.Nodup.append holds.distinct (List.nodup_singleton _) ?_
    rw [List.disjoint_singleton]
    exact fresh
  constructor
  · intro whole
    have within :
        List.range (parts part.message) ⊆ held ++ [part.index] := by
      intro index member
      exact (arrived index).mpr (whole index (List.mem_range.mp member))
    have long := (List.Nodup.subperm List.nodup_range within).length_le
    rw [List.length_range, List.length_append, List.length_singleton] at long
    have missing : held.length < parts part.message := holds.missing
    omega
  · intro full index below
    have bounded : ∀ number ∈ held ++ [part.index], number < parts part.message := by
      intro number member
      exact numbered _ ((arrived number).mp member)
    have all :=
      perm_range_of_full distinct bounded (by simpa using full)
    exact (arrived index).mp (all.mem_iff.mpr (List.mem_range.mpr below))

omit [DecidableEq Message] in
/-- The entry at a position, with what stands before and behind it. -/
theorem Desk.split_pending
    (located : desk.pending[slot]? = some (part.message, held)) :
    ∃ before behind,
      desk.pending = before ++ (part.message, held) :: behind ∧
        before.length = slot := by
  obtain ⟨bounded, found⟩ := List.getElem?_eq_some_iff.mp located
  refine ⟨desk.pending.take slot, desk.pending.drop (slot + 1), ?_, ?_⟩
  · rw [← found, List.getElem_cons_drop, List.take_append_drop]
  · exact List.length_take_of_le (Nat.le_of_lt bounded)

/-- The bounds on the parts that arrived, one part later. -/
theorem Tracks.bounds
    (tracks : Tracks parts messages past desk)
    (listed : part.message ∈ messages)
    (numbered : part.index < parts part.message) :
    ∀ any ∈ past ++ [part],
      any.message ∈ messages ∧ any.index < parts any.message := by
  intro any member
  rcases List.mem_append.mp member with early | last
  · exact ⟨tracks.listed any early, tracks.numbered any early⟩
  · rw [List.mem_singleton] at last
    subst last
    exact ⟨listed, numbered⟩

variable {before behind : List (Message × List Nat)}

/-- A part of one message leaves the entries of all others as they are. -/
theorem Tracks.holds_others
    (tracks : Tracks parts messages past desk)
    (shape : desk.pending = before ++ (part.message, held) :: behind)
    {entry : Message × List Nat}
    (kept : entry ∈ before ++ behind) :
    Holds parts (past ++ [part]) entry := by
  have names := tracks.distinct
  rw [shape, List.map_append, List.map_cons, List.nodup_middle] at names
  have other : part.message ≠ entry.1 := by
    intro same
    have mapped : entry.1 ∈ (before ++ behind).map Prod.fst :=
      List.mem_map_of_mem kept
    rw [List.map_append, ← same] at mapped
    exact names.notMem mapped
  have was : entry ∈ desk.pending := by
    rw [shape, List.mem_append, List.mem_cons]
    rw [List.mem_append] at kept
    tauto
  exact (tracks.holds entry was).after_other other

/-- A fresh part that leaves one missing joins those of its message. -/
theorem Tracks.joined
    (tracks : Tracks parts messages past desk)
    (shape : desk.pending = before ++ (part.message, held) :: behind)
    (listed : part.message ∈ messages)
    (numbered : part.index < parts part.message)
    (fresh : part.index ∉ held)
    (unfinished : held.length + 1 ≠ parts part.message) :
    Tracks parts messages (past ++ [part])
      { desk with
        pending := before ++ (part.message, held ++ [part.index]) :: behind } := by
  have bounds := tracks.bounds listed numbered
  have holds : Holds parts past (part.message, held) :=
    tracks.holds _ (by simp [shape])
  have waiting : ¬ Whole parts (past ++ [part]) part.message := by
    rw [holds.whole_iff (fun any member => (bounds any member).2) fresh]
    exact unfinished
  have names := tracks.distinct
  rw [shape] at names
  refine ⟨fun any member => (bounds any member).1,
    fun any member => (bounds any member).2, ?_, ?_, ?_, ?_⟩
  · intro entry member
    rw [List.mem_append, List.mem_cons] at member
    by_cases own : entry = (part.message, held ++ [part.index])
    · subst own
      refine ⟨?_, ?_, ?_⟩
      · refine List.Nodup.append holds.distinct (List.nodup_singleton _) ?_
        exact List.disjoint_singleton.mpr fresh
      · intro index
        exact holds.arrived_next index
      · have missing : held.length < parts part.message := holds.missing
        simp only [List.length_append, List.length_singleton]
        omega
    · have kept : entry ∈ before ++ behind := by
        rw [List.mem_append]
        tauto
      exact tracks.holds_others shape kept
  · simpa using names
  · intro message incomplete
    by_cases own : part.message = message
    · simp [own]
    · have listed_ := tracks.covers message
        ((incomplete_append_other own).mp incomplete)
      rw [shape] at listed_
      simpa using listed_
  · rw [finishOrder_append, if_neg (fun finishes => waiting finishes.2),
      List.append_nil]
    exact tracks.finished

/-- With its last part a message leaves the desk. -/
theorem Tracks.completed
    (tracks : Tracks parts messages past desk)
    (shape : desk.pending = before ++ (part.message, held) :: behind)
    (listed : part.message ∈ messages)
    (numbered : part.index < parts part.message)
    (fresh : part.index ∉ held)
    (full : held.length + 1 = parts part.message) :
    Tracks parts messages (past ++ [part])
      { pending := before ++ behind
        finished := desk.finished ++ [part.message] } := by
  have bounds := tracks.bounds listed numbered
  have holds : Holds parts past (part.message, held) :=
    tracks.holds _ (by simp [shape])
  have whole : Whole parts (past ++ [part]) part.message := by
    rw [holds.whole_iff (fun any member => (bounds any member).2) fresh]
    exact full
  have names := tracks.distinct
  rw [shape, List.map_append, List.map_cons, List.nodup_middle] at names
  refine ⟨fun any member => (bounds any member).1,
    fun any member => (bounds any member).2, ?_, ?_, ?_, ?_⟩
  · intro entry kept
    exact tracks.holds_others shape kept
  · rw [List.map_append]
    exact names.of_cons
  · intro message incomplete
    have other : part.message ≠ message := by
      intro own
      exact incomplete.2 (own ▸ whole)
    have known := tracks.covers message
      ((incomplete_append_other other).mp incomplete)
    rw [shape] at known
    simp only [List.map_append, List.map_cons, List.mem_append,
      List.mem_cons] at known
    rw [List.map_append, List.mem_append]
    rcases known with early | same | late
    · exact Or.inl early
    · exact (other same.symm).elim
    · exact Or.inr late
  · rw [finishOrder_append, if_pos ⟨holds.not_whole, whole⟩, tracks.finished]

/-- Extending a pending message tracks the part and answers as expected. -/
theorem Tracks.extended
    (tracks : Tracks parts messages past desk)
    (located : desk.pending[slot]? = some (part.message, held))
    (listed : part.message ∈ messages)
    (numbered : part.index < parts part.message) :
    Tracks parts messages (past ++ [part])
        (desk.extend parts slot part.message held part.index).1 ∧
      (desk.extend parts slot part.message held part.index).2 =
        expected parts past part := by
  obtain ⟨before, behind, shape, here⟩ := desk.split_pending located
  have holds : Holds parts past (part.message, held) :=
    tracks.holds _ (by simp [shape])
  have whole_iff :=
    holds.whole_iff
      (fun any member => (tracks.bounds listed numbered any member).2)
  by_cases again : part.index ∈ held
  · have repeated : part ∈ past := (holds.arrived part.index).mp again
    rw [Desk.extend, if_pos again, expected, if_pos repeated]
    exact ⟨tracks.repeated repeated, rfl⟩
  · have fresh : part ∉ past := by
      intro member
      exact again ((holds.arrived part.index).mpr member)
    by_cases full : held.length + 1 = parts part.message
    · have erased : desk.pending.eraseIdx slot = before ++ behind := by
        rw [shape, ← here, List.eraseIdx_append_of_length_le (Nat.le_refl _)]
        simp
      rw [Desk.extend, if_neg again, if_neg (not_not_intro full), expected,
        if_neg fresh, if_pos ((whole_iff again).mpr full), erased]
      exact ⟨tracks.completed shape listed numbered again full, rfl⟩
    · have replaced :
          desk.pending.set slot (part.message, held ++ [part.index]) =
            before ++ (part.message, held ++ [part.index]) :: behind := by
        rw [shape, ← here, List.set_append_right _ _ (Nat.le_refl _)]
        simp
      rw [Desk.extend, if_neg again, if_pos full, expected, if_neg fresh,
        if_neg (fun whole => full ((whole_iff again).mp whole)), replaced]
      exact ⟨tracks.joined shape listed numbered again full, rfl⟩

omit [DecidableEq Message] in
/-- Extending leaves no message without a part. -/
theorem Desk.started_extend
    (started : ∀ entry ∈ desk.pending, entry.2 ≠ []) :
    ∀ entry ∈ (desk.extend parts slot part.message held index).1.pending,
      entry.2 ≠ [] := by
  intro entry member
  unfold Desk.extend at member
  split at member
  · exact started entry member
  · split at member
    · rcases List.mem_or_eq_of_mem_set member with kept | joined
      · exact started entry kept
      · simp [joined]
    · exact started entry (List.mem_of_mem_eraseIdx member)

omit [DecidableEq Message] in
/-- A message opened by its first part holds that part or is finished by it. -/
theorem Desk.started_open
    (started : ∀ entry ∈ desk.pending, entry.2 ≠ []) :
    ∀ entry ∈
        (({ desk with pending := desk.pending ++ [(part.message, [])] } :
          Desk Message).extend parts desk.pending.length part.message []
            index).1.pending,
      entry.2 ≠ [] := by
  intro entry member
  simp only [Desk.extend, List.not_mem_nil, if_false] at member
  split at member
  · simp only [List.set_append_right _ _ (Nat.le_refl _), Nat.sub_self,
      List.set_cons_zero, List.mem_append, List.mem_singleton] at member
    rcases member with kept | opened
    · exact started entry kept
    · simp [opened]
  · simp only [List.eraseIdx_append_of_length_le (Nat.le_refl _), Nat.sub_self,
      List.eraseIdx_cons_zero, List.append_nil] at member
    exact started entry member

/-- A message that is not pending and not remembered has no part yet. -/
theorem Tracks.untouched
    (tracks : Tracks parts messages past desk)
    (absent : part.message ∉ desk.pending.map Prod.fst)
    (forgotten : part.message ∉ recent memory desk.finished)
    (numbered : part.index < parts part.message)
    (remembered : Remembered parts memory past part) :
    ∀ any ∈ past, any.message ≠ part.message := by
  intro any member own
  have complete : Whole parts past part.message := by
    by_contra waiting
    exact absent (tracks.covers part.message ⟨⟨any, member, own⟩, waiting⟩)
  rcases remembered (complete part.index numbered) with waiting | known
  · exact waiting.2 complete
  · exact forgotten (tracks.finished ▸ known)

/-- Opening a message none of whose parts arrived keeps what is tracked. -/
theorem Tracks.opened
    (tracks : Tracks parts messages past desk)
    (absent : part.message ∉ desk.pending.map Prod.fst)
    (nonempty : 0 < parts part.message)
    (untouched : ∀ any ∈ past, any.message ≠ part.message) :
    Tracks parts messages past
      { desk with pending := desk.pending ++ [(part.message, [])] } where
  listed := tracks.listed
  numbered := tracks.numbered
  holds := by
    intro entry member
    rcases List.mem_append.mp member with kept | opened
    · exact tracks.holds entry kept
    · rw [List.mem_singleton] at opened
      subst opened
      refine ⟨List.nodup_nil, ?_, nonempty⟩
      intro index
      constructor
      · intro held
        exact absurd held List.not_mem_nil
      · intro arrived
        exact (untouched _ arrived rfl).elim
  distinct := by
    rw [List.map_append]
    refine List.Nodup.append tracks.distinct (List.nodup_singleton _) ?_
    exact List.disjoint_singleton.mpr absent
  covers := by
    intro message incomplete
    rw [List.map_append]
    exact List.mem_append_left _ (tracks.covers message incomplete)
  finished := tracks.finished

/-- Where there is room for the first part of a message, the desk takes it. -/
theorem Mirrors.short_of_room
    (mirrors : Mirrors parts messages past desk)
    (absent : part.message ∉ desk.pending.map Prod.fst)
    (listed : part.message ∈ messages)
    (waiting : ¬ Whole parts past part.message)
    (room : Room parts limit messages past part) :
    desk.pending.length < limit := by
  have distinct : (part.message :: desk.pending.map Prod.fst).Nodup :=
    List.nodup_cons.mpr ⟨absent, mirrors.distinct⟩
  have within :
      part.message :: desk.pending.map Prod.fst ⊆
        messages.filter fun message =>
          Incomplete parts past message ∨
            (message = part.message ∧ ¬ Whole parts past message) := by
    intro message member
    rw [List.mem_filter, decide_eq_true_iff]
    rcases List.mem_cons.mp member with own | held
    · subst own
      exact ⟨listed, Or.inr ⟨rfl, waiting⟩⟩
    · obtain ⟨entry, known, named⟩ := List.mem_map.mp held
      obtain ⟨index, first⟩ :=
        List.exists_mem_of_ne_nil _ (mirrors.started entry known)
      have holds := mirrors.holds entry known
      have arrived := (holds.arrived index).mp first
      rw [named] at arrived
      refine ⟨mirrors.listed _ arrived, Or.inl ⟨⟨_, arrived, rfl⟩, ?_⟩⟩
      exact named ▸ holds.not_whole
  have counted := (List.Nodup.subperm distinct within).length_le
  rw [List.length_cons, List.length_map] at counted
  exact Nat.lt_of_lt_of_le (Nat.lt_succ_self _) (Nat.le_trans counted room)

/-- One part: the desk goes on tracking and answers as expected. -/
theorem Mirrors.received
    (nonempty : ∀ message, 0 < parts message)
    (mirrors : Mirrors parts messages past desk)
    (follows : Follows parts limit memory messages past part) :
    Mirrors parts messages (past ++ [part])
        (desk.receive parts limit memory part).1 ∧
      (desk.receive parts limit memory part).2 = expected parts past part := by
  by_cases known : part.message ∈ recent memory desk.finished
  · have whole : Whole parts past part.message := by
      rw [← mem_finishOrder (nonempty part.message), ← mirrors.finished]
      exact List.mem_of_mem_drop known
    have again : part ∈ past := whole part.index follows.numbered
    rw [Desk.receive, if_pos known, expected, if_pos again]
    exact ⟨⟨mirrors.toTracks.repeated again, mirrors.started⟩, rfl⟩
  · rw [Desk.receive, if_neg known]
    cases located : desk.pending[desk.slot part.message]? with
    | some entry =>
        obtain ⟨message, held⟩ := entry
        have passed := getElem?_findIdx_some located
        have own : message = part.message := of_decide_eq_true passed
        subst own
        obtain ⟨tracks, answer⟩ :=
          mirrors.toTracks.extended located follows.listed follows.numbered
        exact ⟨⟨tracks, Desk.started_extend mirrors.started⟩, answer⟩
    | none =>
        have absent : part.message ∉ desk.pending.map Prod.fst := by
          intro member
          obtain ⟨entry, known, own⟩ := List.mem_map.mp member
          have failed := getElem?_findIdx_none located entry known
          exact of_decide_eq_false failed own
        have untouched :=
          mirrors.untouched absent known follows.numbered follows.remembered
        have waiting : ¬ Whole parts past part.message := by
          intro whole
          exact untouched _ (whole part.index follows.numbered) rfl
        have short :=
          mirrors.short_of_room absent follows.listed waiting follows.room
        have opened :=
          mirrors.toTracks.opened absent (nonempty part.message) untouched
        have placed :
            (desk.pending ++ [(part.message, [])])[desk.pending.length]? =
              some (part.message, []) :=
          List.getElem?_concat_length
        obtain ⟨tracks, answer⟩ :=
          opened.extended placed follows.listed follows.numbered
        simp only [ge_iff_le, if_neg (Nat.not_le_of_lt short)]
        exact ⟨⟨tracks, Desk.started_open mirrors.started⟩, answer⟩

/-- A desk without messages tracks the empty history. -/
theorem Mirrors.initial :
    Mirrors parts messages [] ({} : Desk Message) where
  listed := by simp
  numbered := by simp
  holds := by simp
  distinct := by simp
  covers := by
    rintro message ⟨⟨part, member, _⟩, _⟩
    exact absurd member List.not_mem_nil
  finished := rfl
  started := by simp

end Receiving

end Reassembly
