import FlyNes.GattMessages
import Mathlib.Data.List.InsertIdx
import Mathlib.Algebra.Order.BigOperators.Group.List

namespace FlyNes.Gatt

open ByteString
open Reassembly (Desk Answer recent)

/-!
# What the reassembler holds

Whatever values arrive, the reassembler counts exactly the bytes of its open
messages.  On fragments of valid messages it does what an abstract desk for
numbered parts does: its assemblies are the pending messages of the desk, and the
messages it remembers are the last two that the desk finished.
-/

/-- The byte count is the sum over at most two open messages. -/
structure GattReassembler.Accounted (state : GattReassembler) : Prop where
  buffered :
    state.bufferedBytes = (state.assemblies.map (·.totalLength)).sum
  few : state.assemblies.length ≤ kGattMaxIncompleteMessages
  sized :
    ∀ assembly ∈ state.assemblies, assembly.totalLength ≤ kGattLogicalMaxSize

/-- Taking one item out of a list takes its weight out of the sum. -/
theorem sum_map_eraseIdx
    {Item : Type}
    (weight : Item → Nat)
    (items : List Item)
    (slot : Nat) :
    (items.map weight).sum =
      ((items[slot]?).map weight).getD 0 +
        ((items.eraseIdx slot).map weight).sum := by
  induction items generalizing slot with
  | nil =>
      simp
  | cons item rest inductionHypothesis =>
      cases slot with
      | zero =>
          simp
      | succ slot =>
          simp only [List.map_cons, List.sum_cons, List.getElem?_cons_succ,
            List.eraseIdx_cons_succ, inductionHypothesis slot]
          omega

/-- Items below a bound sum to at most the bound for each. -/
theorem sum_map_le
    {Item : Type}
    {weight : Item → Nat}
    {bound : Nat}
    {items : List Item}
    (below : ∀ item ∈ items, weight item ≤ bound) :
    (items.map weight).sum ≤ items.length * bound := by
  simpa using List.sum_le_card_nsmul (items.map weight) bound (by simpa using below)

namespace GattReassembler

variable {self : GattReassembler} {fragment : GattFragment} {assembly : Assembly}
variable {slot now : Nat}

/-- The open messages never count for more than the budget. -/
theorem Accounted.within_budget
    (accounted : self.Accounted) :
    self.bufferedBytes ≤ kGattMaxBufferedBytes := by
  have sum := sum_map_le accounted.sized
  have few := Nat.mul_le_mul_right kGattLogicalMaxSize accounted.few
  rw [accounted.buffered]
  exact Nat.le_trans sum few

theorem Accounted.erase
    (accounted : self.Accounted)
    (slot : Nat) :
    (self.erase slot).Accounted where
  buffered := by
    have split := sum_map_eraseIdx (·.totalLength) self.assemblies slot
    have sum := accounted.buffered
    simp only [GattReassembler.erase]
    omega
  few := by
    have shorter := List.length_eraseIdx_le self.assemblies slot
    exact Nat.le_trans shorter accounted.few
  sized := by
    intro assembly member
    exact accounted.sized assembly (List.mem_of_mem_eraseIdx member)

/-- Storing an item that weighs the same in the place of another. -/
theorem Accounted.store
    (accounted : self.Accounted)
    (located : self.assemblies[slot]? = some assembly)
    (grown : Assembly)
    (same : grown.totalLength = assembly.totalLength) :
    ({ self with assemblies := self.assemblies.set slot grown } :
      GattReassembler).Accounted where
  buffered := by
    have before := sum_map_eraseIdx (·.totalLength) self.assemblies slot
    have after :=
      sum_map_eraseIdx (·.totalLength) (self.assemblies.set slot grown) slot
    have bounded : slot < self.assemblies.length :=
      (List.getElem?_eq_some_iff.mp located).1
    rw [located] at before
    rw [List.getElem?_set_self bounded, List.eraseIdx_set_eq] at after
    simp only [Option.map_some, Option.getD_some] at before after
    have sum := accounted.buffered
    dsimp only
    omega
  few := by
    simpa using accounted.few
  sized := by
    intro other member
    rcases List.mem_or_eq_of_mem_set member with kept | stored
    · exact accounted.sized other kept
    · rw [stored, same]
      exact accounted.sized assembly (List.mem_of_getElem? located)

theorem Accounted.remember
    (accounted : self.Accounted)
    (prior : Completed) :
    (self.remember prior).Accounted :=
  ⟨accounted.buffered, accounted.few, accounted.sized⟩

theorem Accounted.finish
    (accounted : self.Accounted)
    (slot : Nat)
    (assembly : Assembly) :
    (self.finish slot assembly).1.Accounted := by
  unfold GattReassembler.finish
  split
  · exact accounted.erase slot
  · exact (accounted.remember _).erase slot

theorem Accounted.extend
    (accounted : self.Accounted)
    (located : self.assemblies[slot]? = some assembly) :
    (self.extend slot assembly now fragment).1.Accounted := by
  unfold GattReassembler.extend
  split
  · exact accounted.erase slot
  · split
    · exact accounted
    · exact accounted.erase slot
    · dsimp only
      split
      · exact accounted.store located _ rfl
      · exact (accounted.store located (assembly.grow now fragment) rfl).finish
          slot _

/-- Opening a message where there is room for it. -/
theorem Accounted.opened
    (accounted : self.Accounted)
    (sized : fragment.total ≤ kGattLogicalMaxSize)
    (room : self.assemblies.length < kGattMaxIncompleteMessages) :
    ({ self with
      assemblies := self.assemblies ++ [freshAssembly now fragment]
      bufferedBytes := self.bufferedBytes + fragment.total } :
        GattReassembler).Accounted where
  buffered := by
    simp [accounted.buffered, freshAssembly]
  few := by
    simpa using Nat.succ_le_of_lt room
  sized := by
    intro other member
    rcases List.mem_append.mp member with kept | opened
    · exact accounted.sized other kept
    · rw [List.mem_singleton] at opened
      rw [opened]
      exact sized

theorem Accounted.assemble
    (accounted : self.Accounted)
    (sized : fragment.total ≤ kGattLogicalMaxSize) :
    (self.assemble now fragment).1.Accounted := by
  unfold GattReassembler.assemble
  dsimp only
  split
  · rename_i assembly located
    split
    · exact accounted.erase _
    · exact accounted.extend located
  · split
    · exact accounted
    · rename_i room
      rw [not_or, Nat.not_le] at room
      refine (accounted.opened sized room.1).extend ?_
      exact List.getElem?_concat_length

end GattReassembler

/-- A value that reads as a fragment declares a size that fits. -/
theorem readPhysicalValue_total_le
    {value : Bytes}
    {fragment : GattFragment}
    (read : readPhysicalValue value = some fragment) :
    fragment.total ≤ kGattLogicalMaxSize := by
  unfold readPhysicalValue at read
  dsimp only at read
  split at read
  · exact absurd read (by simp)
  · split at read
    · exact absurd read (by simp)
    · rename_i sound
      push Not at sound
      rw [Option.some.injEq] at read
      rw [← read]
      exact sound.2.2.2.2.2.1

namespace GattReassembler

variable {self : GattReassembler}

/-- Whatever value arrives, the byte count stays exact. -/
theorem Accounted.accept
    (accounted : self.Accounted)
    (connectionGeneration now : Nat)
    (value : Bytes) :
    (self.accept connectionGeneration now value).1.Accounted := by
  unfold GattReassembler.accept
  split
  · exact accounted
  · split
    · exact accounted
    · rename_i fragment read
      split
      · exact accounted
      · exact accounted.assemble (readPhysicalValue_total_le read)

end GattReassembler

/-- An open message without the time of its last progress. -/
def Assembly.untimed (assembly : Assembly) : Assembly :=
  { assembly with lastProgressNs := 0 }

/-- The assembly of a message with some of its pieces. -/
def openAssembly (entry : GattMessage × List Nat) : Assembly where
  logicalType := entry.1.logicalType
  messageId := entry.1.messageId
  fragmentCount := entry.1.count
  totalLength := entry.1.logical.length
  lastProgressNs := 0
  pieces := entry.2.map entry.1.piece

/-- The record of a message that was completed. -/
def completedRecord (message : GattMessage) : Completed where
  logicalType := message.logicalType
  messageId := message.messageId
  fragmentCount := message.count
  totalLength := message.logical.length
  logical := message.logical

/-- The reassembler holds what a desk holds. -/
structure GattReassembler.Simulates
    (state : GattReassembler)
    (desk : Desk GattMessage) : Prop where
  assemblies :
    state.assemblies.map Assembly.untimed = desk.pending.map openAssembly
  completed :
    state.completed =
      (recent kGattMaxIncompleteMessages desk.finished).map completedRecord

/-- The result that an answer of the desk stands for. -/
def resultOf : Answer → GattFragmentResult
  | .accepted => .accepted
  | .duplicate => .duplicate
  | .complete => .complete
  | .refused => .backpressure

/-- An output gives the answer, and the message exactly when it is complete. -/
structure Answers
    (message : GattMessage)
    (answer : Answer)
    (output : GattOutput) : Prop where
  result : output.result = resultOf answer
  delivered :
    answer = .complete →
      output.completed = message.logical ∧
        output.metadata.messageId = message.messageId ∧
        output.metadata.logicalType = message.logicalType
  withheld : answer ≠ .complete → output.completed = []

/-- Messages of a list are told apart by their identifiers. -/
def Identified (messages : List GattMessage) : Prop :=
  ∀ first ∈ messages, ∀ second ∈ messages,
    first.messageId = second.messageId → first = second

/-- A desk holds numbered parts of listed messages, each once. -/
structure Orderly
    (messages : List GattMessage)
    (desk : Desk GattMessage) : Prop where
  pending :
    ∀ entry ∈ desk.pending,
      entry.1 ∈ messages ∧ entry.2.Nodup ∧
        ∀ index ∈ entry.2, index < entry.1.count
  finished : ∀ message ∈ desk.finished, message ∈ messages

section Simulation

variable {messages : List GattMessage} {desk : Desk GattMessage}
variable {state : GattReassembler} {message : GattMessage}
variable {assembly : Assembly} {held : List Nat} {slot now index : Nat}

/-- Searching records by identifier finds the record of a listed message. -/
theorem find_completedRecord
    (identified : Identified messages)
    (listed : message ∈ messages)
    {known : List GattMessage}
    (knownListed : ∀ other ∈ known, other ∈ messages) :
    (known.map completedRecord).find?
        (fun prior => prior.messageId = message.messageId) =
      if message ∈ known then some (completedRecord message) else none := by
  induction known with
  | nil =>
      rfl
  | cons other rest inductionHypothesis =>
      have tail :=
        inductionHypothesis fun later member =>
          knownListed later (List.mem_cons_of_mem other member)
      rw [List.map_cons, List.find?_cons]
      by_cases own : other.messageId = message.messageId
      · have same : other = message :=
          identified other (knownListed other List.mem_cons_self) message listed own
        subst same
        simp [completedRecord]
      · have different : message ≠ other := by
          rintro rfl
          exact own rfl
        have skipped :
            decide ((completedRecord other).messageId = message.messageId) =
              false :=
          decide_eq_false own
        rw [skipped, tail]
        simp [different]

/-- A completed message answers its own fragments as duplicates. -/
theorem answer_completedRecord
    (numbered : index < message.count) :
    Answers message .duplicate
      ((completedRecord message).answer (message.fragment index)) := by
  have bounds := message.data_bounds numbered
  have data :
      (message.logical.drop (message.fragment index).offset).take
          (message.fragment index).data.length =
        (message.fragment index).data := by
    rw [message.length_data]
    simp only [GattMessage.fragment, fragmentAt]
    rw [← List.length_drop, ← List.take_eq_take_min]
  have same :
      (completedRecord message).logicalType =
          (message.fragment index).logicalType ∧
        (completedRecord message).fragmentCount =
          (message.fragment index).count ∧
        (completedRecord message).totalLength =
          (message.fragment index).total ∧
        (message.fragment index).offset +
            (message.fragment index).data.length ≤
          (completedRecord message).logical.length ∧
        ((completedRecord message).logical.drop
            (message.fragment index).offset).take
            (message.fragment index).data.length =
          (message.fragment index).data :=
    ⟨rfl, rfl, rfl, bounds.2.1, data⟩
  rw [Completed.answer, if_pos same]
  exact ⟨rfl, by simp, fun _ => rfl⟩

/-- Storing a piece of a message is holding one more part. -/
theorem untimed_grow
    (same : assembly.untimed = openAssembly (message, held)) :
    (assembly.grow now (message.fragment index)).untimed =
      openAssembly (message, held ++ [index]) := by
  have grown :
      (assembly.grow now (message.fragment index)).untimed =
        { assembly.untimed with
          pieces :=
            assembly.untimed.pieces ++ [(message.fragment index).piece] } :=
    rfl
  rw [grown, same]
  simp [openAssembly, GattMessage.piece]

/-- An assembly with all pieces of its message has the message. -/
theorem logical_openAssembly
    (same : assembly.untimed = openAssembly (message, held))
    (all : held.Perm (List.range message.count)) :
    assembly.logical = some message.logical := by
  have untimed : assembly.logical = assembly.untimed.logical :=
    rfl
  rw [untimed, same, Assembly.logical]
  have joined := GattMessage.joinPieces_sorted all
  simp only [openAssembly]
  rw [joined, Option.filter_some]
  simp [message.valid]

/-- Closing a message with all its pieces finishes it at the desk. -/
theorem GattReassembler.Simulates.finish
    (simulates : state.Simulates desk)
    (same : assembly.untimed = openAssembly (message, held))
    (all : held.Perm (List.range message.count)) :
    let closed :=
      { state with
        assemblies := state.assemblies.set slot assembly }.finish slot assembly
    closed.1.Simulates
        { pending := desk.pending.eraseIdx slot
          finished := desk.finished ++ [message] } ∧
      Answers message .complete closed.2 := by
  intro closed
  have whole := logical_openAssembly same all
  have fields :
      assembly.logicalType = message.logicalType ∧
        assembly.messageId = message.messageId ∧
        assembly.fragmentCount = message.count ∧
        assembly.totalLength = message.logical.length := by
    simpa [Assembly.untimed, openAssembly] using congrArg
      (fun any : Assembly =>
        (any.logicalType, any.messageId, any.fragmentCount, any.totalLength)) same
  obtain ⟨typed, named, counted, sized⟩ := fields
  have result :
      closed =
        { state with
          assemblies := state.assemblies.set slot assembly }.finish slot assembly :=
    rfl
  rw [GattReassembler.finish, whole] at result
  rw [result]
  refine ⟨⟨?_, ?_⟩, ?_⟩
  · simp only [GattReassembler.erase, GattReassembler.remember,
      List.eraseIdx_set_eq]
    rw [← List.eraseIdx_map, ← List.eraseIdx_map, simulates.assemblies]
  · simp only [GattReassembler.erase, GattReassembler.remember]
    rw [simulates.completed, Reassembly.recent_append (by decide), List.length_map,
      List.map_append, List.map_singleton]
    congr 1
    · split
      · rw [List.map_drop]
      · rfl
    · simp [completedRecord, typed, named, counted, sized]
  · exact ⟨rfl, fun _ => ⟨rfl, named, typed⟩, fun other => (other rfl).elim⟩

/-- Putting a fragment to its open message is receiving the part. -/
theorem GattReassembler.Simulates.extend
    (simulates : state.Simulates desk)
    (same : assembly.untimed = openAssembly (message, held))
    (distinct : held.Nodup)
    (heldNumbered : ∀ other ∈ held, other < message.count)
    (numbered : index < message.count) :
    let put := state.extend slot assembly now (message.fragment index)
    let received := desk.extend GattMessage.count slot message held index
    put.1.Simulates received.1 ∧ Answers message received.2 put.2 := by
  dsimp only
  have fields :
      assembly.fragmentCount = message.count ∧
        assembly.totalLength = message.logical.length ∧
        assembly.pieces = held.map message.piece := by
    simpa [Assembly.untimed, openAssembly] using congrArg
      (fun any : Assembly =>
        (any.fragmentCount, any.totalLength, any.pieces)) same
  obtain ⟨counted, sized, pieces⟩ := fields
  have agrees :
      ¬ (assembly.fragmentCount ≠ (message.fragment index).count ∨
        assembly.totalLength ≠ (message.fragment index).total) := by
    rw [not_or, not_not, not_not]
    exact ⟨counted, sized⟩
  have matched :=
    GattMessage.matchPieces_pieces heldNumbered numbered
  rw [GattReassembler.extend, if_neg agrees, pieces, matched]
  by_cases again : index ∈ held
  · rw [if_pos again, Desk.extend, if_pos again]
    exact ⟨simulates, rfl, by simp, fun _ => rfl⟩
  · have length :
        (assembly.grow now (message.fragment index)).pieces.length =
          held.length + 1 := by
      simp [Assembly.grow, pieces]
    have count :
        (assembly.grow now (message.fragment index)).fragmentCount =
          message.count :=
      counted
    have grown :
        (assembly.grow now (message.fragment index)).untimed =
          openAssembly (message, held ++ [index]) :=
      untimed_grow same
    rw [if_neg again, Desk.extend, if_neg again]
    simp only [length, count]
    by_cases full : held.length + 1 = message.count
    · have all : (held ++ [index]).Perm (List.range message.count) := by
        refine Reassembly.perm_range_of_full ?_ ?_ (by simpa using full)
        · refine List.Nodup.append distinct (List.nodup_singleton _) ?_
          exact List.disjoint_singleton.mpr again
        · intro number member
          rcases List.mem_append.mp member with early | last
          · exact heldNumbered number early
          · rw [List.mem_singleton] at last
            exact last ▸ numbered
      rw [if_neg (not_not_intro full), if_neg (not_not_intro full)]
      exact simulates.finish grown all
    · rw [if_pos full, if_pos full]
      refine ⟨⟨?_, simulates.completed⟩, rfl, by simp, fun _ => rfl⟩
      simp only [List.map_set, grown, simulates.assemblies]

/-- The reassembler finds an open message where the desk has it. -/
theorem GattReassembler.Simulates.slot_eq
    (identified : Identified messages)
    (orderly : Orderly messages desk)
    (simulates : state.Simulates desk)
    (listed : message ∈ messages) :
    (state.assemblies.findIdx fun assembly =>
        assembly.messageId = message.messageId) =
      desk.slot message := by
  have untimed :
      (state.assemblies.findIdx fun assembly =>
          assembly.messageId = message.messageId) =
        (state.assemblies.map Assembly.untimed).findIdx fun assembly =>
          assembly.messageId = message.messageId := by
    rw [List.findIdx_map]
    rfl
  rw [untimed, simulates.assemblies, List.findIdx_map]
  apply Reassembly.findIdx_eq_of_agree
  intro entry member
  have known := (orderly.pending entry member).1
  by_cases own : entry.1 = message
  · simp [own, openAssembly]
  · have different : entry.1.messageId ≠ message.messageId := by
      intro same
      exact own (identified entry.1 known message listed same)
    simp [own, openAssembly, different]

/-- Assembling a fragment is receiving the part at the desk. -/
theorem GattReassembler.Simulates.assemble
    (identified : Identified messages)
    (orderly : Orderly messages desk)
    (accounted : state.Accounted)
    (simulates : state.Simulates desk)
    (listed : message ∈ messages)
    (numbered : index < message.count)
    (forgotten :
      message ∉ recent kGattMaxIncompleteMessages desk.finished) :
    let put := state.assemble now (message.fragment index)
    let received :=
      desk.receive GattMessage.count kGattMaxIncompleteMessages
        kGattMaxIncompleteMessages ⟨message, index⟩
    put.1.Simulates received.1 ∧ Answers message received.2 put.2 := by
  dsimp only
  have slot := simulates.slot_eq identified orderly listed
  have named :
      (message.fragment index).messageId = message.messageId :=
    rfl
  have lookup :
      (state.assemblies[desk.slot message]?).map Assembly.untimed =
        (desk.pending[desk.slot message]?).map openAssembly := by
    rw [← List.getElem?_map, ← List.getElem?_map, simulates.assemblies]
  have long : state.assemblies.length = desk.pending.length := by
    simpa using congrArg List.length simulates.assemblies
  rw [Desk.receive, if_neg forgotten]
  unfold GattReassembler.assemble
  simp only [named, slot]
  cases located : desk.pending[desk.slot message]? with
  | some entry =>
      obtain ⟨other, held⟩ := entry
      have passed := Reassembly.getElem?_findIdx_some located
      have own : other = message := of_decide_eq_true passed
      subst own
      rw [located, Option.map_some, Option.map_eq_some_iff] at lookup
      obtain ⟨assembly, found, same⟩ := lookup
      have typed : assembly.logicalType = other.logicalType :=
        congrArg Assembly.logicalType same
      have entryOrderly :=
        orderly.pending _ (List.mem_of_getElem? located)
      have sameType :
          ¬ assembly.logicalType ≠ (other.fragment index).logicalType :=
        not_not_intro typed
      simp only [found]
      rw [if_neg sameType]
      exact simulates.extend same entryOrderly.2.1 entryOrderly.2.2 numbered
  | none =>
      rw [located, Option.map_none, Option.map_eq_none_iff] at lookup
      simp only [lookup, long]
      by_cases crowded : desk.pending.length ≥ kGattMaxIncompleteMessages
      · rw [if_pos (Or.inl crowded), if_pos crowded]
        exact ⟨simulates, rfl, by simp, fun _ => rfl⟩
      · -- With at most one message open the byte budget cannot be exceeded.
        have few : state.assemblies.length ≤ 1 := by
          rw [long]
          exact Nat.le_of_lt_succ (Nat.lt_of_not_le crowded)
        have counted : state.bufferedBytes ≤ 1 * kGattLogicalMaxSize := by
          rw [accounted.buffered]
          exact Nat.le_trans (sum_map_le accounted.sized)
            (Nat.mul_le_mul_right _ few)
        have room :
            ¬ (desk.pending.length ≥ kGattMaxIncompleteMessages ∨
              state.bufferedBytes + (message.fragment index).total >
                kGattMaxBufferedBytes) := by
          have sized : (message.fragment index).total ≤ 4096 :=
            message.size_bounds.2
          rintro (many | large)
          · exact crowded many
          · simp only [kGattLogicalMaxSize, kGattMaxBufferedBytes] at counted large
            omega
        rw [if_neg room, if_neg crowded]
        have opened :
            ({ state with
              assemblies :=
                state.assemblies ++
                  [freshAssembly now (message.fragment index)]
              bufferedBytes :=
                state.bufferedBytes + (message.fragment index).total } :
              GattReassembler).Simulates
                { desk with pending := desk.pending ++ [(message, [])] } := by
          refine ⟨?_, simulates.completed⟩
          simp only [List.map_append, simulates.assemblies]
          rfl
        exact opened.extend rfl List.nodup_nil (by simp) numbered

/-- Accepting a fragment is receiving the part at the desk. -/
theorem GattReassembler.Simulates.accept
    (identified : Identified messages)
    (orderly : Orderly messages desk)
    (accounted : state.Accounted)
    (simulates : state.Simulates desk)
    (listed : message ∈ messages)
    (numbered : index < message.count)
    (now : Nat) :
    let put :=
      state.accept state.generation now (message.fragments.getD index [])
    let received :=
      desk.receive GattMessage.count kGattMaxIncompleteMessages
        kGattMaxIncompleteMessages ⟨message, index⟩
    put.1.Simulates received.1 ∧ Answers message received.2 put.2 := by
  dsimp only
  have known :
      ∀ other ∈ recent kGattMaxIncompleteMessages desk.finished,
        other ∈ messages := by
    intro other member
    exact orderly.finished other (List.mem_of_mem_drop member)
  have found := find_completedRecord identified listed known
  rw [← simulates.completed] at found
  have named :
      (message.fragment index).messageId = message.messageId :=
    rfl
  rw [GattReassembler.accept, if_neg (not_not_intro rfl),
    GattMessage.readPhysicalValue_fragments numbered]
  simp only [named, found]
  by_cases remembered :
      message ∈ recent kGattMaxIncompleteMessages desk.finished
  · rw [if_pos remembered, Desk.receive, if_pos remembered]
    exact ⟨simulates, answer_completedRecord numbered⟩
  · rw [if_neg remembered]
    exact simulates.assemble identified orderly accounted listed numbered
      remembered

end Simulation

end FlyNes.Gatt
