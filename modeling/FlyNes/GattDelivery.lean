import FlyNes.GattReassembly

namespace FlyNes.Gatt

open ByteString
open Reassembly

/-!
# Delivery over GATT

Fragments of distinct messages are delivered in any order, interleaved and
repeated.  As long as there is room for each first fragment, every message whose
fragments all arrive is delivered exactly.  Over arbitrary values, a message
identifier completes at most once while it is remembered.
-/

/-- One fragment of a message, and when it arrives. -/
structure Delivery where
  part : Reassembly.Part GattMessage
  now : Nat
deriving DecidableEq

/-- The physical value that is delivered. -/
def Delivery.value (delivery : Delivery) : Bytes :=
  delivery.part.message.fragments.getD delivery.part.index []

/-- Deliver fragments on the connection of the reassembler. -/
def GattReassembler.deliver :
    GattReassembler → List Delivery → GattReassembler × List GattOutput
  | self, [] => (self, [])
  | self, delivery :: later =>
      let next := self.accept self.generation delivery.now delivery.value
      let final := deliver next.1 later
      (final.1, next.2 :: final.2)

/-- The fragments that were delivered, in order. -/
def partsOf (deliveries : List Delivery) : List (Reassembly.Part GattMessage) :=
  deliveries.map (·.part)

/-- Fragments that a reassembler with two slots and two memories can follow. -/
def Deliverable
    (messages : List GattMessage)
    (deliveries : List Delivery) : Prop :=
  FollowsFrom GattMessage.count kGattMaxIncompleteMessages
    kGattMaxIncompleteMessages messages [] (partsOf deliveries)

instance
    (messages : List GattMessage)
    (deliveries : List Delivery) :
    Decidable (Deliverable messages deliveries) :=
  inferInstanceAs (Decidable (FollowsFrom _ _ _ _ _ _))

/--
What exact reassembly means for a list of deliveries: a message that is reported
is the one that was sent, every message that arrived is reported, open messages
hold pieces of one message only, and the bytes they count for are exact.
-/
structure Exact
    (messages : List GattMessage)
    (initial : GattReassembler)
    (deliveries : List Delivery) : Prop where
  sound :
    ∀ (position : Nat) (delivery : Delivery) (output : GattOutput),
      deliveries[position]? = some delivery →
      (initial.deliver deliveries).2[position]? = some output →
      output.result = .complete →
        output.completed = delivery.part.message.logical ∧
          output.metadata.messageId = delivery.part.message.messageId
  total :
    ∀ message ∈ messages,
      Whole GattMessage.count (partsOf deliveries) message →
        ∃ (position : Nat) (delivery : Delivery) (output : GattOutput),
          deliveries[position]? = some delivery ∧
            (initial.deliver deliveries).2[position]? = some output ∧
            delivery.part.message = message ∧ output.result = .complete
  unmixed :
    ∀ earlier, earlier <+: deliveries →
      ∀ assembly ∈ (initial.deliver earlier).1.assemblies,
        ∃ message ∈ messages,
          assembly.messageId = message.messageId ∧
            ∀ piece ∈ assembly.pieces,
              ∃ index < message.count, piece = message.piece index
  counted :
    ∀ earlier, earlier <+: deliveries →
      let after := (initial.deliver earlier).1
      after.bufferedBytes = (after.assemblies.map (·.totalLength)).sum ∧
        after.bufferedBytes ≤ kGattMaxBufferedBytes

section Following

variable {messages : List GattMessage} {past : List (Reassembly.Part GattMessage)}
variable {desk : Desk GattMessage} {state : GattReassembler}

/-- A desk that tracks its arrivals is orderly. -/
theorem Orderly.of_mirrors
    (mirrors : Mirrors GattMessage.count messages past desk) :
    Orderly messages desk where
  pending := by
    intro entry member
    have holds := mirrors.holds entry member
    obtain ⟨index, first⟩ :=
      List.exists_mem_of_ne_nil _ (mirrors.started entry member)
    refine ⟨?_, holds.distinct, ?_⟩
    · exact mirrors.listed _ ((holds.arrived index).mp first)
    · intro other own
      exact mirrors.numbered _ ((holds.arrived other).mp own)
  finished := by
    intro message member
    rw [mirrors.finished, mem_finishOrder message.count_pos] at member
    exact mirrors.listed _ (member 0 message.count_pos)

/-- The reassembler follows a desk that tracks the arrivals. -/
structure Follower
    (messages : List GattMessage)
    (past : List (Reassembly.Part GattMessage))
    (desk : Desk GattMessage)
    (state : GattReassembler) : Prop where
  mirrors : Mirrors GattMessage.count messages past desk
  simulates : state.Simulates desk
  accounted : state.Accounted

/-- One fragment: the reassembler follows and answers as expected. -/
theorem Follower.accept
    (identified : Identified messages)
    (follower : Follower messages past desk state)
    {delivery : Delivery}
    (follows :
      Follows GattMessage.count kGattMaxIncompleteMessages
        kGattMaxIncompleteMessages messages past delivery.part) :
    let put := state.accept state.generation delivery.now delivery.value
    (∃ next, Follower messages (past ++ [delivery.part]) next put.1) ∧
      Answers delivery.part.message
        (expected GattMessage.count past delivery.part) put.2 := by
  intro put
  obtain ⟨mirrors, answer⟩ :=
    follower.mirrors.received GattMessage.count_pos follows
  obtain ⟨simulates, answers⟩ :=
    follower.simulates.accept identified
      (Orderly.of_mirrors follower.mirrors) follower.accounted follows.listed
      follows.numbered delivery.now
  have accounted :=
    follower.accounted.accept state.generation delivery.now delivery.value
  refine ⟨⟨_, mirrors, simulates, accounted⟩, ?_⟩
  rw [← answer]
  exact answers

/-- A run of fragments: each is answered as expected from those before it. -/
theorem Follower.deliver
    (identified : Identified messages)
    (follower : Follower messages past desk state)
    {deliveries : List Delivery}
    (follows :
      FollowsFrom GattMessage.count kGattMaxIncompleteMessages
        kGattMaxIncompleteMessages messages past (partsOf deliveries)) :
    (∃ final,
        Follower messages (past ++ partsOf deliveries) final
          (state.deliver deliveries).1) ∧
      ∀ (position : Nat) (delivery : Delivery),
        deliveries[position]? = some delivery →
          ∃ output : GattOutput,
            (state.deliver deliveries).2[position]? = some output ∧
              Answers delivery.part.message
                (expected GattMessage.count
                  (past ++ partsOf (deliveries.take position)) delivery.part)
                output := by
  induction deliveries generalizing past desk state with
  | nil =>
      refine ⟨⟨desk, ?_⟩, ?_⟩
      · simpa [partsOf, GattReassembler.deliver] using follower
      · intro position delivery found
        simp at found
  | cons first later inductionHypothesis =>
      obtain ⟨⟨next, following⟩, answers⟩ := follower.accept identified follows.1
      obtain ⟨⟨final, followed⟩, rest⟩ := inductionHypothesis following follows.2
      refine ⟨⟨final, ?_⟩, ?_⟩
      · rw [List.append_assoc] at followed
        exact followed
      · intro position delivery found
        cases position with
        | zero =>
            rw [List.getElem?_cons_zero, Option.some.injEq] at found
            subst found
            refine ⟨_, rfl, ?_⟩
            simpa [partsOf] using answers
        | succ position =>
            rw [List.getElem?_cons_succ] at found
            obtain ⟨output, given, answered⟩ := rest position delivery found
            refine ⟨output, given, ?_⟩
            rw [List.append_assoc] at answered
            exact answered

/-- A reassembler for a new connection. -/
def freshReassembler
    (generation : Nat)
    (direction : GattPhysicalDirection) : GattReassembler where
  generation := generation
  direction := direction

theorem Follower.fresh
    (messages : List GattMessage)
    (generation : Nat)
    (direction : GattPhysicalDirection) :
    Follower messages [] {} (freshReassembler generation direction) where
  mirrors := Mirrors.initial
  simulates := ⟨rfl, rfl⟩
  accounted := ⟨rfl, Nat.zero_le _, by simp [freshReassembler]⟩

/-- Messages with distinct identifiers are told apart by them. -/
theorem Identified.of_nodup
    (distinct : (messages.map (·.messageId)).Nodup) :
    Identified messages := by
  intro first firstMember second secondMember same
  exact List.inj_on_of_nodup_map distinct firstMember secondMember same

/-- The pieces of an open message are pieces of the message it is named after. -/
theorem Follower.unmixed
    (follower : Follower messages past desk state) :
    ∀ assembly ∈ state.assemblies,
      ∃ message ∈ messages,
        assembly.messageId = message.messageId ∧
          ∀ piece ∈ assembly.pieces,
            ∃ index < message.count, piece = message.piece index := by
  intro assembly member
  have mapped : assembly.untimed ∈ desk.pending.map openAssembly := by
    rw [← follower.simulates.assemblies]
    exact List.mem_map_of_mem member
  obtain ⟨entry, known, same⟩ := List.mem_map.mp mapped
  have orderly := (Orderly.of_mirrors follower.mirrors).pending entry known
  have named : entry.1.messageId = assembly.messageId :=
    congrArg Assembly.messageId same
  have pieces : entry.2.map entry.1.piece = assembly.pieces :=
    congrArg Assembly.pieces same
  refine ⟨entry.1, orderly.1, named.symm, ?_⟩
  intro piece stored
  rw [← pieces] at stored
  obtain ⟨index, held, own⟩ := List.mem_map.mp stored
  exact ⟨index, orderly.2.2 index held, own.symm⟩

/--
Reassembly is exact: fragments of messages with distinct identifiers, in any
order and interleaving with room for each first fragment, deliver every message
that arrives, and nothing else.
-/
theorem reassembly_exact
    (messages : List GattMessage)
    (generation : Nat)
    (direction : GattPhysicalDirection)
    (deliveries : List Delivery)
    (distinct : (messages.map (·.messageId)).Nodup)
    (deliverable : Deliverable messages deliveries) :
    Exact messages (freshReassembler generation direction) deliveries := by
  have identified := Identified.of_nodup distinct
  have fresh := Follower.fresh messages generation direction
  have run := fresh.deliver identified deliverable
  have following :
      ∀ earlier, earlier <+: deliveries →
        ∃ desk,
          Follower messages (partsOf earlier) desk
            ((freshReassembler generation direction).deliver earlier).1 := by
    rintro earlier ⟨later, rfl⟩
    have follows : Deliverable messages earlier := by
      unfold Deliverable partsOf at deliverable
      rw [List.map_append] at deliverable
      exact deliverable.initial
    exact (fresh.deliver identified follows).1
  refine ⟨?_, ?_, ?_, ?_⟩
  · intro position delivery output found given complete
    obtain ⟨answered, same, answers⟩ := run.2 position delivery found
    have equal : answered = output := Option.some.inj (same.symm.trans given)
    subst equal
    have finished :
        expected GattMessage.count
            ([] ++ partsOf (deliveries.take position)) delivery.part =
          .complete := by
      have result := answers.result.symm.trans complete
      revert result
      cases expected GattMessage.count
        ([] ++ partsOf (deliveries.take position)) delivery.part <;>
        simp [resultOf]
    have delivered := answers.delivered finished
    exact ⟨delivered.1, delivered.2.1⟩
  · intro message _ whole
    obtain ⟨earlier, part, rest, shape, own, finishes⟩ :=
      whole.exists_finishing message.count_pos
    have found : (partsOf deliveries)[earlier.length]? = some part := by
      rw [shape]
      simp
    have before : partsOf (deliveries.take earlier.length) = earlier := by
      unfold partsOf at shape ⊢
      rw [List.map_take, shape]
      simp
    unfold partsOf at found
    rw [List.getElem?_map, Option.map_eq_some_iff] at found
    obtain ⟨delivery, located, named⟩ := found
    obtain ⟨output, given, answers⟩ := run.2 earlier.length delivery located
    refine ⟨earlier.length, delivery, output, located, given, ?_, ?_⟩
    · rw [named, own]
    · rw [answers.result, before, named, List.nil_append,
        finishes.expected_eq]
      rfl
  · intro earlier within
    obtain ⟨desk, follower⟩ := following earlier within
    exact follower.unmixed
  · intro earlier within
    obtain ⟨desk, follower⟩ := following earlier within
    exact ⟨follower.accounted.buffered, follower.accounted.within_budget⟩

end Following

/-- An abort without a body, the smallest logical message. -/
def emptyAbort : Bytes :=
  (encodeGattLogicalMessage 18 []).toOption.getD []

theorem emptyAbort_valid :
    exactLogicalMessage emptyAbort 18 = true := by
  decide +kernel

/-- The abort under an identifier, cut in halves. -/
def halvedAbort
    (messageId : Nat)
    (named : 0 < messageId ∧ messageId < 65536) : GattMessage where
  logical := emptyAbort
  logicalType := 18
  messageId := messageId
  attValueCap := 34
  valid := emptyAbort_valid
  named := named
  capped := by decide

/-- The abort under an identifier, in one fragment. -/
def wholeAbort
    (messageId : Nat)
    (named : 0 < messageId ∧ messageId < 65536) : GattMessage where
  logical := emptyAbort
  logicalType := 18
  messageId := messageId
  attValueCap := 244
  valid := emptyAbort_valid
  named := named
  capped := by decide

/-- A fragment that arrives at time zero. -/
def Delivery.first (message : GattMessage) (index : Nat) : Delivery where
  part := ⟨message, index⟩
  now := 0

/-- Two interleaved messages, out of order and with repetitions, are exact. -/
theorem interleaved_aborts_exact :
    let first := halvedAbort 1 (by decide)
    let second := wholeAbort 2 (by decide)
    Exact [first, second] (freshReassembler 1 .centralToPeripheral)
      [.first first 1, .first second 0, .first first 1, .first first 0,
        .first second 0] :=
  reassembly_exact _ _ _ _ (by decide) (by decide +kernel)

/-- At most two messages are incomplete between two fragments. -/
def FewIncomplete
    (messages : List GattMessage) :
    List (Reassembly.Part GattMessage) → List (Reassembly.Part GattMessage) → Prop
  | _, [] => True
  | past, part :: later =>
      (part.message ∈ messages ∧ part.index < part.message.count ∧
        Remembered GattMessage.count kGattMaxIncompleteMessages past part ∧
        (messages.filter fun message =>
          Incomplete GattMessage.count (past ++ [part]) message).length ≤
            kGattMaxIncompleteMessages) ∧
        FewIncomplete messages (past ++ [part]) later

instance decidableFewIncomplete
    (messages : List GattMessage) :
    ∀ past later, Decidable (FewIncomplete messages past later)
  | _, [] => isTrue trivial
  | past, part :: later =>
      have := decidableFewIncomplete messages (past ++ [part]) later
      inferInstanceAs (Decidable (_ ∧ _))

/--
It is not enough that few messages are incomplete between two fragments: a
message of one fragment is never incomplete, and finds no room beside two others.
-/
theorem single_fragment_finds_no_room :
    ¬ ∀ (messages : List GattMessage) (generation : Nat)
        (direction : GattPhysicalDirection) (deliveries : List Delivery),
      (messages.map (·.messageId)).Nodup →
        FewIncomplete messages [] (partsOf deliveries) →
          Exact messages (freshReassembler generation direction) deliveries := by
  intro claimed
  let first := halvedAbort 1 (by decide)
  let second := halvedAbort 2 (by decide)
  let third := wholeAbort 3 (by decide)
  let deliveries : List Delivery :=
    [.first first 0, .first second 0, .first third 0]
  have run :=
    claimed [first, second, third] 1 .centralToPeripheral deliveries (by decide)
      (by decide +kernel)
  have whole : Whole GattMessage.count (partsOf deliveries) third := by
    decide +kernel
  have results :
      ((freshReassembler 1 .centralToPeripheral).deliver deliveries).2.map
          (·.result) =
        [.accepted, .accepted, .backpressure] := by
    decide +kernel
  obtain ⟨position, delivery, output, _, given, _, complete⟩ :=
    run.total third (by simp) whole
  have member :
      output.result ∈
        ((freshReassembler 1 .centralToPeripheral).deliver deliveries).2.map
          (·.result) :=
    List.mem_map_of_mem (List.mem_of_getElem? given)
  rw [results, complete] at member
  simp at member

end FlyNes.Gatt
