import FlyNes.GattFragment
import FlyNes.Reassembly

namespace FlyNes.Gatt

open ByteString

/-!
# Fragments of a valid message

A valid message can always be cut into fragments, every fragment reads back as it
was written, and the pieces of a message, in whatever order they came, join to
the message.
-/

/-- A logical message that a sender may cut, and how it is cut. -/
structure GattMessage where
  logical : Bytes
  logicalType : UInt8
  messageId : Nat
  attValueCap : Nat
  valid : exactLogicalMessage logical logicalType = true
  named : 0 < messageId ∧ messageId < 65536
  capped : 20 ≤ attValueCap ∧ attValueCap ≤ 244
deriving DecidableEq

/-- What makes a message exact, as far as its fragments need it. -/
theorem exactLogicalMessage_bounds
    {bytes : Bytes}
    {expectedType : UInt8}
    (whole : exactLogicalMessage bytes expectedType = true) :
    kGattLogicalMinSize ≤ bytes.length ∧
      bytes.length ≤ kGattLogicalMaxSize ∧ expectedType ≠ 0 := by
  by_cases malformed :
      bytes.length < kGattLogicalMinSize ∨ bytes.length > kGattLogicalMaxSize ∨
        expectedType = 0 ∨ bytes.getD 1 0 ≠ expectedType ∨
        bytes.getD 2 0 ≠ 0 ∨ bytes.getD 3 0 ≠ 0
  · rw [exactLogicalMessage, decodeGattLogicalMessage, if_pos malformed] at whole
    exact absurd whole (by simp)
  · push Not at malformed
    exact ⟨malformed.1, malformed.2.1, malformed.2.2.1⟩

namespace GattMessage

/-- The physical values of a message. -/
def fragments (message : GattMessage) : List Bytes :=
  (fragmentGattLogical message.logical message.logicalType message.messageId
    message.attValueCap).toOption.getD []

/-- Bytes of data in every fragment but the last. -/
def dataCap (message : GattMessage) : Nat :=
  message.attValueCap - kGattPhysicalHeaderSize

/-- How many fragments a message has. -/
def count (message : GattMessage) : Nat :=
  (message.logical.length + message.dataCap - 1) / message.dataCap

/-- The fragment at an index. -/
def fragment (message : GattMessage) (index : Nat) : GattFragment :=
  fragmentAt message.logical message.logicalType message.messageId
    message.dataCap message.count index

variable (message : GattMessage)

theorem size_bounds :
    40 ≤ message.logical.length ∧ message.logical.length ≤ 4096 := by
  have bounds := exactLogicalMessage_bounds message.valid
  exact ⟨bounds.1, bounds.2.1⟩

theorem dataCap_bounds :
    6 ≤ message.dataCap ∧ message.dataCap ≤ 230 := by
  have capped := message.capped
  unfold dataCap kGattPhysicalHeaderSize
  omega

variable {index : Nat}

/-- The fragments are those that start inside the message. -/
theorem lt_count_iff :
    index < message.count ↔
      index * message.dataCap < message.logical.length := by
  have bounds := message.dataCap_bounds
  have positive : 0 < message.dataCap := by
    omega
  have trimmed :
      message.logical.length + message.dataCap - 1 - (message.dataCap - 1) =
        message.logical.length := by
    omega
  rw [count, Nat.lt_div_iff_mul_lt positive, trimmed]

theorem count_pos :
    0 < message.count := by
  have bounds := message.size_bounds
  rw [lt_count_iff, Nat.zero_mul]
  omega

theorem count_le :
    message.count ≤ 683 := by
  have bounds := message.size_bounds
  have wide := message.dataCap_bounds.1
  by_contra many
  have started : 683 * message.dataCap < message.logical.length :=
    message.lt_count_iff.mp (Nat.lt_of_not_le many)
  have reach : 683 * 6 ≤ 683 * message.dataCap :=
    Nat.mul_le_mul_left 683 wide
  omega

/-- A valid message is cut without an error. -/
theorem fragments_eq :
    message.fragments =
      (List.range message.count).map fun index =>
        (message.fragment index).value := by
  have sized := message.size_bounds
  have typed := (exactLogicalMessage_bounds message.valid).2.2
  have many := message.count_le
  have nonempty := message.count_pos
  have wide : ¬ message.attValueCap < 20 :=
    Nat.not_lt_of_le message.capped.1
  have fits :
      ¬ (message.logical.length < kGattLogicalMinSize ∨
        message.logical.length > kGattLogicalMaxSize) := by
    unfold kGattLogicalMinSize kGattLogicalMaxSize
    omega
  have sound :
      ¬ (message.messageId = 0 ∨ message.logicalType = 0 ∨
        (!exactLogicalMessage message.logical message.logicalType) = true) := by
    simp [typed, message.valid, Nat.pos_iff_ne_zero.mp message.named.1]
  have counted :
      ¬ (message.count = 0 ∨ message.count > 683 ∨ message.count > 65535) := by
    omega
  unfold fragments fragmentGattLogical
  rw [if_neg wide, if_neg fits, if_neg sound]
  simp only [count, dataCap] at counted
  simp only [if_neg counted]
  rfl

theorem fragments_getD
    (numbered : index < message.count) :
    message.fragments.getD index [] = (message.fragment index).value := by
  rw [fragments_eq, List.getD_eq_getElem?_getD, List.getElem?_map,
    List.getElem?_range numbered]
  rfl

/-- How much data a fragment carries. -/
theorem length_data
    (index : Nat) :
    (message.fragment index).data.length =
      min message.dataCap
        (message.logical.length - index * message.dataCap) := by
  simp [fragment, fragmentAt]

/-- A fragment carries data, and none behind the end of the message. -/
theorem data_bounds
    (numbered : index < message.count) :
    0 < (message.fragment index).data.length ∧
      index * message.dataCap + (message.fragment index).data.length ≤
        message.logical.length ∧
      (message.fragment index).data.length ≤ message.dataCap := by
  have started := message.lt_count_iff.mp numbered
  have wide := message.dataCap_bounds
  rw [length_data]
  omega

end GattMessage

/-- A word of two octets, read back. -/
theorem fromBigEndian_pair
    (value : Nat) :
    fromBigEndian [UInt8.ofNat (value / 256), UInt8.ofNat value] =
      value % 65536 := by
  simpa [bigEndian] using fromBigEndian_bigEndian 2 value

namespace GattFragment

variable (fragment : GattFragment)

theorem value_cons :
    fragment.value =
      1 :: fragment.logicalType ::
        ((if fragment.index = 0 then 1 else 0) |||
          (if fragment.index + 1 = fragment.count then 2 else 0)) :: 0 ::
        UInt8.ofNat (fragment.messageId / 256) :: UInt8.ofNat fragment.messageId ::
        UInt8.ofNat (fragment.index / 256) :: UInt8.ofNat fragment.index ::
        UInt8.ofNat (fragment.count / 256) :: UInt8.ofNat fragment.count ::
        UInt8.ofNat (fragment.offset / 256) :: UInt8.ofNat fragment.offset ::
        UInt8.ofNat (fragment.total / 256) :: UInt8.ofNat fragment.total ::
        fragment.data := by
  simp [value, bigEndian]

/-- The fields of a fragment fit its header. -/
structure Fits : Prop where
  typed : fragment.logicalType ≠ 0
  named : 0 < fragment.messageId ∧ fragment.messageId < 65536
  counted : fragment.count ≤ 683
  numbered : fragment.index < fragment.count
  sized : 40 ≤ fragment.total ∧ fragment.total ≤ 4096
  carries : 0 < fragment.data.length ∧ fragment.data.length ≤ 230
  inside : fragment.offset + fragment.data.length ≤ fragment.total

variable {fragment}

/-- A fragment whose fields fit reads back from its physical value. -/
theorem Fits.readPhysicalValue
    (fits : fragment.Fits) :
    readPhysicalValue fragment.value = some fragment := by
  obtain ⟨typed, named, counted, numbered, sized, carries, inside⟩ := fits
  have flags :
      ∀ first last : Bool,
        let octet : UInt8 :=
          (if first then 1 else 0) ||| (if last then 2 else 0)
        octet &&& ~~~3 = 0 ∧ decide (octet &&& 1 ≠ 0) = first ∧
          decide (octet &&& 2 ≠ 0) = last := by
    decide
  obtain ⟨clean, first, last⟩ :=
    flags (decide (fragment.index = 0))
      (decide (fragment.index + 1 = fragment.count))
  simp only [decide_eq_true_eq] at clean first last
  have header :
      readBe16 fragment.value 4 = fragment.messageId ∧
        readBe16 fragment.value 6 = fragment.index ∧
        readBe16 fragment.value 8 = fragment.count ∧
        readBe16 fragment.value 10 = fragment.offset ∧
        readBe16 fragment.value 12 = fragment.total := by
    simp only [readBe16, value_cons, List.drop_succ_cons, List.drop_zero,
      List.take_succ_cons, List.take_zero, fromBigEndian_pair]
    omega
  obtain ⟨name, number, many, place, size⟩ := header
  have data : fragment.value.drop kGattPhysicalHeaderSize = fragment.data := by
    simp [value_cons, kGattPhysicalHeaderSize]
  have length : fragment.value.length = 14 + fragment.data.length := by
    simp only [value_cons, List.length_cons]
    omega
  unfold Gatt.readPhysicalValue
  simp only [name, number, many, place, size, data, length]
  rw [if_neg, if_neg]
  · simp [value_cons]
  · simp only [value_cons, List.getD_cons_succ, List.getD_cons_zero]
    rw [first, last]
    simp only [kGattLogicalMinSize, kGattLogicalMaxSize, ne_eq, not_true_eq_false,
      or_false]
    omega
  · simp only [value_cons, List.getD_cons_succ, List.getD_cons_zero,
      kGattPhysicalHeaderSize]
    simp only [clean, ne_eq, not_true_eq_false, or_false, typed]
    omega

end GattFragment

namespace GattMessage

variable {message : GattMessage} {index : Nat}

theorem fits_fragment
    (numbered : index < message.count) :
    (message.fragment index).Fits := by
  have bounds := message.data_bounds numbered
  have cap := message.dataCap_bounds
  exact
    { typed := (exactLogicalMessage_bounds message.valid).2.2
      named := message.named
      counted := message.count_le
      numbered := numbered
      sized := message.size_bounds
      carries := ⟨bounds.1, Nat.le_trans bounds.2.2 cap.2⟩
      inside := bounds.2.1 }

/-- Every physical value of a message reads back as its fragment. -/
theorem readPhysicalValue_fragments
    (numbered : index < message.count) :
    readPhysicalValue (message.fragments.getD index []) =
      some (message.fragment index) := by
  rw [message.fragments_getD numbered]
  exact (fits_fragment numbered).readPhysicalValue

/-- The stored piece of a fragment. -/
def piece (message : GattMessage) (index : Nat) : Piece :=
  (message.fragment index).piece

/-- Different fragments of a message do not overlap. -/
theorem not_rangesOverlap
    {first second : Nat}
    (firstNumbered : first < message.count)
    (secondNumbered : second < message.count)
    (different : first ≠ second) :
    rangesOverlap (message.piece first).offset
        (message.piece first).bytes.length
        (message.fragment second).offset
        (message.fragment second).data.length = false := by
  have firstBounds := message.data_bounds firstNumbered
  have secondBounds := message.data_bounds secondNumbered
  have firstEnd :
      first * message.dataCap + (message.fragment first).data.length ≤
        (first + 1) * message.dataCap := by
    rw [Nat.succ_mul]
    omega
  have secondEnd :
      second * message.dataCap + (message.fragment second).data.length ≤
        (second + 1) * message.dataCap := by
    rw [Nat.succ_mul]
    omega
  unfold rangesOverlap
  simp only [decide_eq_false_iff_not, not_and_or, Nat.not_lt]
  rcases Nat.lt_or_gt_of_ne different with below | above
  · right
    exact Nat.le_trans firstEnd (Nat.mul_le_mul_right _ below)
  · left
    exact Nat.le_trans secondEnd (Nat.mul_le_mul_right _ above)

variable {held : List Nat}

/-- Among pieces of its message a fragment finds itself or no conflict. -/
theorem matchPieces_pieces
    (heldNumbered : ∀ other ∈ held, other < message.count)
    (numbered : index < message.count) :
    matchPieces (message.fragment index) (held.map message.piece) =
      if index ∈ held then .same else .fresh := by
  induction held with
  | nil =>
      rfl
  | cons other rest inductionHypothesis =>
      have tail :=
        inductionHypothesis fun later member =>
          heldNumbered later (List.mem_cons_of_mem other member)
      rw [List.map_cons, matchPieces]
      by_cases own : other = index
      · subst own
        have same :
            (message.piece other).offset = (message.fragment other).offset ∧
              (message.piece other).bytes = (message.fragment other).data :=
          ⟨rfl, rfl⟩
        rw [if_pos List.mem_cons_self, if_pos same]
        exact if_pos rfl
      · have apart :=
          not_rangesOverlap (heldNumbered other List.mem_cons_self) numbered own
        have named :
            ¬ (message.piece other).index = (message.fragment index).index :=
          own
        rw [if_neg named, apart, tail]
        simp [Ne.symm own]

/-- The last pieces of a message, in order, join to its last bytes. -/
theorem joinPieces_range
    (remaining first : Nat)
    (reaches : first + remaining = message.count) :
    joinPieces (first * message.dataCap)
        ((List.range' first remaining).map message.piece) =
      some (message.logical.drop (first * message.dataCap)) := by
  induction remaining generalizing first with
  | zero =>
      have past : ¬ first < message.count := by
        omega
      rw [lt_count_iff, Nat.not_lt] at past
      rw [List.drop_eq_nil_of_le past]
      rfl
  | succ remaining inductionHypothesis =>
      have numbered : first < message.count := by
        omega
      have placed : (message.piece first).offset = first * message.dataCap :=
        rfl
      have bytes :
          (message.piece first).bytes =
            (message.logical.drop (first * message.dataCap)).take
              message.dataCap :=
        rfl
      rw [List.range'_succ, List.map_cons, joinPieces,
        if_neg (not_not_intro placed)]
      cases remaining with
      | zero =>
          -- The last piece runs to the end of the message.
          have last : ¬ first + 1 < message.count := by
            omega
          rw [lt_count_iff, Nat.not_lt, Nat.succ_mul] at last
          rw [bytes, List.take_of_length_le]
          · simp [joinPieces]
          · rw [List.length_drop]
            omega
      | succ remaining =>
          have following : first + 1 < message.count := by
            omega
          rw [lt_count_iff, Nat.succ_mul] at following
          have full : (message.piece first).bytes.length = message.dataCap := by
            rw [bytes, List.length_take, List.length_drop]
            omega
          rw [full, ← Nat.succ_mul,
            inductionHypothesis (first + 1) (by omega), Option.map_some, bytes,
            Nat.succ_mul, ← List.drop_drop, List.take_append_drop]

/-- The pieces of a message, in any order, join to the message. -/
theorem joinPieces_sorted
    (all : held.Perm (List.range message.count)) :
    joinPieces 0
        ((held.map message.piece).insertionSort fun left right =>
          left.offset ≤ right.offset) =
      some message.logical := by
  have positive : 0 < message.dataCap := by
    have bounds := message.dataCap_bounds
    omega
  have order :
      ∀ first second : Nat,
        first ≤ second ↔
          (message.piece first).offset ≤ (message.piece second).offset := by
    intro first second
    exact (Nat.mul_le_mul_right_iff positive).symm
  have sorted : held.insertionSort (· ≤ ·) = List.range message.count := by
    have ascending : (held.insertionSort (· ≤ ·)).Pairwise (· ≤ ·) :=
      List.pairwise_insertionSort _ held
    exact ((List.perm_insertionSort _ held).trans all).eq_of_pairwise' ascending
      List.pairwise_le_range
  have mapped :
      (held.insertionSort (· ≤ ·)).map message.piece =
        (held.map message.piece).insertionSort fun left right =>
          left.offset ≤ right.offset :=
    List.map_insertionSort _ _ message.piece held
      fun first _ second _ => order first second
  rw [← mapped, sorted, List.range_eq_range']
  simpa using joinPieces_range message.count 0 (Nat.zero_add _)

end GattMessage

end FlyNes.Gatt
