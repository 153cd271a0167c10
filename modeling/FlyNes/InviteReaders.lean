import FlyNes.InviteCoordinator

namespace FlyNes.InviteCode

open ByteString

/-!
# The two readers of an invite code

The joiner reads a code with `parse_invite_code`, the coordinator of the host with
`normalize_invite_code`.  Both trim blanks and take six digits, but they do not have
the same blanks, and one writes its output while it still checks the digits.
-/

def edgeWhitespace (value : UInt8) : Bool :=
  value == 0x20 || value == 0x09 || value == 0x0D || value == 0x0A

/-- Write the digits one by one, up to the first byte that is none. -/
def copyDigits :
    Nat → Bytes → InviteCodeDigits → InviteCoordinatorResult × InviteCodeDigits
  | _, [], out => (.ok, out)
  | index, byte :: rest, out =>
      if byte < 0x30 || byte > 0x39 then
        (.invalid, out)
      else
        copyDigits (index + 1) rest
          { bytes := out.bytes.set index byte
            sized := by rw [List.length_set, out.sized] }

def normalizeInviteCode
    (input : Bytes)
    (out : InviteCodeDigits) : InviteCoordinatorResult × InviteCodeDigits :=
  let input := trimmed edgeWhitespace input
  if input.length ≠ kInviteCodeLength then
    (.invalid, out)
  else
    copyDigits 0 input out

section Trimming

variable {blank wider : UInt8 → Bool} {input : Bytes}

theorem trimmed_append
    {tail : Bytes}
    (blanks : ∀ byte ∈ tail, blank byte = true) :
    trimmed blank (input ++ tail) = trimmed blank input := by
  have behind (front : Bytes) :
      (front ++ tail).rdropWhile blank = front.rdropWhile blank := by
    rw [List.rdropWhile, List.rdropWhile, List.reverse_append,
      List.dropWhile_append_of_pos]
    intro byte member
    exact blanks byte (List.mem_reverse.mp member)
  unfold trimmed
  rw [List.dropWhile_append]
  split
  · next emptied =>
    have none : tail.dropWhile blank = [] := List.dropWhile_eq_nil_iff.mpr blanks
    rw [none, List.isEmpty_iff.mp emptied]
  · exact behind _

/-- More blanks may be trimmed at once or afterwards. -/
theorem trimmed_trimmed
    (less : ∀ byte, blank byte = true → wider byte = true)
    (input : Bytes) :
    trimmed wider (trimmed blank input) = trimmed wider input := by
  have front : trimmed wider (input.dropWhile blank) = trimmed wider input := by
    conv_rhs => rw [← @List.takeWhile_append_dropWhile _ blank input]
    unfold trimmed
    rw [List.dropWhile_append_of_pos]
    intro byte member
    exact less byte (List.mem_takeWhile_imp member)
  have split (text : Bytes) :
      text = text.rdropWhile blank ++ (text.reverse.takeWhile blank).reverse := by
    rw [List.rdropWhile, ← List.reverse_append, List.takeWhile_append_dropWhile,
      List.reverse_reverse]
  rw [← front]
  conv_rhs => rw [split (input.dropWhile blank)]
  rw [trimmed_append]
  · rfl
  · intro byte member
    exact less byte (List.mem_takeWhile_imp (List.mem_reverse.mp member))

/-- Nothing is trimmed from a text without blanks. -/
theorem trimmed_of_none
    (none : ∀ byte ∈ input, blank byte = false) :
    trimmed blank input = input := by
  have keeps (text : Bytes) (none : ∀ byte ∈ text, blank byte = false) :
      text.dropWhile blank = text := by
    cases text with
    | nil => rfl
    | cons byte rest => simp [List.dropWhile, none byte (by simp)]
  unfold trimmed
  rw [keeps input none, List.rdropWhile, keeps, List.reverse_reverse]
  intro byte member
  exact none byte (List.mem_reverse.mp member)

end Trimming

theorem asciiDigit_eq_true
    {byte : UInt8} :
    asciiDigit byte = true ↔ ¬ (byte < 0x30 || byte > 0x39) = true := by
  simp [asciiDigit, UInt8.not_lt]

/-- What has been written when the digits end, or are over. -/
theorem copyDigits_eq
    (index : Nat)
    (input : Bytes)
    (out : InviteCodeDigits)
    (room : index + input.length ≤ kInviteCodeLength) :
    ((copyDigits index input out).1 = .ok ↔ input.all asciiDigit = true) ∧
      (copyDigits index input out).2.bytes =
        out.bytes.take index ++ input.takeWhile asciiDigit ++
          out.bytes.drop (index + (input.takeWhile asciiDigit).length) := by
  induction input generalizing index out with
  | nil => simp [copyDigits]
  | cons byte rest inductionHypothesis =>
      rw [List.length_cons] at room
      unfold copyDigits
      by_cases digit : asciiDigit byte = true
      · rw [if_neg (asciiDigit_eq_true.mp digit)]
        obtain ⟨result, bytes⟩ :=
          inductionHypothesis (index + 1)
            { bytes := out.bytes.set index byte
              sized := by rw [List.length_set, out.sized] }
            (by omega)
        have inside : index < out.bytes.length := by
          rw [out.sized]
          omega
        rw [result, bytes]
        refine ⟨by simp [digit], ?_⟩
        have front :
            (out.bytes.set index byte).take (index + 1) = out.bytes.take index ++ [byte] := by
          rw [List.set_eq_take_append_cons_drop, if_pos inside, List.take_append,
            List.length_take_of_le (Nat.le_of_lt inside), List.take_of_length_le (by simp)]
          simp
        rw [front, List.takeWhile_cons_of_pos digit, List.drop_set_of_lt (by omega),
          List.length_cons, List.append_assoc, List.append_assoc, List.append_assoc,
          List.singleton_append, Nat.add_right_comm, Nat.add_assoc index]
        rfl
      · rw [if_pos (not_not.mp (mt asciiDigit_eq_true.mpr digit))]
        simp [digit, List.takeWhile]

/-- Six digits and nothing else. -/
def SixDigits (text : Bytes) : Prop :=
  text.length = kInviteCodeLength ∧ text.all asciiDigit = true

variable {input : Bytes}

theorem parseInviteCode_eq_some
    {code : InviteCodeDigits} :
    parseInviteCode input = some code ↔
      SixDigits (trimmed asciiSpace input) ∧ code.bytes = trimmed asciiSpace input := by
  unfold parseInviteCode SixDigits
  dsimp only
  split
  · next sized =>
    split
    · next digits =>
      rw [Option.some.injEq, Block.ext_iff]
      simp [sized, digits, eq_comm]
    · next digits => simp [digits]
  · next sized => simp [sized]

theorem normalizeInviteCode_ok
    {out : InviteCodeDigits} :
    (normalizeInviteCode input out).1 = .ok ↔
      SixDigits (trimmed edgeWhitespace input) := by
  unfold normalizeInviteCode SixDigits
  dsimp only
  split
  · next short => simp [short]
  · next sized =>
    have six := not_not.mp sized
    rw [(copyDigits_eq 0 _ out (by omega)).1]
    simp [six]

/-- What the output of the second reader contains afterwards. -/
theorem normalizeInviteCode_bytes
    (six : (trimmed edgeWhitespace input).length = kInviteCodeLength)
    (out : InviteCodeDigits) :
    (normalizeInviteCode input out).2.bytes =
      (trimmed edgeWhitespace input).takeWhile asciiDigit ++
        out.bytes.drop ((trimmed edgeWhitespace input).takeWhile asciiDigit).length := by
  unfold normalizeInviteCode
  dsimp only
  rw [if_neg (not_not.mpr six), (copyDigits_eq 0 _ out (by omega)).2]
  simp

/-- The blanks of the second reader are blanks of the first. -/
theorem asciiSpace_of_edgeWhitespace
    (byte : UInt8)
    (blank : edgeWhitespace byte = true) :
    asciiSpace byte = true := by
  simp only [edgeWhitespace, asciiSpace, Bool.or_eq_true] at blank ⊢
  rcases blank with ((space | tab) | ret) | line
  · simp [space]
  · simp [tab]
  · simp [ret]
  · simp [line]

/-- Six digits behind the second reader's blanks are so behind the first reader's. -/
theorem trimmed_same
    (digits : SixDigits (trimmed edgeWhitespace input)) :
    trimmed asciiSpace input = trimmed edgeWhitespace input := by
  rw [← trimmed_trimmed asciiSpace_of_edgeWhitespace input, trimmed_of_none]
  intro byte member
  have digit := List.all_eq_true.mp digits.2 byte member
  have range : 0x30 ≤ byte ∧ byte ≤ 0x39 := by
    simpa [asciiDigit] using digit
  grind [asciiSpace]

/-- Both readers take the same inputs for the same digits, and the second one leaves its
output alone when it fails. -/
def ReadersAgree (input : Bytes) (out : InviteCodeDigits) : Prop :=
  ((normalizeInviteCode input out).1 = .ok ↔ (parseInviteCode input).isSome = true) ∧
    ((normalizeInviteCode input out).1 = .ok →
      parseInviteCode input = some (normalizeInviteCode input out).2) ∧
    ((normalizeInviteCode input out).1 ≠ .ok → (normalizeInviteCode input out).2 = out)

/-- The readers agree if and only if no form feed or vertical tab stands around six
digits, and the digits that a refused text of six bytes begins with are already there. -/
theorem readers_agree_iff
    (input : Bytes)
    (out : InviteCodeDigits) :
    ReadersAgree input out ↔
      (SixDigits (trimmed asciiSpace input) →
          trimmed edgeWhitespace input = trimmed asciiSpace input) ∧
        ((trimmed edgeWhitespace input).length = kInviteCodeLength →
          (trimmed edgeWhitespace input).all asciiDigit = false →
            (trimmed edgeWhitespace input).takeWhile asciiDigit <+: out.bytes) := by
  have parses :
      (parseInviteCode input).isSome = true ↔ SixDigits (trimmed asciiSpace input) := by
    rw [Option.isSome_iff_exists]
    constructor
    · rintro ⟨code, parsed⟩
      exact (parseInviteCode_eq_some.mp parsed).1
    · intro digits
      exact ⟨⟨_, digits.1⟩, parseInviteCode_eq_some.mpr ⟨digits, rfl⟩⟩
  unfold ReadersAgree
  rw [normalizeInviteCode_ok, parses]
  constructor
  · rintro ⟨same, -, kept⟩
    refine ⟨fun digits => (trimmed_same (same.mpr digits)).symm, ?_⟩
    intro six some_
    have refused : ¬ SixDigits (trimmed edgeWhitespace input) := by
      rintro ⟨-, all⟩
      rw [all] at some_
      cases some_
    have bytes := normalizeInviteCode_bytes six out
    rw [kept (mt normalizeInviteCode_ok.mp refused)] at bytes
    exact ⟨_, bytes.symm⟩
  · rintro ⟨blanks, written⟩
    refine ⟨⟨?_, ?_⟩, ?_, ?_⟩
    · intro digits
      rw [trimmed_same digits]
      exact digits
    · intro digits
      rw [blanks digits]
      exact digits
    · intro digits
      have same := trimmed_same digits
      refine parseInviteCode_eq_some.mpr ⟨same ▸ digits, ?_⟩
      rw [normalizeInviteCode_bytes digits.1, same,
        List.takeWhile_eq_self_iff.mpr (List.all_eq_true.mp digits.2), digits.1,
        List.drop_of_length_le (Nat.le_of_eq out.sized), List.append_nil]
    · intro failed
      have refused : ¬ SixDigits (trimmed edgeWhitespace input) :=
        mt normalizeInviteCode_ok.mpr failed
      by_cases six : (trimmed edgeWhitespace input).length = kInviteCodeLength
      · have some_ : (trimmed edgeWhitespace input).all asciiDigit = false :=
          Bool.eq_false_iff.mpr fun all => refused ⟨six, all⟩
        obtain ⟨rest, shape⟩ := written six some_
        refine Block.ext ?_
        rw [normalizeInviteCode_bytes six, ← shape, List.drop_left]
      · unfold normalizeInviteCode
        dsimp only
        rw [if_pos six]

/-- Six digits behind a form feed are a code for one reader only. -/
theorem readers_differ :
    ¬ ∀ input out, ReadersAgree input out := by
  intro always
  have claimed := always [0x0C, 0x30, 0x31, 0x32, 0x33, 0x34, 0x35] (Block.zero 6)
  have parsed :
      (parseInviteCode [0x0C, 0x30, 0x31, 0x32, 0x33, 0x34, 0x35]).isSome = true := by
    decide
  have refused := claimed.1.mpr parsed
  revert refused
  decide

end FlyNes.InviteCode
