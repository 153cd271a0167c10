import FlyNes.ByteString

namespace Utf8

open ByteString

/-!
# Well-formed UTF-8

A byte string is well formed if it is the encoding of some characters, that is, of Unicode
scalar values.  The first byte of a well-formed string says how many bytes its first character
takes and what the second byte may be; a reader that makes these distinctions accepts the
well-formed strings and no others.
-/

/-- The bytes of some characters. -/
def encode (characters : List Char) : Bytes :=
  characters.flatMap String.utf8EncodeChar

/-- The byte string encodes some characters. -/
def WellFormed (bytes : Bytes) : Prop :=
  ∃ characters, encode characters = bytes

/-- A byte that continues a character. -/
def Continues (byte : UInt8) : Prop :=
  0x80 ≤ byte.toNat ∧ byte.toNat ≤ 0xBF

/-- The first two of three bytes: nothing that fits two bytes, and no surrogate. -/
def StartsThree (first second : UInt8) : Prop :=
  Continues second ∧
    (first.toNat = 0xE0 → 0xA0 ≤ second.toNat) ∧
    (first.toNat = 0xED → second.toNat ≤ 0x9F)

/-- The first two of four bytes: nothing that fits three bytes, nothing above the last one. -/
def StartsFour (first second : UInt8) : Prop :=
  Continues second ∧
    (first.toNat = 0xF0 → 0x90 ≤ second.toNat) ∧
    (first.toNat = 0xF4 → second.toNat ≤ 0x8F)

/-- The byte strings of single characters. -/
inductive Character : Bytes → Prop where
  | one {first : UInt8} :
      first.toNat ≤ 0x7F → Character [first]
  | two {first second : UInt8} :
      0xC2 ≤ first.toNat → first.toNat ≤ 0xDF → Continues second →
        Character [first, second]
  | three {first second third : UInt8} :
      0xE0 ≤ first.toNat → first.toNat ≤ 0xEF → StartsThree first second →
        Continues third → Character [first, second, third]
  | four {first second third fourth : UInt8} :
      0xF0 ≤ first.toNat → first.toNat ≤ 0xF4 → StartsFour first second →
        Continues third → Continues fourth →
          Character [first, second, third, fourth]

variable {value : Nat}

theorem toNat_ofNat
    (small : value < 256) :
    (UInt8.ofNat value).toNat = value := by
  rw [UInt8.toNat_ofNat', Nat.mod_eq_of_lt small]

/-- Every character is encoded in one of the four forms. -/
theorem character_encode
    (character : Char) :
    Character (String.utf8EncodeChar character) := by
  have valid := character.valid
  unfold String.utf8EncodeChar
  simp only [UInt32.isValidChar, Nat.isValidChar] at valid
  dsimp only
  generalize character.val.toNat = value at valid
  split
  · exact .one (by rw [toNat_ofNat] <;> omega)
  · split
    · refine .two ?_ ?_ ⟨?_, ?_⟩ <;> rw [toNat_ofNat] <;> omega
    · split
      · refine .three ?_ ?_ ⟨⟨?_, ?_⟩, ?_, ?_⟩ ⟨?_, ?_⟩
        all_goals
          (try rw [toNat_ofNat (by omega)])
          (try rw [toNat_ofNat (by omega)])
          omega
      · refine .four ?_ ?_ ⟨⟨?_, ?_⟩, ?_, ?_⟩ ⟨?_, ?_⟩ ⟨?_, ?_⟩
        all_goals
          (try rw [toNat_ofNat (by omega)])
          (try rw [toNat_ofNat (by omega)])
          omega

/-- The character of a scalar value. -/
theorem val_toNat_ofNatAux
    (valid : value.isValidChar) :
    (Char.ofNatAux value valid).val.toNat = value := by
  rfl

variable {bytes : Bytes}

/-- Every byte string of one of the four forms encodes a character. -/
theorem Character.encoded
    (character : Character bytes) :
    ∃ value : Char, String.utf8EncodeChar value = bytes := by
  cases character with
  | @one first low =>
      have valid : first.toNat.isValidChar := Or.inl (by omega)
      refine ⟨Char.ofNatAux first.toNat valid, ?_⟩
      unfold String.utf8EncodeChar
      dsimp only
      rw [val_toNat_ofNatAux, if_pos low, UInt8.ofNat_toNat]
  | @two first second low high continues =>
      obtain ⟨_, _⟩ := continues
      have valid : (first.toNat % 32 * 64 + second.toNat % 64).isValidChar :=
        Or.inl (by omega)
      refine ⟨Char.ofNatAux _ valid, ?_⟩
      unfold String.utf8EncodeChar
      dsimp only
      rw [val_toNat_ofNatAux, if_neg (by omega), if_pos (by omega)]
      congr 2
      all_goals
        apply UInt8.toNat_inj.mp
        rw [toNat_ofNat (by omega)]
        omega
  | @three first second third low high starts continues =>
      obtain ⟨_, _⟩ := continues
      obtain ⟨⟨_, _⟩, overlong, surrogate⟩ := starts
      have valid :
          (first.toNat % 16 * 4096 + second.toNat % 64 * 64 +
            third.toNat % 64).isValidChar := by
        unfold Nat.isValidChar
        omega
      refine ⟨Char.ofNatAux _ valid, ?_⟩
      unfold String.utf8EncodeChar
      dsimp only
      rw [val_toNat_ofNatAux, if_neg (by omega), if_neg (by omega), if_pos (by omega)]
      congr 3
      all_goals
        apply UInt8.toNat_inj.mp
        rw [toNat_ofNat (by omega)]
        omega
  | @four first second third fourth low high starts continues more =>
      obtain ⟨_, _⟩ := continues
      obtain ⟨_, _⟩ := more
      obtain ⟨⟨_, _⟩, overlong, above⟩ := starts
      have valid :
          (first.toNat % 8 * 262144 + second.toNat % 64 * 4096 +
            third.toNat % 64 * 64 + fourth.toNat % 64).isValidChar := by
        unfold Nat.isValidChar
        omega
      refine ⟨Char.ofNatAux _ valid, ?_⟩
      unfold String.utf8EncodeChar
      dsimp only
      rw [val_toNat_ofNatAux, if_neg (by omega), if_neg (by omega), if_neg (by omega)]
      congr 4
      all_goals
        apply UInt8.toNat_inj.mp
        rw [toNat_ofNat (by omega)]
        omega

theorem wellFormed_nil : WellFormed [] :=
  ⟨[], rfl⟩

theorem Character.append_wellFormed
    {bytes tail : Bytes}
    (character : Character bytes)
    (later : WellFormed tail) :
    WellFormed (bytes ++ tail) := by
  obtain ⟨value, rfl⟩ := character.encoded
  obtain ⟨characters, rfl⟩ := later
  exact ⟨value :: characters, rfl⟩

theorem Character.ne_nil
    (character : Character bytes) :
    bytes ≠ [] := by
  cases character <;> simp

/--
A check that takes one character after the other, finds all of its bytes allowed, and stops
where no character starts.
-/
structure TakesCharacters
    (accepts : Bytes → Prop)
    (allowed : UInt8 → Prop) : Prop where
  nil : accepts []
  character :
    ∀ {bytes tail : Bytes},
      Character bytes →
        (accepts (bytes ++ tail) ↔
          (∀ byte ∈ bytes, allowed byte) ∧ accepts tail)
  starts :
    ∀ {bytes : Bytes},
      accepts bytes →
        bytes = [] ∨
          ∃ front tail, Character front ∧ bytes = front ++ tail

variable {accepts : Bytes → Prop} {allowed : UInt8 → Prop}

/-- Such a check accepts the well-formed strings of allowed bytes. -/
theorem TakesCharacters.accepts_iff
    (check : TakesCharacters accepts allowed)
    {bytes : Bytes} :
    accepts bytes ↔ WellFormed bytes ∧ ∀ byte ∈ bytes, allowed byte := by
  constructor
  · induction size : bytes.length using Nat.strongRecOn generalizing bytes with
    | ind size inductionHypothesis =>
        intro accepted
        obtain rfl | ⟨front, tail, character, rfl⟩ := check.starts accepted
        · exact ⟨wellFormed_nil, by simp⟩
        · obtain ⟨first, later⟩ := (check.character character).mp accepted
          have positive : 0 < front.length :=
            List.length_pos_iff.mpr character.ne_nil
          obtain ⟨rest, others⟩ :=
            inductionHypothesis tail.length
              (by rw [← size, List.length_append]; omega) rfl later
          refine ⟨character.append_wellFormed rest, ?_⟩
          intro byte member
          rcases List.mem_append.mp member with inFront | inTail
          · exact first byte inFront
          · exact others byte inTail
  · rintro ⟨⟨characters, rfl⟩, clean⟩
    induction characters with
    | nil =>
        exact check.nil
    | cons value later inductionHypothesis =>
        have front : encode (value :: later) =
            String.utf8EncodeChar value ++ encode later := rfl
        rw [front] at clean ⊢
        rw [check.character (character_encode value)]
        exact ⟨fun byte member => clean byte (List.mem_append_left _ member),
          inductionHypothesis fun byte member =>
            clean byte (List.mem_append_right _ member)⟩

/-- A check that looks at the first byte of a character to see what has to follow it. -/
structure ReadsLeads
    (accepts : Bytes → Prop)
    (allowed : UInt8 → Prop) : Prop where
  nil : accepts []
  one :
    ∀ {first : UInt8} {rest : Bytes},
      first.toNat ≤ 0x7F →
        (accepts (first :: rest) ↔ allowed first ∧ accepts rest)
  two :
    ∀ {first : UInt8} {rest : Bytes},
      0xC2 ≤ first.toNat → first.toNat ≤ 0xDF →
        (accepts (first :: rest) ↔
          match rest with
          | second :: tail => Continues second ∧ accepts tail
          | _ => False)
  three :
    ∀ {first : UInt8} {rest : Bytes},
      0xE0 ≤ first.toNat → first.toNat ≤ 0xEF →
        (accepts (first :: rest) ↔
          match rest with
          | second :: third :: tail =>
              (StartsThree first second ∧ Continues third) ∧ accepts tail
          | _ => False)
  four :
    ∀ {first : UInt8} {rest : Bytes},
      0xF0 ≤ first.toNat → first.toNat ≤ 0xF4 →
        (accepts (first :: rest) ↔
          match rest with
          | second :: third :: fourth :: tail =>
              (StartsFour first second ∧ Continues third ∧ Continues fourth) ∧ accepts tail
          | _ => False)
  other :
    ∀ {first : UInt8} {rest : Bytes},
      0x80 ≤ first.toNat ∧ first.toNat ≤ 0xC1 ∨ 0xF5 ≤ first.toNat →
        ¬accepts (first :: rest)

/-- Such a check takes one character after the other if it only refuses ASCII characters. -/
theorem ReadsLeads.takesCharacters
    (check : ReadsLeads accepts allowed)
    (high : ∀ byte : UInt8, 0x80 ≤ byte.toNat → allowed byte) :
    TakesCharacters accepts allowed where
  nil := check.nil
  character := by
    intro bytes tail character
    cases character with
    | one low =>
        simp [check.one low]
    | two low above continues =>
        have first := high _ (Nat.le_trans (by decide) low)
        simp [check.two low above, continues, first, high _ continues.1]
    | three low above starts continues =>
        have first := high _ (Nat.le_trans (by decide) low)
        simp [check.three low above, starts, continues, first, high _ starts.1.1,
          high _ continues.1]
    | four low above starts continues more =>
        have first := high _ (Nat.le_trans (by decide) low)
        simp [check.four low above, starts, continues, more, first, high _ starts.1.1,
          high _ continues.1, high _ more.1]
  starts := by
    intro bytes accepted
    cases bytes with
    | nil =>
        exact Or.inl rfl
    | cons first rest =>
        right
        by_cases ascii : first.toNat ≤ 0x7F
        · exact ⟨[first], rest, .one ascii, rfl⟩
        by_cases two : 0xC2 ≤ first.toNat ∧ first.toNat ≤ 0xDF
        · match rest, (check.two two.1 two.2).mp accepted with
          | second :: tail, ⟨continues, _⟩ =>
              exact ⟨[first, second], tail, .two two.1 two.2 continues, rfl⟩
        by_cases three : 0xE0 ≤ first.toNat ∧ first.toNat ≤ 0xEF
        · match rest, (check.three three.1 three.2).mp accepted with
          | second :: third :: tail, ⟨⟨starts, continues⟩, _⟩ =>
              exact ⟨[first, second, third], tail,
                .three three.1 three.2 starts continues, rfl⟩
        by_cases four : 0xF0 ≤ first.toNat ∧ first.toNat ≤ 0xF4
        · match rest, (check.four four.1 four.2).mp accepted with
          | second :: third :: fourth :: tail, ⟨⟨starts, continues, more⟩, _⟩ =>
              exact ⟨[first, second, third, fourth], tail,
                .four four.1 four.2 starts continues more, rfl⟩
        exact absurd accepted (check.other (by omega))

end Utf8
