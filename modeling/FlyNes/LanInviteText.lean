import Mathlib.Data.List.Induction
import FlyNes.LanInvite

namespace FlyNes.LanMvp

open ByteString

/-!
# The language of invitations

The parser accepts the formatted invitations, with the hexadecimal digits of pin
and token in either letter case, and nothing else.  Every field parser is
characterised by the text that the formatter writes for its value.
-/

/-- The last decimal digit of a number comes off the end. -/
theorem decimal_eq
    (value : Nat) :
    decimal value =
      (if value < 10 then [] else decimal (value / 10)) ++
        [UInt8.ofNat (48 + value % 10)] := by
  have below : value % 10 < 10 := Nat.mod_lt _ (by decide)
  unfold decimal
  rw [Nat.toDigits_eq_if (by decide)]
  split
  · next small =>
      rw [List.nil_append, List.map_singleton,
        Nat.toNat_digitChar_of_lt_ten small, Nat.mod_eq_of_lt small]
  · rw [List.map_append, List.map_singleton,
      Nat.toNat_digitChar_of_lt_ten below]

variable {value : Nat}

theorem decimal_of_lt
    (small : value < 10) :
    decimal value = [UInt8.ofNat (48 + value)] := by
  rw [decimal_eq, if_pos small, Nat.mod_eq_of_lt small, List.nil_append]

theorem decimal_of_le
    (large : 10 ≤ value) :
    decimal value =
      decimal (value / 10) ++ [UInt8.ofNat (48 + value % 10)] := by
  rw [decimal_eq, if_neg (Nat.not_lt.mpr large)]

/-- The code of an ASCII digit. -/
def IsDigit (byte : UInt8) : Prop :=
  48 ≤ byte.toNat ∧ byte.toNat ≤ 57

theorem isDigit_ofNat
    {digit : Nat}
    (small : digit < 10) :
    IsDigit (UInt8.ofNat (48 + digit)) ∧
      (UInt8.ofNat (48 + digit)).toNat = 48 + digit := by
  have code : (UInt8.ofNat (48 + digit)).toNat = 48 + digit := by
    rw [UInt8.toNat_ofNat']
    omega
  exact ⟨⟨by omega, by omega⟩, code⟩

variable {byte : UInt8}

theorem isDigit_of_mem_decimal
    (member : byte ∈ decimal value) :
    IsDigit byte := by
  induction value using Nat.strongRecOn with
  | ind value inductionHypothesis =>
      rw [decimal_eq] at member
      rcases List.mem_append.mp member with front | last
      · split at front
        · simp at front
        · exact inductionHypothesis (value / 10) (by omega) front
      · rw [List.mem_singleton.mp last]
        exact (isDigit_ofNat (Nat.mod_lt _ (by decide))).1

theorem decimal_ne_nil
    (value : Nat) :
    decimal value ≠ [] := by
  rw [decimal_eq]
  simp

/-- Only the number zero starts with the digit zero. -/
theorem eq_zero_of_head_decimal
    (head : (decimal value).head? = some 48) :
    value = 0 := by
  induction value using Nat.strongRecOn with
  | ind value inductionHypothesis =>
      by_cases small : value < 10
      · rw [decimal_of_lt small, List.head?_cons, Option.some.injEq] at head
        have code := (isDigit_ofNat small).2
        rw [head] at code
        have shifted : 48 = 48 + value := code
        omega
      · rw [decimal_of_le (Nat.not_lt.mp small),
          List.head?_append_of_ne_nil _ (decimal_ne_nil _)] at head
        have shorter := inductionHypothesis (value / 10) (by omega) head
        omega

/-- The value of a digit text that is read behind a start value. -/
def digitsValue (start : Nat) (text : Bytes) : Nat :=
  text.foldl (fun value digit => value * 10 + (digit.toNat - 48)) start

theorem digitsValue_append
    (start : Nat)
    (text : Bytes)
    (digit : UInt8) :
    digitsValue start (text ++ [digit]) =
      digitsValue start text * 10 + (digit.toNat - 48) := by
  simp [digitsValue]

/-- A start value only grows. -/
theorem le_digitsValue
    (start : Nat)
    (text : Bytes) :
    start ≤ digitsValue start text := by
  induction text using List.reverseRecOn with
  | nil =>
      exact Nat.le_refl start
  | append_singleton text digit inductionHypothesis =>
      rw [digitsValue_append]
      omega

variable {text : Bytes} {maximum value : Nat}

/-- Digits are taken one by one until the value exceeds the maximum. -/
theorem foldlM_takeDigit_eq_some
    {start : Nat}
    (within : start ≤ maximum) :
    text.foldlM (takeDigit maximum) start = some value ↔
      (∀ digit ∈ text, IsDigit digit) ∧
        digitsValue start text = value ∧ value ≤ maximum := by
  induction text generalizing start with
  | nil =>
      simp only [List.foldlM_nil, Option.pure_def, Option.some.injEq,
        List.not_mem_nil, false_implies, implies_true, true_and,
        digitsValue, List.foldl_nil]
      constructor
      · rintro rfl
        exact ⟨rfl, within⟩
      · exact And.left
  | cons digit rest inductionHypothesis =>
      rw [List.foldlM_cons, Option.bind_eq_bind, Option.bind_eq_some_iff]
      have shift :
          digitsValue start (digit :: rest) =
            digitsValue (start * 10 + (digit.toNat - 48)) rest := rfl
      have grows :=
        le_digitsValue (start * 10 + (digit.toNat - 48)) rest
      constructor
      · rintro ⟨next, taken, later⟩
        unfold takeDigit at taken
        split at taken
        · simp at taken
        · next numeric =>
            split at taken
            · simp at taken
            · next small =>
                obtain rfl := Option.some.inj taken
                obtain ⟨digits, result, bounded⟩ :=
                  (inductionHypothesis (Nat.not_lt.mp small)).mp later
                refine ⟨?_, result, bounded⟩
                intro other member
                rcases List.mem_cons.mp member with rfl | old
                · exact ⟨by omega, by omega⟩
                · exact digits other old
      · rintro ⟨digits, result, bounded⟩
        have numeric : IsDigit digit := digits digit List.mem_cons_self
        have small : start * 10 + (digit.toNat - 48) ≤ maximum := by
          omega
        refine ⟨start * 10 + (digit.toNat - 48), ?_, ?_⟩
        · unfold takeDigit
          rw [if_neg (by have := numeric.1; have := numeric.2; omega),
            if_neg (Nat.not_lt.mpr small)]
        · rw [inductionHypothesis small]
          exact ⟨fun other member =>
            digits other (List.mem_cons_of_mem digit member),
            result, bounded⟩

@[simp] theorem digitsValue_decimal
    (value : Nat) :
    digitsValue 0 (decimal value) = value := by
  induction value using Nat.strongRecOn with
  | ind value inductionHypothesis =>
      by_cases small : value < 10
      · rw [decimal_of_lt small]
        simp only [digitsValue, List.foldl_cons, List.foldl_nil,
          (isDigit_ofNat small).2]
        omega
      · have below : value % 10 < 10 := Nat.mod_lt _ (by decide)
        rw [decimal_of_le (Nat.not_lt.mp small), digitsValue_append,
          inductionHypothesis (value / 10) (by omega),
          (isDigit_ofNat below).2]
        omega

/-- A digit text that does not start with zero has a positive value. -/
theorem digitsValue_pos
    (nonempty : text ≠ [])
    (head : text.head? ≠ some 48)
    (digits : ∀ digit ∈ text, IsDigit digit) :
    0 < digitsValue 0 text := by
  cases text with
  | nil =>
      exact absurd rfl nonempty
  | cons digit rest =>
      have numeric : IsDigit digit := digits digit List.mem_cons_self
      have nonzero : digit.toNat ≠ 48 := by
        intro zero
        apply head
        rw [List.head?_cons]
        exact congrArg some (UInt8.toNat_inj.mp zero)
      have grows := le_digitsValue (0 * 10 + (digit.toNat - 48)) rest
      have first : 0 < 0 * 10 + (digit.toNat - 48) := by
        have := numeric.1
        omega
      exact Nat.lt_of_lt_of_le first grows

/-- A digit text without leading zeros is the decimal text of its value. -/
theorem decimal_digitsValue
    (nonempty : text ≠ [])
    (short : ¬ (text.length > 1 ∧ text.head? = some 48))
    (digits : ∀ digit ∈ text, IsDigit digit) :
    decimal (digitsValue 0 text) = text := by
  induction text using List.reverseRecOn with
  | nil =>
      exact absurd rfl nonempty
  | append_singleton front last inductionHypothesis =>
      have numeric : IsDigit last := digits last (by simp)
      have lastDigit : last.toNat - 48 < 10 := by
        have := numeric.2
        omega
      have lastByte : UInt8.ofNat (48 + (last.toNat - 48)) = last := by
        apply UInt8.toNat_inj.mp
        rw [(isDigit_ofNat lastDigit).2]
        have := numeric.1
        omega
      rw [digitsValue_append]
      by_cases single : front = []
      · subst single
        have value : digitsValue 0 [] * 10 + (last.toNat - 48) =
            last.toNat - 48 := by
          simp [digitsValue]
        rw [value, decimal_of_lt lastDigit, lastByte, List.nil_append]
      · have head : front.head? ≠ some 48 := by
          intro zero
          apply short
          rw [List.head?_append_of_ne_nil _ single]
          have positive := List.length_pos_iff.mpr single
          exact ⟨by simpa using positive, zero⟩
        have frontDigits : ∀ digit ∈ front, IsDigit digit :=
          fun digit member => digits digit (by simp [member])
        have positive := digitsValue_pos single head frontDigits
        rw [decimal_of_le (by omega), Nat.mul_comm,
          Nat.mul_add_div (by decide), Nat.div_eq_of_lt lastDigit,
          Nat.add_zero, Nat.mul_add_mod, Nat.mod_eq_of_lt lastDigit,
          lastByte,
          inductionHypothesis single (fun bad => head bad.2) frontDigits]

/-- A number is read exactly from its decimal text. -/
theorem parseDecimal_eq_some :
    parseDecimal text maximum = some value ↔
      text = decimal value ∧ value ≤ maximum := by
  unfold parseDecimal
  constructor
  · intro parsed
    split at parsed
    · simp at parsed
    · next wellFormed =>
        rw [not_or] at wellFormed
        obtain ⟨digits, result, bounded⟩ :=
          (foldlM_takeDigit_eq_some (Nat.zero_le maximum)).mp parsed
        refine ⟨?_, bounded⟩
        rw [← result, decimal_digitsValue wellFormed.1 wellFormed.2 digits]
  · rintro ⟨rfl, bounded⟩
    have wellFormed :
        ¬ (decimal value = [] ∨
          ((decimal value).length > 1 ∧
            (decimal value).head? = some 48)) := by
      rintro (empty | ⟨long, zero⟩)
      · exact decimal_ne_nil value empty
      · rw [eq_zero_of_head_decimal zero] at long
        exact absurd long (by decide)
    rw [if_neg wellFormed, foldlM_takeDigit_eq_some (Nat.zero_le maximum)]
    exact ⟨fun digit member => isDigit_of_mem_decimal member,
      digitsValue_decimal value, bounded⟩

variable {text : Bytes}

/-- A text is split at its first separator. -/
theorem splitFirst_eq_some
    {separator : UInt8}
    {front back : Bytes} :
    splitFirst separator text = some (front, back) ↔
      text = front ++ separator :: back ∧ separator ∉ front := by
  induction text generalizing front with
  | nil =>
      simp [splitFirst]
  | cons first rest inductionHypothesis =>
      by_cases same : first = separator
      · subst same
        have found :
            splitFirst first (first :: rest) = some ([], rest) := by
          simp [splitFirst]
        rw [found]
        cases front with
        | nil =>
            simp
        | cons head tail =>
            simp only [Option.some.injEq, Prod.mk.injEq, List.cons_append,
              List.cons.injEq, List.mem_cons, not_or]
            constructor
            · rintro ⟨bad, _⟩
              simp at bad
            · rintro ⟨⟨sameHead, _⟩, differ, _⟩
              exact absurd sameHead differ
      · have later :
            splitFirst separator (first :: rest) =
              (splitFirst separator rest).map fun parts =>
                (first :: parts.1, parts.2) := by
          unfold splitFirst
          by_cases member : separator ∈ rest
          · rw [if_pos member, if_pos (List.mem_cons_of_mem first member)]
            simp [same]
          · rw [if_neg member, if_neg (by simp [member, Ne.symm same])]
            rfl
        rw [later, Option.map_eq_some_iff]
        constructor
        · rintro ⟨⟨init, tail⟩, found, shape⟩
          rw [Prod.mk.injEq] at shape
          obtain ⟨rfl, rfl⟩ := shape
          obtain ⟨rfl, clean⟩ := inductionHypothesis.mp found
          exact ⟨rfl, by simp [clean, Ne.symm same]⟩
        · rintro ⟨shape, clean⟩
          cases front with
          | nil =>
              rw [List.nil_append, List.cons.injEq] at shape
              exact absurd shape.1 same
          | cons head tail =>
              rw [List.cons_append, List.cons.injEq] at shape
              obtain ⟨rfl, rfl⟩ := shape
              exact ⟨(tail, back),
                inductionHypothesis.mpr ⟨rfl, fun member =>
                  clean (List.mem_cons_of_mem first member)⟩, rfl⟩

/-- Neither a dot nor a colon is a digit. -/
theorem not_mem_decimal
    (other : ¬ IsDigit byte)
    (value : Nat) :
    byte ∉ decimal value :=
  fun member => other (isDigit_of_mem_decimal member)

theorem not_isDigit_dot : ¬ IsDigit 46 := by
  rintro ⟨low, _⟩
  exact absurd low (by decide)

theorem not_isDigit_colon : ¬ IsDigit 58 := by
  rintro ⟨_, high⟩
  exact absurd high (by decide)

/-- The decimal texts of some octets with dots between them. -/
def dottedOctets (octets : Bytes) : Bytes :=
  List.intercalate [46] (octets.map fun octet => decimal octet.toNat)

theorem dottedOctets_cons_cons
    (octet second : UInt8)
    (rest : Bytes) :
    dottedOctets (octet :: second :: rest) =
      decimal octet.toNat ++ 46 :: dottedOctets (second :: rest) := by
  simp [dottedOctets, List.intercalate]

theorem ofNat_eq_iff_of_le
    {octet : UInt8}
    (small : value ≤ 255) :
    UInt8.ofNat value = octet ↔ value = octet.toNat := by
  rw [← UInt8.toNat_inj, UInt8.toNat_ofNat', Nat.mod_eq_of_lt (by omega)]

/-- Octets are read exactly from their dotted text. -/
theorem parseOctets_eq_some
    {remaining : Nat}
    {octets : Bytes} :
    parseOctets remaining text = some octets ↔
      octets.length = remaining + 1 ∧ text = dottedOctets octets := by
  induction remaining generalizing text octets with
  | zero =>
      unfold parseOctets
      constructor
      · intro parsed
        split at parsed
        · simp at parsed
        · obtain ⟨value, found, rfl⟩ := Option.map_eq_some_iff.mp parsed
          obtain ⟨rfl, small⟩ := parseDecimal_eq_some.mp found
          refine ⟨rfl, ?_⟩
          have code : (UInt8.ofNat value).toNat = value :=
            ((ofNat_eq_iff_of_le small).mp rfl).symm
          simp [dottedOctets, List.intercalate, code]
      · rintro ⟨single, rfl⟩
        obtain ⟨octet, rfl⟩ := List.length_eq_one_iff.mp single
        have text : dottedOctets [octet] = decimal octet.toNat := by
          simp [dottedOctets, List.intercalate]
        have small : octet.toNat ≤ 255 := Nat.le_of_lt_succ octet.toNat_lt
        rw [text, if_neg (not_mem_decimal not_isDigit_dot octet.toNat),
          parseDecimal_eq_some.mpr ⟨rfl, small⟩, Option.map_some,
          (ofNat_eq_iff_of_le small).mpr rfl]
  | succ remaining inductionHypothesis =>
      unfold parseOctets
      simp only [Option.bind_eq_bind, Option.bind_eq_some_iff,
        Option.pure_def, Option.some.injEq, Prod.exists]
      constructor
      · rintro ⟨part, rest, cut, value, found, others, later, rfl⟩
        obtain ⟨rfl, _⟩ := splitFirst_eq_some.mp cut
        obtain ⟨rfl, small⟩ := parseDecimal_eq_some.mp found
        obtain ⟨count, rfl⟩ := inductionHypothesis.mp later
        have code : (UInt8.ofNat value).toNat = value :=
          ((ofNat_eq_iff_of_le small).mp rfl).symm
        cases others with
        | nil =>
            simp at count
        | cons second rest =>
            refine ⟨by rw [List.length_cons, count], ?_⟩
            rw [dottedOctets_cons_cons, code]
      · rintro ⟨count, rfl⟩
        match octets, count with
        | octet :: second :: rest, count =>
            have small : octet.toNat ≤ 255 := Nat.le_of_lt_succ octet.toNat_lt
            refine ⟨decimal octet.toNat, dottedOctets (second :: rest),
              splitFirst_eq_some.mpr
                ⟨dottedOctets_cons_cons octet second rest,
                  not_mem_decimal not_isDigit_dot octet.toNat⟩,
              octet.toNat, parseDecimal_eq_some.mpr ⟨rfl, small⟩,
              second :: rest, inductionHypothesis.mpr ⟨?_, rfl⟩, ?_⟩
            · simpa using count
            · rw [(ofNat_eq_iff_of_le small).mpr rfl]

/-- An address is read exactly from its dotted text. -/
theorem parseIp_eq_some
    {ip : Block 4} :
    parseIp text = some ip ↔
      text = dotted ip ∧ allowedAddress ip = true := by
  unfold parseIp
  rw [Option.bind_eq_bind, Option.bind_eq_some_iff]
  constructor
  · rintro ⟨octets, found, checked⟩
    obtain ⟨count, rfl⟩ := parseOctets_eq_some.mp found
    obtain ⟨bytes, sized⟩ : ∃ block : Block 4, block.bytes = octets :=
      ⟨⟨octets, count⟩, rfl⟩
    subst sized
    dsimp only at checked
    rw [Block.copy_bytes] at checked
    split at checked
    · next allowed =>
        obtain rfl := Option.some.inj checked
        exact ⟨rfl, allowed⟩
    · simp at checked
  · rintro ⟨rfl, allowed⟩
    refine ⟨ip.bytes, parseOctets_eq_some.mpr ⟨ip.sized, rfl⟩, ?_⟩
    dsimp only
    rw [Block.copy_bytes, if_pos allowed]

/-- The small letter of an ASCII capital letter; other bytes are kept. -/
def lowerCase (byte : UInt8) : UInt8 :=
  if 65 ≤ byte.toNat ∧ byte.toNat ≤ 90 then
    UInt8.ofNat (byte.toNat + 32)
  else
    byte

theorem toNat_hexDigit
    (small : value < 16) :
    (hexDigit value).toNat =
      if value < 10 then 48 + value else 87 + value := by
  unfold hexDigit
  split
  · rw [UInt8.toNat_ofNat', Nat.mod_eq_of_lt (by omega)]
  · rw [UInt8.toNat_ofNat', Nat.mod_eq_of_lt (by omega)]
    omega

theorem toNat_lowerCase
    (byte : UInt8) :
    (lowerCase byte).toNat =
      if 65 ≤ byte.toNat ∧ byte.toNat ≤ 90 then byte.toNat + 32
      else byte.toNat := by
  unfold lowerCase
  split
  · rw [UInt8.toNat_ofNat', Nat.mod_eq_of_lt (by omega)]
  · rfl

/-- A digit has a value when its small letter is the digit written for it. -/
theorem hexValue_eq_some
    {digit : UInt8} :
    hexValue digit = some value ↔
      value < 16 ∧ lowerCase digit = hexDigit value := by
  have lowered := toNat_lowerCase digit
  constructor
  · intro known
    have small : value < 16 := by
      unfold hexValue at known
      dsimp only at known
      grind
    refine ⟨small, UInt8.toNat_inj.mp ?_⟩
    rw [lowered, toNat_hexDigit small]
    unfold hexValue at known
    dsimp only at known
    grind
  · rintro ⟨small, same⟩
    rw [same, toNat_hexDigit small] at lowered
    unfold hexValue
    dsimp only
    grind

@[simp] theorem appendHex_cons
    (byte : UInt8)
    (rest : Bytes) :
    appendHex (byte :: rest) =
      hexDigit (byte.toNat / 16) :: hexDigit (byte.toNat % 16) ::
        appendHex rest :=
  rfl

theorem length_appendHex
    (bytes : Bytes) :
    (appendHex bytes).length = bytes.length * 2 := by
  induction bytes with
  | nil =>
      rfl
  | cons byte rest inductionHypothesis =>
      simp only [appendHex_cons, List.length_cons, inductionHypothesis]
      omega

variable {bytes : Bytes}

/-- Bytes are read from their hexadecimal text in either letter case. -/
theorem parseHexPairs_eq_some :
    parseHexPairs text = some bytes ↔
      text.map lowerCase = appendHex bytes := by
  induction text using parseHexPairs.induct generalizing bytes with
  | case1 =>
      cases bytes <;> simp [parseHexPairs, appendHex]
  | case2 single =>
      cases bytes <;> simp [parseHexPairs, appendHex]
  | case3 high low rest inductionHypothesis =>
      unfold parseHexPairs
      simp only [Option.bind_eq_bind, Option.bind_eq_some_iff,
        Option.pure_def, Option.some.injEq, hexValue_eq_some]
      constructor
      · rintro ⟨upper, ⟨upperSmall, upperDigit⟩, lower,
          ⟨lowerSmall, lowerDigit⟩, others, later, rfl⟩
        have code :
            (UInt8.ofNat (upper * 16 + lower)).toNat =
              upper * 16 + lower := by
          rw [UInt8.toNat_ofNat', Nat.mod_eq_of_lt (by omega)]
        rw [appendHex_cons, code, ← inductionHypothesis.mp later,
          Nat.mul_comm, Nat.mul_add_div (by decide),
          Nat.div_eq_of_lt lowerSmall, Nat.add_zero, Nat.mul_add_mod,
          Nat.mod_eq_of_lt lowerSmall, ← upperDigit, ← lowerDigit]
        rfl
      · intro same
        cases bytes with
        | nil =>
            simp [appendHex] at same
        | cons byte others =>
            simp only [List.map_cons, appendHex_cons,
              List.cons.injEq] at same
            obtain ⟨upperDigit, lowerDigit, later⟩ := same
            have octet : byte.toNat < 256 := byte.toNat_lt
            refine ⟨byte.toNat / 16, ⟨by omega, upperDigit⟩,
              byte.toNat % 16, ⟨by omega, lowerDigit⟩, others,
              inductionHypothesis.mpr later, ?_⟩
            rw [Nat.div_add_mod' byte.toNat 16, UInt8.ofNat_toNat]

/-- A block is read from its hexadecimal text in either letter case. -/
theorem parseHex_eq_some
    {size : Nat}
    {block : Block size} :
    parseHex size text = some block ↔
      text.map lowerCase = appendHex block.bytes := by
  unfold parseHex
  constructor
  · intro parsed
    split at parsed
    · simp at parsed
    · next sized =>
        obtain ⟨bytes, found, rfl⟩ := Option.map_eq_some_iff.mp parsed
        have same := parseHexPairs_eq_some.mp found
        have lengths := congrArg List.length same
        rw [List.length_map, length_appendHex] at lengths
        have whole : (Block.copy size bytes).bytes = bytes := by
          rw [Block.bytes_copy_of_le (by omega),
            List.take_of_length_le (by omega)]
        rw [whole, same]
  · intro same
    have lengths := congrArg List.length same
    rw [List.length_map, length_appendHex, block.sized] at lengths
    rw [if_neg (by omega), parseHexPairs_eq_some.mpr same, Option.map_some,
      Block.copy_bytes]

/-- `parseInvite` with the invitation of its caller. -/
def parseInviteInto (text : Bytes) (out : Invite) : Bool × Invite :=
  match parseInvite text with
  | some parsed => (true, parsed)
  | none => (false, out)

/-- Length of the pin, the colon and the token at the end of an invitation. -/
def hexTail : Nat := 32 * 2 + 1 + 16 * 2

/-- Texts that differ at most in the letter case of their pins and tokens. -/
def SameUpToHexCase (first second : Bytes) : Prop :=
  first.length = second.length ∧
    first.take (first.length - hexTail) =
      second.take (second.length - hexTail) ∧
    (first.drop (first.length - hexTail)).map lowerCase =
      (second.drop (second.length - hexTail)).map lowerCase

/-- The formatted text in front of the pin. -/
def inviteFront (invite : Invite) : Bytes :=
  kPrefix ++ endpoint invite ++ [58]

/-- The formatted text from the pin on. -/
def inviteTail (invite : Invite) : Bytes :=
  appendHex invite.spkiPin.bytes ++ 58 :: appendHex invite.token.bytes

variable {invite : Invite}

theorem formatInvite_eq_some :
    formatInvite invite = some text ↔
      (allowedAddress invite.ipv4 = true ∧ invite.port ≠ 0) ∧
        text = inviteFront invite ++ inviteTail invite := by
  unfold formatInvite inviteFront inviteTail
  split
  · next refused =>
      simp only [reduceCtorEq, false_iff, not_and]
      rintro ⟨allowed, nonzero⟩
      rcases refused with bad | bad
      · exact absurd allowed bad
      · exact absurd bad nonzero
  · next accepted =>
      rw [not_or, not_not] at accepted
      simp only [Option.some.injEq, List.append_assoc, List.cons_append,
        List.nil_append, accepted, ne_eq, not_false_eq_true, and_self,
        true_and]
      exact eq_comm

theorem length_inviteTail
    (invite : Invite) :
    (inviteTail invite).length = hexTail := by
  simp [inviteTail, hexTail, length_appendHex, Block.sized]

theorem lowerCase_of_not_capital
    (other : ¬ (65 ≤ byte.toNat ∧ byte.toNat ≤ 90)) :
    lowerCase byte = byte := by
  unfold lowerCase
  rw [if_neg other]

/-- Only a colon has a colon as its small letter. -/
theorem lowerCase_eq_colon
    {byte : UInt8} :
    lowerCase byte = 58 ↔ byte = 58 := by
  rw [← UInt8.toNat_inj, ← UInt8.toNat_inj, toNat_lowerCase]
  have code : (58 : UInt8).toNat = 58 := rfl
  rw [code]
  split <;> omega

/-- The digits that are written are small letters already. -/
theorem map_lowerCase_appendHex
    (bytes : Bytes) :
    (appendHex bytes).map lowerCase = appendHex bytes := by
  have small :
      ∀ value, value < 16 → lowerCase (hexDigit value) = hexDigit value := by
    intro value small
    apply lowerCase_of_not_capital
    rw [toNat_hexDigit small]
    split <;> omega
  induction bytes with
  | nil =>
      rfl
  | cons byte rest inductionHypothesis =>
      have octet : byte.toNat < 256 := byte.toNat_lt
      rw [appendHex_cons, List.map_cons, List.map_cons,
        inductionHypothesis, small _ (by omega), small _ (by omega)]

theorem map_lowerCase_inviteTail
    (invite : Invite) :
    (inviteTail invite).map lowerCase = inviteTail invite := by
  have colon : lowerCase 58 = 58 := lowerCase_eq_colon.mpr rfl
  rw [inviteTail, List.map_append, List.map_cons, colon,
    map_lowerCase_appendHex, map_lowerCase_appendHex]

/-- A text in another letter case has the formatted front and tail. -/
theorem sameUpToHexCase_iff :
    SameUpToHexCase text (inviteFront invite ++ inviteTail invite) ↔
      ∃ tail,
        text = inviteFront invite ++ tail ∧
          tail.map lowerCase = inviteTail invite := by
  have size := length_inviteTail invite
  have cut :
      (inviteFront invite ++ inviteTail invite).length - hexTail =
        (inviteFront invite).length := by
    rw [List.length_append, size, Nat.add_sub_cancel]
  unfold SameUpToHexCase
  rw [cut, List.take_left, List.drop_left, map_lowerCase_inviteTail]
  constructor
  · rintro ⟨_, front, back⟩
    exact ⟨text.drop (text.length - hexTail),
      by rw [← front, List.take_append_drop], back⟩
  · rintro ⟨tail, rfl, back⟩
    have tailSize : tail.length = hexTail := by
      rw [← size, ← back, List.length_map]
    rw [List.length_append, List.length_append, tailSize, size,
      Nat.add_sub_cancel, List.take_left, List.drop_left]
    exact ⟨rfl, rfl, back⟩

/-- A text whose small letters are hexadecimal digits has no colon. -/
theorem colon_not_mem
    (digits : text.map lowerCase = appendHex bytes) :
    58 ∉ text := by
  intro member
  have written : 58 ∈ appendHex bytes := by
    rw [← digits]
    exact List.mem_map.mpr ⟨58, member, lowerCase_eq_colon.mpr rfl⟩
  obtain ⟨byte, _, digit⟩ := List.mem_flatMap.mp written
  have octet : byte.toNat < 256 := byte.toNat_lt
  have noColon : ∀ value, value < 16 → (58 : UInt8) ≠ hexDigit value := by
    intro value small same
    have code := toNat_hexDigit small
    rw [← same] at code
    have fixed : 58 = if value < 10 then 48 + value else 87 + value := code
    split at fixed <;> omega
  rcases List.mem_cons.mp digit with upper | lower
  · exact noColon _ (by omega) upper
  · exact noColon _ (by omega) (List.mem_singleton.mp lower)

/-- A dotted address has no colon. -/
theorem colon_not_mem_dottedOctets
    (octets : Bytes) :
    58 ∉ dottedOctets octets := by
  induction octets with
  | nil =>
      simp [dottedOctets, List.intercalate]
  | cons octet rest inductionHypothesis =>
      have clean := not_mem_decimal not_isDigit_colon octet.toNat
      cases rest with
      | nil =>
          simpa [dottedOctets, List.intercalate] using clean
      | cons second others =>
          rw [dottedOctets_cons_cons, List.mem_append, List.mem_cons]
          rintro (number | dot | later)
          · exact clean number
          · exact absurd dot (by decide)
          · exact inductionHypothesis later

/-- An invitation is read exactly from its text in either letter case. -/
theorem parseInvite_eq_some :
    parseInvite text = some invite ↔
      (allowedAddress invite.ipv4 = true ∧ invite.port ≠ 0 ∧
        invite.port ≤ 0xffff) ∧
        ∃ tail,
          text = inviteFront invite ++ tail ∧
            tail.map lowerCase = inviteTail invite := by
  unfold parseInvite
  constructor
  · intro parsed
    split at parsed
    · simp at parsed
    · next start =>
        simp only [Option.bind_eq_bind, Option.bind_eq_some_iff,
          Option.pure_def, Prod.exists] at parsed
        obtain ⟨ipText, afterIp, ipCut, portText, afterPort, portCut,
          pinText, tokenText, pinCut, ip, ipFound, port, portFound,
          parsed⟩ := parsed
        split at parsed
        · simp at parsed
        · next nonzero =>
            simp only [Option.bind_eq_some_iff,
              Option.some.injEq] at parsed
            obtain ⟨pin, pinFound, token, tokenFound, rfl⟩ := parsed
            obtain ⟨rfl, allowed⟩ := parseIp_eq_some.mp ipFound
            obtain ⟨rfl, bounded⟩ := parseDecimal_eq_some.mp portFound
            obtain ⟨ipShape, _⟩ := splitFirst_eq_some.mp ipCut
            obtain ⟨rfl, _⟩ := splitFirst_eq_some.mp portCut
            obtain ⟨rfl, _⟩ := splitFirst_eq_some.mp pinCut
            refine ⟨⟨allowed, nonzero, bounded⟩,
              pinText ++ 58 :: tokenText, ?_, ?_⟩
            · rw [← List.take_append_drop kPrefix.length text, ipShape,
                not_not.mp start]
              simp [inviteFront, endpoint]
            · rw [List.map_append, List.map_cons,
                parseHex_eq_some.mp pinFound,
                parseHex_eq_some.mp tokenFound,
                lowerCase_eq_colon.mpr rfl]
              rfl
  · rintro ⟨⟨allowed, nonzero, bounded⟩, tail, rfl, lowered⟩
    obtain ⟨pinText, later, rfl, pinDigits, laterDigits⟩ :=
      List.map_eq_append_iff.mp lowered
    obtain ⟨colon, tokenText, rfl, colonCase, tokenDigits⟩ :=
      List.map_eq_cons_iff.mp laterDigits
    obtain rfl := lowerCase_eq_colon.mp colonCase
    have shape :
        inviteFront invite ++ (pinText ++ 58 :: tokenText) =
          kPrefix ++ (dotted invite.ipv4 ++ 58 ::
            (decimal invite.port ++ 58 :: (pinText ++ 58 :: tokenText))) := by
      simp [inviteFront, endpoint]
    have noColon : 58 ∉ dotted invite.ipv4 :=
      colon_not_mem_dottedOctets invite.ipv4.bytes
    rw [shape, List.take_left, List.drop_left, if_neg (not_not.mpr rfl)]
    simp only [Option.bind_eq_bind, Option.bind_eq_some_iff,
      Option.pure_def, Prod.exists]
    refine ⟨dotted invite.ipv4, _, splitFirst_eq_some.mpr ⟨rfl, noColon⟩,
      decimal invite.port, _,
      splitFirst_eq_some.mpr
        ⟨rfl, not_mem_decimal not_isDigit_colon invite.port⟩,
      pinText, tokenText,
      splitFirst_eq_some.mpr ⟨rfl, colon_not_mem pinDigits⟩,
      invite.ipv4, parseIp_eq_some.mpr ⟨rfl, allowed⟩,
      invite.port, parseDecimal_eq_some.mpr ⟨rfl, bounded⟩, ?_⟩
    rw [if_neg nonzero]
    simp only [Option.bind_eq_some_iff]
    exact ⟨invite.spkiPin, parseHex_eq_some.mpr pinDigits,
      invite.token, parseHex_eq_some.mpr tokenDigits, rfl⟩

/--
The parser accepts a text as an invitation exactly when the text is the formatted
invitation up to the letter case of the digits of pin and token.  Formatted
invitations are read back, and a refused text leaves the caller's invitation as
it was.
-/
theorem invite_grammar :
    (∀ (text : Bytes) (invite : Invite),
      parseInvite text = some invite ↔
        invite.port ≤ 0xffff ∧
          ∃ formatted,
            formatInvite invite = some formatted ∧
              SameUpToHexCase text formatted) ∧
    (∀ (text : Bytes) (invite : Invite),
      parseInvite text = some invite →
        allowedAddress invite.ipv4 = true ∧
          1 ≤ invite.port ∧ invite.port ≤ 0xffff) ∧
    (∀ (invite : Invite) (formatted : Bytes),
      invite.port ≤ 0xffff →
        formatInvite invite = some formatted →
          parseInvite formatted = some invite) ∧
    ∀ (text : Bytes) (out : Invite),
      ((parseInviteInto text out).1 = true ↔
        (parseInvite text).isSome = true) ∧
      ((parseInviteInto text out).1 = false →
        (parseInviteInto text out).2 = out) := by
  refine ⟨?_, ?_, ?_, ?_⟩
  · intro text invite
    simp only [parseInvite_eq_some, formatInvite_eq_some]
    constructor
    · rintro ⟨⟨allowed, nonzero, bounded⟩, variant⟩
      exact ⟨bounded, _, ⟨⟨allowed, nonzero⟩, rfl⟩,
        sameUpToHexCase_iff.mpr variant⟩
    · rintro ⟨bounded, _, ⟨⟨allowed, nonzero⟩, rfl⟩, variant⟩
      exact ⟨⟨allowed, nonzero, bounded⟩, sameUpToHexCase_iff.mp variant⟩
  · intro text invite parsed
    obtain ⟨⟨allowed, nonzero, bounded⟩, _⟩ := parseInvite_eq_some.mp parsed
    exact ⟨allowed, Nat.pos_of_ne_zero nonzero, bounded⟩
  · intro invite formatted bounded written
    obtain ⟨⟨allowed, nonzero⟩, rfl⟩ := formatInvite_eq_some.mp written
    exact parseInvite_eq_some.mpr ⟨⟨allowed, nonzero, bounded⟩,
      inviteTail invite, rfl, map_lowerCase_inviteTail invite⟩
  · intro text out
    unfold parseInviteInto
    cases parseInvite text <;> simp

/-- A capital letter in a pin is accepted where a small one is written. -/
theorem invite_grammar_of_capitals :
    parseInvite
        (ascii "flynes-lan-v1:192.168.1.20:4242:" ++
          List.replicate 64 65 ++ 58 :: List.replicate 32 48) =
      some
        { ipv4 := ⟨[192, 168, 1, 20], rfl⟩
          port := 4242
          spkiPin := ⟨List.replicate 32 0xaa, List.length_replicate⟩
          token := Block.zero 16 } :=
  (invite_grammar.1 _ _).mpr
    ⟨by decide,
      ascii "flynes-lan-v1:192.168.1.20:4242:" ++
        List.replicate 64 97 ++ 58 :: List.replicate 32 48,
      by decide +kernel, by decide +kernel, by decide +kernel,
      by decide +kernel⟩

end FlyNes.LanMvp
