import FlyNes.ByteReader

namespace ByteWriter

open ByteString

/-!
# Writing values into a bounded byte string

A writer appends to the bytes that have been written, and gives up where they would
become too many.  What it writes is known beforehand: a writer fails only for a value
that has no format or for want of room.
-/

/-- What has been written, and more. -/
abbrev Write := Bytes → Option Bytes

section Primitives

variable (limit : Nat)

def putU8 (value : UInt8) : Write :=
  fun bytes => if limit ≤ bytes.length then none else some (bytes ++ [value])

/-- A word of 32 bits, octet by octet. -/
def putU32 (value : UInt32) : Write :=
  putU8 limit value.toUInt8 >=> putU8 limit (value >>> 8).toUInt8 >=>
    putU8 limit (value >>> 16).toUInt8 >=> putU8 limit (value >>> 24).toUInt8

/-- A word of 64 bits, the low half first. -/
def putU64 (value : UInt64) : Write :=
  putU32 limit value.toUInt32 >=> putU32 limit (value >>> 32).toUInt32

def putBytes (data : Bytes) : Write :=
  fun bytes =>
    if limit - bytes.length < data.length then none else some (bytes ++ data)

/-- Bytes behind their size, of which there is a maximum. -/
def putBlob (maximum : Nat) (data : Bytes) : Write :=
  fun bytes =>
    if maximum < data.length then none
    else (putU32 limit (UInt32.ofNat data.length) >=> putBytes limit data) bytes

end Primitives

/-- One value after another. -/
def putMany {Value : Type} (write : Value → Write) : List Value → Write
  | [] => some
  | value :: rest => write value >=> putMany write rest

/-- What is written, if the value fits and there is room. -/
def Puts (limit : Nat) (write : Write) (fits : Prop) (data : Bytes) : Prop :=
  ∀ bytes, bytes.length ≤ limit → ∀ result,
    write bytes = some result ↔
      fits ∧ bytes.length + data.length ≤ limit ∧ result = bytes ++ data

section Formats

variable {limit : Nat} {first second : Write} {fits fits' : Prop} {data data' : Bytes}

theorem puts_nil : Puts limit some True [] := by
  intro bytes within result
  constructor
  · intro written
    exact ⟨trivial, within, by rw [List.append_nil, Option.some.inj written]⟩
  · rintro ⟨-, -, rfl⟩
    rw [List.append_nil]

/-- One format behind another. -/
theorem Puts.append
    (puts : Puts limit first fits data)
    (puts' : Puts limit second fits' data') :
    Puts limit (first >=> second) (fits ∧ fits') (data ++ data') := by
  intro bytes within result
  rw [List.length_append, ← Nat.add_assoc]
  constructor
  · intro written
    obtain ⟨middle, left, right⟩ := Option.bind_eq_some_iff.mp written
    obtain ⟨fit, room, rfl⟩ := (puts bytes within middle).mp left
    rw [← List.length_append] at room
    obtain ⟨fit', room', rfl⟩ := (puts' _ room result).mp right
    rw [List.length_append] at room'
    exact ⟨⟨fit, fit'⟩, room', List.append_assoc _ _ _⟩
  · rintro ⟨⟨fit, fit'⟩, room, rfl⟩
    refine Option.bind_eq_some_iff.mpr ⟨bytes ++ data, ?_, ?_⟩
    · exact (puts bytes within _).mpr ⟨fit, by omega, rfl⟩
    · refine (puts' _ ?_ _).mpr ⟨fit', ?_, (List.append_assoc _ _ _).symm⟩
      · rw [List.length_append]
        omega
      · rw [List.length_append]
        exact room

/-- The same format, said otherwise. -/
theorem Puts.of_eq
    (puts : Puts limit first fits data)
    (fit : fits ↔ fits')
    (same : data = data') :
    Puts limit first fits' data' := by
  subst same
  intro bytes within result
  rw [puts bytes within result, fit]

theorem puts_putBytes (data : Bytes) : Puts limit (putBytes limit data) True data := by
  intro bytes within result
  unfold putBytes
  by_cases room : bytes.length + data.length ≤ limit
  · rw [if_neg (by omega)]
    constructor
    · intro written
      exact ⟨trivial, room, (Option.some.inj written).symm⟩
    · rintro ⟨-, -, rfl⟩
      rfl
  · rw [if_pos (by omega)]
    constructor
    · intro written
      cases written
    · rintro ⟨-, enough, -⟩
      exact absurd enough room

theorem puts_putU8 (value : UInt8) : Puts limit (putU8 limit value) True [value] := by
  intro bytes within result
  rw [← puts_putBytes [value] bytes within result]
  have same : limit ≤ bytes.length ↔ limit - bytes.length < [value].length := by
    rw [List.length_singleton]
    omega
  simp only [putU8, putBytes, same]

/-- The octets of a word, the low one first. -/
theorem putU32_octets (value : UInt32) :
    ByteReader.putU32 value =
      [value.toUInt8, (value >>> 8).toUInt8, (value >>> 16).toUInt8,
        (value >>> 24).toUInt8] := by
  have octet (shift : UInt32) (exponent : Nat)
      (small : shift.toNat % 32 = 8 * exponent) :
      (value >>> shift).toUInt8 = UInt8.ofNat (value.toNat / 256 ^ exponent) := by
    apply UInt8.toNat_inj.mp
    rw [UInt32.toNat_toUInt8, UInt32.toNat_shiftRight, small, Nat.shiftRight_eq_div_pow,
      Nat.pow_mul]
    simp
  have lowest : value.toUInt8 = UInt8.ofNat (value.toNat / 256 ^ 0) := by
    apply UInt8.toNat_inj.mp
    simp
  rw [octet 8 1 rfl, octet 16 2 rfl, octet 24 3 rfl, lowest]
  rfl

theorem puts_putU32 (value : UInt32) :
    Puts limit (putU32 limit value) True (ByteReader.putU32 value) := by
  refine Puts.of_eq
    ((puts_putU8 _).append ((puts_putU8 _).append ((puts_putU8 _).append (puts_putU8 _))))
    (by simp) ?_
  rw [putU32_octets]
  rfl

theorem puts_putU64 (value : UInt64) :
    Puts limit (putU64 limit value) True (ByteReader.putU64 value) := by
  refine Puts.of_eq ((puts_putU32 _).append (puts_putU32 _)) (by simp) ?_
  rw [← ByteReader.putU64_halves]
  congr 1
  apply UInt64.toNat_inj.mp
  have below := value.toNat_lt
  simp only [UInt64.toNat_toUInt32, UInt64.toNat_shiftRight, UInt64.toNat_ofNat',
    Nat.shiftRight_eq_div_pow]
  simp
  omega

theorem puts_putBlob (maximum : Nat) (data : Bytes) :
    Puts limit (putBlob limit maximum data) (data.length ≤ maximum)
      (ByteReader.putU32 (UInt32.ofNat data.length) ++ data) := by
  intro bytes within result
  have inner :=
    (puts_putU32 (UInt32.ofNat data.length)).append (puts_putBytes data) bytes within result
  unfold putBlob
  by_cases few : data.length ≤ maximum
  · rw [if_neg (by omega), inner]
    simp [few]
  · rw [if_pos (by omega)]
    simp [few]

theorem puts_putMany
    {Value : Type}
    {write : Value → Write}
    {fits : Value → Prop}
    {format : Value → Bytes}
    (puts : ∀ value, Puts limit (write value) (fits value) (format value))
    (values : List Value) :
    Puts limit (putMany write values) (∀ value ∈ values, fits value)
      (values.flatMap format) := by
  induction values with
  | nil => exact puts_nil.of_eq (by simp) rfl
  | cons value rest inductionHypothesis =>
      exact ((puts value).append inductionHypothesis).of_eq
        List.forall_mem_cons.symm List.flatMap_cons.symm

end Formats

end ByteWriter
