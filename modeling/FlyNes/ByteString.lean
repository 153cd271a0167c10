import Mathlib.Data.List.Basic
import Mathlib.Tactic.Ring

namespace ByteString

/-!
# Byte strings, fixed-size blocks and big-endian integers

A byte string is a list of octets.  A `Block` carries the proof of its size, so
that a 32-byte hash cannot be built from 31 bytes.  Big-endian words are written
most significant octet first and read back by accumulation.
-/

/-- The ports of a console are numbered below four. -/
instance neZero_four : NeZero 4 :=
  ⟨by decide⟩

/-- A finite byte string. -/
abbrev Bytes := List UInt8

/-- A byte string of a fixed size. -/
structure Block (size : Nat) where
  bytes : Bytes
  sized : bytes.length = size
deriving DecidableEq

namespace Block

variable {size : Nat}

/-- Blocks are determined by their bytes. -/
@[ext] theorem ext
    {first second : Block size}
    (same : first.bytes = second.bytes) :
    first = second := by
  cases first
  cases second
  simp_all

/-- The all-zero block. -/
def zero (size : Nat) : Block size where
  bytes := List.replicate size 0
  sized := List.length_replicate

/-- Copy the first `size` octets of a byte string, zero-filling a short one. -/
def copy (size : Nat) (source : Bytes) : Block size where
  bytes := (source ++ List.replicate size 0).take size
  sized := by simp

instance (size : Nat) : Inhabited (Block size) :=
  ⟨zero size⟩

/-- Copying from a long enough source keeps exactly its first octets. -/
theorem bytes_copy_of_le
    {source : Bytes}
    (enough : size ≤ source.length) :
    (copy size source).bytes = source.take size := by
  simp [copy, List.take_append_of_le_length enough]

/-- Copying a block back from the front of a longer string returns the block. -/
@[simp] theorem copy_append
    (block : Block size)
    (rest : Bytes) :
    copy size (block.bytes ++ rest) = block := by
  ext1
  have enough : size ≤ (block.bytes ++ rest).length := by
    simp [block.sized]
  rw [bytes_copy_of_le enough, List.take_append_of_le_length
    (Nat.le_of_eq block.sized.symm)]
  exact List.take_of_length_le (Nat.le_of_eq block.sized)

/-- Copying a block from its own bytes returns the block. -/
@[simp] theorem copy_bytes
    (block : Block size) :
    copy size block.bytes = block := by
  simpa using copy_append block []

end Block

/-- The `width` big-endian octets of a natural number, high octet first. -/
def bigEndian : Nat → Nat → Bytes
  | 0, _ => []
  | width + 1, value =>
      UInt8.ofNat (value / 256 ^ width) :: bigEndian width value

/-- Read a big-endian natural number by accumulating octets. -/
def fromBigEndian (bytes : Bytes) : Nat :=
  bytes.foldl (fun value byte => value * 256 + byte.toNat) 0

/-- A big-endian word has as many octets as its width. -/
@[simp] theorem length_bigEndian
    (width value : Nat) :
    (bigEndian width value).length = width := by
  induction width with
  | zero =>
      rfl
  | succ width inductionHypothesis =>
      simp [bigEndian, inductionHypothesis]

/-- Accumulating from a nonzero start shifts the start past the word. -/
theorem foldl_bigEndian
    (width value start : Nat) :
    (bigEndian width value).foldl
        (fun sum byte => sum * 256 + byte.toNat) start =
      start * 256 ^ width + value % 256 ^ width := by
  induction width generalizing start with
  | zero =>
      simp [bigEndian, Nat.mod_one]
  | succ width inductionHypothesis =>
      have highOctet :
          (UInt8.ofNat (value / 256 ^ width)).toNat =
            value / 256 ^ width % 256 := by
        simp
      have splitting :
          value % 256 ^ (width + 1) =
            256 ^ width * (value / 256 ^ width % 256) +
              value % 256 ^ width := by
        rw [Nat.pow_succ, Nat.mod_mul, Nat.add_comm]
      simp only [bigEndian, List.foldl_cons]
      rw [inductionHypothesis, highOctet, splitting]
      ring

/-- Reading back a written word reduces it modulo the word size. -/
@[simp] theorem fromBigEndian_bigEndian
    (width value : Nat) :
    fromBigEndian (bigEndian width value) = value % 256 ^ width := by
  simpa [fromBigEndian] using foldl_bigEndian width value 0

/-- Accumulating octets stays below the word size. -/
theorem foldl_lt
    (bytes : Bytes)
    (start : Nat) :
    bytes.foldl (fun sum byte => sum * 256 + byte.toNat) start <
      (start + 1) * 256 ^ bytes.length := by
  induction bytes generalizing start with
  | nil =>
      simp
  | cons byte rest inductionHypothesis =>
      have octet : byte.toNat < 256 := byte.toNat_lt
      have grown : start * 256 + byte.toNat + 1 ≤ (start + 1) * 256 := by
        omega
      calc
        (byte :: rest).foldl
            (fun sum byte => sum * 256 + byte.toNat) start
            < (start * 256 + byte.toNat + 1) * 256 ^ rest.length :=
              inductionHypothesis _
        _ ≤ (start + 1) * 256 * 256 ^ rest.length :=
              Nat.mul_le_mul_right _ grown
        _ = (start + 1) * 256 ^ (byte :: rest).length := by
              rw [List.length_cons, Nat.pow_succ]
              ring

/-- A word read from `n` octets is below `256 ^ n`. -/
theorem fromBigEndian_lt
    (bytes : Bytes) :
    fromBigEndian bytes < 256 ^ bytes.length := by
  simpa [fromBigEndian] using foldl_lt bytes 0

/-- A start value is shifted past the octets that follow it. -/
theorem foldl_shift
    (bytes : Bytes)
    (start : Nat) :
    bytes.foldl (fun sum byte => sum * 256 + byte.toNat) start =
      start * 256 ^ bytes.length + fromBigEndian bytes := by
  induction bytes generalizing start with
  | nil =>
      simp [fromBigEndian]
  | cons byte rest inductionHypothesis =>
      have later := inductionHypothesis (start * 256 + byte.toNat)
      have fromZero := inductionHypothesis (0 * 256 + byte.toNat)
      simp only [fromBigEndian, List.foldl_cons, List.length_cons] at later fromZero ⊢
      rw [later, fromZero, Nat.pow_succ]
      ring

/-- Writing the word that octets read as returns the octets. -/
theorem bigEndian_foldl
    (bytes : Bytes)
    (start : Nat) :
    bigEndian bytes.length
        (bytes.foldl (fun sum byte => sum * 256 + byte.toNat) start) =
      bytes := by
  induction bytes generalizing start with
  | nil =>
      rfl
  | cons byte rest inductionHypothesis =>
      have below := fromBigEndian_lt rest
      have highOctet :
          rest.foldl (fun sum byte => sum * 256 + byte.toNat)
              (start * 256 + byte.toNat) / 256 ^ rest.length =
            start * 256 + byte.toNat := by
        rw [foldl_shift, Nat.mul_comm, Nat.mul_add_div (Nat.pow_pos (by decide)),
          Nat.div_eq_of_lt below, Nat.add_zero]
      rw [List.length_cons, bigEndian, List.foldl_cons, highOctet,
        inductionHypothesis]
      congr 1
      apply UInt8.toNat_inj.mp
      have octet : byte.toNat < 256 := byte.toNat_lt
      rw [UInt8.toNat_ofNat']
      omega

@[simp] theorem bigEndian_fromBigEndian
    (bytes : Bytes) :
    bigEndian bytes.length (fromBigEndian bytes) = bytes :=
  bigEndian_foldl bytes 0

end ByteString
