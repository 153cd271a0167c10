import FlyNes.ByteString

namespace FlyNes.Wire

open ByteString

/-!
# SHA-256 and domain hashes

Words are natural numbers below `2 ^ 32`; every sum is reduced.  A domain hash
is the SHA-256 of a domain name, the size of the data and the data.
-/

/-- The 64 round constants. -/
def kK : List Nat :=
  [0x428A2F98, 0x71374491, 0xB5C0FBCF, 0xE9B5DBA5, 0x3956C25B, 0x59F111F1,
    0x923F82A4, 0xAB1C5ED5, 0xD807AA98, 0x12835B01, 0x243185BE, 0x550C7DC3,
    0x72BE5D74, 0x80DEB1FE, 0x9BDC06A7, 0xC19BF174, 0xE49B69C1, 0xEFBE4786,
    0x0FC19DC6, 0x240CA1CC, 0x2DE92C6F, 0x4A7484AA, 0x5CB0A9DC, 0x76F988DA,
    0x983E5152, 0xA831C66D, 0xB00327C8, 0xBF597FC7, 0xC6E00BF3, 0xD5A79147,
    0x06CA6351, 0x14292967, 0x27B70A85, 0x2E1B2138, 0x4D2C6DFC, 0x53380D13,
    0x650A7354, 0x766A0ABB, 0x81C2C92E, 0x92722C85, 0xA2BFE8A1, 0xA81A664B,
    0xC24B8B70, 0xC76C51A3, 0xD192E819, 0xD6990624, 0xF40E3585, 0x106AA070,
    0x19A4C116, 0x1E376C08, 0x2748774C, 0x34B0BCB5, 0x391C0CB3, 0x4ED8AA4A,
    0x5B9CCA4F, 0x682E6FF3, 0x748F82EE, 0x78A5636F, 0x84C87814, 0x8CC70208,
    0x90BEFFFA, 0xA4506CEB, 0xBEF9A3F7, 0xC67178F2]

/-- The eight words of the state. -/
structure HashState where
  a : Nat
  b : Nat
  c : Nat
  d : Nat
  e : Nat
  f : Nat
  g : Nat
  h : Nat
deriving DecidableEq

/-- Reduce a sum of words. -/
def word (value : Nat) : Nat :=
  value % 2 ^ 32

def rotr (value bits : Nat) : Nat :=
  word (value >>> bits ||| value <<< (32 - bits))

/-- The next word of the schedule, from the latest sixteen, newest first. -/
def nextWord (latest : List Nat) : Nat :=
  let recent := latest.getD 1 0
  let early := latest.getD 14 0
  let s1 := rotr recent 17 ^^^ rotr recent 19 ^^^ recent >>> 10
  let s0 := rotr early 7 ^^^ rotr early 18 ^^^ early >>> 3
  word (latest.getD 15 0 + s0 + latest.getD 6 0 + s1)

/-- Append words to a schedule that is kept newest first. -/
def extendSchedule : Nat → List Nat → List Nat
  | 0, latest => latest
  | count + 1, latest =>
      extendSchedule count (nextWord latest :: latest)

/-- The big-endian words of a byte string. -/
def wordsOf : Bytes → List Nat
  | first :: second :: third :: fourth :: rest =>
      fromBigEndian [first, second, third, fourth] :: wordsOf rest
  | _ => []

/-- One of the 64 rounds, with its constant and its word. -/
def round (state : HashState) (input : Nat × Nat) : HashState :=
  let s1 := rotr state.e 6 ^^^ rotr state.e 11 ^^^ rotr state.e 25
  let choice :=
    (state.e &&& state.f) ^^^ ((2 ^ 32 - 1 - state.e) &&& state.g)
  let t1 := word (state.h + s1 + choice + input.1 + input.2)
  let s0 := rotr state.a 2 ^^^ rotr state.a 13 ^^^ rotr state.a 22
  let majority :=
    (state.a &&& state.b) ^^^ (state.a &&& state.c) ^^^ (state.b &&& state.c)
  let t2 := word (s0 + majority)
  { a := word (t1 + t2)
    b := state.a
    c := state.b
    d := state.c
    e := word (state.d + t1)
    f := state.e
    g := state.f
    h := state.g }

/-- Mix one block of 64 bytes into the state. -/
def block (state : HashState) (data : Bytes) : HashState :=
  let schedule := (extendSchedule 48 (wordsOf data).reverse).reverse
  let mixed := (kK.zip schedule).foldl round state
  { a := word (state.a + mixed.a)
    b := word (state.b + mixed.b)
    c := word (state.c + mixed.c)
    d := word (state.d + mixed.d)
    e := word (state.e + mixed.e)
    f := word (state.f + mixed.f)
    g := word (state.g + mixed.g)
    h := word (state.h + mixed.h) }

def initialState : HashState where
  a := 0x6A09E667
  b := 0xBB67AE85
  c := 0x3C6EF372
  d := 0xA54FF53A
  e := 0x510E527F
  f := 0x9B05688C
  g := 0x1F83D9AB
  h := 0x5BE0CD19

/-- Mix the first `count` blocks of the data. -/
def blocks : Nat → HashState → Bytes → HashState
  | 0, state, _ => state
  | count + 1, state, data =>
      blocks count (block state (data.take 64)) (data.drop 64)

/-- The last bytes with their padding, one or two blocks long. -/
def paddedTail (size : Nat) (tail : Bytes) : Bytes :=
  let padded := if tail.length < 56 then 64 else 128
  tail ++ [0x80] ++ List.replicate (padded - 9 - tail.length) 0 ++
    bigEndian 8 (size * 8)

/-- The big-endian words of a state. -/
def HashState.digest (state : HashState) : Block 32 where
  bytes :=
    bigEndian 4 state.a ++ bigEndian 4 state.b ++ bigEndian 4 state.c ++
      bigEndian 4 state.d ++ bigEndian 4 state.e ++ bigEndian 4 state.f ++
      bigEndian 4 state.g ++ bigEndian 4 state.h
  sized := by simp

def sha256 (data : Bytes) : Block 32 :=
  let full := data.length / 64
  let tail := paddedTail data.length (data.drop (full * 64))
  (blocks (tail.length / 64) (blocks full initialState data) tail).digest

example :
    (sha256 [0x61, 0x62, 0x63]).bytes.take 8 =
      [0xba, 0x78, 0x16, 0xbf, 0x8f, 0x01, 0xcf, 0xea] := by
  decide +kernel

/-- A domain name, the size of the data and the data. -/
def preimage (domain data : Bytes) : Bytes :=
  domain ++ bigEndian 4 data.length ++ data

def domainHash (domain data : Bytes) : Block 32 :=
  sha256 (preimage domain data)

/-- The size of the data starts with a zero, which no name holds. -/
theorem takeWhile_preimage
    {domain data : Bytes}
    (named : 0 ∉ domain)
    (small : data.length < 2 ^ 24) :
    (preimage domain data).takeWhile (· != 0) = domain := by
  have high : data.length / 256 ^ 3 = 0 := Nat.div_eq_of_lt small
  rw [preimage, List.append_assoc, List.takeWhile_append_of_pos, bigEndian, high]
  · simp
  · intro letter member
    exact bne_iff_ne.mpr fun zero => named (zero ▸ member)

/--
Different names, and different data of less than 16 MiB, are hashed as different
bytes.
-/
theorem domains_separated
    {first second data other : Bytes}
    (named : 0 ∉ first)
    (named' : 0 ∉ second)
    (small : data.length < 2 ^ 24)
    (small' : other.length < 2 ^ 24) :
    domainHash first data = sha256 (preimage first data) ∧
      (preimage first data = preimage second other ↔ first = second ∧ data = other) := by
  refine ⟨rfl, fun same => ?_, fun ⟨domain, bytes⟩ => by rw [domain, bytes]⟩
  have domain : first = second := by
    rw [← takeWhile_preimage named small, same, takeWhile_preimage named' small']
  refine ⟨domain, List.append_inj_right same ?_⟩
  simp [domain]

/-- A name that goes on with what is the data of the other one. -/
theorem continued_domains_separated :
    preimage [0x66, 0x6C] [0x79, 7] ≠ preimage [0x66, 0x6C, 0x79] [7] := by
  intro same
  have separated :=
    @domains_separated [0x66, 0x6C] [0x66, 0x6C, 0x79] [0x79, 7] [7]
      (by decide) (by decide) (by decide) (by decide)
  cases (separated.2.mp same).1

end FlyNes.Wire
