import FlyNes.ByteString

namespace ByteReader

open ByteString

/-!
# Reading values from a byte string

A reader stands at an offset of its bytes.  It takes a value only if enough bytes
remain, and every access to the bytes is checked on its own, so that an access
outside of them would show.  A reader and a writer agree on a format when what is
taken is exactly what is written for the value.
-/

/-- The low octet comes first. -/
def littleEndian (width value : Nat) : Bytes :=
  (bigEndian width value).reverse

def fromLittleEndian (bytes : Bytes) : Nat :=
  fromBigEndian bytes.reverse

@[simp] theorem length_littleEndian (width value : Nat) :
    (littleEndian width value).length = width := by
  simp [littleEndian]

theorem fromLittleEndian_littleEndian (width value : Nat) :
    fromLittleEndian (littleEndian width value) = value % 256 ^ width := by
  simp [fromLittleEndian, littleEndian]

theorem littleEndian_fromLittleEndian (bytes : Bytes) :
    littleEndian bytes.length (fromLittleEndian bytes) = bytes := by
  have written := bigEndian_fromBigEndian bytes.reverse
  rw [List.length_reverse] at written
  simp [littleEndian, fromLittleEndian, written]

theorem fromLittleEndian_lt (bytes : Bytes) :
    fromLittleEndian bytes < 256 ^ bytes.length := by
  simpa [fromLittleEndian] using fromBigEndian_lt bytes.reverse

theorem fromLittleEndian_append (first second : Bytes) :
    fromLittleEndian (first ++ second) =
      fromLittleEndian first + fromLittleEndian second * 256 ^ first.length := by
  simp only [fromLittleEndian, fromBigEndian, List.reverse_append, List.foldl_append]
  rw [foldl_shift first.reverse, List.length_reverse, Nat.add_comm]
  rfl

theorem zero_within (bytes : Bytes) : 0 ≤ bytes.length :=
  Nat.zero_le _

/-- Bytes and how many of them have been taken. -/
structure Reader where
  bytes : Bytes
  offset : Nat := 0
  within : offset ≤ bytes.length := by exact ByteReader.zero_within _
deriving DecidableEq

/-- A format stops a reader, or an access leaves its bytes. -/
inductive Stop where
  | rejected
  | outside
deriving DecidableEq

abbrev Read := StateT Reader (Except Stop)

namespace Reader

/-- Whether some more bytes are left. -/
def remaining (reader : Reader) (size : Nat) : Bool :=
  decide (reader.offset ≤ reader.bytes.length) &&
    decide (size ≤ reader.bytes.length - reader.offset)

/-- Access the next bytes, wherever they are. -/
def access (reader : Reader) (size : Nat) : Except Stop Bytes :=
  if reader.offset + size ≤ reader.bytes.length then
    .ok ((reader.bytes.drop reader.offset).take size)
  else
    .error .outside

/-- The reader behind its next bytes, at most at the end. -/
def skip (reader : Reader) (size : Nat) : Reader where
  bytes := reader.bytes
  offset := min (reader.offset + size) reader.bytes.length
  within := Nat.min_le_right _ _

/-- The next bytes are these. -/
def Holds (reader : Reader) (bytes : Bytes) : Prop :=
  reader.offset + bytes.length ≤ reader.bytes.length ∧
    (reader.bytes.drop reader.offset).take bytes.length = bytes

def atEnd (reader : Reader) : Bool :=
  reader.offset == reader.bytes.length

end Reader

def reject {Value : Type} : Read Value :=
  fun _ => .error .rejected

/-- Go on only under a condition. -/
def require (condition : Bool) : Read Unit :=
  if condition then pure () else reject

def takeBytes (size : Nat) : Read Bytes :=
  fun reader =>
    if reader.remaining size then
      match reader.access size with
      | .error stop => .error stop
      | .ok bytes => .ok (bytes, reader.skip size)
    else
      .error .rejected

def takeU8 : Read UInt8 := do
  let bytes ← takeBytes 1
  return bytes.headD 0

/-- A word of 32 bits, octet by octet. -/
def takeU32 : Read UInt32 := do
  let b0 ← takeU8
  let b1 ← takeU8
  let b2 ← takeU8
  let b3 ← takeU8
  return UInt32.ofNat (fromLittleEndian [b0, b1, b2, b3])

/-- A word of 64 bits, the low half first. -/
def takeU64 : Read UInt64 := do
  let low ← takeU32
  let high ← takeU32
  return UInt64.ofNat (low.toNat + high.toNat * 2 ^ 32)

/-- Bytes into an array of a fixed size. -/
def takeBlock (size : Nat) : Read (Block size) := do
  let bytes ← takeBytes size
  return Block.copy size bytes

/-- One value after another. -/
def takeMany {Value : Type} (read : Read Value) : Nat → Read (List Value)
  | 0 => return []
  | count + 1 => do
      let value ← read
      let rest ← takeMany read count
      return value :: rest

def putU32 (value : UInt32) : Bytes :=
  littleEndian 4 value.toNat

def putU64 (value : UInt64) : Bytes :=
  littleEndian 8 value.toNat

@[simp] theorem length_putU32 (value : UInt32) : (putU32 value).length = 4 := by
  simp [putU32]

@[simp] theorem length_putU64 (value : UInt64) : (putU64 value).length = 8 := by
  simp [putU64]

/-! ### What a reader holds -/

namespace Reader

variable {reader : Reader} {first second : Bytes}

@[simp] theorem skip_bytes (size : Nat) : (reader.skip size).bytes = reader.bytes :=
  rfl

@[ext] theorem ext
    {reader other : Reader}
    (bytes : reader.bytes = other.bytes)
    (offset : reader.offset = other.offset) :
    reader = other := by
  cases reader
  cases other
  simp_all

@[simp] theorem skip_skip (size more : Nat) :
    (reader.skip size).skip more = reader.skip (size + more) := by
  ext1
  · rfl
  · simp only [skip]
    omega

@[simp] theorem skip_zero : reader.skip 0 = reader := by
  ext1
  · rfl
  · have := reader.within
    simp only [skip]
    omega

/-- One format behind another. -/
theorem holds_append :
    reader.Holds (first ++ second) ↔
      reader.Holds first ∧ (reader.skip first.length).Holds second := by
  unfold Holds
  rw [List.length_append, List.take_add]
  have offset (within : reader.offset + first.length ≤ reader.bytes.length) :
      (reader.skip first.length).offset = reader.offset + first.length :=
    Nat.min_eq_left within
  constructor
  · rintro ⟨within, same⟩
    have sized : ((reader.bytes.drop reader.offset).take first.length).length =
        first.length := by
      rw [List.length_take, List.length_drop]
      omega
    obtain ⟨left, right⟩ := List.append_inj same sized
    rw [offset (by omega), skip_bytes, ← List.drop_drop]
    exact ⟨⟨by omega, left⟩, by omega, right⟩
  · rintro ⟨⟨start, left⟩, within, right⟩
    rw [offset start, skip_bytes] at within right
    rw [← List.drop_drop] at right
    exact ⟨by omega, by rw [left, right]⟩

@[simp] theorem holds_nil : reader.Holds [] :=
  ⟨reader.within, rfl⟩

theorem holds_whole (bytes : Bytes) : ({ bytes } : Reader).Holds bytes := by
  simp [Holds]

end Reader

/-- A reader takes exactly what a writer writes for the values that fit. -/
def Codes
    {Value : Type}
    (read : Read Value)
    (write : Value → Bytes)
    (fits : Value → Prop) : Prop :=
  ∀ reader value after,
    read reader = .ok (value, after) ↔
      fits value ∧ reader.Holds (write value) ∧ after = reader.skip (write value).length

/-- No access leaves the bytes. -/
def Safe {Value : Type} (read : Read Value) : Prop :=
  ∀ reader, read reader ≠ .error .outside

section Formats

variable {Value Next : Type} {read : Read Value} {next : Value → Read Next}

variable {after reader : Reader} {result : Next}

theorem bind_eq_ok :
    (read >>= next) reader = .ok (result, after) ↔
      ∃ value middle, read reader = .ok (value, middle) ∧
        next value middle = .ok (result, after) := by
  change Except.bind (read reader) _ = _ ↔ _
  cases read reader with
  | error stop => simp [Except.bind]
  | ok pair =>
      obtain ⟨value, middle⟩ := pair
      constructor
      · intro later
        exact ⟨value, middle, rfl, later⟩
      · rintro ⟨_, _, ⟨⟩, later⟩
        exact later

theorem pure_eq_ok {value result : Value} :
    (pure value : Read Value) reader = .ok (result, after) ↔
      value = result ∧ reader = after := by
  change Except.ok (value, reader) = _ ↔ _
  simp

variable {reader after : Reader}

theorem get_bind_eq_ok
    {next : Reader → Read Next} :
    (get >>= next) reader = .ok (result, after) ↔
      next reader reader = .ok (result, after) :=
  Iff.rfl

theorem require_bind_eq_ok
    {condition : Bool}
    {next : Unit → Read Next} :
    (require condition >>= next) reader = .ok (result, after) ↔
      condition = true ∧ next () reader = .ok (result, after) := by
  cases condition with
  | true =>
      rw [ByteReader.bind_eq_ok]
      constructor
      · rintro ⟨_, _, passed, later⟩
        cases passed
        exact ⟨rfl, later⟩
      · rintro ⟨-, later⟩
        exact ⟨(), reader, rfl, later⟩
  | false =>
      rw [ByteReader.bind_eq_ok]
      simp [require, reject]

variable {write : Value → Bytes} {fits : Value → Prop}

/-- What a format is followed by. -/
theorem Codes.bind_eq_ok
    (codes : Codes read write fits) :
    (read >>= next) reader = .ok (result, after) ↔
      ∃ value, fits value ∧ reader.Holds (write value) ∧
        next value (reader.skip (write value).length) = .ok (result, after) := by
  rw [ByteReader.bind_eq_ok]
  constructor
  · rintro ⟨value, middle, taken, later⟩
    obtain ⟨fit, holds, rfl⟩ := (codes _ _ _).mp taken
    exact ⟨value, fit, holds, later⟩
  · rintro ⟨value, fit, holds, later⟩
    exact ⟨value, _, (codes _ _ _).mpr ⟨fit, holds, rfl⟩, later⟩

/-- No format of a value is the beginning of another one. -/
theorem Codes.eq_of_isPrefix
    (codes : Codes read write fits)
    {first second : Value}
    (fit : fits first)
    (fit' : fits second)
    (begins : write first <+: write second) :
    first = second := by
  obtain ⟨rest, shape⟩ := begins
  have whole := Reader.holds_whole (write second)
  have front := whole
  rw [← shape, Reader.holds_append] at front
  rw [shape] at front
  have read := (codes _ _ _).mpr ⟨fit, front.1, rfl⟩
  have read' := (codes _ _ _).mpr ⟨fit', whole, rfl⟩
  exact (Prod.mk.inj (Except.ok.inj (read.symm.trans read'))).1

theorem Safe.bind
    (safe : Safe read)
    (later : ∀ value, Safe (next value)) :
    Safe (read >>= next) := by
  intro reader
  change Except.bind (read reader) _ ≠ _
  cases taken : read reader with
  | error stop =>
      intro outside
      cases outside
      exact safe reader taken
  | ok pair => exact later pair.1 pair.2

theorem safe_pure (value : Value) : Safe (pure value) := by
  intro reader outside
  cases outside

theorem safe_reject : Safe (reject : Read Value) := by
  intro reader outside
  cases outside

theorem safe_get : Safe (get : Read Reader) := by
  intro reader outside
  cases outside

theorem safe_require (condition : Bool) : Safe (require condition) := by
  cases condition with
  | true => exact safe_pure ()
  | false => exact safe_reject

theorem takeBytes_eq_ok {size : Nat} {bytes : Bytes} :
    takeBytes size reader = .ok (bytes, after) ↔
      bytes.length = size ∧ reader.Holds bytes ∧ after = reader.skip size := by
  unfold takeBytes Reader.remaining Reader.access Reader.Holds
  by_cases enough : reader.offset + size ≤ reader.bytes.length
  · have start := reader.within
    have left : (decide (reader.offset ≤ reader.bytes.length) &&
        decide (size ≤ reader.bytes.length - reader.offset)) = true := by
      simp only [Bool.and_eq_true, decide_eq_true_eq]
      omega
    rw [if_pos left, if_pos enough]
    have sized : ((reader.bytes.drop reader.offset).take size).length = size := by
      rw [List.length_take, List.length_drop]
      omega
    constructor
    · intro taken
      cases taken
      rw [sized]
      exact ⟨rfl, ⟨enough, rfl⟩, rfl⟩
    · rintro ⟨rfl, ⟨-, same⟩, rfl⟩
      rw [same]
  · rw [if_neg (by
      simp only [Bool.and_eq_true, decide_eq_true_eq]
      omega)]
    constructor
    · intro taken
      cases taken
    · rintro ⟨rfl, ⟨within, -⟩, -⟩
      exact absurd within enough

theorem safe_takeBytes (size : Nat) : Safe (takeBytes size) := by
  intro reader
  unfold takeBytes Reader.remaining Reader.access
  split
  · next left =>
    simp only [Bool.and_eq_true, decide_eq_true_eq] at left
    rw [if_pos (by omega)]
    simp
  · simp

/-- Bytes of a known size stand for themselves. -/
theorem codes_takeBytes (size : Nat) :
    Codes (takeBytes size) id (fun bytes => bytes.length = size) := by
  intro reader bytes after
  rw [takeBytes_eq_ok]
  constructor
  · rintro ⟨rfl, holds, rfl⟩
    exact ⟨rfl, holds, rfl⟩
  · rintro ⟨rfl, holds, rfl⟩
    exact ⟨rfl, holds, rfl⟩

/-- An octet. -/
theorem codes_takeU8 : Codes takeU8 (fun value => [value]) (fun _ => True) := by
  intro reader value after
  simp only [takeU8, ByteReader.bind_eq_ok, takeBytes_eq_ok, pure_eq_ok]
  constructor
  · rintro ⟨bytes, middle, ⟨size, holds, rfl⟩, rfl, rfl⟩
    obtain ⟨octet, rfl⟩ := List.length_eq_one_iff.mp size
    exact ⟨trivial, holds, rfl⟩
  · rintro ⟨-, holds, rfl⟩
    exact ⟨_, _, ⟨rfl, holds, rfl⟩, rfl, rfl⟩

/-- Four octets are written as the word that they make. -/
theorem putU32_fromLittleEndian
    {octets : Bytes}
    (sized : octets.length = 4) :
    putU32 (UInt32.ofNat (fromLittleEndian octets)) = octets := by
  have below : fromLittleEndian octets < 2 ^ 32 := by
    have small := fromLittleEndian_lt octets
    rw [sized] at small
    exact small
  rw [putU32, UInt32.toNat_ofNat_of_lt' below, ← sized]
  exact littleEndian_fromLittleEndian octets

theorem codes_takeU32 : Codes takeU32 putU32 (fun _ => True) := by
  intro reader value after
  simp only [takeU32, codes_takeU8.bind_eq_ok, pure_eq_ok, List.length_singleton,
    Reader.skip_skip, true_and]
  constructor
  · rintro ⟨b0, h0, b1, h1, b2, h2, b3, h3, rfl, rfl⟩
    have written : putU32 (UInt32.ofNat (fromLittleEndian [b0, b1, b2, b3])) =
        [b0] ++ ([b1] ++ ([b2] ++ [b3])) := putU32_fromLittleEndian rfl
    rw [written]
    refine ⟨?_, rfl⟩
    rw [Reader.holds_append, Reader.holds_append, Reader.holds_append]
    exact ⟨h0, h1, by simpa using h2, by simpa using h3⟩
  · rintro ⟨holds, rfl⟩
    have sized : (putU32 value).length = 4 := length_putU32 value
    obtain ⟨b0, b1, b2, b3, octets⟩ := List.length_eq_four.mp sized
    have split : putU32 value = [b0] ++ ([b1] ++ ([b2] ++ [b3])) := octets
    rw [split, Reader.holds_append, Reader.holds_append, Reader.holds_append] at holds
    refine ⟨b0, holds.1, b1, holds.2.1, b2, by simpa using holds.2.2.1, b3,
      by simpa using holds.2.2.2, ?_, by rw [sized]⟩
    have whole : value.toNat % 256 ^ 4 = value.toNat := Nat.mod_eq_of_lt value.toNat_lt
    rw [← octets, putU32, fromLittleEndian_littleEndian, whole]
    exact UInt32.ofNat_toNat

/-- A word of 64 bits is written as its two halves. -/
theorem putU64_halves (low high : UInt32) :
    putU64 (UInt64.ofNat (low.toNat + high.toNat * 2 ^ 32)) =
      putU32 low ++ putU32 high := by
  have lowBelow := low.toNat_lt
  have highBelow := high.toNat_lt
  have below : low.toNat + high.toNat * 2 ^ 32 < 2 ^ 64 := by
    omega
  have value :
      fromLittleEndian (putU32 low ++ putU32 high) =
        low.toNat + high.toNat * 2 ^ 32 := by
    rw [fromLittleEndian_append, length_putU32, putU32, putU32,
      fromLittleEndian_littleEndian, fromLittleEndian_littleEndian]
    norm_num
  have sized : (putU32 low ++ putU32 high).length = 8 := by
    simp
  rw [putU64, UInt64.toNat_ofNat_of_lt' below, ← value, ← sized,
    littleEndian_fromLittleEndian]

theorem codes_takeU64 : Codes takeU64 putU64 (fun _ => True) := by
  intro reader value after
  simp only [takeU64, codes_takeU32.bind_eq_ok, pure_eq_ok, length_putU32,
    Reader.skip_skip, true_and, length_putU64]
  constructor
  · rintro ⟨low, first, high, second, rfl, rfl⟩
    rw [putU64_halves, Reader.holds_append, length_putU32]
    exact ⟨⟨first, second⟩, rfl⟩
  · rintro ⟨holds, rfl⟩
    have whole :
        UInt64.ofNat
            ((UInt32.ofNat value.toNat).toNat +
              (UInt32.ofNat (value.toNat / 2 ^ 32)).toNat * 2 ^ 32) =
          value := by
      have below : value.toNat / 2 ^ 32 < 2 ^ 32 :=
        Nat.div_lt_of_lt_mul value.toNat_lt
      rw [UInt32.toNat_ofNat', UInt32.toNat_ofNat_of_lt' below, Nat.mul_comm,
        Nat.mod_add_div]
      exact UInt64.ofNat_toNat
    rw [← whole, putU64_halves, Reader.holds_append, length_putU32] at holds
    exact ⟨_, holds.1, _, holds.2, whole, rfl⟩

theorem codes_takeBlock (size : Nat) :
    Codes (takeBlock size) Block.bytes (fun _ => True) := by
  intro reader value after
  simp only [takeBlock, ByteReader.bind_eq_ok, takeBytes_eq_ok, pure_eq_ok, true_and]
  constructor
  · rintro ⟨bytes, middle, ⟨rfl, holds, rfl⟩, rfl, rfl⟩
    have same : (Block.copy bytes.length bytes).bytes = bytes := by
      rw [Block.bytes_copy_of_le (Nat.le_refl _), List.take_length]
    rw [same]
    exact ⟨holds, rfl⟩
  · rintro ⟨holds, rfl⟩
    exact ⟨value.bytes, _, ⟨value.sized, holds, rfl⟩, Block.copy_bytes value,
      by rw [value.sized]⟩

/-- Bytes behind their size, of which there is a maximum. -/
theorem Codes.blob
    {word : Read UInt32}
    (codes : Codes word putU32 fun _ => True)
    {maximum : Nat}
    (small : maximum < 2 ^ 32) :
    Codes
      (do
        let size ← word
        require (!(size.toNat > maximum))
        takeBytes size.toNat)
      (fun data => putU32 (UInt32.ofNat data.length) ++ data)
      fun data => data.length ≤ maximum := by
  intro reader data after
  simp only [codes.bind_eq_ok, require_bind_eq_ok, takeBytes_eq_ok, true_and]
  constructor
  · rintro ⟨size, holds, few, sized, rest, rfl⟩
    have same : UInt32.ofNat data.length = size := by
      rw [sized, UInt32.ofNat_toNat]
    simp only [Bool.not_eq_true', decide_eq_false_iff_not, Nat.not_lt, gt_iff_lt] at few
    rw [same, Reader.holds_append, List.length_append, ← Reader.skip_skip, sized]
    exact ⟨few, ⟨holds, rest⟩, rfl⟩
  · rintro ⟨few, holds, rfl⟩
    have sized : (UInt32.ofNat data.length).toNat = data.length :=
      UInt32.toNat_ofNat_of_lt' (Nat.lt_of_le_of_lt few small)
    rw [Reader.holds_append] at holds
    refine ⟨UInt32.ofNat data.length, holds.1, ?_, sized.symm, holds.2, ?_⟩
    · rw [sized]
      simpa using few
    · rw [List.length_append, ← Reader.skip_skip, sized]

/-- As many values as a count says. -/
theorem Codes.takeMany
    (codes : Codes read write fits)
    (count : Nat) :
    Codes (takeMany read count) (List.flatMap write)
      (fun values => values.length = count ∧ ∀ value ∈ values, fits value) := by
  induction count with
  | zero =>
      intro reader values after
      simp only [ByteReader.takeMany, pure_eq_ok, List.length_eq_zero_iff]
      constructor
      · rintro ⟨rfl, rfl⟩
        exact ⟨⟨rfl, by simp⟩, by simp, by simp⟩
      · rintro ⟨⟨rfl, -⟩, -, rfl⟩
        exact ⟨rfl, by simp⟩
  | succ count inductionHypothesis =>
      intro reader values after
      simp only [ByteReader.takeMany, codes.bind_eq_ok, inductionHypothesis.bind_eq_ok,
        pure_eq_ok, Reader.skip_skip]
      constructor
      · rintro ⟨value, fit, first, rest, ⟨rfl, fits⟩, later, rfl, rfl⟩
        rw [List.flatMap_cons, Reader.holds_append, List.length_append]
        exact ⟨⟨rfl, List.forall_mem_cons.mpr ⟨fit, fits⟩⟩, ⟨first, later⟩, rfl⟩
      · rintro ⟨⟨size, fits⟩, holds, rfl⟩
        obtain ⟨value, rest, rfl⟩ := List.exists_cons_of_length_eq_add_one size
        rw [List.flatMap_cons, Reader.holds_append] at holds
        rw [List.flatMap_cons, List.length_append]
        obtain ⟨fit, fits⟩ := List.forall_mem_cons.mp fits
        exact ⟨value, fit, holds.1, rest, ⟨Nat.succ.inj size, fits⟩, holds.2, rfl, rfl⟩

theorem safe_takeU8 : Safe takeU8 :=
  (safe_takeBytes 1).bind fun _ => safe_pure _

theorem safe_takeU32 : Safe takeU32 :=
  safe_takeU8.bind fun _ => safe_takeU8.bind fun _ => safe_takeU8.bind fun _ =>
    safe_takeU8.bind fun _ => safe_pure _

theorem safe_takeU64 : Safe takeU64 :=
  safe_takeU32.bind fun _ => safe_takeU32.bind fun _ => safe_pure _

theorem safe_takeBlock (size : Nat) : Safe (takeBlock size) :=
  (safe_takeBytes size).bind fun _ => safe_pure _

theorem Safe.takeMany (safe : Safe read) (count : Nat) : Safe (takeMany read count) := by
  induction count with
  | zero => exact safe_pure []
  | succ count inductionHypothesis =>
      exact safe.bind fun _ => inductionHypothesis.bind fun _ => safe_pure _

end Formats

/-! ### Reading to the end -/

namespace Reader

/-- Only these bytes are left. -/
def Ends (reader : Reader) (bytes : Bytes) : Prop :=
  reader.bytes.drop reader.offset = bytes

variable {reader : Reader} {first second : Bytes}

theorem ends_whole (bytes : Bytes) : ({ bytes } : Reader).Ends bytes :=
  rfl

theorem Ends.holds (ends : reader.Ends (first ++ second)) : reader.Holds first := by
  have sized := congrArg List.length ends
  rw [List.length_drop, List.length_append] at sized
  have within := reader.within
  refine ⟨by omega, ?_⟩
  rw [ends, List.take_left]

theorem Ends.skip
    (ends : reader.Ends (first ++ second)) :
    (reader.skip first.length).Ends second := by
  have offset : (reader.skip first.length).offset = reader.offset + first.length :=
    Nat.min_eq_left ends.holds.1
  rw [Ends, offset, skip_bytes, ← List.drop_drop, ends, List.drop_left]

theorem Ends.left (ends : reader.Ends first) :
    reader.bytes.length - reader.offset = first.length := by
  rw [← ends, List.length_drop]

theorem Ends.atEnd (ends : reader.Ends []) : reader.atEnd = true := by
  have left := ends.left
  have within := reader.within
  rw [List.length_nil] at left
  simp only [Reader.atEnd, beq_iff_eq]
  omega

/-- Only these bytes are left if they come next and end where all bytes do. -/
theorem ends_iff :
    reader.Ends first ↔
      reader.Holds first ∧ (reader.skip first.length).atEnd = true := by
  constructor
  · intro ends
    have whole : reader.Ends (first ++ []) := by
      rw [List.append_nil]
      exact ends
    exact ⟨whole.holds, whole.skip.atEnd⟩
  · rintro ⟨⟨within, same⟩, ends⟩
    have offset : (reader.skip first.length).offset = reader.offset + first.length :=
      Nat.min_eq_left within
    rw [Reader.atEnd, beq_iff_eq, offset, skip_bytes] at ends
    rw [Ends, ← same, List.take_of_length_le]
    rw [List.length_drop]
    omega

end Reader

section Finishing

variable {Value Next : Type} {read : Read Value} {next : Value → Read Next}

/-- A reader that has only these bytes left takes the value. -/
def Finishes (read : Read Value) (bytes : Bytes) (value : Value) : Prop :=
  ∀ reader : Reader, reader.Ends bytes → ∃ after, read reader = .ok (value, after)

theorem finishes_pure (value : Value) : Finishes (pure value) [] value :=
  fun reader _ => ⟨reader, rfl⟩

variable {rest : Bytes} {result : Next}

variable {write : Value → Bytes} {fits : Value → Prop} {value : Value}

/-- First what is written for one value, then the rest. -/
theorem Codes.finishes
    (codes : Codes read write fits)
    (fit : fits value)
    (later : Finishes (next value) rest result) :
    Finishes (read >>= next) (write value ++ rest) result := by
  intro reader ends
  obtain ⟨after, taken⟩ := later _ ends.skip
  exact ⟨after, codes.bind_eq_ok.mpr ⟨value, fit, ends.holds, taken⟩⟩

/-- The value behind which nothing is left. -/
theorem Codes.finishes_last
    (codes : Codes read write fits)
    (fit : fits value)
    (later : Finishes (next value) [] result) :
    Finishes (read >>= next) (write value) result := by
  have finishes := codes.finishes fit later
  rwa [List.append_nil] at finishes

theorem finishes_require
    {condition : Bool}
    {next : Unit → Read Next}
    (holds : condition = true)
    (later : Finishes (next ()) rest result) :
    Finishes (require condition >>= next) rest result := by
  intro reader ends
  obtain ⟨after, taken⟩ := later _ ends
  exact ⟨after, require_bind_eq_ok.mpr ⟨holds, taken⟩⟩

/-- A format that asks how much is left. -/
theorem finishes_get
    {next : Reader → Read Next}
    (later : ∀ reader : Reader, reader.Ends rest → Finishes (next reader) rest result) :
    Finishes (get >>= next) rest result :=
  fun reader ends => later reader ends reader ends

end Finishing

end ByteReader
