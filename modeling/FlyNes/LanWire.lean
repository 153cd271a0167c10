import Mathlib.Tactic.IntervalCases
import FlyNes.ByteString
import FlyNes.Framing

namespace FlyNes.LanMvp.Wire

open ByteString

/-!
# The LAN session wire format

Every message is a frame of a two-byte big-endian body size, one kind byte and
the payload.  The decoder buffers raw bytes, checks the size field in front of
the buffer on every call, and hands out one frame at a time.
-/

/-- Largest body (kind byte and payload) of one frame. -/
def kMaxBodySize : Nat := 1024

/--
Message kinds.  The enumeration has a fixed underlying type, so a received byte
outside 1..12 is kept as it is; `other` can hold no named byte.
-/
inductive Kind where
  | join
  | accept
  | config
  | ready
  | start
  | input
  | digest
  | endSession
  | lobbyRequest
  | lobby
  | lobbyAck
  | pause
  | other (byte : UInt8) (unnamed : byte.toNat = 0 ∨ 12 < byte.toNat)
deriving DecidableEq

namespace Kind

/-- The kind's underlying byte. -/
def toByte : Kind → UInt8
  | .join => 1
  | .accept => 2
  | .config => 3
  | .ready => 4
  | .start => 5
  | .input => 6
  | .digest => 7
  | .endSession => 8
  | .lobbyRequest => 9
  | .lobby => 10
  | .lobbyAck => 11
  | .pause => 12
  | .other byte _ => byte

/-- The unchecked conversion of a received byte to a kind. -/
def ofByte (byte : UInt8) : Kind :=
  if unnamed : byte.toNat = 0 ∨ 12 < byte.toNat then
    .other byte unnamed
  else
    match byte.toNat with
    | 1 => .join
    | 2 => .accept
    | 3 => .config
    | 4 => .ready
    | 5 => .start
    | 6 => .input
    | 7 => .digest
    | 8 => .endSession
    | 9 => .lobbyRequest
    | 10 => .lobby
    | 11 => .lobbyAck
    | _ => .pause

/-- Reading back a kind's byte gives the kind. -/
@[simp] theorem ofByte_toByte
    (kind : Kind) :
    ofByte kind.toByte = kind := by
  cases kind with
  | other byte unnamed =>
      exact dif_pos unnamed
  | _ =>
      rfl

/-- Writing the kind of a received byte gives the byte. -/
@[simp] theorem toByte_ofByte
    (byte : UInt8) :
    (ofByte byte).toByte = byte := by
  unfold ofByte
  split
  · rfl
  · next named =>
      apply UInt8.toNat_inj.mp
      generalize byte.toNat = number at named
      have positive : 1 ≤ number := by omega
      have bounded : number ≤ 12 := by omega
      interval_cases number <;> rfl

end Kind

/-- One message of the session protocol. -/
structure Message where
  kind : Kind
  payload : Bytes
deriving DecidableEq

/-- Body size of a message: the kind byte and the payload. -/
def Message.bodySize (message : Message) : Nat :=
  message.payload.length + 1

/-- The frame of a message, whatever its size. -/
def Message.frame (message : Message) : Bytes :=
  UInt8.ofNat (message.bodySize >>> 8) ::
    UInt8.ofNat (message.bodySize &&& 0xff) ::
      message.kind.toByte :: message.payload

/-- A message that fits into one frame. -/
def Message.Fits (message : Message) : Prop :=
  message.bodySize ≤ kMaxBodySize

instance (message : Message) : Decidable message.Fits :=
  inferInstanceAs (Decidable (message.bodySize ≤ kMaxBodySize))

/-- Encode one frame; `none` is the failure that leaves the output untouched. -/
def encode (kind : Kind) (payload : Bytes) : Option Bytes :=
  if payload.length + 1 > kMaxBodySize ∨ payload.length + 1 > 0xffff then
    none
  else
    some (Message.frame ⟨kind, payload⟩)

/-- Encoding succeeds exactly for messages that fit. -/
theorem encode_eq_some
    {kind : Kind}
    {payload : Bytes}
    (fits : Message.Fits ⟨kind, payload⟩) :
    encode kind payload = some (Message.frame ⟨kind, payload⟩) := by
  have bound : payload.length + 1 ≤ 1024 := fits
  unfold encode kMaxBodySize
  rw [if_neg (by omega)]

/-- Body size announced by the two bytes in front of a buffer. -/
def announced (bytes : Bytes) : Nat :=
  ((bytes.getD 0 0).toNat <<< 8) ||| (bytes.getD 1 0).toNat

/-- The two size bytes announce the body size of every frame that fits. -/
theorem announced_frame
    {message : Message}
    (fits : message.Fits)
    (rest : Bytes) :
    announced (message.frame ++ rest) = message.bodySize := by
  have bound : message.bodySize ≤ 1024 := fits
  have high : (UInt8.ofNat (message.bodySize >>> 8)).toNat =
      message.bodySize / 256 := by
    rw [UInt8.toNat_ofNat', Nat.shiftRight_eq_div_pow]
    omega
  have low : (UInt8.ofNat (message.bodySize &&& 0xff)).toNat =
      message.bodySize % 256 := by
    have masked : message.bodySize &&& 0xff = message.bodySize % 256 :=
      Nat.and_two_pow_sub_one_eq_mod message.bodySize 8
    rw [UInt8.toNat_ofNat', masked]
    omega
  have joined :
      (message.bodySize / 256) <<< 8 ||| message.bodySize % 256 =
        message.bodySize / 256 * 256 + message.bodySize % 256 := by
    have below : message.bodySize % 256 < 2 ^ 8 := Nat.mod_lt _ (by decide)
    rw [← Nat.shiftLeft_add_eq_or_of_lt below, Nat.shiftLeft_eq]
  simp only [announced, Message.frame, List.cons_append,
    List.getD_cons_zero, List.getD_cons_succ, high, low, joined]
  omega

/-- Frames of messages that fit are self-delimiting. -/
theorem frame_prefixFree :
    Framing.PrefixFree Message.frame Message.Fits where
  nonempty := by
    intro message _ empty
    simp [Message.frame] at empty
  determined := by
    intro first second firstRest secondRest firstFits secondFits same
    have sameSize : first.bodySize = second.bodySize := by
      rw [← announced_frame firstFits firstRest, same,
        announced_frame secondFits secondRest]
    have sameLength : first.payload.length = second.payload.length := by
      simpa [Message.bodySize] using sameSize
    simp only [Message.frame, List.cons_append, List.cons.injEq] at same
    have sameKind : first.kind = second.kind := by
      rw [← Kind.ofByte_toByte first.kind, same.2.2.1, Kind.ofByte_toByte]
    have samePayload : first.payload = second.payload :=
      (List.append_inj same.2.2.2 sameLength).1
    cases first
    cases second
    simp_all

/-- The frame of the message read from a checked front starts the buffer. -/
theorem frame_of_front
    {bytes : Bytes}
    (nonzero : announced bytes ≠ 0)
    (bounded : announced bytes ≤ kMaxBodySize)
    (whole : announced bytes + 2 ≤ bytes.length) :
    let message : Message :=
      ⟨Kind.ofByte (bytes.getD 2 0),
        (bytes.take (announced bytes + 2)).drop 3⟩
    message.Fits ∧
      bytes = message.frame ++ bytes.drop (announced bytes + 2) := by
  match bytes, nonzero, bounded, whole with
  | [], _, _, whole => simp at whole
  | [_], _, _, whole => simp at whole
  | [_, _], nonzero, _, whole =>
      simp only [List.length_cons, List.length_nil] at whole
      omega
  | first :: second :: kind :: tail, nonzero, bounded, whole =>
      have octets : announced (first :: second :: kind :: tail) =
          first.toNat * 256 + second.toNat := by
        have below : second.toNat < 2 ^ 8 := second.toNat_lt
        simp only [announced, List.getD_cons_zero, List.getD_cons_succ]
        rw [← Nat.shiftLeft_add_eq_or_of_lt below, Nat.shiftLeft_eq]
      have firstLt : first.toNat < 256 := first.toNat_lt
      have secondLt : second.toNat < 256 := second.toNat_lt
      generalize sizeShape :
        announced (first :: second :: kind :: tail) = size at *
      have payloadLength : (tail.take (size - 1)).length + 1 = size := by
        simp only [List.length_take, List.length_cons] at whole ⊢
        omega
      have high : UInt8.ofNat (size >>> 8) = first := by
        apply UInt8.toNat_inj.mp
        rw [UInt8.toNat_ofNat', Nat.shiftRight_eq_div_pow]
        omega
      have low : UInt8.ofNat (size &&& 0xff) = second := by
        have masked : size &&& 0xff = size % 256 :=
          Nat.and_two_pow_sub_one_eq_mod size 8
        apply UInt8.toNat_inj.mp
        rw [UInt8.toNat_ofNat', masked]
        omega
      have payload :
          ((first :: second :: kind :: tail).take (size + 2)).drop 3 =
            tail.take (size - 1) := by
        obtain ⟨body, rfl⟩ : ∃ body, size = body + 1 :=
          ⟨size - 1, by omega⟩
        simp
      have remaining :
          (first :: second :: kind :: tail).drop (size + 2) =
            tail.drop (size - 1) := by
        obtain ⟨body, rfl⟩ : ∃ body, size = body + 1 :=
          ⟨size - 1, by omega⟩
        simp
      simp only [payload, remaining, List.getD_cons_succ,
        List.getD_cons_zero, Message.Fits, Message.frame,
        Message.bodySize, payloadLength, high, low,
        Kind.toByte_ofByte, List.cons_append, List.take_append_drop]
      exact ⟨bounded, trivial⟩

/-- Buffered bytes and the sticky failure flag. -/
structure Decoder where
  bytes : Bytes := []
  failed : Bool := false
deriving DecidableEq

namespace Decoder

/-- Check the size field in front of the buffer; a bad one fails for good. -/
def validateFront (decoder : Decoder) : Bool × Decoder :=
  if decoder.failed ∨ decoder.bytes.length < 2 then
    (!decoder.failed, decoder)
  else if announced decoder.bytes = 0 ∨
      announced decoder.bytes > kMaxBodySize then
    (false, { bytes := [], failed := true })
  else
    (true, decoder)

/-- Append received bytes and check the front of the buffer. -/
def push (decoder : Decoder) (bytes : Bytes) : Bool × Decoder :=
  if decoder.failed then
    (false, decoder)
  else
    validateFront { decoder with bytes := decoder.bytes ++ bytes }

/--
Take one frame off the buffer.  The result is a message exactly when the call
returns true: the front is checked again after the frame has been removed, and
when that check fails the removed frame is not reported.
-/
def pop (decoder : Decoder) : Option Message × Decoder :=
  let (valid, decoder) := decoder.validateFront
  if !valid ∨ decoder.bytes.length < 2 then
    (none, decoder)
  else
    let bodySize := announced decoder.bytes
    if decoder.bytes.length < bodySize + 2 then
      (none, decoder)
    else
      let message : Message :=
        ⟨Kind.ofByte (decoder.bytes.getD 2 0),
          (decoder.bytes.take (bodySize + 2)).drop 3⟩
      let (valid, decoder) :=
        validateFront { decoder with bytes := decoder.bytes.drop (bodySize + 2) }
      (if valid then some message else none, decoder)

/-- The front check changes nothing unless it fails. -/
theorem validateFront_of_true
    {decoder checked : Decoder}
    (valid : decoder.validateFront = (true, checked)) :
    checked = decoder ∧ decoder.failed = false := by
  unfold validateFront at valid
  split at valid
  · simp only [Prod.mk.injEq, Bool.not_eq_true'] at valid
    exact ⟨valid.2.symm, valid.1⟩
  · next short =>
      split at valid
      · simp at valid
      · simp only [Prod.mk.injEq, true_and] at valid
        exact ⟨valid.symm, by simp_all⟩

/-- A delivered frame is the front of the buffer, byte for byte. -/
theorem pop_eq_some
    {decoder rest : Decoder}
    {message : Message}
    (popped : decoder.pop = (some message, rest)) :
    message.Fits ∧
      decoder.bytes = message.frame ++ rest.bytes ∧
      decoder.failed = false ∧
      rest.failed = false := by
  unfold pop at popped
  rcases entry : decoder.validateFront with ⟨valid, checked⟩
  simp only [entry] at popped
  split at popped
  · simp at popped
  · next open_ =>
      simp only [Bool.not_eq_true', not_or, Bool.not_eq_false,
        Nat.not_lt] at open_
      obtain ⟨rfl, enough⟩ := open_
      obtain ⟨rfl, sound⟩ := validateFront_of_true entry
      split at popped
      · simp at popped
      · next whole =>
          rcases exit : validateFront { checked with
            bytes := checked.bytes.drop (announced checked.bytes + 2) }
            with ⟨valid, remaining⟩
          simp only [exit] at popped
          cases valid with
          | false =>
              simp at popped
          | true =>
              simp only [↓reduceIte, Prod.mk.injEq,
                Option.some.injEq] at popped
              obtain ⟨rfl, rfl⟩ := popped
              obtain ⟨rfl, restSound⟩ := validateFront_of_true exit
              have checkedFront : ¬ (announced checked.bytes = 0 ∨
                  announced checked.bytes > kMaxBodySize) := by
                intro bad
                unfold validateFront at entry
                rw [if_neg (by simp [sound]; omega), if_pos bad] at entry
                simp at entry
              simp only [not_or, Nat.not_lt] at checkedFront
              obtain ⟨fits, shape⟩ :=
                frame_of_front checkedFront.1 checkedFront.2 (by omega)
              exact ⟨fits, shape, sound, restSound⟩

end Decoder

end FlyNes.LanMvp.Wire
