import FlyNes.LanChunks

namespace FlyNes.LanMvp.Wire

open ByteString
open Framing (Stuck Parsed)

/-!
# Messages through the wire

The encoder refuses a payload that does not fit and then leaves the caller's
buffer as it was.  What it writes for a list of messages is read back from the
stream however the stream is cut.
-/

/-- `encode` with the buffer of its caller; the result says whether it wrote. -/
def encodeInto (kind : Kind) (payload output : Bytes) : Bool × Bytes :=
  if payload.length + 1 > kMaxBodySize ∨ payload.length + 1 > 0xffff then
    (false, output)
  else
    let bodySize := payload.length + 1
    let output : Bytes := []
    let output := output ++ [UInt8.ofNat (bodySize >>> 8)]
    let output := output ++ [UInt8.ofNat (bodySize &&& 0xff)]
    let output := output ++ [kind.toByte]
    (true, output ++ payload)

/-- The buffer holds the frame, or what it held before a refused call. -/
theorem encodeInto_eq
    (kind : Kind)
    (payload output : Bytes) :
    encodeInto kind payload output =
      match encode kind payload with
      | some frame => (true, frame)
      | none => (false, output) := by
  unfold encodeInto encode
  split <;> rfl

theorem encodeInto_of_fits
    {message : Message}
    (fits : message.Fits)
    (output : Bytes) :
    encodeInto message.kind message.payload output =
      (true, message.frame) := by
  rw [encodeInto_eq, encode_eq_some fits]

theorem encodeInto_of_long
    {payload : Bytes}
    (long : 1023 < payload.length)
    (kind : Kind)
    (output : Bytes) :
    encodeInto kind payload output = (false, output) := by
  unfold encodeInto kMaxBodySize
  rw [if_pos (by omega)]

/-- A message fits when its payload has at most 1023 bytes. -/
theorem Message.fits_iff
    (message : Message) :
    message.Fits ↔ message.payload.length ≤ 1023 := by
  simp only [Message.Fits, Message.bodySize, kMaxBodySize]
  omega

/-- The encodings of some messages, each written to a buffer of its own. -/
def encodings (messages : List Message) : List Bytes :=
  messages.map fun message =>
    (encodeInto message.kind message.payload []).2

variable {messages : List Message}

theorem flatten_encodings
    (fit : ∀ message ∈ messages, message.Fits) :
    (encodings messages).flatten = Framing.stream Message.frame messages := by
  unfold encodings Framing.stream
  rw [List.flatMap_def]
  congr 1
  apply List.map_congr_left
  intro message member
  rw [encodeInto_of_fits (fit message member)]

/-- Nothing is left of a stream of whole frames. -/
theorem reads_stream
    (fit : ∀ message ∈ messages, message.Fits) :
    Reads (Framing.stream Message.frame messages) messages [] where
  sound := fit
  shape := (List.append_nil _).symm
  stuck := by
    intro message rest fits shape
    simp [Message.frame] at shape

/--
Messages whose payloads have at most 1023 bytes come out of their encodings as
they went in, however the stream is cut; longer payloads, and no others, are
refused, and the output of a refused call stays as it was.
-/
theorem messages_round_trip :
    (∀ (messages : List Message) (chunks : List Bytes),
      (∀ message ∈ messages, message.payload.length ≤ 1023) →
      chunks.flatten = (encodings messages).flatten →
      Decoder.decode chunks = (messages, { bytes := [], failed := false })) ∧
    ∀ (kind : Kind) (payload output : Bytes),
      ((encodeInto kind payload output).1 = false ↔ 1023 < payload.length) ∧
      ((encodeInto kind payload output).1 = false →
        (encodeInto kind payload output).2 = output) := by
  constructor
  · intro messages chunks short cut
    have fit : ∀ message ∈ messages, message.Fits :=
      fun message member => message.fits_iff.mpr (short message member)
    have reads : Reads chunks.flatten messages [] := by
      rw [cut, flatten_encodings fit]
      exact reads_stream fit
    have wellFormed : ¬ Malformed [] := by simp [Malformed]
    obtain ⟨state, _, kept⟩ := Decoder.decode_eq reads
    rw [if_neg wellFormed] at state
    have whole : ¬ Swallows chunks :=
      fun swallows => wellFormed (swallows.malformed reads).1
    exact Prod.ext (kept whole) state
  · intro kind payload output
    by_cases long : 1023 < payload.length
    · rw [encodeInto_of_long long]
      exact ⟨iff_of_true rfl long, fun _ => rfl⟩
    · have fits : Message.Fits ⟨kind, payload⟩ :=
        (Message.fits_iff ⟨kind, payload⟩).mpr (Nat.not_lt.mp long)
      have written := encodeInto_of_fits fits output
      dsimp only at written
      rw [written]
      exact ⟨iff_of_false (by simp) long, fun refused => by simp at refused⟩

/-- Two messages, cut inside a size field and inside a payload. -/
theorem messages_round_trip_of_two :
    Decoder.decode [[0], [4, 3, 1], [2, 3, 0, 2], [], [4, 9]] =
      ([⟨.config, [1, 2, 3]⟩, ⟨.ready, [9]⟩],
        { bytes := [], failed := false }) :=
  messages_round_trip.1 [⟨.config, [1, 2, 3]⟩, ⟨.ready, [9]⟩] _
    (by decide) (by decide)

end FlyNes.LanMvp.Wire
