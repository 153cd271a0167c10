import FlyNes.ContentOffer
import FlyNes.DualWire

namespace FlyNes.Content

open ByteString
open FlyNes.Dual (loadAt loadAt_skip loadAt_bigEndian)

/-!
# The records of the ROM stream

Every record is a big-endian length, a type and a body.  The first record declares
the offer and the others carry chunks of the payload with their offsets.
-/

def kContentOfferType : UInt8 := 1

def kContentChunkType : UInt8 := 2

def kContentOfferBodyBytes : Nat := 88

def kContentChunkHeaderBytes : Nat := 28

def kContentChunkMaxPayload : Nat := 4096

/-- The longest record that the reader accepts, with its length field. -/
def kContentRecordMaxBytes : Nat := 65536

def wrapRecord (type : UInt8) (body : Bytes) : Bytes :=
  bigEndian 4 (1 + body.length) ++ type :: body

def contentOfferBody (decl : ContentOfferDecl) : Bytes :=
  bigEndian 2 1 ++ ([0, 0] ++ (decl.offerId.bytes ++ (decl.contentId.bytes ++
    (bigEndian 4 decl.declaredLength ++ decl.payloadSha256.bytes))))

def encodeContentOffer (decl : ContentOfferDecl) : Bytes :=
  wrapRecord kContentOfferType (contentOfferBody decl)

def decodeContentOffer (body : Bytes) : Option ContentOfferDecl :=
  if body.length ≠ kContentOfferBodyBytes then
    none
  else if loadAt 2 0 body ≠ 1 then
    none
  else if body.getD 2 0 ≠ 0 || body.getD 3 0 ≠ 0 then
    none
  else
    some
      { offerId := Block.copy 16 (body.drop 4)
        contentId := Block.copy 32 (body.drop 20)
        declaredLength := loadAt 4 52 body
        payloadSha256 := Block.copy 32 (body.drop 56) }

def contentChunkBody
    (offerId : Block 16)
    (offset : Nat)
    (data : Bytes) : Bytes :=
  bigEndian 2 1 ++ ([0, 0] ++ (offerId.bytes ++ (bigEndian 4 offset ++
    (bigEndian 4 data.length ++ data))))

def encodeContentChunk
    (offerId : Block 16)
    (offset : Nat)
    (data : Bytes) : Option Bytes :=
  if kContentChunkMaxPayload < data.length then
    none
  else
    some (wrapRecord kContentChunkType (contentChunkBody offerId offset data))

structure ContentChunk where
  offerId : Block 16
  offset : Nat
  data : Bytes
deriving DecidableEq

def decodeContentChunk (body : Bytes) : Option ContentChunk :=
  if body.length < kContentChunkHeaderBytes then
    none
  else if loadAt 2 0 body ≠ 1 || body.getD 2 0 ≠ 0 || body.getD 3 0 ≠ 0 then
    none
  else
    let declared := loadAt 4 24 body
    if body.length ≠ kContentChunkHeaderBytes + declared then
      none
    else
      some
        { offerId := Block.copy 16 (body.drop 4)
          offset := loadAt 4 20 body
          data := body.drop kContentChunkHeaderBytes }

/-- What stands at the front of the bytes that have been read. -/
inductive RecordFront where
  | incomplete
  | violation
  | whole (type : UInt8) (body : Bytes) (total : Nat)
deriving DecidableEq

def recordFront (buffer : Bytes) : RecordFront :=
  if buffer.length < 5 then
    .incomplete
  else
    let bodyLength := loadAt 4 0 buffer
    let total := 4 + bodyLength
    if bodyLength < 1 || kContentRecordMaxBytes < total then
      .violation
    else if buffer.length < total then
      .incomplete
    else
      .whole (buffer.getD 4 0) ((buffer.drop 5).take (bodyLength - 1)) total

/-! ## Reading back -/

theorem length_contentOfferBody
    (decl : ContentOfferDecl) :
    (contentOfferBody decl).length = kContentOfferBodyBytes := by
  simp [contentOfferBody, decl.offerId.sized, decl.contentId.sized,
    decl.payloadSha256.sized, kContentOfferBodyBytes]

theorem length_contentChunkBody
    (offerId : Block 16)
    (offset : Nat)
    (data : Bytes) :
    (contentChunkBody offerId offset data).length =
      kContentChunkHeaderBytes + data.length := by
  simp only [contentChunkBody, List.length_append, length_bigEndian,
    offerId.sized, List.length_cons, List.length_nil, kContentChunkHeaderBytes]
  omega

theorem decodeContentOffer_body
    {decl : ContentOfferDecl}
    (small : decl.declaredLength < 2 ^ 32) :
    decodeContentOffer (contentOfferBody decl) = some decl := by
  have length := length_contentOfferBody decl
  have version : loadAt 2 0 (contentOfferBody decl) = 1 := by
    rw [contentOfferBody, loadAt_bigEndian, Nat.mod_eq_of_lt (by decide)]
  have third : (contentOfferBody decl).getD 2 0 = 0 := rfl
  have fourth : (contentOfferBody decl).getD 3 0 = 0 := rfl
  have offerId : Block.copy 16 ((contentOfferBody decl).drop 4) = decl.offerId := by
    simp [contentOfferBody, bigEndian]
  have contentId :
      Block.copy 32 ((contentOfferBody decl).drop 20) = decl.contentId := by
    simp [contentOfferBody, List.drop_append, decl.offerId.sized,
      List.drop_eq_nil_of_le]
  have declared : loadAt 4 52 (contentOfferBody decl) = decl.declaredLength := by
    simp only [contentOfferBody]
    rw [loadAt_skip (by simp), loadAt_skip (by simp),
      loadAt_skip (by simp [decl.offerId.sized]),
      loadAt_skip (by simp [decl.offerId.sized, decl.contentId.sized])]
    simp only [length_bigEndian, decl.offerId.sized, decl.contentId.sized,
      List.length_cons, List.length_nil]
    rw [loadAt_bigEndian, Nat.mod_eq_of_lt (by omega)]
  have payload :
      Block.copy 32 ((contentOfferBody decl).drop 56) = decl.payloadSha256 := by
    simp [contentOfferBody, List.drop_append, decl.offerId.sized,
      decl.contentId.sized, List.drop_eq_nil_of_le]
  simp only [decodeContentOffer, length, version, third, fourth, offerId,
    contentId, declared, payload]
  simp

theorem decodeContentChunk_body
    {offerId : Block 16}
    {offset : Nat}
    {data : Bytes}
    (near : offset < 2 ^ 32)
    (small : data.length < 2 ^ 32) :
    decodeContentChunk (contentChunkBody offerId offset data) =
      some ⟨offerId, offset, data⟩ := by
  have length := length_contentChunkBody offerId offset data
  have version : loadAt 2 0 (contentChunkBody offerId offset data) = 1 := by
    rw [contentChunkBody, loadAt_bigEndian, Nat.mod_eq_of_lt (by decide)]
  have third : (contentChunkBody offerId offset data).getD 2 0 = 0 := rfl
  have fourth : (contentChunkBody offerId offset data).getD 3 0 = 0 := rfl
  have copied :
      Block.copy 16 ((contentChunkBody offerId offset data).drop 4) = offerId := by
    simp [contentChunkBody, bigEndian]
  have placed :
      loadAt 4 20 (contentChunkBody offerId offset data) = offset := by
    simp only [contentChunkBody]
    rw [loadAt_skip (by simp), loadAt_skip (by simp),
      loadAt_skip (by simp [offerId.sized])]
    simp only [length_bigEndian, offerId.sized, List.length_cons, List.length_nil]
    rw [loadAt_bigEndian, Nat.mod_eq_of_lt (by omega)]
  have declared :
      loadAt 4 24 (contentChunkBody offerId offset data) = data.length := by
    simp only [contentChunkBody]
    rw [loadAt_skip (by simp), loadAt_skip (by simp),
      loadAt_skip (by simp [offerId.sized]),
      loadAt_skip (by simp [offerId.sized])]
    simp only [length_bigEndian, offerId.sized, List.length_cons, List.length_nil]
    rw [loadAt_bigEndian, Nat.mod_eq_of_lt (by omega)]
  have carried :
      (contentChunkBody offerId offset data).drop kContentChunkHeaderBytes =
        data := by
    simp [contentChunkBody, List.drop_append, offerId.sized,
      List.drop_eq_nil_of_le, kContentChunkHeaderBytes]
  simp only [decodeContentChunk, version, third, fourth, copied, placed,
    declared, carried, length]
  simp

theorem length_wrapRecord
    (type : UInt8)
    (body : Bytes) :
    (wrapRecord type body).length = 5 + body.length := by
  simp only [wrapRecord, List.length_append, length_bigEndian, List.length_cons]
  omega

section Front

variable {type : UInt8} {body buffer rest more : Bytes}

/-- The length field of the first of several records. -/
theorem loadAt_wrapRecord
    (fits : 5 + body.length ≤ kContentRecordMaxBytes)
    (enough : 4 ≤ buffer.length)
    (shape : buffer ++ rest = wrapRecord type body ++ more) :
    loadAt 4 0 buffer = 1 + body.length := by
  have same := congrArg (loadAt 4 0) shape
  rw [wrapRecord, List.append_assoc, loadAt_bigEndian,
    Nat.mod_eq_of_lt (by simp only [kContentRecordMaxBytes] at fits; omega)]
    at same
  rw [← same]
  simp [loadAt, List.take_append_of_le_length enough]

/-- A record that has been read whole stands at the front. -/
theorem recordFront_of_whole
    (fits : 5 + body.length ≤ kContentRecordMaxBytes)
    (shape : buffer ++ rest = wrapRecord type body ++ more)
    (whole : 5 + body.length ≤ buffer.length) :
    recordFront buffer = .whole type body (5 + body.length) ∧
      buffer.drop (5 + body.length) ++ rest = more := by
  have length := length_wrapRecord type body
  obtain ⟨tail, rfl⟩ : ∃ tail, buffer = wrapRecord type body ++ tail := by
    rcases List.append_eq_append_iff.1 shape with
      ⟨tail, cut, _⟩ | ⟨tail, cut, _⟩
    · have lengths := congrArg List.length cut
      simp only [List.length_append, length] at lengths
      have empty : tail = [] := List.eq_nil_of_length_eq_zero (by omega)
      exact ⟨[], by rw [cut, empty, List.append_nil, List.append_nil]⟩
    · exact ⟨tail, cut⟩
  have declared := loadAt_wrapRecord fits (by omega) shape
  refine ⟨?_, ?_⟩
  · simp only [recordFront, declared]
    rw [if_neg (by omega), if_neg, if_neg (by omega)]
    · have kind : (wrapRecord type body ++ tail).getD 4 0 = type := by
        simp [wrapRecord, bigEndian]
      have carried :
          ((wrapRecord type body ++ tail).drop 5).take (1 + body.length - 1) =
            body := by
        simp [wrapRecord, bigEndian]
      rw [kind, carried]
      congr 1
      omega
    · simp only [Bool.or_eq_true, decide_eq_true_eq]
      omega
  · rw [List.append_assoc] at shape
    rw [← length, List.drop_left]
    exact List.append_cancel_left shape

/-- A record of which bytes are missing is waited for. -/
theorem recordFront_of_short
    (fits : 5 + body.length ≤ kContentRecordMaxBytes)
    (shape : buffer ++ rest = wrapRecord type body ++ more)
    (short : buffer.length < 5 + body.length) :
    recordFront buffer = .incomplete := by
  simp only [recordFront]
  by_cases enough : buffer.length < 5
  · rw [if_pos enough]
  · have declared := loadAt_wrapRecord fits (by omega) shape
    rw [if_neg enough, declared, if_neg, if_pos (by omega)]
    simp only [Bool.or_eq_true, decide_eq_true_eq]
    omega

end Front

end FlyNes.Content
