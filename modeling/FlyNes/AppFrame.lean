import FlyNes.WireCodec

namespace FlyNes.Wire

open ByteString
open FlyNes.Dual (WireStatus loadAt)

/-!
# Application frames

A record on an application channel is a length, a type tag and the exact bytes of
an object.  The tag is looked up in a table of type names, the name in the list of
the names that the channel carries, and the object is checked under its name.
-/

inductive FrameTypeNamespace where
  | objectKind
  | message
deriving DecidableEq

/-- A row of the table of types. -/
structure FrameTagEntry where
  tag : Nat
  typeNamespace : FrameTypeNamespace
  typeName : String
deriving DecidableEq

/-- The table of types: every kind of the schema, then every message. -/
def kFrameTags : List FrameTagEntry :=
  [⟨0x0001, .objectKind, "0x0001"⟩,
    ⟨0x0002, .objectKind, "0x0002"⟩,
    ⟨0x0003, .objectKind, "0x0003"⟩,
    ⟨0x0004, .objectKind, "0x0004"⟩,
    ⟨0x0005, .objectKind, "0x0005"⟩,
    ⟨0x0006, .objectKind, "0x0006"⟩,
    ⟨0x0007, .objectKind, "0x0007"⟩,
    ⟨0x0008, .objectKind, "0x0008"⟩,
    ⟨0x0009, .objectKind, "0x0009"⟩,
    ⟨0x000A, .objectKind, "0x000a"⟩,
    ⟨0x000B, .objectKind, "0x000b"⟩,
    ⟨0x000C, .objectKind, "0x000c"⟩,
    ⟨0x000D, .objectKind, "0x000d"⟩,
    ⟨0x000E, .objectKind, "0x000e"⟩,
    ⟨0x0101, .objectKind, "0x0101"⟩,
    ⟨0x0102, .objectKind, "0x0102"⟩,
    ⟨0x0103, .objectKind, "0x0103"⟩,
    ⟨0x0104, .objectKind, "0x0104"⟩,
    ⟨0x0105, .objectKind, "0x0105"⟩,
    ⟨0x0106, .objectKind, "0x0106"⟩,
    ⟨0x0107, .objectKind, "0x0107"⟩,
    ⟨0x0108, .objectKind, "0x0108"⟩,
    ⟨0x0109, .objectKind, "0x0109"⟩,
    ⟨0x010A, .objectKind, "0x010a"⟩,
    ⟨0x010B, .objectKind, "0x010b"⟩,
    ⟨0x010C, .objectKind, "0x010c"⟩,
    ⟨0x010D, .objectKind, "0x010d"⟩,
    ⟨0x010E, .objectKind, "0x010e"⟩,
    ⟨0x010F, .objectKind, "0x010f"⟩,
    ⟨0x0110, .objectKind, "0x0110"⟩,
    ⟨0x0111, .objectKind, "0x0111"⟩,
    ⟨0x0112, .objectKind, "0x0112"⟩,
    ⟨0x0201, .objectKind, "0x0201"⟩,
    ⟨0x0202, .objectKind, "0x0202"⟩,
    ⟨0x0203, .objectKind, "0x0203"⟩,
    ⟨0x0204, .objectKind, "0x0204"⟩,
    ⟨0x0205, .objectKind, "0x0205"⟩,
    ⟨0x0206, .objectKind, "0x0206"⟩,
    ⟨0x0207, .objectKind, "0x0207"⟩,
    ⟨0x0208, .objectKind, "0x0208"⟩,
    ⟨0x0209, .objectKind, "0x0209"⟩,
    ⟨0x020A, .objectKind, "0x020a"⟩,
    ⟨0x020B, .objectKind, "0x020b"⟩,
    ⟨0x020C, .objectKind, "0x020c"⟩,
    ⟨0x020D, .objectKind, "0x020d"⟩,
    ⟨0x020E, .objectKind, "0x020e"⟩,
    ⟨0x020F, .objectKind, "0x020f"⟩,
    ⟨0x0210, .objectKind, "0x0210"⟩,
    ⟨0x0211, .objectKind, "0x0211"⟩,
    ⟨0x0212, .objectKind, "0x0212"⟩,
    ⟨0x0213, .objectKind, "0x0213"⟩,
    ⟨0x0216, .objectKind, "0x0216"⟩,
    ⟨0x0217, .objectKind, "0x0217"⟩,
    ⟨0x0218, .objectKind, "0x0218"⟩,
    ⟨0x0301, .objectKind, "0x0301"⟩,
    ⟨0x0302, .objectKind, "0x0302"⟩,
    ⟨0x0303, .objectKind, "0x0303"⟩,
    ⟨0x0304, .objectKind, "0x0304"⟩,
    ⟨0x0305, .objectKind, "0x0305"⟩,
    ⟨0x0306, .objectKind, "0x0306"⟩,
    ⟨0x0307, .objectKind, "0x0307"⟩,
    ⟨0x0308, .objectKind, "0x0308"⟩,
    ⟨0xFF00, .message, "FrameCursorV1"⟩,
    ⟨0xFF01, .message, "EvidenceCursorV1"⟩,
    ⟨0xFF02, .message, "CanonicalInputBundleV1"⟩,
    ⟨0xFF03, .message, "ChannelBindV1"⟩,
    ⟨0xFF04, .message, "ChannelBindProofV1"⟩,
    ⟨0xFF05, .message, "ChannelResumeSummaryV1"⟩,
    ⟨0xFF06, .message, "LinkHelloV1"⟩,
    ⟨0xFF07, .message, "LinkReadyV1"⟩]

/-- The names that a channel carries, in the spelling of its list. -/
def allowListFor : QuicChannel → List String
  | .control => ["0x0210", "0x0212", "0x0216", "0x0217", "0x0218"]
  | .stateCommit =>
      ["0x0112", "0x0202", "0x0203", "0x020A", "0x020B", "0x020C", "0x020D",
        "0x020E", "0x020F", "0x0211", "CanonicalInputBundleV1"]
  | .bulk => ["0x000b"]
  | .input | .rom | .video | .audio => []

/-- The largest object of a channel. -/
def maxObjectBytes : QuicChannel → Nat
  | .control => 65536
  | .input => 1200
  | .stateCommit => 65536
  | .bulk => 245760
  | .rom => 65536
  | .video => 1200
  | .audio => 1200

/-- The largest object of any channel. -/
def absoluteMaxObjectBytes : Nat :=
  245760

/-- One record, as it was parsed. -/
structure AppFrame where
  frameTypeTag : Nat
  typeNamespace : FrameTypeNamespace
  typeName : String
  objectBytes : Bytes
  frameLength : Nat
  objectHash : Block 32
  appFrameHash : Option (Block 32)
deriving DecidableEq

/-- The row of a tag. -/
def frameTagInfo (frameTypeTag : Nat) : Option FrameTagEntry :=
  kFrameTags.find? (·.tag = frameTypeTag)

def typeNameForTag (frameTypeTag : Nat) : Option String :=
  (frameTagInfo frameTypeTag).map (·.typeName)

/-- The hash that binds an object to its channel and its tag. -/
def computeAppFrameHash
    (channel : QuicChannel)
    (frameTypeTag : Nat)
    (objectBytes : Bytes) : Block 32 :=
  sha256
    (ascii "flynes-app-frame-v1" ++ [channel.code] ++ bigEndian 2 frameTypeTag ++
      bigEndian 4 objectBytes.length ++ objectBytes)

/-- The largest object that is taken when the channel is known, or not. -/
def maxBody : Option QuicChannel → Nat
  | none => absoluteMaxObjectBytes
  | some channel => maxObjectBytes channel

/-- A name is legal if no channel is known, or the channel carries it. -/
def isAllowed (context : Option QuicChannel) (typeName : String) : Bool :=
  match context with
  | none => true
  | some channel => typeName ∈ allowListFor channel

/-- Look an object up by its tag and check it under its name. -/
def classifyRecord
    (context : Option QuicChannel)
    (frameTypeTag : Nat)
    (objectBytes : Bytes) : Except WireStatus AppFrame :=
  match frameTagInfo frameTypeTag with
  | none => .error .unknownKind
  | some info =>
      if !isAllowed context info.typeName then
        .error .invalidField
      else
        match check info.typeName objectBytes with
        | .error status => .error status
        | .ok objectHash =>
            .ok
              { frameTypeTag
                typeNamespace := info.typeNamespace
                typeName := info.typeName
                objectBytes
                frameLength := 2 + objectBytes.length
                objectHash
                appFrameHash :=
                  context.map fun channel =>
                    computeAppFrameHash channel frameTypeTag objectBytes }

/-- Decode the record at the front of some bytes, and how long it is. -/
def decodeRecord
    (context : Option QuicChannel)
    (bytes : Bytes) : Except WireStatus (AppFrame × Nat) :=
  if bytes.length < 4 then
    .error .truncated
  else
    let declared := loadAt 4 0 bytes
    if declared < 2 then
      .error .badLength
    else if declared - 2 > maxBody context then
      .error .badLength
    else if 4 + declared > bytes.length then
      .error .truncated
    else
      (classifyRecord context (loadAt 2 4 bytes)
        ((bytes.drop 6).take (declared - 2))).map fun frame =>
          (frame, 4 + declared)

/-- Exactly one record, with or without a channel. -/
def decodeExactly
    (context : Option QuicChannel)
    (bytes : Bytes) : Except WireStatus AppFrame :=
  match decodeRecord context bytes with
  | .error status => .error status
  | .ok (frame, consumed) =>
      if consumed ≠ bytes.length then .error .trailing else .ok frame

/-- Parse the one record of a datagram on a channel. -/
def parseAppFrame
    (channel : QuicChannel)
    (bytes : Bytes) : Except WireStatus AppFrame :=
  decodeExactly (some channel) bytes

/-- The bytes of a record. -/
def recordBytes (frameTypeTag : Nat) (objectBytes : Bytes) : Bytes :=
  bigEndian 4 (2 + objectBytes.length) ++
    (bigEndian 2 frameTypeTag ++ objectBytes)

/-- Write a record into a buffer of some capacity. -/
def encodeAppFrame
    (frameTypeTag : Nat)
    (objectBytes : Bytes)
    (outCapacity : Nat) : Except WireStatus Bytes :=
  if typeNameForTag frameTypeTag = none then
    .error .unknownKind
  else if objectBytes.length > absoluteMaxObjectBytes then
    .error .badLength
  else if outCapacity < 6 + objectBytes.length then
    .error .truncated
  else
    .ok (recordBytes frameTypeTag objectBytes)

/-- A cursor over the records of a reliable stream. -/
structure AppFrameCursor where
  channel : QuicChannel
  bytes : Bytes
  offset : Nat := 0

/-- The next record of a stream, if it has not ended. -/
def nextAppFrame
    (cursor : AppFrameCursor) :
    Except WireStatus (Option (AppFrame × AppFrameCursor)) :=
  if cursor.offset > cursor.bytes.length then
    .error .truncated
  else if cursor.offset = cursor.bytes.length then
    .ok none
  else
    match decodeRecord (some cursor.channel) (cursor.bytes.drop cursor.offset) with
    | .error status => .error status
    | .ok (frame, consumed) =>
        .ok (some (frame, { cursor with offset := cursor.offset + consumed }))

/-! ### Records and their bytes -/

@[simp] theorem length_recordBytes
    (frameTypeTag : Nat)
    (objectBytes : Bytes) :
    (recordBytes frameTypeTag objectBytes).length = 6 + objectBytes.length := by
  simp [recordBytes]
  omega

variable {frameTypeTag : Nat}

/-- Every tag of the table is a word of two octets. -/
theorem frameTagInfo_lt
    {info : FrameTagEntry}
    (known : frameTagInfo frameTypeTag = some info) :
    frameTypeTag < 65536 := by
  have member := List.mem_of_find?_eq_some known
  have own := List.find?_some known
  have bounded : ∀ entry ∈ kFrameTags, entry.tag < 65536 := by
    decide
  rw [← of_decide_eq_true own]
  exact bounded info member

section Records

variable {context : Option QuicChannel} {frameTypeTag : Nat}
variable {objectBytes bytes : Bytes} {frame : AppFrame} {consumed : Nat}

theorem maxBody_le
    (context : Option QuicChannel) :
    maxBody context ≤ absoluteMaxObjectBytes := by
  cases context with
  | none =>
      exact Nat.le_refl _
  | some channel =>
      cases channel <;> decide

/-- What the length field of a record says. -/
theorem loadAt_recordBytes_length
    (sized : 2 + objectBytes.length < 2 ^ 32)
    (rest : Bytes) :
    loadAt 4 0 (recordBytes frameTypeTag objectBytes ++ rest) =
      2 + objectBytes.length := by
  have front :
      ((recordBytes frameTypeTag objectBytes ++ rest).drop 0).take 4 =
        bigEndian 4 (2 + objectBytes.length) := by
    simp [recordBytes]
  rw [loadAt, front, fromBigEndian_bigEndian]
  exact Nat.mod_eq_of_lt (by simpa using sized)

/-- What the tag field of a record says. -/
theorem loadAt_recordBytes_tag
    (tagged : frameTypeTag < 65536)
    (rest : Bytes) :
    loadAt 2 4 (recordBytes frameTypeTag objectBytes ++ rest) =
      frameTypeTag := by
  have front :
      ((recordBytes frameTypeTag objectBytes ++ rest).drop 4).take 2 =
        bigEndian 2 frameTypeTag := by
    simp [recordBytes]
  rw [loadAt, front, fromBigEndian_bigEndian]
  exact Nat.mod_eq_of_lt (by simpa using tagged)

/-- The object of a record. -/
theorem recordBytes_object
    (rest : Bytes) :
    ((recordBytes frameTypeTag objectBytes ++ rest).drop 6).take
        objectBytes.length =
      objectBytes := by
  have header :
      (bigEndian 4 (2 + objectBytes.length) ++
        bigEndian 2 frameTypeTag).length = 6 := by
    simp
  have shape :
      recordBytes frameTypeTag objectBytes ++ rest =
        (bigEndian 4 (2 + objectBytes.length) ++ bigEndian 2 frameTypeTag) ++
          (objectBytes ++ rest) := by
    simp [recordBytes]
  rw [shape, List.drop_left' header, List.take_left' rfl]

/-- Decoding in front of a record looks at its tag and its object only. -/
theorem decodeRecord_recordBytes
    (tagged : frameTypeTag < 65536)
    (sized : objectBytes.length ≤ maxBody context)
    (rest : Bytes) :
    decodeRecord context (recordBytes frameTypeTag objectBytes ++ rest) =
      (classifyRecord context frameTypeTag objectBytes).map fun frame =>
        (frame, 6 + objectBytes.length) := by
  have limit := maxBody_le context
  unfold absoluteMaxObjectBytes at limit
  have declared :
      loadAt 4 0 (recordBytes frameTypeTag objectBytes ++ rest) =
        2 + objectBytes.length :=
    loadAt_recordBytes_length (by omega) rest
  have length :
      (recordBytes frameTypeTag objectBytes ++ rest).length =
        6 + objectBytes.length + rest.length := by
    simp
  unfold decodeRecord
  simp only [declared, length, loadAt_recordBytes_tag tagged]
  rw [if_neg (by omega), if_neg (by omega), if_neg (by omega), if_neg (by omega),
    Nat.add_sub_cancel_left, recordBytes_object]
  congr 1
  funext frame
  rw [← Nat.add_assoc]

/-- The fields of a record that was classified. -/
theorem classifyRecord_ok
    (classified : classifyRecord context frameTypeTag objectBytes = .ok frame) :
    frame.frameTypeTag = frameTypeTag ∧ frame.objectBytes = objectBytes ∧
      ∃ info,
        frameTagInfo frameTypeTag = some info ∧
          isAllowed context info.typeName = true ∧
          ∃ hash, check info.typeName objectBytes = .ok hash := by
  unfold classifyRecord at classified
  cases known : frameTagInfo frameTypeTag with
  | none =>
      rw [known] at classified
      cases classified
  | some info =>
      rw [known] at classified
      dsimp only at classified
      cases allowed : isAllowed context info.typeName with
      | false =>
          rw [allowed] at classified
          cases classified
      | true =>
          rw [allowed] at classified
          cases checked : check info.typeName objectBytes with
          | error status =>
              rw [checked] at classified
              cases classified
          | ok hash =>
              rw [checked] at classified
              cases classified
              exact ⟨rfl, rfl, info, rfl, allowed, hash, checked⟩

/-- Writing the word at an offset returns its octets. -/
theorem bigEndian_loadAt
    {width offset : Nat}
    (inside : offset + width ≤ bytes.length) :
    bigEndian width (loadAt width offset bytes) =
      (bytes.drop offset).take width := by
  have length : ((bytes.drop offset).take width).length = width := by
    rw [List.length_take, List.length_drop]
    omega
  have written := bigEndian_fromBigEndian ((bytes.drop offset).take width)
  rw [length] at written
  exact written

/-- Bytes that hold a whole record start with the bytes of the record. -/
theorem recordBytes_of_declared
    (declared : 2 ≤ loadAt 4 0 bytes)
    (inside : 4 + loadAt 4 0 bytes ≤ bytes.length) :
    let objectBytes := (bytes.drop 6).take (loadAt 4 0 bytes - 2)
    objectBytes.length = loadAt 4 0 bytes - 2 ∧
      bytes.take (4 + loadAt 4 0 bytes) =
        recordBytes (loadAt 2 4 bytes) objectBytes := by
  intro objectBytes
  have length : objectBytes.length = loadAt 4 0 bytes - 2 := by
    rw [List.length_take, List.length_drop]
    omega
  refine ⟨length, ?_⟩
  have counted : 2 + objectBytes.length = loadAt 4 0 bytes := by
    omega
  rw [recordBytes, counted, bigEndian_loadAt (by omega),
    bigEndian_loadAt (by omega)]
  have whole : 4 + loadAt 4 0 bytes = 4 + (2 + (loadAt 4 0 bytes - 2)) := by
    omega
  rw [whole, List.take_add, List.take_add]
  simp only [objectBytes, List.drop_zero, List.drop_drop, Nat.reduceAdd]

/-- What was decoded stands at the front of the bytes. -/
theorem decodeRecord_ok
    (decoded : decodeRecord context bytes = .ok (frame, consumed)) :
    bytes =
        recordBytes frame.frameTypeTag frame.objectBytes ++
          bytes.drop consumed ∧
      consumed = 6 + frame.objectBytes.length ∧
      frame.objectBytes.length ≤ maxBody context ∧
      classifyRecord context frame.frameTypeTag frame.objectBytes = .ok frame := by
  unfold decodeRecord at decoded
  dsimp only at decoded
  split at decoded
  · cases decoded
  · split at decoded
    · cases decoded
    · split at decoded
      · cases decoded
      · split at decoded
        · cases decoded
        · rename_i enough declared fits inside
          obtain ⟨length, front⟩ :=
            recordBytes_of_declared (Nat.le_of_not_lt declared)
              (Nat.le_of_not_lt inside)
          cases classified :
              classifyRecord context (loadAt 2 4 bytes)
                ((bytes.drop 6).take (loadAt 4 0 bytes - 2)) with
          | error status =>
              rw [classified] at decoded
              cases decoded
          | ok found =>
              rw [classified] at decoded
              cases decoded
              obtain ⟨tag, object, _⟩ := classifyRecord_ok classified
              rw [tag, object]
              refine ⟨?_, ?_, ?_, classified⟩
              · rw [← front, List.take_append_drop]
              · omega
              · omega

/-- Exactly one record was decoded from exactly its bytes. -/
theorem decodeExactly_eq_ok_iff :
    decodeExactly context bytes = .ok frame ↔
      bytes = recordBytes frame.frameTypeTag frame.objectBytes ∧
        frame.objectBytes.length ≤ maxBody context ∧
        classifyRecord context frame.frameTypeTag frame.objectBytes =
          .ok frame := by
  constructor
  · intro parsed
    unfold decodeExactly at parsed
    cases decoded : decodeRecord context bytes with
    | error status =>
        rw [decoded] at parsed
        cases parsed
    | ok result =>
        obtain ⟨found, consumed⟩ := result
        rw [decoded] at parsed
        dsimp only at parsed
        split at parsed
        · cases parsed
        · rename_i exactly
          cases parsed
          obtain ⟨front, _, sized, classified⟩ := decodeRecord_ok decoded
          rw [not_not.mp exactly, List.drop_length, List.append_nil] at front
          exact ⟨front, sized, classified⟩
  · rintro ⟨front, sized, classified⟩
    obtain ⟨_, _, info, known, _⟩ := classifyRecord_ok classified
    have decoded :=
      decodeRecord_recordBytes (frameTagInfo_lt known) sized []
    rw [List.append_nil, ← front, classified] at decoded
    have length : bytes.length = 6 + frame.objectBytes.length := by
      rw [front, length_recordBytes]
    rw [decodeExactly, decoded]
    simp [Except.map, length]

variable {info : FrameTagEntry}

/-- An object of a legal tag that passes its check is classified. -/
theorem classifyRecord_eq_ok
    {hash : Block 32}
    (known : frameTagInfo frameTypeTag = some info)
    (allowed : isAllowed context info.typeName = true)
    (checked : check info.typeName objectBytes = .ok hash) :
    ∃ frame,
      classifyRecord context frameTypeTag objectBytes = .ok frame ∧
        frame.frameTypeTag = frameTypeTag ∧ frame.objectBytes = objectBytes := by
  unfold classifyRecord
  rw [known]
  dsimp only
  rw [allowed, checked]
  exact ⟨_, rfl, rfl, rfl⟩

/-- A known tag and an object that fits are written. -/
theorem encodeAppFrame_eq_ok
    {outCapacity : Nat}
    (known : frameTagInfo frameTypeTag = some info)
    (sized : objectBytes.length ≤ absoluteMaxObjectBytes)
    (room : 6 + objectBytes.length ≤ outCapacity) :
    encodeAppFrame frameTypeTag objectBytes outCapacity =
      .ok (recordBytes frameTypeTag objectBytes) := by
  have named : typeNameForTag frameTypeTag ≠ none := by
    simp [typeNameForTag, known]
  rw [encodeAppFrame, if_neg named, if_neg (Nat.not_lt_of_le sized),
    if_neg (Nat.not_lt_of_le room)]

end Records

/-! ### The round trip on a channel -/

/-- The value of a hexadecimal digit, in either case. -/
def hexDigit (letter : Char) : Option Nat :=
  if '0' ≤ letter ∧ letter ≤ '9' then
    some (letter.toNat - '0'.toNat)
  else if 'a' ≤ letter ∧ letter ≤ 'f' then
    some (letter.toNat - 'a'.toNat + 10)
  else if 'A' ≤ letter ∧ letter ≤ 'F' then
    some (letter.toNat - 'A'.toNat + 10)
  else
    none

/-- The number of a hexadecimal spelling. -/
def readHex (text : String) : Option Nat :=
  match text.toList with
  | '0' :: 'x' :: digits =>
      digits.foldlM (fun value letter => (hexDigit letter).map (value * 16 + ·)) 0
  | _ => none

/-- The tag that a listed name stands for: a number, or the tag of a message. -/
def tagOfListedName (name : String) : Option Nat :=
  match readHex name with
  | some number => some number
  | none => (kFrameTags.find? (·.typeName = name)).map (·.tag)

/-- The tags that the list of a channel names. -/
def listedTags (channel : QuicChannel) : List Nat :=
  (allowListFor channel).filterMap tagOfListedName

/-- An object is written and parsed back on a channel. -/
def RoundTrips
    (channel : QuicChannel)
    (frameTypeTag : Nat)
    (objectBytes : Bytes)
    (outCapacity : Nat) : Prop :=
  ∃ encoded frame,
    encodeAppFrame frameTypeTag objectBytes outCapacity = .ok encoded ∧
      parseAppFrame channel encoded = .ok frame ∧
      frame.frameTypeTag = frameTypeTag ∧ frame.objectBytes = objectBytes

/-- The tags whose spelling on the State Commit list is not that of the table. -/
def Misspelt (channel : QuicChannel) (frameTypeTag : Nat) : Prop :=
  channel = .stateCommit ∧ 0x020A ≤ frameTypeTag ∧ frameTypeTag ≤ 0x020F

instance (channel : QuicChannel) (frameTypeTag : Nat) :
    Decidable (Misspelt channel frameTypeTag) :=
  inferInstanceAs (Decidable (_ ∧ _))

/-- Every listed tag is in the table, and legal unless it is misspelt. -/
theorem isAllowed_listed
    {channel : QuicChannel}
    (listed : frameTypeTag ∈ listedTags channel) :
    ∃ info,
      frameTagInfo frameTypeTag = some info ∧
        isAllowed (some channel) info.typeName =
          decide (¬ Misspelt channel frameTypeTag) := by
  have lined :
      ∀ tag ∈ listedTags channel,
        (frameTagInfo tag).map (fun info =>
            isAllowed (some channel) info.typeName) =
          some (decide (¬ Misspelt channel tag)) := by
    cases channel <;> decide
  have own := lined frameTypeTag listed
  rwa [Option.map_eq_some_iff] at own

/-- A tag that has gone through is spelt in both places alike. -/
theorem RoundTrips.spelt
    {channel : QuicChannel}
    (trips : RoundTrips channel frameTypeTag objectBytes outCapacity)
    (listed : frameTypeTag ∈ listedTags channel) :
    ¬ Misspelt channel frameTypeTag := by
  intro misspelt
  obtain ⟨info, known, allowed⟩ := isAllowed_listed listed
  obtain ⟨encoded, frame, _, parsed, tag, object⟩ := trips
  obtain ⟨_, _, classified⟩ := decodeExactly_eq_ok_iff.mp parsed
  rw [tag, object] at classified
  obtain ⟨_, _, own, found, legalHere, _⟩ := classifyRecord_ok classified
  have same : own = info := Option.some.inj (found.symm.trans known)
  rw [same, allowed] at legalHere
  exact of_decide_eq_true legalHere misspelt

/-- What is parsed is what would be written. -/
theorem encodeAppFrame_parsed
    {channel : QuicChannel}
    {bytes : Bytes}
    {frame : AppFrame}
    (parsed : parseAppFrame channel bytes = .ok frame) :
    encodeAppFrame frame.frameTypeTag frame.objectBytes bytes.length = .ok bytes := by
  obtain ⟨front, fits, classified⟩ := decodeExactly_eq_ok_iff.mp parsed
  obtain ⟨_, _, own, found, _⟩ := classifyRecord_ok classified
  have length : bytes.length = 6 + frame.objectBytes.length := by
    rw [front, length_recordBytes]
  rw [encodeAppFrame_eq_ok found (Nat.le_trans fits (maxBody_le (some channel)))
    (Nat.le_of_eq length.symm), ← front]

/--
On every channel, an object that passes its check and fits comes back as it was
written exactly if its tag is spelt in the list of the channel as in the table;
and whatever is parsed is what would be written.
-/
theorem app_frame_round_trip (channel : QuicChannel) :
    (∀ frameTypeTag objectBytes outCapacity,
        frameTypeTag ∈ listedTags channel →
        (∃ typeName hash,
          typeNameForTag frameTypeTag = some typeName ∧
            check typeName objectBytes = .ok hash) →
        objectBytes.length ≤ maxObjectBytes channel →
        6 + objectBytes.length ≤ outCapacity →
          (RoundTrips channel frameTypeTag objectBytes outCapacity ↔
            ¬ Misspelt channel frameTypeTag)) ∧
      ∀ bytes frame,
        parseAppFrame channel bytes = .ok frame →
          encodeAppFrame frame.frameTypeTag frame.objectBytes bytes.length =
            .ok bytes := by
  refine ⟨?_, fun _ _ => encodeAppFrame_parsed⟩
  intro frameTypeTag objectBytes outCapacity listed legal sized room
  refine ⟨fun trips => trips.spelt listed, fun spelt => ?_⟩
  obtain ⟨info, known, allowed⟩ := isAllowed_listed listed
  obtain ⟨typeName, hash, named, checked⟩ := legal
  have name : info.typeName = typeName := by
    simpa [typeNameForTag, known] using named
  rw [← name] at checked
  have legalHere : isAllowed (some channel) info.typeName = true := by
    rw [allowed]
    exact decide_eq_true spelt
  obtain ⟨frame, classified, tag, object⟩ :=
    classifyRecord_eq_ok known legalHere checked
  refine ⟨recordBytes frameTypeTag objectBytes, frame, ?_, ?_, tag, object⟩
  · exact encodeAppFrame_eq_ok known (Nat.le_trans sized (maxBody_le (some channel))) room
  · refine decodeExactly_eq_ok_iff.mpr ⟨?_, ?_, ?_⟩
    · rw [tag, object]
    · rw [object]
      exact sized
    · rw [tag, object]
      exact classified

/-- A grant of an input reservation that passes its check. -/
def blankReservationGrant : Bytes :=
  [0, 1] ++ List.replicate 310 0

/-- An intent to suspend that passes its check. -/
def blankSuspendIntent : Bytes :=
  [0, 1] ++ List.replicate 238 0

/-- An intent to suspend goes through the Control channel. -/
theorem suspend_intent_round_trips :
    RoundTrips .control 0x0210 blankSuspendIntent 246 := by
  have named : typeNameForTag 0x0210 = some "0x0210" := by
    decide
  have checked :
      ∃ hash, check "0x0210" blankSuspendIntent = .ok hash :=
    ⟨writeHash "flynes-suspend-intent-v1" blankSuspendIntent, by decide +kernel⟩
  obtain ⟨hash, passed⟩ := checked
  exact ((app_frame_round_trip .control).1 0x0210 blankSuspendIntent 246
    (by decide +kernel) ⟨_, hash, named, passed⟩ (by decide +kernel)
    (by decide +kernel)).mpr (by decide)

/-- A grant of an input reservation does not go through the State Commit channel. -/
theorem reservation_grant_is_refused :
    0x020A ∈ listedTags .stateCommit ∧
      check "0x020a" blankReservationGrant =
        .ok (writeHash "flynes-input-sequence-reserve-grant-v1"
          blankReservationGrant) ∧
      typeNameForTag 0x020A = some "0x020a" ∧
      blankReservationGrant.length ≤ maxObjectBytes .stateCommit ∧
      encodeAppFrame 0x020A blankReservationGrant 318 =
        .ok (recordBytes 0x020A blankReservationGrant) ∧
      parseAppFrame .stateCommit (recordBytes 0x020A blankReservationGrant) =
        .error .invalidField := by
  decide +kernel

end FlyNes.Wire
