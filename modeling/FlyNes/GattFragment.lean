import Mathlib.Data.List.Sort
import FlyNes.WireSha256

namespace FlyNes.Gatt

open ByteString

/-!
# Logical messages over GATT

A logical message is a header of eight bytes, a body and a domain hash over both.
It travels as a sequence of physical values, each with a header of 14 bytes that
names the message, the fragment and the place of its data.  The reassembler
collects fragments in any order, keeps at most two messages open and remembers
the last two it completed.
-/

abbrev kGattPhysicalHeaderSize : Nat := 14
abbrev kGattLogicalMinSize : Nat := 40
abbrev kGattLogicalMaxSize : Nat := 4096
abbrev kGattMaxIncompleteMessages : Nat := 2
abbrev kGattMaxBufferedBytes : Nat := 8192
abbrev kGattNoProgressTimeoutNs : Nat := 5000000000

inductive GattPhysicalDirection where
  | centralToPeripheral
  | peripheralToCentral
deriving DecidableEq

inductive GattFragmentResult where
  | accepted
  | duplicate
  | complete
  | stale
  | invalidArgument
  | notSupported
  | backpressure
  | protocolViolation
deriving DecidableEq

/-- The parts of a logical message. -/
structure GattLogicalMessageView where
  version : UInt8
  logicalType : UInt8
  body : Bytes
  logicalHash : Bytes
deriving DecidableEq

/-- What is known of a completed message besides its bytes. -/
structure GattCompletedMetadata where
  logicalType : UInt8 := 0
  messageId : Nat := 0
  logicalHash : Block 32 := Block.zero 32
deriving DecidableEq

def readBe16 (bytes : Bytes) (offset : Nat) : Nat :=
  fromBigEndian ((bytes.drop offset).take 2)

def readBe32 (bytes : Bytes) (offset : Nat) : Nat :=
  fromBigEndian ((bytes.drop offset).take 4)

/-- The bytes of `flynes-gatt-logical-v`. -/
def kLogicalDomain : Bytes :=
  [0x66, 0x6C, 0x79, 0x6E, 0x65, 0x73, 0x2D, 0x67, 0x61, 0x74, 0x74, 0x2D,
    0x6C, 0x6F, 0x67, 0x69, 0x63, 0x61, 0x6C, 0x2D, 0x76]

/-- The hash domain of a version, for the types that the version has. -/
def logicalDomain (version type : UInt8) : Option Bytes :=
  if version = 1 ∧ 1 ≤ type ∧ type ≤ 26 then
    some (kLogicalDomain ++ [0x31])
  else if version = 2 ∧ (type = 27 ∨ type = 28) then
    some (kLogicalDomain ++ [0x32])
  else
    none

/-- Parse one whole logical message of the expected type. -/
def decodeGattLogicalMessage
    (bytes : Bytes)
    (expectedType : UInt8) : Except GattFragmentResult GattLogicalMessageView :=
  if bytes.length < kGattLogicalMinSize ∨ bytes.length > kGattLogicalMaxSize ∨
      expectedType = 0 ∨ bytes.getD 1 0 ≠ expectedType ∨
      bytes.getD 2 0 ≠ 0 ∨ bytes.getD 3 0 ≠ 0 then
    .error .protocolViolation
  else
    let bodySize := readBe32 bytes 4
    if bodySize > kGattLogicalMaxSize - 40 ∨
        bytes.length ≠ 8 + bodySize + 32 then
      .error .protocolViolation
    else
      match logicalDomain (bytes.getD 0 0) expectedType with
      | none => .error .protocolViolation
      | some domain =>
          let logicalHash := bytes.drop (8 + bodySize)
          if (Wire.domainHash domain (bytes.take (8 + bodySize))).bytes ≠
              logicalHash then
            .error .protocolViolation
          else
            .ok
              { version := bytes.getD 0 0
                logicalType := bytes.getD 1 0
                body := (bytes.drop 8).take bodySize
                logicalHash }

/-- Write one logical message. -/
def encodeGattLogicalMessage
    (logicalType : UInt8)
    (body : Bytes) : Except GattFragmentResult Bytes :=
  let version : UInt8 := if 1 ≤ logicalType ∧ logicalType ≤ 26 then 1 else 2
  match logicalDomain version logicalType with
  | none => .error .notSupported
  | some domain =>
      if body.length > kGattLogicalMaxSize - kGattLogicalMinSize then
        .error .backpressure
      else
        let encoded :=
          [version, logicalType, 0, 0] ++ bigEndian 4 body.length ++ body
        .ok (encoded ++ (Wire.domainHash domain encoded).bytes)

/-- The bytes are one whole logical message of the type. -/
def exactLogicalMessage (bytes : Bytes) (expectedType : UInt8) : Bool :=
  match decodeGattLogicalMessage bytes expectedType with
  | .ok _ => true
  | .error _ => false

/-- The fields of a physical value. -/
structure GattFragment where
  logicalType : UInt8
  messageId : Nat
  index : Nat
  count : Nat
  offset : Nat
  total : Nat
  data : Bytes
deriving DecidableEq

/-- The physical value that carries a fragment. -/
def GattFragment.value (fragment : GattFragment) : Bytes :=
  [1, fragment.logicalType,
      (if fragment.index = 0 then 1 else 0) |||
        (if fragment.index + 1 = fragment.count then 2 else 0), 0] ++
    (bigEndian 2 fragment.messageId ++ (bigEndian 2 fragment.index ++
    (bigEndian 2 fragment.count ++ (bigEndian 2 fragment.offset ++
    (bigEndian 2 fragment.total ++ fragment.data)))))

/-- The fragment of a message at an index. -/
def fragmentAt
    (logical : Bytes)
    (logicalType : UInt8)
    (messageId dataCap count index : Nat) : GattFragment where
  logicalType := logicalType
  messageId := messageId
  index := index
  count := count
  offset := index * dataCap
  total := logical.length
  data := (logical.drop (index * dataCap)).take dataCap

/-- Cut a logical message into physical values of at most `attValueCap` bytes. -/
def fragmentGattLogical
    (logical : Bytes)
    (logicalType : UInt8)
    (messageId attValueCap : Nat) : Except GattFragmentResult (List Bytes) :=
  if attValueCap < 20 then
    .error .notSupported
  else if logical.length < kGattLogicalMinSize ∨
      logical.length > kGattLogicalMaxSize then
    .error .backpressure
  else if messageId = 0 ∨ logicalType = 0 ∨
      !exactLogicalMessage logical logicalType then
    .error .protocolViolation
  else
    let dataCap := attValueCap - kGattPhysicalHeaderSize
    let count := (logical.length + dataCap - 1) / dataCap
    if count = 0 ∨ count > 683 ∨ count > 65535 then
      .error .backpressure
    else
      .ok ((List.range count).map fun index =>
        (fragmentAt logical logicalType messageId dataCap count index).value)

/-- Read a physical value, with every check that needs no state. -/
def readPhysicalValue (value : Bytes) : Option GattFragment :=
  let flags := value.getD 2 0
  let fragment : GattFragment :=
    { logicalType := value.getD 1 0
      messageId := readBe16 value 4
      index := readBe16 value 6
      count := readBe16 value 8
      offset := readBe16 value 10
      total := readBe16 value 12
      data := value.drop kGattPhysicalHeaderSize }
  if value.length ≤ kGattPhysicalHeaderSize ∨ value.length > 244 ∨
      value.getD 0 0 ≠ 1 ∨ value.getD 1 0 = 0 ∨ flags &&& ~~~3 ≠ 0 ∨
      value.getD 3 0 ≠ 0 then
    none
  else if fragment.messageId = 0 ∨ fragment.count = 0 ∨ fragment.count > 683 ∨
      fragment.index ≥ fragment.count ∨
      fragment.total < kGattLogicalMinSize ∨
      fragment.total > kGattLogicalMaxSize ∨
      fragment.offset + fragment.data.length > fragment.total ∨
      decide (flags &&& 1 ≠ 0) ≠ decide (fragment.index = 0) ∨
      decide (flags &&& 2 ≠ 0) ≠
        decide (fragment.index + 1 = fragment.count) then
    none
  else
    some fragment

/-- One stored fragment of an open message. -/
structure Piece where
  index : Nat
  offset : Nat
  bytes : Bytes
deriving DecidableEq

def GattFragment.piece (fragment : GattFragment) : Piece where
  index := fragment.index
  offset := fragment.offset
  bytes := fragment.data

/-- An open message. -/
structure Assembly where
  logicalType : UInt8
  messageId : Nat
  fragmentCount : Nat
  totalLength : Nat
  lastProgressNs : Nat
  pieces : List Piece
deriving DecidableEq

/-- A message that was completed. -/
structure Completed where
  logicalType : UInt8
  messageId : Nat
  fragmentCount : Nat
  totalLength : Nat
  logical : Bytes
deriving DecidableEq

structure GattReassembler where
  generation : Nat
  direction : GattPhysicalDirection
  bufferedBytes : Nat := 0
  assemblies : List Assembly := []
  completed : List Completed := []
deriving DecidableEq

/-- What `accept` returns and writes to its outputs. -/
structure GattOutput where
  result : GattFragmentResult
  completed : Bytes := []
  metadata : GattCompletedMetadata := {}
deriving DecidableEq

def rangesOverlap
    (firstOffset firstSize secondOffset secondSize : Nat) : Bool :=
  firstOffset < secondOffset + secondSize ∧ secondOffset < firstOffset + firstSize

/-- How a fragment relates to the stored pieces of its message. -/
inductive PieceMatch where
  | fresh
  | same
  | conflict
deriving DecidableEq

/-- Compare a fragment with the stored pieces, one after another. -/
def matchPieces (fragment : GattFragment) : List Piece → PieceMatch
  | [] => .fresh
  | piece :: rest =>
      if piece.index = fragment.index then
        if piece.offset = fragment.offset ∧ piece.bytes = fragment.data then
          .same
        else
          .conflict
      else if rangesOverlap piece.offset piece.bytes.length fragment.offset
          fragment.data.length then
        .conflict
      else
        matchPieces fragment rest

/-- Append pieces whose offsets meet the end of the bytes before them. -/
def joinPieces : Nat → List Piece → Option Bytes
  | _, [] => some []
  | cursor, piece :: rest =>
      if piece.offset ≠ cursor then
        none
      else
        (joinPieces (cursor + piece.bytes.length) rest).map (piece.bytes ++ ·)

/-- The logical message of an assembly that has all its pieces. -/
def Assembly.logical (assembly : Assembly) : Option Bytes :=
  (joinPieces 0
    (assembly.pieces.insertionSort fun left right =>
      left.offset ≤ right.offset)).filter fun bytes =>
        bytes.length = assembly.totalLength ∧
          exactLogicalMessage bytes assembly.logicalType

/-- Store one more piece. -/
def Assembly.grow
    (assembly : Assembly)
    (now : Nat)
    (fragment : GattFragment) : Assembly :=
  { assembly with
    pieces := assembly.pieces ++ [fragment.piece]
    lastProgressNs := now }

/-- The answer to a fragment of a message that was completed. -/
def Completed.answer
    (prior : Completed)
    (fragment : GattFragment) : GattOutput :=
  if prior.logicalType = fragment.logicalType ∧
      prior.fragmentCount = fragment.count ∧
      prior.totalLength = fragment.total ∧
      fragment.offset + fragment.data.length ≤ prior.logical.length ∧
      (prior.logical.drop fragment.offset).take fragment.data.length =
        fragment.data then
    { result := .duplicate
      metadata :=
        { logicalType := prior.logicalType
          messageId := prior.messageId
          logicalHash :=
            Block.copy 32 (prior.logical.drop (prior.logical.length - 32)) } }
  else
    { result := .protocolViolation }

namespace GattReassembler

/-- Drop an open message and the bytes it counts for. -/
def erase (self : GattReassembler) (slot : Nat) : GattReassembler :=
  { self with
    bufferedBytes :=
      self.bufferedBytes - ((self.assemblies[slot]?).map (·.totalLength)).getD 0
    assemblies := self.assemblies.eraseIdx slot }

/-- Remember a completed message in place of the oldest of two. -/
def remember (self : GattReassembler) (prior : Completed) : GattReassembler :=
  { self with
    completed :=
      (if self.completed.length = kGattMaxIncompleteMessages then
        self.completed.drop 1
      else
        self.completed) ++ [prior] }

/-- Close an open message that has all its pieces. -/
def finish
    (self : GattReassembler)
    (slot : Nat)
    (assembly : Assembly) : GattReassembler × GattOutput :=
  match assembly.logical with
  | none => (self.erase slot, { result := .protocolViolation })
  | some logical =>
      ((self.remember
          { logicalType := assembly.logicalType
            messageId := assembly.messageId
            fragmentCount := assembly.fragmentCount
            totalLength := assembly.totalLength
            logical }).erase slot,
        { result := .complete
          completed := logical
          metadata :=
            { logicalType := assembly.logicalType
              messageId := assembly.messageId
              logicalHash :=
                Block.copy 32 (logical.drop (logical.length - 32)) } })

/-- Put a fragment to the open message in a slot. -/
def extend
    (self : GattReassembler)
    (slot : Nat)
    (assembly : Assembly)
    (now : Nat)
    (fragment : GattFragment) : GattReassembler × GattOutput :=
  if assembly.fragmentCount ≠ fragment.count ∨
      assembly.totalLength ≠ fragment.total then
    (self.erase slot, { result := .protocolViolation })
  else
    match matchPieces fragment assembly.pieces with
    | .same => (self, { result := .duplicate })
    | .conflict => (self.erase slot, { result := .protocolViolation })
    | .fresh =>
        let grown := assembly.grow now fragment
        let next :=
          { self with assemblies := self.assemblies.set slot grown }
        if grown.pieces.length ≠ grown.fragmentCount then
          (next, { result := .accepted })
        else
          next.finish slot grown

/-- A new assembly for the message of a fragment. -/
def freshAssembly (now : Nat) (fragment : GattFragment) : Assembly where
  logicalType := fragment.logicalType
  messageId := fragment.messageId
  fragmentCount := fragment.count
  totalLength := fragment.total
  lastProgressNs := now
  pieces := []

/-- Put a fragment to its open message, or open one if there is room. -/
def assemble
    (self : GattReassembler)
    (now : Nat)
    (fragment : GattFragment) : GattReassembler × GattOutput :=
  let slot :=
    self.assemblies.findIdx fun assembly =>
      assembly.messageId = fragment.messageId
  match self.assemblies[slot]? with
  | some assembly =>
      if assembly.logicalType ≠ fragment.logicalType then
        (self.erase slot, { result := .protocolViolation })
      else
        self.extend slot assembly now fragment
  | none =>
      if self.assemblies.length ≥ kGattMaxIncompleteMessages ∨
          self.bufferedBytes + fragment.total > kGattMaxBufferedBytes then
        (self, { result := .backpressure })
      else
        let fresh := freshAssembly now fragment
        let next :=
          { self with
            assemblies := self.assemblies ++ [fresh]
            bufferedBytes := self.bufferedBytes + fragment.total }
        next.extend self.assemblies.length fresh now fragment

/-- Accept one physical value. -/
def accept
    (self : GattReassembler)
    (connectionGeneration now : Nat)
    (value : Bytes) : GattReassembler × GattOutput :=
  if connectionGeneration ≠ self.generation then
    (self, { result := .stale })
  else
    match readPhysicalValue value with
    | none => (self, { result := .protocolViolation })
    | some fragment =>
        match self.completed.find? (·.messageId = fragment.messageId) with
        | some prior => (self, prior.answer fragment)
        | none => self.assemble now fragment

/-- An open message made no progress for too long. -/
def Expired (now : Nat) (assembly : Assembly) : Prop :=
  now ≥ assembly.lastProgressNs ∧
    now - assembly.lastProgressNs ≥ kGattNoProgressTimeoutNs

instance (now : Nat) (assembly : Assembly) :
    Decidable (Expired now assembly) :=
  inferInstanceAs (Decidable (_ ∧ _))

/-- Drop the expired messages among the first slots, the last slot first. -/
def expireFrom (now : Nat) : Nat → GattReassembler → GattReassembler × Nat
  | 0, self => (self, 0)
  | slot + 1, self =>
      match self.assemblies[slot]? with
      | none => expireFrom now slot self
      | some assembly =>
          if Expired now assembly then
            let rest := expireFrom now slot (self.erase slot)
            (rest.1, rest.2 + 1)
          else
            expireFrom now slot self

/-- Drop the messages that made no progress and count them. -/
def expire (self : GattReassembler) (now : Nat) : GattReassembler × Nat :=
  expireFrom now self.assemblies.length self

end GattReassembler

end FlyNes.Gatt
