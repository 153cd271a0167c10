import Mathlib.Data.Int.Notation
import FlyNes.RomPayload

namespace FlyNes.Catalog.Port

open ByteString

/-!
# The other parser of payloads

The scanner has a parser of its own, whose numbers are signed words of 32 and 64 bits
that wrap around, or throw where that is asked for.  Its results check what they are made
from.
-/

/-- A signed word of 32 bits. -/
def wrapInt (value : Int) : Int :=
  value.bmod 0x100000000

/-- A signed word of 64 bits. -/
def wrapLong (value : Int) : Int :=
  value.bmod 0x10000000000000000

def longMax : Int := 0x7FFFFFFFFFFFFFFF

/-- A long that has not overflowed. -/
def exactLong (value : Int) : Option Int :=
  if -longMax - 1 ≤ value ∧ value ≤ longMax then some value else none

def addExact (left right : Int) : Option Int :=
  exactLong (left + right)

def multiplyExact (left right : Int) : Option Int :=
  exactLong (left * right)

structure RomAnalysis where
  expectedBytes : Int
  actualBytes : Int
  prgBytes : Int
  chrBytes : Int
  mapper : Int
  submapper : Int
  trainer : Bool
  battery : Bool
  diskSides : Int
  warnings : List RomWarning
deriving DecidableEq

structure Parsed where
  format : RomFormat
  state : CompatibilityState
  reason : CompatibilityReason
  analysis : RomAnalysis
deriving DecidableEq

/-- An analysis has no negative sizes. -/
def newAnalysis (analysis : RomAnalysis) : Except Fault RomAnalysis :=
  if analysis.expectedBytes < 0 ∨ analysis.actualBytes < 0 ∨ analysis.prgBytes < 0 ∨
      analysis.chrBytes < 0 then
    throw .illegalArgument
  else if analysis.mapper < -1 ∨ analysis.submapper < -1 ∨ analysis.diskSides < 0 then
    throw .illegalArgument
  else
    return analysis

/-- Only a game of one kind is playable. -/
def newParsed
    (format : RomFormat)
    (state : CompatibilityState)
    (reason : CompatibilityReason)
    (analysis : RomAnalysis) : Except Fault Parsed :=
  if state = .playable ∧ reason ≠ .playableNes then throw .illegalArgument
  else return { format, state, reason, analysis }

def basic (actualBytes : Int) : Except Fault RomAnalysis :=
  newAnalysis {
    expectedBytes := actualBytes
    actualBytes
    prgBytes := 0
    chrBytes := 0
    mapper := -1
    submapper := -1
    trainer := false
    battery := false
    diskSides := 0
    warnings := [] }

def fdsAnalysis
    (expected actual sides : Int)
    (warnings : List RomWarning) : Except Fault RomAnalysis :=
  newAnalysis {
    expectedBytes := expected
    actualBytes := actual
    prgBytes := 0
    chrBytes := 0
    mapper := -1
    submapper := -1
    trainer := false
    battery := false
    diskSides := sides
    warnings }

def invalid
    (format : RomFormat)
    (reason : CompatibilityReason)
    (analysis : Except Fault RomAnalysis) : Except Fault Parsed := do
  newParsed format .invalid reason (← analysis)

/-! ### Bytes -/

def startsWithAt (value : Bytes) (offset : Int) (signature : Bytes) : Except Fault Bool :=
  if offset < 0 ∨ wrapInt (value.length - offset) < signature.length then return false
  else matchesAt value offset.toNat signature

def startsWith (value : Bytes) (signature : Bytes) : Except Fault Bool :=
  startsWithAt value 0 signature

/-! ### NES -/

def nes2Size (lsb : UInt8) (msbNibble : Nat) (unit : Int) : Option Int :=
  if msbNibble ≠ 0x0F then
    multiplyExact ((msbNibble <<< 8) ||| lsb.toNat : Nat) unit
  else
    let exponent := lsb.toNat >>> 2
    let multiplier := (lsb.toNat &&& 0x03) * 2 + 1
    if exponent ≥ 63 then none
    else multiplyExact (wrapLong (1 <<< exponent : Nat)) (multiplier : Nat)

structure NesHeader where
  nes2 : Bool
  mapper : Int
  submapper : Int
  /-- None if an exception has been caught. -/
  sizes : Option (Int × Int)

def readHeader (payload : Bytes) (flags6 flags7 : Nat) : Except Fault NesHeader := do
  let mapper := (flags6 >>> 4) ||| (flags7 &&& 0xF0)
  if flags7 &&& 0x0C == 0x08 then
    let byte8 ← readByte payload 8
    let byte9 ← readByte payload 9
    let low ← readByte payload 4
    let low' ← readByte payload 5
    return {
      nes2 := true
      mapper := (mapper ||| ((byte8.toNat &&& 0x0F) <<< 8) : Nat)
      submapper := (byte8.toNat >>> 4 : Nat)
      sizes := do
        let prgBytes ← nes2Size low (byte9.toNat &&& 0x0F) 16384
        let chrBytes ← nes2Size low' (byte9.toNat >>> 4) 8192
        return (prgBytes, chrBytes) }
  else
    let low ← readByte payload 4
    let low' ← readByte payload 5
    return {
      nes2 := false
      mapper := (mapper : Nat)
      submapper := 0
      sizes := do
        let prgBytes ← multiplyExact low.toNat 16384
        let chrBytes ← multiplyExact low'.toNat 8192
        return (prgBytes, chrBytes) }

/-- The sizes that a header gives; `analysis` makes the results of them. -/
def checkSizes
    (format : RomFormat)
    (length prgBytes chrBytes prefixBytes : Int)
    (warnings : List RomWarning)
    (analysis : Int → List RomWarning → Except Fault RomAnalysis) : Except Fault Parsed := do
  let sum := do
    let contentBytes ← addExact prgBytes chrBytes
    addExact prefixBytes contentBytes
  match sum with
  | none => invalid format .nesSizeOverflow (analysis 0 warnings)
  | some expected =>
      if prgBytes = 0 then
        invalid format .nesZeroPrg (analysis expected warnings)
      else if length < expected then
        invalid format .nesTruncated (analysis expected warnings)
      else
        let warnings :=
          if length > expected then warnings ++ [.trailingData] else warnings
        newParsed format .playable .playableNes (← analysis expected warnings)

def parseNes (payload : Bytes) : Except Fault Parsed := do
  if payload.length < inesHeaderBytes then
    invalid .ines .nesHeaderInvalid (basic payload.length)
  else
    let flags6 ← readByte payload 6
    let flags7 ← readByte payload 7
    let header ← readHeader payload flags6.toNat flags7.toNat
    let format := if header.nes2 then RomFormat.nes2 else RomFormat.ines
    let trainer := flags6.toNat &&& 0x04 != 0
    let battery := flags6.toNat &&& 0x02 != 0
    match header.sizes with
    | none =>
        invalid format .nesSizeOverflow (newAnalysis {
          expectedBytes := 0
          actualBytes := payload.length
          prgBytes := 0
          chrBytes := 0
          mapper := header.mapper
          submapper := header.submapper
          trainer
          battery
          diskSides := 0
          warnings := [] })
    | some (prgBytes, chrBytes) =>
        let dirty ← isDirty header.nes2 payload
        let mapper := if dirty then ((flags6.toNat >>> 4 : Nat) : Int) else header.mapper
        let warnings := if dirty then [RomWarning.dirtyHeader] else []
        checkSizes format payload.length prgBytes chrBytes
          (inesHeaderBytes + if trainer then (trainerBytes : Int) else 0) warnings
          fun expectedBytes warnings =>
            newAnalysis {
              expectedBytes
              actualBytes := payload.length
              prgBytes
              chrBytes
              mapper
              submapper := header.submapper
              trainer
              battery
              diskSides := 0
              warnings }

/-! ### FDS -/

/-- The signatures of so many sides, from one on. -/
def validFdsSignatures
    (payload : Bytes)
    (offset : Int)
    (side : Nat) : Nat → Except Fault Bool
  | 0 => return true
  | sides + 1 => do
      let signed ←
        startsWithAt payload (wrapInt (offset + wrapInt (side * fdsSideBytes)))
          fdsSideSignature
      if !signed then return false
      else validFdsSignatures payload offset (side + 1) sides

def unsupportedFds (analysis : Except Fault RomAnalysis) : Except Fault Parsed := do
  newParsed .fds .unsupported .fdsBiosApiNotImplemented (← analysis)

def parseHeaderedFds (payload : Bytes) : Except Fault Parsed := do
  if payload.length < fdsHeaderBytes then
    invalid .fds .fdsTruncated (basic payload.length)
  else
    let sides ← readByte payload 4
    if sides = 0 then
      invalid .fds .fdsInvalidSideCount (basic payload.length)
    else
      let expected := wrapLong (fdsHeaderBytes + wrapLong (sides.toNat * fdsSideBytes))
      if payload.length < expected then
        invalid .fds .fdsTruncated (fdsAnalysis expected payload.length sides.toNat [])
      else
        let signed ← validFdsSignatures payload fdsHeaderBytes 0 sides.toNat
        if !signed then
          invalid .fds .fdsInvalidHeader (fdsAnalysis expected payload.length sides.toNat [])
        else
          let warnings := if payload.length > expected then [RomWarning.trailingData] else []
          unsupportedFds (fdsAnalysis expected payload.length sides.toNat warnings)

def parseHeaderlessFds (payload : Bytes) : Except Fault Parsed := do
  if payload.length < fdsSideBytes ∨ payload.length % fdsSideBytes ≠ 0 then
    let expectedSides :=
      wrapInt (max 1 ((wrapLong (payload.length + fdsSideBytes - 1)).tdiv fdsSideBytes))
    let expected := wrapLong (expectedSides * fdsSideBytes)
    invalid .fds .fdsTruncated (fdsAnalysis expected payload.length expectedSides [])
  else
    let sides := payload.length / fdsSideBytes
    let signed ← validFdsSignatures payload 0 0 sides
    if !signed then
      invalid .fds .fdsInvalidHeader
        (fdsAnalysis payload.length payload.length sides [])
    else
      unsupportedFds (fdsAnalysis payload.length payload.length sides [])

/-! ### UNIF -/

def unsignedInt (value : Bytes) (offset : Int) : Except Fault Int := do
  let bytes ← littleEndianU32 value offset.toNat
  return bytes

/-- Walk the chunks from a cursor on, if there is time. -/
def walkChunks (payload : Bytes) : Nat → Int → Bool → Except Fault (Option Bool)
  | 0, _, _ => throw .endless
  | fuel + 1, cursor, hasPrg => do
      if cursor < payload.length then
        if wrapInt (payload.length - cursor) < 8 then
          return none
        else if cursor < 0 then
          throw .outside
        else
          let prgChunk ← isPrgChunk payload cursor.toNat
          let length ← unsignedInt payload (wrapInt (cursor + 4))
          let cursor := wrapInt (cursor + 8)
          if length > wrapInt (payload.length - cursor) then
            return none
          else
            walkChunks payload fuel (wrapInt (cursor + wrapInt length))
              (hasPrg || (prgChunk && length > 0))
      else
        return some hasPrg

def parseUnif (payload : Bytes) : Except Fault Parsed := do
  if payload.length < 32 then
    invalid .unif .unifInvalidChunk (basic payload.length)
  else
    match ← walkChunks payload (payload.length + 1) 32 false with
    | none => invalid .unif .unifInvalidChunk (basic payload.length)
    | some false => invalid .unif .unifMissingPrg (basic payload.length)
    | some true =>
        newParsed .unif .unsupported .unifProductDisabled (← basic payload.length)

/-- A payload that is not recognized has no result. -/
def parse (payload : Bytes) : Except Fault (Option Parsed) := do
  if ← startsWith payload nesSignature then
    some <$> parseNes payload
  else if ← startsWith payload fdsSignature then
    some <$> parseHeaderedFds payload
  else if ← startsWithAt payload 0 fdsSideSignature then
    some <$> parseHeaderlessFds payload
  else if ← startsWith payload unifSignature then
    some <$> parseUnif payload
  else
    return none

end FlyNes.Catalog.Port
