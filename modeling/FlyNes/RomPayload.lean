import FlyNes.ByteString

namespace FlyNes.Catalog

open ByteString

/-!
# Parsing a payload

A payload is a game for one of several machines, or something else.  Its header says how
large it has to be; sizes are words of 64 bits that have to fit a signed one.
-/

inductive RomFormat where
  | ines
  | nes2
  | fds
  | unif
  | unknown
deriving DecidableEq

inductive CompatibilityState where
  | playable
  | unsupported
  | invalid
  | unknown
deriving DecidableEq

inductive CompatibilityReason where
  | playableNes
  | fdsBiosApiNotImplemented
  | unifProductDisabled
  | nesHeaderInvalid
  | nesZeroPrg
  | nesTruncated
  | nesSizeOverflow
  | fdsInvalidHeader
  | fdsInvalidSideCount
  | fdsTruncated
  | unifInvalidChunk
  | unifMissingPrg
  | unknownFormat
deriving DecidableEq

inductive RomWarning where
  | trailingData
  | dirtyHeader
  | unicodePathRejected
deriving DecidableEq

/-- A parser does not return. -/
inductive Fault where
  | outside
  | illegalArgument
  | endless
deriving DecidableEq

structure RomAnalysis where
  expectedBytes : Nat := 0
  actualBytes : Nat := 0
  prgBytes : Nat := 0
  chrBytes : Nat := 0
  mapper : Int := -1
  submapper : Int := -1
  trainer : Bool := false
  battery : Bool := false
  diskSides : Nat := 0
  warnings : List RomWarning := []
deriving DecidableEq

structure RomParseResult where
  recognized : Bool := false
  format : RomFormat := .unknown
  state : CompatibilityState := .unknown
  reason : CompatibilityReason := .unknownFormat
  analysis : RomAnalysis := {}
deriving DecidableEq

def inesHeaderBytes : Nat := 16

def trainerBytes : Nat := 512

def fdsHeaderBytes : Nat := 16

def fdsSideBytes : Nat := 65500

/-- The words of 64 bits are counted modulo this. -/
def word64 : Nat := 0x10000000000000000

def signed64Max : Nat := 0x7FFFFFFFFFFFFFFF

/-- `NES` and 0x1A -/
def nesSignature : Bytes := [0x4E, 0x45, 0x53, 0x1A]

/-- `FDS` and 0x1A -/
def fdsSignature : Bytes := [0x46, 0x44, 0x53, 0x1A]

/-- `UNIF` -/
def unifSignature : Bytes := [0x55, 0x4E, 0x49, 0x46]

/-- 0x01 and `*NINTENDO-HVC*` -/
def fdsSideSignature : Bytes :=
  [0x01, 0x2A, 0x4E, 0x49, 0x4E, 0x54, 0x45, 0x4E, 0x44, 0x4F, 0x2D, 0x48, 0x56, 0x43, 0x2A]

/-! ### Bytes -/

def readByte (payload : Bytes) (index : Nat) : Except Fault UInt8 :=
  match payload[index]? with
  | some byte => .ok byte
  | none => .error .outside

/-- The bytes at an offset are those of a prefix. -/
def matchesAt (payload : Bytes) (offset : Nat) : Bytes → Except Fault Bool
  | [] => return true
  | expected :: rest => do
      let byte ← readByte payload offset
      if byte ≠ expected then return false else matchesAt payload (offset + 1) rest

/-- Some byte of a range is not zero. -/
def anyNonzero (payload : Bytes) (index : Nat) : Nat → Except Fault Bool
  | 0 => return false
  | count + 1 => do
      let byte ← readByte payload index
      if byte ≠ 0 then return true else anyNonzero payload (index + 1) count

def hasDirtyLegacyHeader (payload : Bytes) : Except Fault Bool :=
  anyNonzero payload 12 4

/-- Only a header of the older kind can be dirty. -/
def isDirty (isNes2 : Bool) (payload : Bytes) : Except Fault Bool :=
  if isNes2 then return false else hasDirtyLegacyHeader payload

def isHexDigit (value : UInt8) : Bool :=
  (value ≥ 0x30 && value ≤ 0x39) || (value ≥ 0x41 && value ≤ 0x46) ||
    (value ≥ 0x61 && value ≤ 0x66)

/-- A chunk begins with `PRG` and a digit. -/
def isPrgChunk (payload : Bytes) (cursor : Nat) : Except Fault Bool := do
  let first ← readByte payload cursor
  let second ← readByte payload (cursor + 1)
  let third ← readByte payload (cursor + 2)
  let fourth ← readByte payload (cursor + 3)
  return first == 0x50 && second == 0x52 && third == 0x47 && isHexDigit fourth

def littleEndianU32 (payload : Bytes) (offset : Nat) : Except Fault Nat := do
  let byte0 ← readByte payload offset
  let byte1 ← readByte payload (offset + 1)
  let byte2 ← readByte payload (offset + 2)
  let byte3 ← readByte payload (offset + 3)
  return byte0.toNat ||| (byte1.toNat <<< 8) ||| (byte2.toNat <<< 16) ||| (byte3.toNat <<< 24)

def startsWithAt (payload : Bytes) (offset : Nat) (signature : Bytes) : Except Fault Bool :=
  if offset > payload.length ∨ payload.length - offset < signature.length then return false
  else matchesAt payload offset signature

/-! ### Results -/

def basicAnalysis (actualSize : Nat) : RomAnalysis where
  expectedBytes := actualSize
  actualBytes := actualSize

def unrecognized (actualSize : Nat) : RomParseResult where
  analysis := basicAnalysis actualSize

def invalid
    (format : RomFormat)
    (reason : CompatibilityReason)
    (analysis : RomAnalysis) : RomParseResult where
  recognized := true
  format
  state := .invalid
  reason
  analysis

/-- There is room for two warnings. -/
def appendWarning (analysis : RomAnalysis) (warning : RomWarning) : RomAnalysis :=
  if analysis.warnings.length < 2 then
    { analysis with warnings := analysis.warnings ++ [warning] }
  else
    analysis

/-! ### Sizes -/

def checkedSignedAdd (left right : Nat) : Option Nat :=
  if left > signed64Max ∨ right > signed64Max ∨ left > signed64Max - right then none
  else some ((left + right) % word64)

def checkedSignedMultiply (left right : Nat) : Option Nat :=
  if left ≠ 0 ∧ right > signed64Max / left then none
  else some ((left * right) % word64)

def nes2Size (low : UInt8) (highNibble : Nat) (unit : Nat) : Option Nat :=
  if highNibble ≠ 0x0F then
    checkedSignedMultiply ((highNibble <<< 8) ||| low.toNat) unit
  else
    let exponent := low.toNat >>> 2
    let multiplier := (low.toNat &&& 0x03) * 2 + 1
    if exponent ≥ 63 then none else checkedSignedMultiply (1 <<< exponent) multiplier

/-! ### NES -/

/-- The header of a game, as far as it is understood. -/
structure NesHeader where
  isNes2 : Bool
  mapper : Nat
  submapper : Nat
  /-- None if one of them is too large. -/
  sizes : Option (Nat × Nat)

def readHeader (payload : Bytes) (flags6 flags7 : Nat) : Except Fault NesHeader := do
  let mapper := (flags6 >>> 4) ||| (flags7 &&& 0xF0)
  if flags7 &&& 0x0C == 0x08 then
    let byte8 ← readByte payload 8
    let byte9 ← readByte payload 9
    let low ← readByte payload 4
    let low' ← readByte payload 5
    return {
      isNes2 := true
      mapper := mapper ||| ((byte8.toNat &&& 0x0F) <<< 8)
      submapper := byte8.toNat >>> 4
      sizes := do
        let prgBytes ← nes2Size low (byte9.toNat &&& 0x0F) 16384
        let chrBytes ← nes2Size low' (byte9.toNat >>> 4) 8192
        return (prgBytes, chrBytes) }
  else
    let low ← readByte payload 4
    let low' ← readByte payload 5
    return {
      isNes2 := false
      mapper
      submapper := 0
      sizes := do
        let prgBytes ← checkedSignedMultiply low.toNat 16384
        let chrBytes ← checkedSignedMultiply low'.toNat 8192
        return (prgBytes, chrBytes) }

/-- The sizes that a header gives, held against the payload. -/
def checkSizes
    (format : RomFormat)
    (analysis : RomAnalysis)
    (prefixBytes : Nat) : RomParseResult :=
  let expected := do
    let contentBytes ← checkedSignedAdd analysis.prgBytes analysis.chrBytes
    checkedSignedAdd prefixBytes contentBytes
  match expected with
  | none => invalid format .nesSizeOverflow { analysis with expectedBytes := 0 }
  | some expectedBytes =>
      let analysis := { analysis with expectedBytes }
      if analysis.prgBytes = 0 then
        invalid format .nesZeroPrg analysis
      else if analysis.actualBytes < expectedBytes then
        invalid format .nesTruncated analysis
      else {
        recognized := true
        format
        state := .playable
        reason := .playableNes
        analysis :=
          if analysis.actualBytes > expectedBytes then appendWarning analysis .trailingData
          else analysis }

def parseNes (payload : Bytes) : Except Fault RomParseResult := do
  if payload.length < inesHeaderBytes then
    return invalid .ines .nesHeaderInvalid (basicAnalysis payload.length)
  else
    let flags6 ← readByte payload 6
    let flags7 ← readByte payload 7
    let header ← readHeader payload flags6.toNat flags7.toNat
    let format := if header.isNes2 then RomFormat.nes2 else RomFormat.ines
    let trainer := flags6.toNat &&& 0x04 != 0
    let analysis : RomAnalysis := {
      actualBytes := payload.length
      mapper := header.mapper
      submapper := header.submapper
      trainer
      battery := flags6.toNat &&& 0x02 != 0 }
    match header.sizes with
    | none => return invalid format .nesSizeOverflow analysis
    | some (prgBytes, chrBytes) =>
        let analysis := { analysis with prgBytes, chrBytes }
        let dirty ← isDirty header.isNes2 payload
        let analysis :=
          if dirty then
            { appendWarning analysis .dirtyHeader with mapper := (flags6.toNat >>> 4 : Nat) }
          else
            analysis
        return checkSizes format analysis
          (inesHeaderBytes + if trainer then trainerBytes else 0)

/-! ### FDS -/

def fdsAnalysis (expected actual sides : Nat) : RomAnalysis where
  expectedBytes := expected
  actualBytes := actual
  diskSides := sides

/-- Every side has a signature; the offset of the last one is not left. -/
def validFdsSignatures (payload : Bytes) (sideOffset : Nat) : Nat → Except Fault Bool
  | 0 => return true
  | sides + 1 => do
      let signed ← startsWithAt payload sideOffset fdsSideSignature
      if !signed then
        return false
      else
        let next := if 0 < sides then (sideOffset + fdsSideBytes) % word64 else sideOffset
        validFdsSignatures payload next sides

def unsupportedFds (analysis : RomAnalysis) : RomParseResult where
  recognized := true
  format := .fds
  state := .unsupported
  reason := .fdsBiosApiNotImplemented
  analysis

def parseHeaderedFds (payload : Bytes) : Except Fault RomParseResult := do
  if payload.length < fdsHeaderBytes then
    return invalid .fds .fdsTruncated (basicAnalysis payload.length)
  else
    let sides ← readByte payload 4
    if sides = 0 then
      return invalid .fds .fdsInvalidSideCount (basicAnalysis payload.length)
    else
      let expected := fdsHeaderBytes + sides.toNat * fdsSideBytes
      let analysis := fdsAnalysis expected payload.length sides.toNat
      if payload.length < expected then
        return invalid .fds .fdsTruncated analysis
      else
        let signed ← validFdsSignatures payload fdsHeaderBytes sides.toNat
        if !signed then
          return invalid .fds .fdsInvalidHeader analysis
        else if payload.length > expected then
          return unsupportedFds (appendWarning analysis .trailingData)
        else
          return unsupportedFds analysis

def parseHeaderlessFds (payload : Bytes) : Except Fault RomParseResult := do
  if payload.length < fdsSideBytes ∨ payload.length % fdsSideBytes ≠ 0 then
    let rounded :=
      if payload.length % fdsSideBytes ≠ 0 then payload.length / fdsSideBytes + 1
      else payload.length / fdsSideBytes
    let sides := if rounded = 0 then 1 else rounded
    let expected :=
      if sides > (word64 - 1) / fdsSideBytes then word64 - 1 else sides * fdsSideBytes
    return invalid .fds .fdsTruncated (fdsAnalysis expected payload.length sides)
  else
    let sides := payload.length / fdsSideBytes
    let analysis := fdsAnalysis payload.length payload.length sides
    let signed ← validFdsSignatures payload 0 sides
    if !signed then
      return invalid .fds .fdsInvalidHeader analysis
    else
      return unsupportedFds analysis

/-! ### UNIF -/

/-- Walk the chunks from a cursor on, if there is time.  It is said whether there was one
with a program, unless a chunk is broken. -/
def walkChunks (payload : Bytes) : Nat → Nat → Bool → Except Fault (Option Bool)
  | 0, _, _ => throw .endless
  | fuel + 1, cursor, hasPrg => do
      if cursor < payload.length then
        if payload.length - cursor < 8 then
          return none
        else
          let prgChunk ← isPrgChunk payload cursor
          let length ← littleEndianU32 payload (cursor + 4)
          let cursor := cursor + 8
          if length > payload.length - cursor then
            return none
          else
            walkChunks payload fuel (cursor + length) (hasPrg || (prgChunk && length > 0))
      else
        return some hasPrg

def parseUnif (payload : Bytes) : Except Fault RomParseResult := do
  if payload.length < 32 then
    return invalid .unif .unifInvalidChunk (basicAnalysis payload.length)
  else
    match ← walkChunks payload (payload.length + 1) 32 false with
    | none => return invalid .unif .unifInvalidChunk (basicAnalysis payload.length)
    | some false => return invalid .unif .unifMissingPrg (basicAnalysis payload.length)
    | some true =>
        return {
          recognized := true
          format := .unif
          state := .unsupported
          reason := .unifProductDisabled
          analysis := basicAnalysis payload.length }

def parseRomPayload (payload : Bytes) : Except Fault RomParseResult := do
  if ← startsWithAt payload 0 nesSignature then
    parseNes payload
  else if ← startsWithAt payload 0 fdsSignature then
    parseHeaderedFds payload
  else if ← startsWithAt payload 0 fdsSideSignature then
    parseHeaderlessFds payload
  else if ← startsWithAt payload 0 unifSignature then
    parseUnif payload
  else
    return unrecognized payload.length

end FlyNes.Catalog
