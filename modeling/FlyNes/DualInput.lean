import Mathlib.Data.Fintype.Pi
import Mathlib.Data.Fin.VecNotation
import FlyNes.ByteString

namespace FlyNes.Dual

open ByteString

/-!
# Canonical input of a dual run

A bundle carries the samples of all four ports for one frame, under a key that
names the session, the branch, the timeline, the frame and the seat revision,
and is signed by the owner of one seat.
-/

/-- Number of controller ports. -/
abbrev kDualPortCount : Nat := 4

/-- A controller port. -/
abbrev Port := Fin kDualPortCount

/-- Frames a rollback could reach back. -/
def kDualMaxRollbackFrames : UInt64 := 12

/-- Prediction stops this many frames ahead of the committed inputs. -/
def kDualPredictionFreezeDepth : UInt64 := 10

/-- Frames an input may arrive ahead of the runtime. -/
def kDualGuestLeadFrames : UInt64 := 4

/-- The eight buttons of a pad. -/
def kDualFullPortMask : UInt32 := 0xff

/-- A 32-byte signing key id. -/
abbrev KeyId := Block 32

/-- What identifies one unit of input. -/
structure DualInputKey where
  sessionId : Block 16 := default
  branchId : Block 16 := default
  timelineEpoch : UInt64 := 0
  frameIndex : UInt64 := 0
  seatRevision : UInt64 := 0
deriving DecidableEq

/-- The state of one pad, with the number of its sample. -/
structure DualPortSample where
  mask : UInt32 := 0
  inputSequence : UInt64 := 0
deriving DecidableEq

/-- One canonical bundle of input for one frame. -/
structure DualInputBundle where
  key : DualInputKey := {}
  logicalSeat : UInt8 := 0
  reservedZero0 : Block 3 := default
  predictedPortMask : UInt32 := 0
  ports : Port → DualPortSample := fun _ => {}
  ownerSigningKeyId : KeyId := default
deriving DecidableEq

/-- The seat of a port and the key that signs for it. -/
structure DualOwnerKey where
  seat : UInt8 := 0
  signingKeyId : KeyId := default
deriving DecidableEq

/-- The raw sample of one port as a caller observes it. -/
structure DualPortInput where
  mask : UInt32 := 0
  sequence : UInt64 := 0
deriving DecidableEq

/-- The raw samples of all ports. -/
abbrev DualPortInputArray := Port → DualPortInput

/-- Why a bundle was not built. -/
inductive DualInputStatus where
  | ok
  | invalidArgument
  | invalidKey
  | invalidSequence
  | invalidMask
deriving DecidableEq

/-- Only zero bytes. -/
def allZero {size : Nat} (block : Block size) : Bool :=
  block.bytes.all (· == 0)

/-- Opposite directions cancel out. -/
def normalizeDualPortMask (mask : UInt32) : UInt32 :=
  let mask :=
    if mask &&& 0x10 ≠ 0 ∧ mask &&& 0x20 ≠ 0 then mask &&& ~~~0x30 else mask
  let mask :=
    if mask &&& 0x40 ≠ 0 ∧ mask &&& 0x80 ≠ 0 then mask &&& ~~~0xc0 else mask
  mask &&& kDualFullPortMask

/-- A key with an epoch, a revision and a session. -/
def dualInputKeyIsValid (key : DualInputKey) : Bool :=
  key.timelineEpoch ≠ 0 && key.seatRevision ≠ 0 && !allZero key.sessionId

/-- Sample numbers are positive and grow from port to port. -/
def sequencesIncrease (sequence : Port → UInt64) : Bool :=
  sequence 0 ≠ 0 && sequence 0 < sequence 1 && sequence 1 < sequence 2 &&
    sequence 2 < sequence 3

/-- Build the canonical bundle of one frame's raw samples. -/
def canonicalInputBuild
    (key : DualInputKey)
    (logicalSeat : UInt8)
    (ownerSigningKeyId : KeyId)
    (samples : DualPortInputArray) : Except DualInputStatus DualInputBundle :=
  if logicalSeat.toNat ≥ kDualPortCount then
    .error .invalidArgument
  else if !dualInputKeyIsValid key then
    .error .invalidKey
  else if allZero ownerSigningKeyId then
    .error .invalidKey
  else if !sequencesIncrease fun port => (samples port).sequence then
    .error .invalidSequence
  else if ∃ port, (samples port).mask &&& ~~~kDualFullPortMask ≠ 0 then
    .error .invalidMask
  else
    .ok
      { key := key
        logicalSeat := logicalSeat
        ports := fun port =>
          ⟨normalizeDualPortMask (samples port).mask,
            (samples port).sequence⟩
        ownerSigningKeyId := ownerSigningKeyId }

/-- The form every bundle must have. -/
def canonicalInputIsCanonical (bundle : DualInputBundle) : Bool :=
  dualInputKeyIsValid bundle.key &&
    bundle.logicalSeat.toNat < kDualPortCount &&
    !allZero bundle.ownerSigningKeyId &&
    bundle.predictedPortMask &&& ~~~kDualFullPortMask = 0 &&
    allZero bundle.reservedZero0 &&
    sequencesIncrease (fun port => (bundle.ports port).inputSequence) &&
    ∀ port,
      (bundle.ports port).mask &&& ~~~kDualFullPortMask = 0 ∧
        (bundle.ports port).mask = normalizeDualPortMask (bundle.ports port).mask

end FlyNes.Dual
