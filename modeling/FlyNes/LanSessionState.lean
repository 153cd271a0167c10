import FlyNes.LanInvite
import FlyNes.LanLockstep
import FlyNes.LanWire

namespace FlyNes.LanMvp

open ByteString
open Lockstep (wrap64)
open Wire (Message)

/-!
# Data of the LAN session

The session object is split into the protocol state (`Game`), which decides what
a message does, and the transport state (`Link`), which carries bytes between
the session and the QUIC provider.  A session also keeps its history: the list
of everything the protocol has done that can be observed, in order.
-/

/-- A SHA-256 value. -/
abbrev Hash := Block 32

/-- Digests by frame. -/
abbrev Digests := AList (fun _ : Nat => Hash)

/-- Provider operations a session waits for. -/
inductive Operation where
  | material
  | listen
  | accept
  | connect
  | openStream
  | acceptStream
  | read
  | write
deriving DecidableEq

/-- The side a session plays. -/
inductive Role where
  | none
  | host
  | guest
deriving DecidableEq

/-- States of a session. -/
inductive State where
  | idle
  | inviting
  | joining
  | lobby
  | ended
  | configuring
  | running
  | returning
deriving DecidableEq

/-- Reasons a session reports. -/
inductive Reason where
  | none
  | invalidInvite
  | connection
  | rejected
  | expired
  | cancelled
  | romInvalid
  | romMismatch
  | configMismatch
  | stall
  | desync
  | peerEnded
deriving DecidableEq

/-- Life of an invitation, in nanoseconds. -/
def kInviteLife : Nat := 120 * 10 ^ 9

/-- Longest time a running round may make no progress, in nanoseconds. -/
def kProgressTimeout : Nat := 2 * 10 ^ 9

/-- Frames between the submission of an input and its use. -/
def kInputDelay : Nat := 2

/-- Capacity of the input buffer in frames. -/
def kInputWindow : Nat := 256

/-- Frames between two state digests. -/
def kDigestInterval : Nat := 60

/-- Immediate answer of the provider that takes an operation. -/
def quicAccepted : Int := 1

/-- Completion result of a successful operation. -/
def quicOk : Int := 0

/-- Size of the peer's game key in the snapshot, its terminator included. -/
def peerGameKeySize : Nat := 256

/-- Timing of a loaded ROM that enters the configuration hash. -/
structure SourceTiming where
  sourceRegion : UInt32
  frameRateNumerator : UInt32
  frameRateDenominator : UInt32
  sampleRate : UInt32
deriving DecidableEq

/-- One frame's input; ports three and four stay zero. -/
structure FrameInput where
  timelineEpoch : Nat
  frameIndex : Nat
  buttons : UInt32 × UInt32
  inputSequence : Nat × Nat
  batchSequence : Nat
deriving DecidableEq

/-- The part of a frame's result the session reads. -/
structure FrameResult where
  audioLastSampleSequence : Nat
  pcmPublished : Bool
deriving DecidableEq

/-- The part of a PCM block the session reads. -/
structure PcmBlock where
  sampleCount : Nat
  firstSampleSequence : Nat
  mediaTimeNs : Nat
deriving DecidableEq

/--
The emulator runtime as the session uses it.  A call that does not return OK is
`none`.
-/
structure Runtime (R : Type) where
  create : Option R
  loadRomFresh : R → Bytes → Hash → Option R
  getSourceTiming : R → Option SourceTiming
  stepFrame : R → FrameInput → Option (R × FrameResult)
  copyFrameDigest : R → Nat → Nat → Option Hash
  copyLatestFrame : R → Nat → Bool
  pullPcm : R → Nat → Option (R × PcmBlock)

/--
What a session meets outside itself: the runtime, SHA-256, the `n`-th reading of
the steady clock and the provider's immediate answer to each operation.  An
operation number is used once, so answers may be indexed by it.
-/
structure Env (R : Type) where
  runtime : Runtime R
  sha256 : Bytes → Hash
  clock : Nat → Nat
  answer : Nat → Int

/-- A completion the provider has delivered. -/
structure Event where
  operation : Nat
  result : Int
  resource : Nat
  bytes : Bytes
deriving DecidableEq

/-- Calls into the provider. -/
inductive ProviderCall where
  | generateSelfSigned
  | listen (address : Bytes) (material timeout : Nat)
  | accept (listener : Nat)
  | connect (bind peer : Bytes) (pin : Hash) (timeout : Nat)
  | openBidi (connection : Nat)
  | acceptBidi (connection : Nat)
  | read (stream maximum : Nat)
  | write (stream : Nat) (bytes : Bytes)
deriving DecidableEq

/-- Pointers a session follows. -/
inductive Pointer where
  | runtime
  | inputs
deriving DecidableEq

/--
One observable deed of the protocol.  `received` records the state and the lobby
generation in which a message met the handler, `queued` the generation its
sender held, `admitted` the clock reading and the deadline of an accepted join,
`stored` the buffer's answer to a remote mask, `stepped` whether the round was
paused when a frame was handed to the runtime.
-/
inductive Effect where
  | nullDereference (pointer : Pointer)
  | received (state : State) (generation : Nat) (message : Message)
  | admitted (now deadline : Nat)
  | queued (generation : Nat) (message : Message)
  | moved (source target : State)
  | cleared
  | stored (frame : Nat) (result : Lockstep.Put)
  | stepped (paused : Bool) (input : FrameInput)
  | published (frame : Nat) (digest : Hash)
deriving DecidableEq

/-- One exchange with the provider. -/
inductive Traffic where
  | submit (operation : Nat) (call : ProviderCall) (taken : Bool)
  | cancel (operation : Nat)
  | close (operation resource : Nat)
  | consumed (bytes : Bytes)
deriving DecidableEq

/-- Protocol state of a session; the first block are fields of its `view`. -/
structure Game (R : Type) where
  state : State := .idle
  reason : Reason := .none
  sessionId : Block 16 := default
  completedFrames : Nat := 0
  lastDigestFrame : Nat := 0
  lastStateDigest : Hash := default
  appliedButtons : UInt32 × UInt32 := (0, 0)
  paused : Bool := false
  peerGameKey : Bytes := []
  role : Role := .none
  invite : Invite := {}
  deadline : Nat := 0
  runtime : Option R := none
  localRomHash : Hash := default
  remoteRomHash : Hash := default
  localConfigHash : Hash := default
  remoteConfigHash : Hash := default
  localConfigured : Bool := false
  peerConfigured : Bool := false
  localReady : Bool := false
  peerReady : Bool := false
  inputs : Option Lockstep.Buffer := none
  nextSubmitFrame : Nat := kInputDelay
  lobbyGeneration : Nat := 0
  pcmProduced : Nat := 0
  pcmConsumed : Nat := 0
  localDigests : Digests := ∅
  remoteDigests : Digests := ∅

/--
The byte streams of a session: pending operations, both ends of the stream and
the exchanges with the provider, each with the session's state at the time.
-/
structure Channel where
  operations : List (Nat × Operation) := []
  nextOperation : Nat := 1
  sendStream : Nat := 0
  recvStream : Nat := 0
  decoder : Wire.Decoder := {}
  readInflight : Bool := false
  writeInflight : Bool := false
  writes : List Bytes := []
  traffic : List (State × Traffic) := []

/-- Transport state of a session, with the number of clock readings so far. -/
structure Link extends Channel where
  transportResult : Int := 0
  transportOperation : Option Operation := none
  qr : Bytes := []
  lastProgress : Nat := 0
  material : Nat := 0
  listener : Nat := 0
  connection : Nat := 0
  ticks : Nat := 0

/-- A session: protocol state, transport state and history. -/
structure Session (R : Type) extends Game R, Link where
  log : List Effect := []

/--
A session as the application holds it: with the completions the provider's
callback has left for the next pump.
-/
structure Endpoint (R : Type) where
  session : Session R := {}
  events : List Event := []

/-- What a caller sees of a session. -/
structure Snapshot where
  state : State
  reason : Reason
  sessionId : Block 16
  transportResult : Int
  transportOperation : Option Operation
  role : Role
  localConfigured : Bool
  peerConfigured : Bool
  localReady : Bool
  peerReady : Bool
  completedFrames : Nat
  configHash : Hash
  lastDigestFrame : Nat
  lastStateDigest : Hash
  appliedButtons : UInt32 × UInt32
  paused : Bool
  peerGameKey : Bytes
deriving DecidableEq

/-- Comparison in time independent of the contents. -/
def sameBytes (first second : Bytes) : Bool :=
  (List.zipWith (· ^^^ ·) first second).foldl (· ||| ·) 0 == 0

/-- The eight leading bytes as a number. -/
def bigEndianU64 (bytes : Bytes) : Nat :=
  fromBigEndian (bytes.take 8)

/-- The four leading bytes as a 32-bit word. -/
def bigEndianU32 (bytes : Bytes) : UInt32 :=
  UInt32.ofNat (fromBigEndian (bytes.take 4))

/-- The eight bytes of a 64-bit word. -/
def appendU64 (value : Nat) : Bytes :=
  bigEndian 8 value

/-- The four bytes of a 32-bit word. -/
def appendU32 (value : UInt32) : Bytes :=
  bigEndian 4 value.toNat

theorem foldl_or_eq_zero
    (differences : Bytes)
    (start : UInt8) :
    differences.foldl (· ||| ·) start = 0 ↔
      start = 0 ∧ ∀ difference ∈ differences, difference = 0 := by
  induction differences generalizing start with
  | nil =>
      simp
  | cons difference rest inductionHypothesis =>
      simp only [List.foldl_cons, inductionHypothesis,
        List.forall_mem_cons, UInt8.or_eq_zero_iff, and_assoc]

/-- On byte strings of one length the comparison decides equality. -/
theorem sameBytes_iff
    {first second : Bytes}
    (sameLength : first.length = second.length) :
    sameBytes first second = true ↔ first = second := by
  unfold sameBytes
  rw [beq_iff_eq, foldl_or_eq_zero]
  simp only [true_and]
  induction first generalizing second with
  | nil =>
      cases second with
      | nil => simp
      | cons head tail => simp at sameLength
  | cons head rest inductionHypothesis =>
      cases second with
      | nil => simp at sameLength
      | cons otherHead otherRest =>
          have restLength : rest.length = otherRest.length := by
            simpa using sameLength
          simp only [List.zipWith_cons_cons, List.forall_mem_cons,
            inductionHypothesis restLength, List.cons.injEq,
            UInt8.xor_eq_zero_iff]

@[simp] theorem sameBytes_block
    {size : Nat}
    (first second : Block size) :
    sameBytes first.bytes second.bytes = decide (first = second) := by
  rw [Bool.eq_iff_iff, sameBytes_iff (first.sized.trans second.sized.symm)]
  simp [Block.ext_iff]

@[simp] theorem bigEndianU64_appendU64
    (value : Nat)
    (rest : Bytes) :
    bigEndianU64 (appendU64 value ++ rest) = wrap64 value := by
  unfold bigEndianU64 appendU64 wrap64
  rw [List.take_append_of_le_length (by simp),
    List.take_of_length_le (by simp), fromBigEndian_bigEndian]
  rfl

@[simp] theorem bigEndianU64_appendU64_self
    (value : Nat) :
    bigEndianU64 (appendU64 value) = wrap64 value := by
  simpa using bigEndianU64_appendU64 value []

@[simp] theorem bigEndianU32_appendU32
    (value : UInt32)
    (rest : Bytes) :
    bigEndianU32 (appendU32 value ++ rest) = value := by
  unfold bigEndianU32 appendU32
  rw [List.take_append_of_le_length (by simp),
    List.take_of_length_le (by simp), fromBigEndian_bigEndian]
  apply UInt32.toNat_inj.mp
  have bound : value.toNat < 2 ^ 32 := value.toNat_lt
  simp

@[simp] theorem bigEndianU32_appendU32_self
    (value : UInt32) :
    bigEndianU32 (appendU32 value) = value := by
  simpa using bigEndianU32_appendU32 value []

@[simp] theorem length_appendU64
    (value : Nat) :
    (appendU64 value).length = 8 := by
  simp [appendU64]

@[simp] theorem length_appendU32
    (value : UInt32) :
    (appendU32 value).length = 4 := by
  simp [appendU32]

end FlyNes.LanMvp
