import FlyNes.DualController

namespace FlyNes.Dual

open ByteString

/-!
# Two dual session controllers

Two devices are joined by a byte stream in each direction.  The bytes of a write
are on their way as soon as the effect is issued and may be read in any pieces;
completions come in any order after their effects.  A run makes calls on both
devices in any order.
-/

/-- The two devices of a session. -/
inductive Side where
  | initiator
  | responder
deriving DecidableEq

namespace Side

/-- The other device. -/
def other : Side → Side
  | .initiator => .responder
  | .responder => .initiator

/-- The port of a device. -/
def seat : Side → Port
  | .initiator => 0
  | .responder => 1

end Side

/-- The worker with a list of everything it was handed. -/
def DualRuntimePort.recording
    {Core : Type}
    (port : DualRuntimePort Core) :
    DualRuntimePort (Core × List DualInputBundle) where
  load content core :=
    let (result, after) := port.load content core.1
    (result, after, core.2)
  step bundle core :=
    let (result, outcome, after) := port.step bundle core.1
    (result, outcome, after, core.2 ++ [bundle])
  stateDigest frameIndex core :=
    let (result, digest, after) := port.stateDigest frameIndex core.1
    (result, digest, after, core.2)

/-- Every call on the worker succeeds. -/
structure DualRuntimePort.Succeeds
    {Core : Type}
    (port : DualRuntimePort Core) : Prop where
  load : ∀ content core, (port.load content core).1 = .ok
  step : ∀ bundle core, (port.step bundle core).1 = .ok
  stateDigest : ∀ frameIndex core, (port.stateDigest frameIndex core).1 = .ok

/-- Two devices and the bytes each has written that the other has not read. -/
structure DualNet (Core : Type) where
  controllers : Side → DualSessionController (Core × List DualInputBundle)
  wire : Side → Bytes := fun _ => []
  answers : List SessionResult := []

/-- A call on one device. -/
inductive DualMove where
  | submitLocal (side : Side) (input : SessionInput)
  | pause (side : Side)
  | pollEffect (side : Side)
  | completeQuery (side : Side) (choice : GameChoice)
  | completeOpen (side : Side) (resource value0 : UInt64)
  | completeWrite (side : Side)
  | completeRead (side : Side) (count : Nat)

/-- The runtimes of the devices. -/
structure DualWorld (Core : Type) where
  ports : Side → DualRuntimePort Core

namespace DualNet

variable {Core : Type}

/-- The bundles a device has handed to its worker. -/
def stepped (net : DualNet Core) (side : Side) : List DualInputBundle :=
  match (net.controllers side).scheduler with
  | none => []
  | some scheduler => scheduler.core.2

/-- A device after a call. -/
def answer
    (side : Side)
    (called : SessionResult ×
      DualSessionController (Core × List DualInputBundle))
    (net : DualNet Core) : DualNet Core :=
  { net with
    controllers := Function.update net.controllers side called.2
    answers := net.answers ++ [called.1] }

/-- Hand the completion of an effect to a device. -/
def complete
    (world : DualWorld Core)
    (side : Side)
    (completion : Completion)
    (net : DualNet Core) : DualNet Core :=
  net.answer side
    ((net.controllers side).complete
      (world.ports side).recording completion)

/-- Bytes an effect puts on the wire. -/
def written : Option Effect → Bytes
  | some (.write _ bytes) => bytes
  | _ => []

/-- Make one call; a completion waits for its effect. -/
def step
    (world : DualWorld Core)
    (net : DualNet Core) : DualMove → DualNet Core
  | .submitLocal side input =>
      net.answer side
        ((net.controllers side).submitLocal (world.ports side).recording input)
  | .pause side => net.answer side (net.controllers side).pause
  | .pollEffect side =>
      let (effect, controller) := (net.controllers side).pollEffect
      { net with
        controllers := Function.update net.controllers side controller
        wire := Function.update net.wire side
          (net.wire side ++ written effect) }
  | .completeQuery side choice =>
      if (net.controllers side).catalogQueryOutstanding then
        net.complete world side (.queryContent .ok (.ok choice))
      else
        net
  | .completeOpen side resource value0 =>
      if (net.controllers side).openOutstanding ∧ resource ≠ 0 ∧
          value0 ≠ 0 then
        net.complete world side (.openStream .ok resource value0)
      else
        net
  | .completeWrite side =>
      if (net.controllers side).writeOutstanding then
        net.complete world side (.write .ok)
      else
        net
  | .completeRead side count =>
      if (net.controllers side).readOutstanding then
        complete world side
          (.grantRead .ok (.ok ((net.wire side.other).take count)))
          { net with
            wire := Function.update net.wire side.other
              ((net.wire side.other).drop count) }
      else
        net

/-- Make a list of calls. -/
def run
    (world : DualWorld Core)
    (net : DualNet Core)
    (moves : List DualMove) : DualNet Core :=
  moves.foldl (step world) net

end DualNet

/-- What the two devices have agreed on before they start. -/
structure DualSetup where
  sessionId : Block 16
  branchId : Block 16
  publicKey : Side → Block 65
  distinct : publicKey .initiator ≠ publicKey .responder
  connection : Side → UInt64
  listener : Side → Bool

namespace DualSetup

/-- What a device is started with. -/
def inputs (setup : DualSetup) (side : Side) : DualStartInputs :=
  { sessionId := setup.sessionId
    branchId := setup.branchId
    localIsInitiator := side = .initiator
    localSigningPublic := setup.publicKey side
    peerSigningPublic := setup.publicKey side.other
    quicConnection := setup.connection side
    localIsListener := setup.listener side
    hasRuntime := true }

end DualSetup

/-- A controller that has only dealt with its catalog and its configuration. -/
def DualSessionController.Unstarted
    {Core : Type}
    (controller : DualSessionController Core) : Prop :=
  controller =
    { config := controller.config
      catalogStarted := controller.catalogStarted
      catalogQueryOutstanding := controller.catalogQueryOutstanding
      catalogIndex := controller.catalogIndex
      localSeat := controller.localSeat }

/-- Both devices have just been started on the same content. -/
structure DualNet.Started
    {Core : Type}
    (world : DualWorld Core)
    (setup : DualSetup)
    (net : DualNet Core) : Prop where
  begun : ∀ side,
    ∃ (before : DualSessionController (Core × List DualInputBundle))
      (core : Core),
      before.Unstarted ∧
        before.startDual (world.ports side).recording (setup.inputs side)
          (core, []) = (.ok, net.controllers side)
  content : ∀ side,
    (net.controllers side).content = (net.controllers .initiator).content
  wire : ∀ side, net.wire side = []
  answers : net.answers = []

end FlyNes.Dual
