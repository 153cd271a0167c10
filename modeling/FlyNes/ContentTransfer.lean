import FlyNes.ContentWire
import FlyNes.PlanLock

namespace FlyNes.Content

open ByteString FlyNes.Dual FlyNes.Pair

/-!
# Transferring a ROM

The controller opens the ROM stream once both consents are given.  The offerer
queues the declaration and the chunks of its payload and writes them one at a time;
the receiver takes the records out of the bytes it reads and hands them to its
scheduler.
-/

def kRomReadCredit : Nat := 65536

inductive ContentEffect where
  | openStream (accept : Bool) (openerRole : PairRole) (connection : Nat)
  | write (stream : Nat) (bytes : Bytes)
  | grantRead (stream : Nat) (readCredit : Nat)
deriving DecidableEq

structure ContentTransferController where
  scheduler : ContentOfferScheduler := {}
  role : ContentOfferRole := .offerer
  connection : Nat := 0
  sendStream : Nat := 0
  receiveStream : Nat := 0
  localIsListener : Bool := false
  wantStream : Bool := false
  streamOpen : Bool := false
  openOutstanding : Bool := false
  writeOutstanding : Bool := false
  readOutstanding : Bool := false
  wantRead : Bool := false
  framesQueued : Bool := false
  bulkWrites : Nat := 0
  payload : Bytes := []
  writeQueue : List Bytes := []
  readAccumulator : Bytes := []
deriving DecidableEq

/-- The chunk loop: queue the records of the payload from an offset on. -/
def queueChunks
    (offerId : Block 16)
    (payload : Bytes) :
    Nat → Nat → List Bytes → Bool × List Bytes
  | 0, _, queue => (true, queue)
  | fuel + 1, offset, queue =>
      if offset < payload.length then
        let remaining := payload.length - offset
        let slice :=
          if kContentChunkMaxPayload < remaining then
            kContentChunkMaxPayload
          else
            remaining
        match encodeContentChunk offerId offset
            ((payload.drop offset).take slice) with
        | none => (false, queue)
        | some chunk =>
            queueChunks offerId payload fuel (offset + slice) (queue ++ [chunk])
      else
        (true, queue)

namespace ContentTransferController

variable (controller : ContentTransferController)

def reset (role : ContentOfferRole) : ContentTransferController :=
  { controller with
    scheduler := ContentOfferScheduler.reset role
    role := role
    wantStream := false
    streamOpen := false
    openOutstanding := false
    writeOutstanding := false
    readOutstanding := false
    wantRead := false
    framesQueued := false
    bulkWrites := 0
    payload := []
    writeQueue := []
    readAccumulator := [] }

def attachConnection
    (connection : Nat)
    (localIsListener : Bool) : ContentTransferController :=
  { controller with
    connection := connection
    localIsListener := localIsListener }

/-- Hand a call to the scheduler. -/
def delegate (call : OfferCall) : SessionResult × ContentTransferController :=
  let answered := controller.scheduler.step call
  (answered.1, { controller with scheduler := answered.2 })

def offer
    (decl : ContentOfferDecl)
    (payload : Bytes) : SessionResult × ContentTransferController :=
  if payload.length ≠ decl.declaredLength then
    (.invalidArgument, controller)
  else
    let bound := controller.delegate (.offer decl)
    if bound.1 ≠ .ok then
      bound
    else
      (.ok, { bound.2 with payload := payload })

def acceptOffer
    (decl : ContentOfferDecl) : SessionResult × ContentTransferController :=
  controller.delegate (.acceptOffer decl)

/-- After a consent the stream is wanted as soon as it may be opened. -/
def consent (call : OfferCall) : SessionResult × ContentTransferController :=
  let answered := controller.delegate call
  if answered.1 = .ok && answered.2.scheduler.mayOpenRomStream then
    (answered.1, { answered.2 with wantStream := true })
  else
    answered

def approveSend : SessionResult × ContentTransferController :=
  controller.consent .approveSend

def approveReceive : SessionResult × ContentTransferController :=
  controller.consent .approveReceive

def approveImport : SessionResult × ContentTransferController :=
  controller.delegate .approveImport

def cancel : SessionResult × ContentTransferController :=
  { controller with
    wantStream := false
    writeQueue := []
    payload := [] }.delegate .cancel

def noteFriendSaved : SessionResult × ContentTransferController :=
  controller.delegate .noteFriendSaved

def onClock (continuousNs : Nat) : SessionResult × ContentTransferController :=
  controller.delegate (.onClock continuousNs)

def queuePayloadFrames : ContentTransferController :=
  if controller.framesQueued || controller.role ≠ .offerer then
    controller
  else
    let declared :=
      controller.writeQueue ++ [encodeContentOffer controller.scheduler.decl]
    let (queued, queue) :=
      queueChunks controller.scheduler.decl.offerId controller.payload
        controller.payload.length 0 declared
    { controller with
      writeQueue := queue
      framesQueued := queued }

def pollEffect : Option ContentEffect × ContentTransferController :=
  if controller.scheduler.state = .failed ||
      controller.scheduler.state = .cancelled then
    (none, controller)
  else if controller.wantStream && !controller.streamOpen &&
      !controller.openOutstanding && controller.connection ≠ 0 then
    (some
      (.openStream controller.localIsListener
        (if controller.localIsListener then .responder else .initiator)
        controller.connection),
      { controller with openOutstanding := true })
  else
    let controller :=
      if controller.streamOpen && controller.role = .offerer &&
          !controller.framesQueued &&
          controller.scheduler.mayOpenRomStream then
        controller.queuePayloadFrames
      else
        controller
    if controller.streamOpen && !controller.writeOutstanding &&
        !controller.writeQueue.isEmpty then
      (some (.write controller.sendStream (controller.writeQueue.headD [])),
        { controller with writeOutstanding := true })
    else if controller.streamOpen && controller.wantRead &&
        !controller.readOutstanding && controller.receiveStream ≠ 0 then
      (some (.grantRead controller.receiveStream kRomReadCredit),
        { controller with readOutstanding := true })
    else
      (none, controller)

def onStreamOpen
    (send recv : Nat) : SessionResult × ContentTransferController :=
  let answered := { controller with openOutstanding := false }
  if send = 0 || recv = 0 then
    (.contractViolation, answered)
  else
    let opened :=
      { answered with
        sendStream := send
        receiveStream := recv
        streamOpen := true }
    if controller.role = .receiver then
      (.ok, { opened with wantRead := true })
    else
      (.ok, opened)

def onWriteComplete : SessionResult × ContentTransferController :=
  (.ok,
    { controller with
      writeOutstanding := false
      writeQueue := controller.writeQueue.tail
      bulkWrites := controller.bulkWrites + 1
      wantRead := true })

/-- What a record asks of the scheduler, if anything, or how it is refused. -/
def recordCall
    (type : UInt8)
    (body : Bytes) : Except SessionResult (Option OfferCall) :=
  if type = kContentOfferType then
    match decodeContentOffer body with
    | none => .error .protocolViolation
    | some decl =>
        if controller.role = .receiver && controller.scheduler.state = .idle then
          .ok (some (.acceptOffer decl))
        else
          .ok none
  else if type = kContentChunkType then
    match decodeContentChunk body with
    | none => .error .protocolViolation
    | some chunk =>
        if chunk.offerId ≠ controller.scheduler.decl.offerId then
          .error .protocolViolation
        else
          .ok (some (.appendBytes chunk.offset chunk.data))
  else
    .error .protocolViolation

/-- Handle one whole record; a refused one stays in the accumulator. -/
def handleRecord
    (type : UInt8)
    (body : Bytes)
    (total : Nat) : SessionResult × ContentTransferController :=
  let erased (controller : ContentTransferController) :=
    { controller with readAccumulator := controller.readAccumulator.drop total }
  match controller.recordCall type body with
  | .error refused => (refused, controller)
  | .ok none => (.ok, erased controller)
  | .ok (some call) =>
      let answered := controller.delegate call
      if answered.1 = .ok then
        (.ok, erased answered.2)
      else
        answered

/-- `consume_records`, at most `fuel` times around the loop. -/
def consumeLoop :
    Nat → ContentTransferController → SessionResult × ContentTransferController
  | 0, controller => (.ok, controller)
  | fuel + 1, controller =>
      match recordFront controller.readAccumulator with
      | .incomplete => (.ok, controller)
      | .violation => (.protocolViolation, controller)
      | .whole type body total =>
          let handled := controller.handleRecord type body total
          if handled.1 = .ok then
            consumeLoop fuel handled.2
          else
            handled

/-- Every record takes at least five bytes, so the loop ends before its fuel does. -/
def consumeRecords : SessionResult × ContentTransferController :=
  consumeLoop controller.readAccumulator.length controller

/-- The states in which no more bytes are read. -/
def readingDone : Bool :=
  controller.scheduler.state = .waitingImport ||
    controller.scheduler.state = .imported ||
    controller.scheduler.state = .failed ||
    controller.scheduler.state = .cancelled

def ingestRemoteBytes
    (bytes : Bytes) : SessionResult × ContentTransferController :=
  let consumed :=
    { controller with
      readOutstanding := false
      wantRead := false
      readAccumulator := controller.readAccumulator ++ bytes }.consumeRecords
  if consumed.1 ≠ .ok then
    consumed
  else if consumed.2.readingDone then
    consumed
  else
    (.ok, { consumed.2 with wantRead := true })

end ContentTransferController

end FlyNes.Content
