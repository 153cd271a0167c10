import FlyNes.LanSession

namespace FlyNes.LanMvp

open ByteString
open Lockstep (wrap64)
open Wire (Kind Message)

/-!
# Messages, completions and the public calls

`handleMessage` dispatches one decoded message, `consume` one provider
completion, `pump` everything that has arrived.  Each public call pumps first.
A run of one session is any list of public calls and provider completions.
-/

namespace Session

variable {R : Type}

/-- A guest follows its host into a new lobby generation. -/
def handleLobby
    (env : Env R)
    (message : Message)
    (session : Session R) : Session R :=
  let cleared := session.clearGame
  let followed : Session R :=
    { cleared with lobbyGeneration := bigEndianU64 message.payload }
  ((followed.moveTo .lobby).queueMessage env .lobbyAck message.payload).2

/-- The peer pauses or resumes; the host echoes what it has decided. -/
def handlePause
    (env : Env R)
    (message : Message)
    (session : Session R) : Session R :=
  if session.state ≠ .running then
    session
  else
    let paused : Bool := message.payload.getD 0 0 ≠ 0
    let set : Session R := { session with paused := paused }
    let set := set.touchProgress env
    let echoed :=
      if set.role = .host then
        (set.queueMessage env .pause message.payload).2
      else
        set
    if echoed.paused then echoed else echoed.advance env

/-- Turn a join attempt away, as late or as wrong. -/
def refuseJoin (env : Env R) (session : Session R) : Session R :=
  session.tick.endSession
    (if env.clock session.ticks ≥ session.deadline then
      .expired
    else
      .rejected)

/-- A guest presents its token. -/
def handleJoin
    (env : Env R)
    (message : Message)
    (session : Session R) : Session R :=
  if session.role ≠ .host ∨ session.state ≠ .inviting ∨
      message.payload.length ≠ session.invite.token.bytes.length then
    session.refuseJoin env
  else
    let now := env.clock session.ticks
    let session := session.tick
    if now ≥ session.deadline ∨
        !sameBytes session.invite.token.bytes message.payload then
      session.refuseJoin env
    else
      let seed := session.invite.token.bytes ++ session.invite.spkiPin.bytes
      let identified : Session R :=
        { session with
          sessionId := Block.copy 16 (env.sha256 seed).bytes
          qr := []
          log := session.log ++ [.admitted now session.deadline] }
      let (sent, session) :=
        identified.queueMessage env .accept identified.sessionId.bytes
      if sent then session.moveTo .lobby else session

/-- The host lets the guest in. -/
def handleAccept (message : Message) (session : Session R) : Session R :=
  if session.role ≠ .guest ∨ session.state ≠ .joining ∨
      message.payload.length ≠ 16 then
    session.endSession .rejected
  else
    moveTo .lobby
      { session with sessionId := Block.copy 16 message.payload }

/-- The peer announces its configuration. -/
def handleConfig
    (env : Env R)
    (message : Message)
    (session : Session R) : Session R :=
  if (session.state ≠ .lobby ∧ session.state ≠ .configuring) ∨
      message.payload.length < 64 ∨
      message.payload.length ≥ 64 + peerGameKeySize then
    session.endSession .rejected
  else
    let recorded : Session R :=
      { session with
        toGame := session.toGame.recordConfig message.payload
        log := session.log ++ [.moved session.state .configuring] }
    match recorded.configConflict with
    | some reason =>
        recorded.withGame (Game.withdraw reason)
    | none =>
        recorded.maybeStartHost env

/-- The peer confirms the configuration it has announced. -/
def handleReady
    (env : Env R)
    (message : Message)
    (session : Session R) : Session R :=
  if (session.state ≠ .configuring ∧ session.state ≠ .lobby) ∨
      message.payload.length ≠ 32 ∨ !session.peerConfigured ∨
      !sameBytes session.remoteConfigHash.bytes message.payload then
    session.endSession .configMismatch
  else
    let confirmed : Session R := { session with peerReady := true }
    confirmed.maybeStartHost env

/-- The host has started the round. -/
def handleStart
    (env : Env R)
    (message : Message)
    (session : Session R) : Session R :=
  if session.role ≠ .guest ∨ session.state ≠ .configuring ∨
      message.payload.length ≠ 32 ∨ !session.localReady ∨
      !session.peerReady ∨
      !sameBytes session.localConfigHash.bytes message.payload ∨
      !session.configsMatch then
    session.endSession .configMismatch
  else
    session.enterRunning env

/-- The peer's buttons for one frame. -/
def handleInput
    (env : Env R)
    (message : Message)
    (session : Session R) : Session R :=
  match session.inputs with
  | none =>
      session.endSession .rejected
  | some inputs =>
      if session.state ≠ .running ∨ message.payload.length ≠ 12 then
        session.endSession .rejected
      else
        let frame := bigEndianU64 message.payload
        let (result, inputs) :=
          inputs.putRemote frame (bigEndianU32 (message.payload.drop 8))
        let stored : Session R :=
          { session with
            inputs := some inputs
            log := session.log ++ [.stored frame result] }
        if result = .conflict ∨ result = .outOfWindow then
          stored.endSession .rejected
        else
          stored.advance env

/-- The peer's digest of one frame. -/
def handleDigest (message : Message) (session : Session R) : Session R :=
  if session.state ≠ .running ∨ message.payload.length ≠ 40 then
    session.endSession .rejected
  else
    let frame := bigEndianU64 message.payload
    let digest := Block.copy 32 (message.payload.drop 8)
    let stored : Session R :=
      { session with
        remoteDigests := session.remoteDigests.insert frame digest }
    stored.compareDigest frame

/--
Act on one message.  The lobby barrier comes first; while a session is
returning, every message of the game it leaves is dropped.
-/
def dispatch
    (env : Env R)
    (message : Message)
    (session : Session R) : Session R :=
  if message.kind = .lobbyRequest ∧ session.role = .host ∧
      message.payload = [] then
    (session.returnLobby env).2
  else if message.kind = .lobby ∧ session.role = .guest ∧
      message.payload.length = 8 then
    session.handleLobby env message
  else if message.kind = .lobbyAck ∧ session.role = .host ∧
      session.state = .returning ∧ message.payload.length = 8 ∧
      bigEndianU64 message.payload = session.lobbyGeneration then
    session.moveTo .lobby
  else if session.state = .returning then
    session
  else if message.kind = .pause ∧ message.payload.length = 1 then
    session.handlePause env message
  else
    match message.kind with
    | .join => session.handleJoin env message
    | .accept => session.handleAccept message
    | .config => session.handleConfig env message
    | .ready => session.handleReady env message
    | .start => session.handleStart env message
    | .input => session.handleInput env message
    | .digest => session.handleDigest message
    | .endSession => session.endSession .peerEnded
    | _ => session.endSession .rejected

/-- Record one decoded message and act on it. -/
def handleMessage
    (env : Env R)
    (message : Message)
    (session : Session R) : Session R :=
  (session.note
    (.received session.state session.lobbyGeneration message)).dispatch
    env message

/-- The decoding loop; `fuel` bounds the number of buffered frames. -/
def drain (env : Env R) : Nat → Session R → Session R
  | 0, session => session
  | fuel + 1, session =>
      if session.state = .ended then
        session
      else
        match session.decoder.pop with
        | (none, decoder) =>
            { session with decoder := decoder }
        | (some message, decoder) =>
            drain env fuel
              (handleMessage env message { session with decoder := decoder })

/-- The port of a bound address: the digits after its last colon. -/
def parsePort (address : Bytes) : Option Nat :=
  if 58 ∈ address then
    (address.reverse.takeWhile (· ≠ 58)).reverse.foldlM
      (takeDigit 65535) 0
  else
    none

/-- The certificate is there: listen. -/
def consumeMaterial
    (env : Env R)
    (event : Event)
    (session : Session R) : Session R :=
  if event.resource = 0 ∨ event.bytes = [] then
    session.endSession .connection
  else
    let pinned : Session R :=
      { session with
        material := event.resource
        invite := { session.invite with spkiPin := env.sha256 event.bytes } }
    (pinned.submit env .listen
      (.listen (endpoint pinned.invite) pinned.material 30000)).2

/-- The listener is bound: publish the invitation and accept one guest. -/
def consumeListen
    (env : Env R)
    (event : Event)
    (session : Session R) : Session R :=
  let bound : Session R := { session with listener := event.resource }
  if event.resource = 0 ∨ event.bytes = [] then
    bound.endSession .connection
  else
    match parsePort event.bytes with
    | none | some 0 =>
        bound.endSession .connection
    | some port =>
        let invite := { bound.invite with port := port }
        let addressed : Session R := { bound with invite := invite }
        match formatInvite invite with
        | none =>
            addressed.endSession .connection
        | some qr =>
            let published : Session R :=
              { addressed with
                qr := qr
                deadline := env.clock addressed.ticks + kInviteLife
                ticks := addressed.ticks + 1 }
            (published.submit env .accept (.accept published.listener)).2

/-- A connection stands: get its stream. -/
def consumeConnection
    (env : Env R)
    (kind : Operation)
    (call : Nat → ProviderCall)
    (event : Event)
    (session : Session R) : Session R :=
  let connected : Session R := { session with connection := event.resource }
  if event.resource = 0 then
    connected.endSession .connection
  else
    (connected.submit env kind (call event.resource)).2

/-- Both streams stand: a guest presents its token, both start reading. -/
def consumeStreams
    (env : Env R)
    (event : Event)
    (session : Session R) : Session R :=
  if event.resource = 0 ∨ event.bytes.length ≠ 8 then
    session.endSession .connection
  else
    let wired : Session R :=
      { session with
        sendStream := event.resource
        recvStream := bigEndianU64 event.bytes }
    let joined :=
      if wired.role = .guest then
        (wired.queueMessage env .join wired.invite.token.bytes).2
      else
        wired
    (((joined.beginRead env).2).beginNextWrite env).2

/-- A frame has been written: write the next one. -/
def consumeWrite (env : Env R) (session : Session R) : Session R :=
  (beginNextWrite env
    { session with
      writeInflight := false
      writes := session.writes.drop 1 }).2

/-- Bytes have arrived: decode them, act on every message, read on. -/
def consumeRead
    (env : Env R)
    (event : Event)
    (session : Session R) : Session R :=
  let arrived : Session R :=
    { session with
      readInflight := false
      traffic := session.traffic ++
        [(session.state, .consumed event.bytes)] }
  if event.bytes = [] then
    arrived.endSession .connection
  else
    let (valid, decoder) := arrived.decoder.push event.bytes
    let pushed : Session R := { arrived with decoder := decoder }
    if !valid then
      pushed.endSession .rejected
    else
      let drained := pushed.drain env (decoder.bytes.length + 1)
      if drained.decoder.failed then
        drained
      else
        (drained.beginRead env).2

/-- Act on one completion the session still waits for. -/
def consume
    (env : Env R)
    (event : Event)
    (session : Session R) : Session R :=
  match session.operations.lookup event.operation with
  | none =>
      session
  | some kind =>
      if session.state = .ended then
        session
      else
        let taken : Session R :=
          { session with
            operations := session.operations.filter
              fun pending => pending.1 ≠ event.operation }
        if event.result ≠ quicOk then
          endSession .connection
            { taken with
              transportResult := event.result
              transportOperation := some kind }
        else
          match kind with
          | .material => taken.consumeMaterial env event
          | .listen => taken.consumeListen env event
          | .accept =>
              taken.consumeConnection env .acceptStream .acceptBidi event
          | .connect =>
              taken.consumeConnection env .openStream .openBidi event
          | .openStream | .acceptStream => taken.consumeStreams env event
          | .write => taken.consumeWrite env
          | .read => taken.consumeRead env event

/-- End an invitation nobody has used in time. -/
def expireInvite (env : Env R) (session : Session R) : Session R :=
  if session.role = .host ∧ session.state = .inviting ∧ session.qr ≠ [] then
    if env.clock session.ticks ≥ session.deadline then
      session.tick.endSession .expired
    else
      session.tick
  else
    session

/-- End a round that makes no progress. -/
def expireProgress (env : Env R) (session : Session R) : Session R :=
  if session.state = .running ∧ !session.paused then
    if env.clock session.ticks - session.lastProgress ≥ kProgressTimeout then
      session.tick.endSession .stall
    else
      session.tick
  else
    session

/-- Consume completions and check the timeouts. -/
def pump
    (env : Env R)
    (events : List Event)
    (session : Session R) : Session R :=
  let consumed :=
    events.foldl
      (fun (session : Session R) event => session.consume env event) session
  (consumed.expireInvite env).expireProgress env

/-- The view after `sync_view` has copied the session's fields into it. -/
def snapshot (session : Session R) : Snapshot where
  state := session.state
  reason := session.reason
  sessionId := session.sessionId
  transportResult := session.transportResult
  transportOperation := session.transportOperation
  role := session.role
  localConfigured := session.localConfigured
  peerConfigured := session.peerConfigured
  localReady := session.localReady
  peerReady := session.peerReady
  completedFrames := session.completedFrames
  configHash :=
    if session.localConfigured then session.localConfigHash else default
  lastDigestFrame := session.lastDigestFrame
  lastStateDigest := session.lastStateDigest
  appliedButtons := session.appliedButtons
  paused := session.paused
  peerGameKey := session.peerGameKey

/-- The invitation proper. -/
def host
    (env : Env R)
    (hostIpv4 : Bytes)
    (token : Block 16)
    (session : Session R) : Bool × Session R :=
  match parseLanIpv4 hostIpv4 with
  | none =>
      (false, session)
  | some ip =>
      if session.state ≠ .idle then
        (false, session)
      else
        let invite := { session.invite with ipv4 := ip, port := 0, token := token }
        let hosting : Session R :=
          { session with role := .host, invite := invite }
        (hosting.moveTo .inviting).submit env .material .generateSelfSigned

/-- The joining proper. -/
def join
    (env : Env R)
    (localIpv4 qrText : Bytes)
    (session : Session R) : Bool × Session R :=
  match parseInvite qrText, parseLanIpv4 localIpv4 with
  | some invite, some ip =>
      if session.state ≠ .idle then
        (false, session)
      else
        let joining : Session R :=
          { session with role := .guest, invite := invite }
        (joining.moveTo .joining).submit env .connect
          (.connect (endpoint { ipv4 := ip }) (endpoint invite)
            invite.spkiPin 10000)
  | _, _ =>
      (false, session)

/-- Load a ROM for a selection: the runtime with its two hashes. -/
def loadCandidate (env : Env R) (rom : Bytes) : Option (Option (R × Hash × Hash)) :=
  match env.runtime.create with
  | none =>
      none
  | some candidate =>
      let romHash := env.sha256 rom
      match env.runtime.loadRomFresh candidate rom romHash with
      | none =>
          some none
      | some loaded =>
          some ((env.runtime.getSourceTiming loaded).map fun timing =>
            (loaded, romHash, makeConfigHash env.sha256 romHash timing))

/-- The selection proper, after the pump. -/
def selectGame
    (env : Env R)
    (rom gameKey : Bytes)
    (session : Session R) : Bool × Session R :=
  if session.state ≠ .lobby ∧ session.state ≠ .configuring then
    (false, session)
  else
    match loadCandidate env rom with
    | none =>
        (false, session)
    | some none =>
        (false, { session with reason := .romInvalid })
    | some (some (runtime, romHash, configHash)) =>
        match session.selectionConflict romHash configHash with
        | some reason =>
            (false, { session with reason := reason })
        | none =>
            let committed : Session R :=
              { session with
                toGame := session.toGame.commitSelection
                  runtime romHash configHash
                log := session.log ++ [.moved session.state .configuring] }
            committed.queueMessage env .config
              (romHash.bytes ++ configHash.bytes ++ gameKey)

/-- The confirmation proper, after the pump. -/
def confirm (env : Env R) (session : Session R) : Bool × Session R :=
  if session.state ≠ .configuring ∨ !session.localConfigured ∨
      session.runtime.isNone then
    (false, session)
  else if session.localReady then
    (true, session)
  else
    let confirmed : Session R := { session with localReady := true }
    let (sent, session) :=
      confirmed.queueMessage env .ready confirmed.localConfigHash.bytes
    (sent, session.maybeStartHost env)

/-- The submission proper, after the pump. -/
def submitInput
    (env : Env R)
    (buttons : UInt32)
    (session : Session R) : Bool × Session R :=
  match session.inputs with
  | none =>
      (false, session)
  | some inputs =>
      let frame := session.nextSubmitFrame
      if session.state ≠ .running ∨ session.paused ∨
          frame ≥ wrap64 (session.completedFrames + kInputDelay) then
        (false, session)
      else
        match inputs.putLocal frame buttons with
        | (.accepted, inputs) =>
            let stored : Session R := { session with inputs := some inputs }
            let (sent, session) :=
              stored.queueMessage env .input
                (appendU64 frame ++ appendU32 buttons)
            if sent then
              let counted : Session R :=
                { session with
                  nextSubmitFrame := wrap64 (session.nextSubmitFrame + 1) }
              (true, counted.advance env)
            else
              (false, session)
        | (_, inputs) =>
            (false, { session with inputs := some inputs })

/-- The pause proper, after the pump: only the host decides by itself. -/
def setPaused
    (env : Env R)
    (paused : Bool)
    (session : Session R) : Bool × Session R :=
  if session.state ≠ .running then
    (false, session)
  else
    let decided :=
      if session.role = .host then
        let set := touchProgress env { session with paused := paused }
        if paused then set else set.advance env
      else
        session
    decided.queueMessage env .pause [if paused then 1 else 0]

/-- Pull newly produced samples, after the pump. -/
def pullPcm
    (env : Env R)
    (sampleCapacity : Nat)
    (session : Session R) : Option PcmBlock × Session R :=
  match session.runtime with
  | none =>
      (none, session)
  | some runtime =>
      let available := wrap64
        (session.pcmProduced + (2 ^ 64 - session.pcmConsumed))
      if available = 0 then
        (some ⟨0, session.pcmConsumed, 0⟩, session)
      else
        match env.runtime.pullPcm runtime (min available sampleCapacity) with
        | none =>
            (none, session)
        | some (runtime, block) =>
            (some block,
              { session with
                runtime := some runtime
                pcmConsumed := wrap64
                  (block.firstSampleSequence + block.sampleCount) })

end Session

namespace Endpoint

variable {R : Type}

/-- Consume everything that has arrived. -/
def pump (env : Env R) (endpoint : Endpoint R) : Session R :=
  endpoint.session.pump env endpoint.events

/-- The provider's callback. -/
def completion (event : Event) (endpoint : Endpoint R) : Endpoint R :=
  { endpoint with events := endpoint.events ++ [event] }

/-- Invite a guest. -/
def flyLanMvpHost
    (env : Env R)
    (hostIpv4 : Bytes)
    (token : Block 16)
    (endpoint : Endpoint R) : Bool × Endpoint R :=
  let (accepted, session) := endpoint.session.host env hostIpv4 token
  (accepted, { endpoint with session := session })

/-- Join the host of an invitation. -/
def flyLanMvpJoin
    (env : Env R)
    (localIpv4 qrText : Bytes)
    (endpoint : Endpoint R) : Bool × Endpoint R :=
  let (accepted, session) := endpoint.session.join env localIpv4 qrText
  (accepted, { endpoint with session := session })

/-- Copy the published invitation text. -/
def flyLanMvpCopyInvite
    (env : Env R)
    (endpoint : Endpoint R) : Option Bytes × Endpoint R :=
  let session := endpoint.pump env
  if session.qr = [] ∨ session.state ≠ .inviting then
    (none, { session := session })
  else
    (some session.qr, { session := session })

/-- Read the session's view. -/
def flyLanMvpSnapshotRead
    (env : Env R)
    (endpoint : Endpoint R) : Snapshot × Endpoint R :=
  let session := endpoint.pump env
  (session.snapshot, { session := session })

/-- Select a game and announce it. -/
def flyLanMvpSelectGame
    (env : Env R)
    (rom gameKey : Bytes)
    (endpoint : Endpoint R) : Bool × Endpoint R :=
  if rom = [] ∨ gameKey.length ≥ peerGameKeySize then
    (false, endpoint)
  else
    let (accepted, session) := (endpoint.pump env).selectGame env rom gameKey
    (accepted, { session := session })

/-- Confirm the selected configuration. -/
def flyLanMvpConfirm
    (env : Env R)
    (endpoint : Endpoint R) : Bool × Endpoint R :=
  let (accepted, session) := (endpoint.pump env).confirm env
  (accepted, { session := session })

/-- Submit the local buttons for the next frame. -/
def flyLanMvpSubmitInput
    (env : Env R)
    (buttons : UInt32)
    (endpoint : Endpoint R) : Bool × Endpoint R :=
  let (accepted, session) := (endpoint.pump env).submitInput env buttons
  (accepted, { session := session })

/-- Pause or resume the round. -/
def flyLanMvpSetPaused
    (env : Env R)
    (paused : Bool)
    (endpoint : Endpoint R) : Bool × Endpoint R :=
  let (accepted, session) := (endpoint.pump env).setPaused env paused
  (accepted, { session := session })

/-- Return both sides to the lobby. -/
def flyLanMvpReturnLobby
    (env : Env R)
    (endpoint : Endpoint R) : Bool × Endpoint R :=
  let (accepted, session) := (endpoint.pump env).returnLobby env
  (accepted, { session := session })

/-- Copy the latest picture. -/
def flyLanMvpCopyLatestFrame
    (env : Env R)
    (capacity : Nat)
    (endpoint : Endpoint R) : Bool × Endpoint R :=
  let session := endpoint.pump env
  (session.runtime.any fun runtime =>
    env.runtime.copyLatestFrame runtime capacity, { session := session })

/-- Pull newly produced samples. -/
def flyLanMvpPullPcm
    (env : Env R)
    (sampleCapacity : Nat)
    (endpoint : Endpoint R) : Option PcmBlock × Endpoint R :=
  if sampleCapacity = 0 then
    (none, endpoint)
  else
    let (block, session) := (endpoint.pump env).pullPcm env sampleCapacity
    (block, { session := session })

/-- Give the session up. -/
def flyLanMvpCancel (endpoint : Endpoint R) : Endpoint R :=
  { endpoint with session := endpoint.session.endSession .cancelled }

end Endpoint

/-- The public calls and the provider's callback. -/
inductive Call where
  | host (hostIpv4 : Bytes) (token : Block 16)
  | join (localIpv4 qrText : Bytes)
  | copyInvite
  | snapshotRead
  | selectGame (rom gameKey : Bytes)
  | confirm
  | submitInput (buttons : UInt32)
  | setPaused (paused : Bool)
  | returnLobby
  | copyLatestFrame (capacity : Nat)
  | pullPcm (sampleCapacity : Nat)
  | cancel
  | completion (event : Event)

namespace Endpoint

variable {R : Type}

/-- The endpoint after one call. -/
def call (env : Env R) (endpoint : Endpoint R) : Call → Endpoint R
  | .host hostIpv4 token => (endpoint.flyLanMvpHost env hostIpv4 token).2
  | .join localIpv4 qrText => (endpoint.flyLanMvpJoin env localIpv4 qrText).2
  | .copyInvite => (endpoint.flyLanMvpCopyInvite env).2
  | .snapshotRead => (endpoint.flyLanMvpSnapshotRead env).2
  | .selectGame rom gameKey => (endpoint.flyLanMvpSelectGame env rom gameKey).2
  | .confirm => (endpoint.flyLanMvpConfirm env).2
  | .submitInput buttons => (endpoint.flyLanMvpSubmitInput env buttons).2
  | .setPaused paused => (endpoint.flyLanMvpSetPaused env paused).2
  | .returnLobby => (endpoint.flyLanMvpReturnLobby env).2
  | .copyLatestFrame capacity =>
      (endpoint.flyLanMvpCopyLatestFrame env capacity).2
  | .pullPcm capacity => (endpoint.flyLanMvpPullPcm env capacity).2
  | .cancel => endpoint.flyLanMvpCancel
  | .completion event => endpoint.completion event

/-- The endpoint after a list of calls, from its creation. -/
def run (env : Env R) (calls : List Call) : Endpoint R :=
  calls.foldl (fun (endpoint : Endpoint R) call => endpoint.call env call) {}

end Endpoint

end FlyNes.LanMvp
