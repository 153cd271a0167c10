import FlyNes.LanRuns

namespace FlyNes.LanMvp

open Wire (Kind Message)

/-!
# Calls that pull no samples

A session asks its runtime for samples in one call only.  Every other call, and the pump
in front of every call, is the same with a runtime that never gives any.
-/

/-- The environment with a runtime that gives no samples. -/
def Env.silenced {R : Type} (env : Env R) : Env R :=
  { env with runtime := { env.runtime with pullPcm := fun _ _ => none } }

namespace Session

variable {R : Type} {env : Env R}

@[simp] theorem clock_silenced : env.silenced.clock = env.clock :=
  rfl

@[simp] theorem sha256_silenced : env.silenced.sha256 = env.sha256 :=
  rfl

@[simp] theorem touchProgress_silenced :
    (touchProgress env.silenced : Session R → Session R) = touchProgress env :=
  rfl

@[simp] theorem submit_silenced :
    (submit env.silenced : _ → _ → Session R → _) = submit env :=
  rfl

@[simp] theorem beginRead_silenced :
    (beginRead env.silenced : Session R → _) = beginRead env :=
  rfl

@[simp] theorem beginNextWrite_silenced :
    (beginNextWrite env.silenced : Session R → _) = beginNextWrite env :=
  rfl

@[simp] theorem queueMessage_silenced :
    (queueMessage env.silenced : _ → _ → Session R → _) = queueMessage env :=
  rfl

@[simp] theorem runFrame_silenced :
    (runFrame env.silenced : _ → Session R → _) = runFrame env :=
  rfl

@[simp] theorem advanceLoop_silenced
    (fuel : Nat)
    (session : Session R) :
    advanceLoop env.silenced fuel session = advanceLoop env fuel session := by
  induction fuel generalizing session with
  | zero => rfl
  | succ fuel inductionHypothesis =>
      simp only [advanceLoop, inductionHypothesis, runFrame_silenced]

@[simp] theorem advance_silenced :
    (advance env.silenced : Session R → _) = advance env := by
  funext session
  simp only [advance, advanceLoop_silenced]

@[simp] theorem enterRunning_silenced :
    (enterRunning env.silenced : Session R → _) = enterRunning env := by
  funext session
  simp only [enterRunning, touchProgress_silenced, advance_silenced]

@[simp] theorem maybeStartHost_silenced :
    (maybeStartHost env.silenced : Session R → _) = maybeStartHost env := by
  funext session
  simp only [maybeStartHost, queueMessage_silenced, enterRunning_silenced]

@[simp] theorem returnLobby_silenced :
    (returnLobby env.silenced : Session R → _) = returnLobby env := by
  funext session
  simp only [returnLobby, queueMessage_silenced]

@[simp] theorem handlePause_silenced :
    (handlePause env.silenced : _ → Session R → _) = handlePause env := by
  funext message session
  simp only [handlePause, advance_silenced]
  rfl

@[simp] theorem handleInput_silenced :
    (handleInput env.silenced : _ → Session R → _) = handleInput env := by
  funext message session
  simp only [handleInput, advance_silenced]

@[simp] theorem handleLobby_silenced :
    (handleLobby env.silenced : _ → Session R → _) = handleLobby env :=
  rfl

@[simp] theorem handleJoin_silenced :
    (handleJoin env.silenced : _ → Session R → _) = handleJoin env :=
  rfl

@[simp] theorem dispatch_silenced :
    (dispatch env.silenced : _ → Session R → _) = dispatch env := by
  funext message session
  simp only [dispatch, handleConfig, handleReady, handleStart, handleLobby_silenced,
    handleJoin_silenced, returnLobby_silenced, handlePause_silenced, handleInput_silenced,
    maybeStartHost_silenced, enterRunning_silenced]

@[simp] theorem drain_silenced
    (fuel : Nat)
    (session : Session R) :
    drain env.silenced fuel session = drain env fuel session := by
  induction fuel generalizing session with
  | zero => rfl
  | succ fuel inductionHypothesis =>
      simp only [drain, handleMessage, dispatch_silenced, inductionHypothesis]

@[simp] theorem consume_silenced :
    (consume env.silenced : _ → Session R → _) = consume env := by
  funext event session
  simp only [consume, consumeMaterial, consumeListen, consumeConnection, consumeStreams,
    consumeWrite, consumeRead, clock_silenced, sha256_silenced, submit_silenced,
    queueMessage_silenced, beginRead_silenced, beginNextWrite_silenced, drain_silenced]

theorem pump_silenced :
    (pump env.silenced : _ → Session R → _) = pump env := by
  funext events session
  simp only [pump, consume_silenced]
  rfl

theorem selectGame_silenced :
    (selectGame env.silenced : _ → _ → Session R → _) = selectGame env := by
  funext rom gameKey session
  simp only [selectGame, queueMessage_silenced]
  rfl

theorem confirm_silenced :
    (confirm env.silenced : Session R → _) = confirm env := by
  funext session
  simp only [confirm, queueMessage_silenced, maybeStartHost_silenced]

theorem submitInput_silenced :
    (submitInput env.silenced : _ → Session R → _) = submitInput env := by
  funext buttons session
  simp only [submitInput, queueMessage_silenced, advance_silenced]

theorem setPaused_silenced :
    (setPaused env.silenced : _ → Session R → _) = setPaused env := by
  funext paused session
  simp only [setPaused, touchProgress_silenced, queueMessage_silenced, advance_silenced]

end Session

namespace Endpoint

variable {R : Type} {env : Env R}

theorem pump_silenced (endpoint : Endpoint R) :
    endpoint.pump env.silenced = endpoint.pump env := by
  rw [Endpoint.pump, Endpoint.pump, Session.pump_silenced]

/-- Every call but a pull is the same without samples. -/
theorem call_silenced
    (endpoint : Endpoint R)
    {call : Call}
    (other : ∀ capacity, call ≠ .pullPcm capacity) :
    endpoint.call env.silenced call = endpoint.call env call := by
  cases call with
  | host | join | cancel | completion => rfl
  | pullPcm capacity => exact absurd rfl (other capacity)
  | copyInvite =>
      simp only [Endpoint.call, flyLanMvpCopyInvite, pump_silenced]
  | snapshotRead =>
      simp only [Endpoint.call, flyLanMvpSnapshotRead, pump_silenced]
  | selectGame rom gameKey =>
      simp only [Endpoint.call, flyLanMvpSelectGame, pump_silenced,
        Session.selectGame_silenced]
  | confirm =>
      simp only [Endpoint.call, flyLanMvpConfirm, pump_silenced, Session.confirm_silenced]
  | submitInput buttons =>
      simp only [Endpoint.call, flyLanMvpSubmitInput, pump_silenced,
        Session.submitInput_silenced]
  | setPaused paused =>
      simp only [Endpoint.call, flyLanMvpSetPaused, pump_silenced,
        Session.setPaused_silenced]
  | returnLobby =>
      simp only [Endpoint.call, flyLanMvpReturnLobby, pump_silenced,
        Session.returnLobby_silenced]
  | copyLatestFrame capacity =>
      simp only [Endpoint.call, flyLanMvpCopyLatestFrame, pump_silenced]

end Endpoint

end FlyNes.LanMvp
