import FlyNes.LanMoves

namespace FlyNes.LanMvp

open ByteString
open Lockstep (wrap64 Frame Buffer)
open Wire (Kind Message Decoder)

/-!
# Running frames and starting rounds, as moves

The functions that run frames and start rounds are followed through all their
branches.  The results hold for every session and every provider.
-/

namespace Session

variable {R : Type} {env : Env R} {waiting : List Event}

/-!
## Frames
-/

/-- What the frame loop needs to go on. -/
def Playing (session : Session R) : Prop :=
  session.state = .running →
    session.paused = false ∧ session.inputs.isSome ∧ session.runtime.isSome

theorem fits_of_length
    {kind : Kind}
    {payload : Bytes}
    (short : payload.length < 1024) :
    Message.Fits ⟨kind, payload⟩ := by
  unfold Message.Fits Message.bodySize Wire.kMaxBodySize
  exact short

variable {session : Session R} {frame : Nat}

theorem compareDigest_of_clash
    (clash : session.toGame.DigestClash frame) :
    session.compareDigest frame = session.endSession .desync := by
  obtain ⟨ours, theirs, pair, differ⟩ := clash
  unfold compareDigest
  rw [pair]
  simp [differ]

theorem compareDigest_of_agreement
    (agreement : ¬ session.toGame.DigestClash frame) :
    session.compareDigest frame =
      session.withGame (Game.settleDigest frame) := by
  unfold compareDigest Game.settleDigest withGame
  cases pair : session.toGame.digestPair frame with
  | none =>
      simp [pair]
  | some digests =>
      obtain ⟨ours, theirs⟩ := digests
      have same : ours = theirs := by
        by_contra differ
        exact agreement ⟨ours, theirs, pair, differ⟩
      simp [pair, same, Game.forgetDigests]

theorem settleDigest_finish
    (frame : Nat)
    (reason : Reason)
    (game : Game R) :
    (game.finish reason).settleDigest frame =
      (game.settleDigest frame).finish reason :=
  rfl

theorem settleDigest_state
    (frame : Nat)
    (game : Game R) :
    (game.settleDigest frame).state = game.state :=
  rfl

/-- A frame has been run, and its digest taken but not yet sent. -/
structure DigestTaken
    (env : Env R)
    (session kept : Session R)
    (frame : Frame)
    (inputs : Buffer)
    (runtime after : R)
    (result : FrameResult)
    (hash : Hash) : Prop where
  ready : session.toGame.FrameReady frame inputs runtime
  ran :
    env.runtime.stepFrame runtime (session.toGame.frameInput frame) =
      some (after, result)
  due : digestDue frame
  copied : env.runtime.copyFrameDigest after 1 frame.index = some hash
  game :
    kept.toGame =
      (session.toGame.ranFrame frame inputs after result).keepDigest
        frame.index hash
  log :
    kept.log = session.log ++
      [.stepped false (session.toGame.frameInput frame),
        .published frame.index hash]
  channel : kept.toChannel = session.toChannel

namespace DigestTaken

variable
  {session kept : Session R}
  {frame : Frame}
  {inputs : Buffer}
  {runtime after : R}
  {result : FrameResult}
  {hash : Hash}

/-- The payload of the digest message. -/
def payload (frame : Frame) (hash : Hash) : Bytes :=
  appendU64 frame.index ++ hash.bytes

theorem fits :
    Message.Fits ⟨.digest, payload frame hash⟩ := by
  apply fits_of_length
  simp [payload, hash.sized]

theorem alive
    (taken :
      DigestTaken env session kept frame inputs runtime after result hash) :
    session.state ≠ .ended := by
  rw [taken.ready.running]
  simp

theorem keptAlive
    (taken :
      DigestTaken env session kept frame inputs runtime after result hash) :
    kept.state ≠ .ended := by
  rw [taken.game]
  exact taken.alive

theorem clash_act
    (taken :
      DigestTaken env session kept frame inputs runtime after result hash)
    (owed : Option Debt)
    (clash : kept.toGame.DigestClash frame.index)
    {reason : Reason}
    (cause : reason = .desync ∨ (reason = .connection ∧ env.Refuses)) :
    Act env .silent (session.party owed)
      (some ⟨.digest, payload frame hash⟩)
      ⟨kept.toGame.finish reason,
        (kept.pushed .digest (payload frame hash)).log ++
          [.moved kept.state .ended], owed⟩ := by
  have natural :
      Act env .silent (session.party owed)
        (some ⟨.digest, appendU64 frame.index ++ hash.bytes⟩)
        (((session.party owed).become
          ((session.toGame.ranFrame frame inputs after result).keepDigest
            frame.index hash) []).finish reason
          [.stepped false (session.toGame.frameInput frame),
            .published frame.index hash,
            (session.party owed).posting .digest
              (appendU64 frame.index ++ hash.bytes)]) := by
    rw [taken.game] at clash
    exact Act.clash reason taken.ready taken.ran taken.due taken.copied
      clash cause
  simpa [payload, pushed, taken.game, taken.log, Party.finish, Party.become,
    Party.posting, Session.party, Game.keepDigest, Game.ranFrame,
    Game.completeFrame] using natural

theorem agreement_act
    (taken :
      DigestTaken env session kept frame inputs runtime after result hash)
    (owed : Option Debt)
    (agreement : ¬ kept.toGame.DigestClash frame.index) :
    Act env .silent (session.party owed)
      (some ⟨.digest, payload frame hash⟩)
      ⟨kept.toGame.settleDigest frame.index,
        (kept.pushed .digest (payload frame hash)).log, owed⟩ := by
  have natural :
      Act env .silent (session.party owed)
        (some ⟨.digest, appendU64 frame.index ++ hash.bytes⟩)
        ((session.party owed).become
          (((session.toGame.ranFrame frame inputs after result).keepDigest
            frame.index hash).settleDigest frame.index)
          [.stepped false (session.toGame.frameInput frame),
            .published frame.index hash,
            (session.party owed).posting .digest
              (appendU64 frame.index ++ hash.bytes)]) := by
    rw [taken.game] at agreement
    exact Act.digest taken.ready taken.ran taken.due taken.copied agreement
  simpa [payload, pushed, taken.game, taken.log, Party.become,
    Party.posting, Session.party, Game.keepDigest, Game.ranFrame,
    Game.completeFrame] using natural

/-- Digests that differ end the session, at the latest after the comparison. -/
theorem clash_moves
    (taken :
      DigestTaken env session kept frame inputs runtime after result hash)
    (owed : Option Debt)
    (clash : kept.toGame.DigestClash frame.index) :
    let sent := (kept.queueMessage env .digest (payload frame hash)).2
    Moves env (session.station owed waiting)
        ((sent.compareDigest frame.index).station owed waiting) ∧
      (sent.compareDigest frame.index).state = .ended := by
  have attempt :
      Attempt env (kept.pushed .digest (payload frame hash))
        (kept.queueMessage env .digest (payload frame hash)) :=
    queueMessage_attempt taken.keptAlive fits
  cases outcome : kept.queueMessage env .digest (payload frame hash) with
  | mk accepted sent =>
      rw [outcome] at attempt
      cases attempt with
      | kept sentGame sentLog _ =>
          obtain ⟨handed, sentTraffic, hands⟩ :=
            queueMessage_handed taken.keptAlive fits outcome
          have sentClash : sent.toGame.DigestClash frame.index := by
            rw [sentGame]
            exact clash
          have sentAlive : sent.state ≠ .ended := by
            rw [sentGame]
            exact taken.keptAlive
          have act :
              Act env .silent (session.party owed)
                (some ⟨.digest, payload frame hash⟩)
                ⟨sent.toGame.finish .desync,
                  sent.log ++ [.moved sent.state .ended], owed⟩ := by
            rw [sentGame, sentLog]
            exact taken.clash_act owed clash (Or.inl rfl)
          have move :
              Move env .silent (session.station owed waiting)
                ((sent.endSession .desync).station owed waiting) := by
            refine stop_move session.decoder act (by simp) taken.alive
              sentAlive rfl (by simp [Sendable, fits]) handed ?_ ?_ ?_
            · rw [sentTraffic, taken.channel]
              rfl
            · simpa [pushed, taken.channel, Session.station] using hands
            · exact List.suffix_rfl
          dsimp only
          rw [compareDigest_of_clash sentClash]
          exact ⟨Moves.single move trivial, endSession_state _⟩
      | lost refuses _ sentGame sentLog severed =>
          have sentEnded : sent.state = .ended := by
            rw [sentGame]
            rfl
          have sentClash : sent.toGame.DigestClash frame.index := by
            rw [sentGame]
            exact clash
          have act :
              Act env .silent (session.party owed)
                (some ⟨.digest, payload frame hash⟩) (sent.party owed) := by
            unfold Session.party
            rw [sentGame, sentLog]
            exact taken.clash_act owed clash (Or.inr ⟨rfl, refuses⟩)
          dsimp only
          rw [compareDigest_of_clash sentClash,
            endSession_of_ended _ sentEnded]
          refine ⟨?_, sentEnded⟩
          refine severed_moves session.decoder severed taken.keptAlive act
            trivial (by simp) taken.alive sentEnded rfl
            (by simp [Sendable, fits]) ?_ ?_
          · have sameTraffic := congrArg Channel.traffic taken.channel
            exact sameTraffic
          · exact List.suffix_rfl

/-- Digests that agree, or of which one is missing, let the round go on. -/
theorem agreement_moves
    (taken :
      DigestTaken env session kept frame inputs runtime after result hash)
    (owed : Option Debt)
    (agreement : ¬ kept.toGame.DigestClash frame.index) :
    let sent := (kept.queueMessage env .digest (payload frame hash)).2
    Moves env (session.station owed waiting)
        ((sent.compareDigest frame.index).station owed waiting) ∧
      ((sent.compareDigest frame.index).state = .ended ∨
        (sent.compareDigest frame.index).toGame =
          kept.toGame.settleDigest frame.index) := by
  have attempt :
      Attempt env (kept.pushed .digest (payload frame hash))
        (kept.queueMessage env .digest (payload frame hash)) :=
    queueMessage_attempt taken.keptAlive fits
  have settledAlive :
      (kept.toGame.settleDigest frame.index).state ≠ .ended := by
    rw [settleDigest_state]
    exact taken.keptAlive
  have posted :
      Move env .silent (session.station owed waiting)
        ⟨⟨kept.toGame.settleDigest frame.index,
          (kept.pushed .digest (payload frame hash)).log, owed⟩,
          (kept.pushed .digest (payload frame hash)).toChannel, waiting⟩ := by
    refine post_move (taken.agreement_act owed agreement) taken.alive
      settledAlive ?_ ?_ ⟨fits, by simp⟩
    · exact congrArg Channel.decoder taken.channel
    · rw [taken.channel]
      rfl
  cases outcome : kept.queueMessage env .digest (payload frame hash) with
  | mk accepted sent =>
      rw [outcome] at attempt
      dsimp only
      cases attempt with
      | kept sentGame sentLog moves =>
          have sentAgreement : ¬ sent.toGame.DigestClash frame.index := by
            rw [sentGame]
            exact agreement
          rw [compareDigest_of_agreement sentAgreement]
          have written := moves
            ⟨kept.toGame.settleDigest frame.index,
              (kept.pushed .digest (payload frame hash)).log, owed⟩
            waiting (fun _ => settledAlive)
          refine ⟨(Moves.single posted trivial).trans ?_, Or.inr ?_⟩
          · have shape :
                (sent.withGame (Game.settleDigest frame.index)).station owed waiting =
                  ⟨⟨kept.toGame.settleDigest frame.index,
                    (kept.pushed .digest (payload frame hash)).log, owed⟩,
                    sent.toChannel, waiting⟩ := by
              unfold Session.station Session.party withGame
              rw [← sentLog, sentGame]
              rfl
            rw [shape]
            exact written
          · unfold withGame
            rw [sentGame]
            rfl
      | lost refuses _ sentGame sentLog severed =>
          have sentEnded : sent.state = .ended := by
            rw [sentGame]
            rfl
          have sentAgreement : ¬ sent.toGame.DigestClash frame.index := by
            rw [sentGame]
            exact agreement
          rw [compareDigest_of_agreement sentAgreement]
          have ended :
              (sent.withGame (Game.settleDigest frame.index)).state =
                .ended := by
            unfold withGame
            rw [settleDigest_state]
            exact sentEnded
          refine ⟨?_, Or.inl ended⟩
          have broken :
              Moves env
                ⟨⟨kept.toGame.settleDigest frame.index,
                  (kept.pushed .digest (payload frame hash)).log, owed⟩,
                  (kept.pushed .digest (payload frame hash)).toChannel, waiting⟩
                ⟨(Party.mk (kept.toGame.settleDigest frame.index)
                  (kept.pushed .digest (payload frame hash)).log
                  owed).finish .connection [], sent.toChannel, waiting⟩ :=
            lost_moves severed taken.keptAlive settledAlive
          have shape :
              (sent.withGame (Game.settleDigest frame.index)).station owed waiting =
                ⟨(Party.mk (kept.toGame.settleDigest frame.index)
                  (kept.pushed .digest (payload frame hash)).log
                  owed).finish .connection [], sent.toChannel, waiting⟩ := by
            unfold Session.station Session.party withGame Party.finish
            rw [← settleDigest_finish, settleDigest_state, List.append_nil]
            dsimp only
            rw [sentGame, sentLog]
            rfl
          rw [shape]
          exact (Moves.single posted trivial).trans broken

end DigestTaken

/-- A session that has ended is not in the frame loop any more. -/
theorem playing_of_ended
    (ended : session.state = .ended) :
    Playing session := by
  intro running
  rw [ended] at running
  cases running

variable {session : Session R} {inputs : Buffer} {runtime : R}

theorem publishDigest_moves
    {completed : Session R}
    {frame : Frame}
    {after : R}
    {result : FrameResult}
    (owed : Option Debt)
    (ready : session.toGame.FrameReady frame inputs runtime)
    (ran :
      env.runtime.stepFrame runtime (session.toGame.frameInput frame) =
        some (after, result))
    (due : digestDue frame)
    (game :
      completed.toGame = session.toGame.ranFrame frame inputs after result)
    (log :
      completed.log = session.log ++
        [.stepped false (session.toGame.frameInput frame)])
    (channel : completed.toChannel = session.toChannel) :
    Moves env (session.station owed waiting)
        ((completed.publishDigest env frame.index).station owed waiting) ∧
      Playing (completed.publishDigest env frame.index) := by
  have alive : session.state ≠ .ended := by
    rw [ready.running]
    simp
  have completedAlive : completed.state ≠ .ended := by
    rw [game]
    exact alive
  have loaded : completed.runtime = some after := by
    rw [game]
    rfl
  unfold publishDigest
  rw [loaded]
  dsimp only
  cases copied : env.runtime.copyFrameDigest after 1 frame.index with
  | none =>
      have natural :
          Act env .silent (session.party owed) none
            (((session.party owed).become
              (session.toGame.ranFrame frame inputs after result)
              []).finish .configMismatch
              [.stepped false (session.toGame.frameInput frame)]) :=
        Act.digestFailed ready ran due copied
      have act :
          Act env .silent (session.party owed) none
            ⟨completed.toGame.finish .configMismatch,
              completed.log ++ [.moved completed.state .ended], owed⟩ := by
        rw [game, log]
        simpa [Party.finish, Party.become, Session.party] using natural
      refine ⟨?_, playing_of_ended (endSession_state _)⟩
      refine halt_moves session.decoder act trivial (by simp) alive
        completedAlive rfl ?_ ?_
      · rw [channel]
        rfl
      · exact List.suffix_rfl
  | some hash =>
      dsimp only
      generalize shape :
        (completed.withGame (Game.keepDigest frame.index hash)).note
          (.published frame.index hash) = kept
      have taken :
          DigestTaken env session kept frame inputs runtime after result
            hash := by
        refine ⟨ready, ran, due, copied, ?_, ?_, ?_⟩
        · rw [← shape, ← game]
          rfl
        · rw [← shape]
          simp [note, withGame, log]
        · rw [← shape, ← channel]
          rfl
      by_cases clash : kept.toGame.DigestClash frame.index
      · obtain ⟨moves, ended⟩ := taken.clash_moves owed clash
        exact ⟨moves, playing_of_ended ended⟩
      · obtain ⟨moves, outcome⟩ := taken.agreement_moves owed clash
        refine ⟨moves, ?_⟩
        rcases outcome with ended | settled
        · exact playing_of_ended ended
        · intro _
          rw [DigestTaken.payload] at settled
          rw [settled, taken.game]
          unfold Game.settleDigest
          split
          · exact ⟨ready.unpaused, rfl, rfl⟩
          · exact ⟨ready.unpaused, rfl, rfl⟩

theorem runFrame_moves
    {popped : Session R}
    {frame : Frame}
    (owed : Option Debt)
    (ready : session.toGame.FrameReady frame inputs runtime)
    (game : popped.toGame = { session.toGame with inputs := some inputs })
    (log : popped.log = session.log)
    (channel : popped.toChannel = session.toChannel) :
    Moves env (session.station owed waiting)
        ((runFrame env frame popped).station owed waiting) ∧
      Playing (runFrame env frame popped) := by
  have alive : session.state ≠ .ended := by
    rw [ready.running]
    simp
  have loaded : popped.runtime = some runtime := by
    rw [game]
    exact ready.loaded
  have sameInput :
      popped.toGame.frameInput frame = session.toGame.frameInput frame := by
    rw [game]
    rfl
  have unpaused : popped.paused = false := by
    rw [game]
    exact ready.unpaused
  unfold runFrame
  rw [loaded]
  dsimp only
  rw [sameInput, unpaused]
  cases ran : env.runtime.stepFrame runtime (session.toGame.frameInput frame) with
  | none =>
      dsimp only
      have natural :
          Act env .silent (session.party owed) none
            ((session.party owed).finish .configMismatch
              [.stepped false (session.toGame.frameInput frame)]) :=
        Act.frameFailed ready ran
      have poppedAlive : popped.state ≠ .ended := by
        rw [game]
        exact alive
      have act :
          Act env .silent (session.party owed) none
            ⟨(popped.note (.stepped false
                (session.toGame.frameInput frame))).toGame.finish
                .configMismatch,
              (popped.note (.stepped false
                (session.toGame.frameInput frame))).log ++
                [.moved popped.state .ended], owed⟩ := by
        simpa [Party.finish, Session.party, note, Game.finish,
          Game.stopRuntime, game, log] using natural
      refine ⟨?_, playing_of_ended (endSession_state _)⟩
      refine halt_moves session.decoder act trivial (by simp) alive
        poppedAlive rfl ?_ ?_
      · exact congrArg Channel.traffic channel
      · exact List.suffix_rfl
  | some outcome =>
      obtain ⟨after, result⟩ := outcome
      dsimp only
      generalize shape :
        (((popped.note (.stepped false
          (session.toGame.frameInput frame))).withGame
            (Game.completeFrame frame after result)).touchProgress env) =
          completed
      have completedGame :
          completed.toGame =
            session.toGame.ranFrame frame inputs after result := by
        rw [← shape]
        unfold touchProgress withGame note
        dsimp only
        rw [game]
        rfl
      have completedLog :
          completed.log = session.log ++
            [.stepped false (session.toGame.frameInput frame)] := by
        rw [← shape, ← log]
        rfl
      have completedChannel : completed.toChannel = session.toChannel := by
        rw [← shape, ← channel]
        rfl
      have counted :
          completed.completedFrames = wrap64 (frame.index + 1) := by
        rw [completedGame]
        rfl
      rw [counted]
      by_cases due : wrap64 (frame.index + 1) % kDigestInterval = 0
      · rw [if_pos due]
        exact publishDigest_moves owed ready ran due completedGame
          completedLog completedChannel
      · rw [if_neg due]
        have act :
            Act env .silent (session.party owed) none
              (completed.party owed) := by
          unfold Session.party
          rw [completedGame, completedLog]
          exact Act.frame ready ran due
        have completedAlive : completed.state ≠ .ended := by
          rw [completedGame]
          exact alive
        refine ⟨act_moves act trivial alive completedAlive ?_ ?_, ?_⟩
        · exact congrArg Channel.decoder completedChannel
        · rw [completedChannel]
          rfl
        · intro _
          rw [completedGame]
          exact ⟨ready.unpaused, rfl, rfl⟩

/-- The frame loop runs ready frames only and follows no null pointer. -/
theorem advanceLoop_moves
    (owed : Option Debt)
    (fuel : Nat)
    (session : Session R)
    (playing : Playing session) :
    Moves env (session.station owed waiting)
      ((advanceLoop env fuel session).station owed waiting) := by
  induction fuel generalizing session with
  | zero =>
      exact Moves.refl
  | succ fuel inductionHypothesis =>
      unfold advanceLoop
      by_cases running : session.state = .running
      · rw [if_neg (not_not.mpr running)]
        obtain ⟨unpaused, hasInputs, hasRuntime⟩ := playing running
        obtain ⟨buffer, inputs⟩ := Option.isSome_iff_exists.mp hasInputs
        obtain ⟨runtime, loaded⟩ := Option.isSome_iff_exists.mp hasRuntime
        rw [inputs]
        dsimp only
        cases popped : buffer.popReady with
        | none =>
            exact Moves.refl
        | some outcome =>
            obtain ⟨frame, rest⟩ := outcome
            have ready : session.toGame.FrameReady frame rest runtime :=
              ⟨running, unpaused, loaded, buffer, inputs, popped⟩
            obtain ⟨moves, stillPlaying⟩ :=
              runFrame_moves owed ready
                (rfl :
                  ({ session with inputs := some rest } :
                    Session R).toGame = _) rfl rfl
            exact moves.trans (inductionHypothesis _ stillPlaying)
      · rw [if_pos running]
        exact Moves.refl

theorem advance_moves
    (owed : Option Debt)
    (session : Session R) :
    Moves env (session.station owed waiting) ((session.advance env).station owed waiting) := by
  unfold advance
  cases inputs : session.inputs with
  | none =>
      exact Moves.refl
  | some buffer =>
      dsimp only
      by_cases blocked :
          session.state ≠ .running ∨ session.paused = true ∨
            session.runtime.isNone = true
      · rw [if_pos blocked]
        exact Moves.refl
      · rw [if_neg blocked]
        simp only [not_or, not_not, Bool.not_eq_true] at blocked
        apply advanceLoop_moves
        intro _
        refine ⟨blocked.2.1, ?_, ?_⟩
        · rw [inputs]
          rfl
        · cases loaded : session.runtime with
          | none =>
              rw [loaded] at blocked
              simp at blocked
          | some runtime =>
              rfl

/-!
## Starting a round
-/

/-- The session in which a round has just begun. -/
def begun (session : Session R) : Session R :=
  { session with
    toGame := session.toGame.beginRound
    log := session.log ++ [.moved session.state .running] }

theorem enterRunning_of_unloaded
    (unloaded : session.runtime = none) :
    session.enterRunning env = session := by
  unfold enterRunning
  rw [if_pos]
  exact Or.inr (Or.inl (by rw [unloaded]; rfl))

theorem enterRunning_of_ready
    (pending : session.state ≠ .running)
    (loaded : session.runtime.isSome)
    (matching : session.toGame.configsMatch = true)
    (ours : session.localReady = true)
    (theirs : session.peerReady = true) :
    session.enterRunning env =
      (session.begun.touchProgress env).advance env := by
  unfold enterRunning
  have open' :
      ¬ (session.state = .running ∨ session.runtime.isNone = true ∨
        (!session.toGame.configsMatch) = true ∨
        (!session.localReady) = true ∨ (!session.peerReady) = true) := by
    cases runtime : session.runtime with
    | none =>
        rw [runtime] at loaded
        simp at loaded
    | some _ =>
        simp [pending, matching, ours, theirs]
  rw [if_neg open']
  rfl

theorem begun_moves
    (owed : Option Debt) :
    Moves env (session.begun.station owed waiting)
      (((session.begun.touchProgress env).advance env).station owed waiting) :=
  advance_moves owed (session.begun.touchProgress env)

theorem fits_start
    (session : Session R) :
    Message.Fits ⟨.start, session.localConfigHash.bytes⟩ := by
  apply fits_of_length
  simp [session.localConfigHash.sized]

/-- The host announces the round and enters it. -/
theorem startable_moves
    (settled : session.state = .lobby ∨ session.state = .configuring)
    (startable : session.toGame.Startable) :
    let outcome :=
      session.queueMessage env .start session.localConfigHash.bytes
    Moves env (session.station (some .start) waiting)
      ((if outcome.1 then outcome.2.enterRunning env
        else outcome.2).station none waiting) := by
  have alive : session.state ≠ .ended := by
    rcases settled with lobby | configuring
    · simp [lobby]
    · simp [configuring]
  have pending : session.state ≠ .running := by
    rcases settled with lobby | configuring
    · simp [lobby]
    · simp [configuring]
  have attempt :
      Attempt env
        (session.pushed .start session.localConfigHash.bytes)
        (session.queueMessage env .start session.localConfigHash.bytes) :=
    queueMessage_attempt alive (fits_start session)
  cases outcome :
      session.queueMessage env .start session.localConfigHash.bytes with
  | mk sent after =>
      rw [outcome] at attempt
      dsimp only
      cases attempt with
      | kept game log moves =>
          rw [if_pos rfl]
          cases loaded : session.runtime with
          | none =>
              have act :
                  Act env .silent (session.party (some .start))
                    (some ⟨.start, session.localConfigHash.bytes⟩)
                    ⟨session.toGame,
                      (session.pushed .start
                        session.localConfigHash.bytes).log, none⟩ :=
                Act.startIdle rfl settled startable loaded
              have unloaded : after.runtime = none := by
                rw [game]
                exact loaded
              rw [enterRunning_of_unloaded unloaded,
                station_eq none waiting game log]
              exact post_moves act trivial alive alive rfl rfl
                ⟨fits_start session, by simp⟩ moves
          | some runtime =>
              have act :
                  Act env .silent (session.party (some .start))
                    (some ⟨.start, session.localConfigHash.bytes⟩)
                    ⟨session.toGame.beginRound,
                      session.log ++
                        [.queued session.lobbyGeneration
                          ⟨.start, session.localConfigHash.bytes⟩,
                          .moved session.state .running], none⟩ := by
                refine Act.started rfl settled startable ?_
                simp [Session.party, loaded]
              have entered :
                  after.enterRunning env =
                    (after.begun.touchProgress env).advance env := by
                refine enterRunning_of_ready ?_ ?_ ?_ ?_ ?_
                · rw [game]
                  exact pending
                · rw [game]
                  simp [pushed, loaded]
                · rw [game]
                  exact startable.2.2.2
                · rw [game]
                  exact startable.2.1
                · rw [game]
                  exact startable.2.2.1
              have beginsWith :
                  Moves env (session.station (some .start) waiting)
                    (after.begun.station none waiting) := by
                have beginGame :
                    after.begun.toGame = session.toGame.beginRound := by
                  unfold begun
                  rw [game]
                  rfl
                have beginLog :
                    after.begun.log =
                      session.log ++
                        [.queued session.lobbyGeneration
                          ⟨.start, session.localConfigHash.bytes⟩,
                          .moved session.state .running] := by
                  unfold begun
                  rw [game, log]
                  simp [pushed]
                rw [station_eq none waiting beginGame beginLog]
                exact post_moves act trivial alive (by simp [Game.beginRound])
                  rfl rfl ⟨fits_start session, by simp⟩ moves
              rw [entered]
              exact beginsWith.trans (begun_moves none)
      | lost refuses _ game log severed =>
          rw [if_neg (by simp)]
          have act :
              Act env .silent (session.party (some .start))
                (some ⟨.start, session.localConfigHash.bytes⟩)
                (after.party (some .start)) := by
            have natural :
                Act env .silent (session.party (some .start))
                  (some ⟨.start, session.localConfigHash.bytes⟩)
                  ((session.party (some .start)).finish .connection
                    [(session.party (some .start)).posting .start
                      session.localConfigHash.bytes]) :=
              Act.startLost rfl settled startable refuses
            unfold Session.party
            rw [game, log]
            exact natural
          have ended : after.state = .ended := by
            rw [game]
            rfl
          have broken :
              Moves env (session.station (some .start) waiting)
                (after.station (some .start) waiting) := by
            refine severed_moves session.decoder severed alive act trivial
              (by simp) alive ended rfl ?_ rfl List.suffix_rfl
            simpa [Sendable] using fits_start session
          exact broken.trans (forgive_moves _ _ ended)

/--
Once everything is confirmed the host starts the round; any other session only
forgets that it had to look.
-/
theorem maybeStartHost_moves
    (settled :
      session.state = .ended ∨ session.state = .lobby ∨
        session.state = .configuring)
    (stopped : session.state = .ended → session.runtime = none) :
    Moves env (session.station (some .start) waiting)
      ((session.maybeStartHost env).station none waiting) := by
  unfold maybeStartHost
  by_cases blocked :
      session.role ≠ .host ∨ session.state = .running ∨
        (!session.localReady) = true ∨ (!session.peerReady) = true ∨
        (!session.toGame.configsMatch) = true
  · rw [if_pos blocked]
    rcases settled with ended | alive
    · exact forgive_moves _ _ ended
    · have notEnded : session.state ≠ .ended := by
        rcases alive with lobby | configuring
        · simp [lobby]
        · simp [configuring]
      have act :
          Act env .silent (session.party (some .start)) none
            (session.party none) := by
        refine Act.unstarted rfl notEnded ?_
        rintro ⟨host, ours, theirs, matching⟩
        have ours' : session.localReady = true := ours
        have theirs' : session.peerReady = true := theirs
        have matching' : session.toGame.configsMatch = true := matching
        have host' : session.role = .host := host
        rcases alive with lobby | configuring
        · simp [host', ours', theirs', matching', lobby] at blocked
        · simp [host', ours', theirs', matching', configuring] at blocked
      exact act_moves act trivial notEnded notEnded rfl rfl
  · rw [if_neg blocked]
    simp only [not_or, not_not, Bool.not_eq_true', Bool.not_eq_false]
      at blocked
    obtain ⟨host, _, ours, theirs, matching⟩ := blocked
    rcases settled with ended | alive
    · rw [queueMessage_of_ended ended (fits_start session)]
      have unloaded :
          ({ session with
              writes := session.writes ++
                [Message.frame ⟨.start, session.localConfigHash.bytes⟩] } :
              Session R).runtime = none :=
        stopped ended
      dsimp only
      rw [if_pos rfl, enterRunning_of_unloaded unloaded]
      exact dead_moves _ _ ended rfl rfl rfl rfl
    · exact startable_moves alive ⟨host, ours, theirs, matching⟩

end Session

end FlyNes.LanMvp
