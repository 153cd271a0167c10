import FlyNes.LanAudio

namespace FlyNes.LanMvp

open ByteString
open Emulation (NesCore kAudioScratchSamples)
open Lockstep (wrap64 Frame Buffer)
open LanMvp.Wire (Kind Message)

/-!
# The samples of a run

Whatever a session does, its counters follow the account of the round: a frame adds
samples, a pull takes the oldest ones, and only a new round or a lobby starts a new
account.  The blocks that a round gives lie behind one another.
-/

/-! ## What the history counts -/

/-- The rounds that have been started, and the frames asked for in the last one. -/
structure RoundTally where
  round : Nat := 0
  frames : Nat := 0

def RoundTally.note (tally : RoundTally) : Effect → RoundTally
  | .moved _ .running => { round := tally.round + 1 }
  | .stepped _ _ => { tally with frames := tally.frames + 1 }
  | _ => tally

def roundTally (log : List Effect) : RoundTally :=
  log.foldl RoundTally.note {}

@[simp] theorem roundTally_append (log effects : List Effect) :
    roundTally (log ++ effects) = effects.foldl RoundTally.note (roundTally log) := by
  simp [roundTally]

/-- The entry into a round. -/
def Effect.starts : Effect → Bool
  | .moved _ .running => true
  | _ => false

theorem RoundTally.note_of_quiet
    (tally : RoundTally)
    {effect : Effect}
    (quiet : effect.starts = false) :
    (tally.note effect).round = tally.round ∧ tally.frames ≤ (tally.note effect).frames := by
  unfold RoundTally.note
  split
  · cases quiet
  · exact ⟨rfl, Nat.le_succ _⟩
  · exact ⟨rfl, Nat.le_refl _⟩

/-- Until the next entry, the last round goes on. -/
theorem roundTally_of_quiet
    {log effects : List Effect}
    (quiet : effects.any Effect.starts = false) :
    (roundTally (log ++ effects)).round = (roundTally log).round ∧
      (roundTally log).frames ≤ (roundTally (log ++ effects)).frames := by
  rw [roundTally_append]
  generalize roundTally log = tally
  induction effects generalizing tally with
  | nil => exact ⟨rfl, Nat.le_refl _⟩
  | cons effect rest inductionHypothesis =>
      rw [List.any_cons, Bool.or_eq_false_iff] at quiet
      obtain ⟨round, frames⟩ := tally.note_of_quiet quiet.1
      obtain ⟨lastRound, lastFrames⟩ := inductionHypothesis quiet.2 (tally.note effect)
      exact ⟨lastRound.trans round, frames.trans lastFrames⟩

/-! ## The account of a session -/

variable {State : Type}

/-- The states in which samples of a round may be left. -/
def Game.Sounding {R : Type} (game : Game R) : Prop :=
  game.state = .running ∨ game.state = .ended ∨
    (game.state = .returning ∧ game.role ≠ .host)

/-- The counters and the runtime of a session stand as the account says. -/
structure Game.Accounted (game : Game (Played State)) (account : AudioAccount) : Prop where
  produced : game.pcmProduced = wrap64 account.produced
  consumed : game.pcmConsumed = wrap64 account.consumed
  loaded : ∀ played, game.runtime = some played → played.Fits account
  silent : ¬ game.Sounding → account.produced = 0

variable {R : Type} {game : Game R}

theorem Game.silent_of_state
    (running : game.state ≠ .running)
    (ended : game.state ≠ .ended)
    (host : game.state = .returning → game.role = .host) :
    ¬ game.Sounding := by
  rintro (now | now | ⟨now, guest⟩)
  · exact running now
  · exact ended now
  · exact guest (host now)

theorem Game.silent_of_lobby
    (lobby : game.state = .lobby ∨ game.state = .configuring) :
    ¬ game.Sounding := by
  rcases lobby with state | state
  · exact silent_of_state (by simp [state]) (by simp [state]) (by simp [state])
  · exact silent_of_state (by simp [state]) (by simp [state]) (by simp [state])

/-- The messages that set up a game are taken outside a round. -/
theorem Game.Accepts.silent
    {message : Message}
    (accepts : game.Accepts message)
    (setup :
      message.kind = .join ∨ message.kind = .accept ∨ message.kind = .config ∨
        message.kind = .start ∨ message.kind = .lobbyAck) :
    ¬ game.Sounding := by
  unfold Game.Accepts at accepts
  rcases setup with kind | kind | kind | kind | kind <;> rw [kind] at accepts
  · exact Game.silent_of_state (by simp [accepts.2.1]) (by simp [accepts.2.1])
      (by simp [accepts.2.1])
  · exact Game.silent_of_state (by simp [accepts.2.1]) (by simp [accepts.2.1])
      (by simp [accepts.2.1])
  · exact Game.silent_of_lobby accepts.1
  · exact Game.silent_of_state (by simp [accepts.2.1]) (by simp [accepts.2.1])
      (by simp [accepts.2.1])
  · exact Game.silent_of_state (by simp [accepts.2.1]) (by simp [accepts.2.1])
      (fun _ => accepts.1)

/-- A block with the round it was pulled in and the position of its first sample. -/
structure Taking where
  round : Nat
  start : Nat
  block : PcmBlock

def Taking.finish (taking : Taking) : Nat :=
  taking.start + taking.block.sampleCount

/-- A session with the blocks it has given stands as the account says. -/
structure Kept
    (takings : List Taking)
    (account : AudioAccount)
    (party : Party (Played State)) : Prop where
  accounted : party.game.Accounted account
  bounded :
    account.produced ≤ kAudioScratchSamples * (roundTally party.log).frames
  past : ∀ taking ∈ takings, taking.round ≤ (roundTally party.log).round
  below :
    party.game.state = .running ∨ 0 < account.produced →
      ∀ taking ∈ takings, taking.round = (roundTally party.log).round →
        taking.finish ≤ account.consumed

namespace Kept

variable {takings : List Taking} {account : AudioAccount}
variable {party after : Party (Played State)} {effects : List Effect}

variable (kept : Kept takings account party)

include kept

/-- What leaves the counters and the runtime alone keeps the account. -/
theorem same
    (produced : after.game.pcmProduced = party.game.pcmProduced)
    (consumed : after.game.pcmConsumed = party.game.pcmConsumed)
    (loaded :
      ∀ played, after.game.runtime = some played → party.game.runtime = some played)
    (log : after.log = party.log ++ effects)
    (quiet : effects.any Effect.starts = false)
    (sounding : party.game.Sounding → after.game.Sounding)
    (running : after.game.state = .running → party.game.state = .running) :
    Kept takings account after := by
  obtain ⟨round, frames⟩ := @roundTally_of_quiet party.log effects quiet
  rw [← log] at round frames
  refine ⟨?_, kept.bounded.trans (Nat.mul_le_mul_left _ frames), ?_, ?_⟩
  · exact
      { produced := produced.trans kept.accounted.produced
        consumed := consumed.trans kept.accounted.consumed
        loaded := fun played runtime => kept.accounted.loaded played (loaded played runtime)
        silent := fun silent =>
          kept.accounted.silent fun before => silent (sounding before) }
  · rw [round]
    exact kept.past
  · rw [round]
    rintro (now | produced)
    · exact kept.below (.inl (running now))
    · exact kept.below (.inr produced)

/-- Outside a round, another state but a running one changes nothing. -/
theorem moved
    (silent : ¬ party.game.Sounding)
    (produced : after.game.pcmProduced = party.game.pcmProduced)
    (consumed : after.game.pcmConsumed = party.game.pcmConsumed)
    (loaded : after.game.runtime = party.game.runtime)
    (log : after.log = party.log ++ effects)
    (quiet : effects.any Effect.starts = false)
    (stopped : after.game.state ≠ .running) :
    Kept takings account after :=
  kept.same produced consumed (fun _ => loaded ▸ id) log quiet (fun sounds => absurd sounds silent)
    (fun running => absurd running stopped)

/-- The end of a session leaves the counters. -/
theorem finish
    (reason : Reason)
    (quiet : effects.any Effect.starts = false) :
    Kept takings account (party.finish reason effects) :=
  kept.same rfl rfl (by rintro _ ⟨⟩) (List.append_assoc party.log effects _)
    (by rw [List.any_append, quiet]; rfl) (fun _ => .inr (.inl rfl)) (by rintro ⟨⟩)

omit kept in
/-- The end right behind a deed leaves the counters that the deed has left. -/
theorem finish_behind
    {game last : Game (Played State)}
    {effect : Effect}
    (kept : Kept takings account (party.become game [effect]))
    (produced : last.pcmProduced = game.pcmProduced)
    (consumed : last.pcmConsumed = game.pcmConsumed)
    (reason : Reason)
    (quiet : effects.any Effect.starts = false) :
    Kept takings account ((party.become last []).finish reason (effect :: effects)) := by
  have log :
      ((party.become last []).finish reason (effect :: effects)).log =
        (party.become game [effect]).log ++ (effects ++ [.moved last.state .ended]) := by
    simp [Party.become, Party.finish]
  exact kept.same produced consumed (by rintro _ ⟨⟩) log
    (by rw [List.any_append, quiet]; rfl) (fun _ => .inr (.inl rfl)) (by rintro ⟨⟩)

/-- Counters at zero and a runtime without samples open a new account. -/
theorem reopened
    (produced : after.game.pcmProduced = 0)
    (consumed : after.game.pcmConsumed = 0)
    (loaded :
      ∀ played, after.game.runtime = some played → played.Fits .opened)
    (log : after.log = party.log ++ effects)
    (quiet : effects.any Effect.starts = false)
    (stopped : after.game.state ≠ .running) :
    Kept takings .opened after where
  accounted :=
    { produced := produced
      consumed := consumed
      loaded := loaded
      silent := fun _ => rfl }
  bounded := Nat.zero_le _
  past := by
    rw [log, (roundTally_of_quiet quiet).1]
    exact kept.past
  below := by
    rintro (running | produced)
    · exact absurd running stopped
    · exact absurd produced (Nat.lt_irrefl 0)

/-- A session with nothing left over of a round has a new account. -/
theorem silent
    (silent : ¬ party.game.Sounding) :
    account = .opened := by
  obtain ⟨produced, consumed, ordered⟩ := account
  have nothing : produced = 0 := kept.accounted.silent silent
  subst nothing
  obtain rfl : consumed = 0 := Nat.le_zero.mp ordered
  rfl

/-- Where nothing is left over of a round, the counters are at zero. -/
theorem counters
    (silent : ¬ party.game.Sounding) :
    party.game.pcmProduced = 0 ∧ party.game.pcmConsumed = 0 := by
  rw [kept.accounted.produced, kept.accounted.consumed, kept.silent silent]
  exact ⟨rfl, rfl⟩

/-- A round begins with a new account, and no block has been pulled in it. -/
theorem begun
    (silent : ¬ party.game.Sounding)
    (produced : after.game.pcmProduced = 0)
    (consumed : after.game.pcmConsumed = 0)
    (loaded : after.game.runtime = party.game.runtime)
    (round : (roundTally after.log).round = (roundTally party.log).round + 1) :
    Kept takings .opened after where
  accounted :=
    { produced := produced
      consumed := consumed
      loaded := by
        rw [loaded, ← kept.silent silent]
        exact kept.accounted.loaded
      silent := fun _ => rfl }
  bounded := Nat.zero_le _
  past := fun taking member =>
    (kept.past taking member).trans (round ▸ Nat.le_succ _)
  below := by
    intro _ taking member same
    have past := kept.past taking member
    omega

/-- A frame adds its samples to the account. -/
theorem framed
    {core : NesCore State}
    {outside : Outside State}
    {frame : Frame}
    {inputs : Buffer}
    {played stepped : Played State}
    {result : FrameResult}
    (ready : party.game.FrameReady frame inputs played)
    (step :
      played.stepFrame core outside (party.game.frameInput frame) =
        some (stepped, result)) :
    ∃ account,
      Kept takings account
        (party.become (party.game.ranFrame frame inputs stepped result)
          [.stepped false (party.game.frameInput frame)]) := by
  obtain ⟨count, few, fits, counted⟩ :=
    (kept.accounted.loaded played ready.loaded).step step
  have tally :
      roundTally
          (party.become (party.game.ranFrame frame inputs stepped result)
            [.stepped false (party.game.frameInput frame)]).log =
        { roundTally party.log with frames := (roundTally party.log).frames + 1 } :=
    roundTally_append party.log _
  refine ⟨account.produce count, ?_, ?_, ?_, ?_⟩
  · exact
      { produced := by
          refine Eq.trans ?_ counted
          rw [← kept.accounted.produced]
          rfl
        consumed := kept.accounted.consumed
        loaded := fun _ same => Option.some.inj same ▸ fits
        silent := fun silent => absurd (Or.inl ready.running) silent }
  · rw [tally, Nat.mul_succ]
    exact Nat.add_le_add kept.bounded few
  · rw [tally]
    exact kept.past
  · rw [tally]
    exact fun _ => kept.below (.inl ready.running)

end Kept

/-! ## What an act does to the account -/

section Acts

variable {core : NesCore State} {outside : Outside State} {env : Env (Played State)}
variable {takings : List Taking} {account : AudioAccount}
variable {party after : Party (Played State)} {label : Label} {output : Option Message}

/-- What a selection loads opens a new account. -/
theorem fits_candidate
    {rom : Bytes}
    {romHash configHash : Hash}
    {played : Played State}
    (emulated : env.runtime = playback core outside)
    (loads :
      Session.loadCandidate env.silenced rom = some (some (played, romHash, configHash))) :
    played.Fits .opened := by
  change Session.loadCandidate env rom = _ at loads
  unfold Session.loadCandidate at loads
  rw [emulated] at loads
  split at loads
  · cases loads
  · next candidate _ =>
    dsimp only at loads
    split at loads
    · cases loads
    · next loaded load =>
      obtain ⟨timing, _, same⟩ := Option.map_eq_some_iff.mp (Option.some.inj loads)
      rw [← (Prod.mk.inj same).1]
      exact Played.fits_loaded load

/-- Every act but a pull keeps to the account, or starts a new one. -/
theorem Kept.act
    (kept : Kept takings account party)
    (emulated : env.runtime = playback core outside)
    (act : Act env.silenced label party output after) :
    ∃ account, Kept takings account after := by
  have steps :
      ∀ {played stepped : Played State} {input : FrameInput} {result : FrameResult},
        env.silenced.runtime.stepFrame played input = some (stepped, result) →
        played.stepFrame core outside input = some (stepped, result) := by
    intro played stepped input result step
    change env.runtime.stepFrame played input = _ at step
    rwa [emulated] at step
  cases act with
  | finish reason | garbled | frameFailed | startLost | refused | inputRefused =>
      exact ⟨account, kept.finish _ rfl⟩
  | drift next ours theirs owed ended =>
      exact ⟨account, kept.same rfl rfl (fun _ => id) (List.append_nil _).symm rfl id id⟩
  | frame ready step =>
      exact kept.framed ready (steps step)
  | @digest _ frame inputs runtime stepped result hash ready step =>
      obtain ⟨account, framed⟩ := kept.framed ready (steps step)
      exact ⟨account, framed.same rfl rfl (fun _ => id)
        (List.append_assoc party.log [_] [_, _]).symm rfl id id⟩
  | clash reason ready step =>
      obtain ⟨account, framed⟩ := kept.framed ready (steps step)
      refine ⟨account, framed.finish_behind ?_ ?_ reason ?_⟩
      · rfl
      · rfl
      · rfl
  | digestFailed ready step =>
      obtain ⟨account, framed⟩ := kept.framed ready (steps step)
      exact ⟨account, framed.finish_behind rfl rfl _ rfl⟩
  | selected rom gameKey idle lobby loads =>
      have silent := Game.silent_of_lobby lobby
      obtain ⟨produced, consumed⟩ := kept.counters silent
      have fresh := fits_candidate emulated loads
      exact ⟨_, kept.reopened produced consumed
        (fun _ same => Option.some.inj same ▸ fresh) rfl rfl (by rintro ⟨⟩)⟩
  | started owed lobby =>
      have silent := Game.silent_of_lobby lobby
      exact ⟨_, kept.begun silent rfl rfl rfl (by simp [RoundTally.note, Party.posting])⟩
  | startHeard message idle kind accepts =>
      have silent := accepts.silent (by simp [kind])
      exact ⟨_, kept.begun silent rfl rfl rfl
        (by simp [Party.become, RoundTally.note, Party.receipt])⟩
  | called | requestHeard | lobbyHeard =>
      exact ⟨_, kept.reopened rfl rfl (by rintro _ ⟨⟩) rfl rfl (by rintro ⟨⟩)⟩
  | pulled consumed idle loaded pull => cases pull
  | opened role target invite owed idle side =>
      have silent : ¬ party.game.Sounding :=
        Game.silent_of_state (by simp [idle]) (by simp [idle]) (by simp [idle])
      rcases side with ⟨_, rfl⟩ | ⟨_, rfl⟩
      · exact ⟨account, kept.moved silent rfl rfl rfl rfl rfl (by rintro ⟨⟩)⟩
      · exact ⟨account, kept.moved silent rfl rfl rfl rfl rfl (by rintro ⟨⟩)⟩
  | requested owed leaves guest =>
      refine ⟨account, kept.same rfl rfl (fun _ => id) rfl rfl (fun _ => ?_) (by rintro ⟨⟩)⟩
      refine .inr (.inr ⟨rfl, ?_⟩)
      change party.game.role ≠ .host
      rw [guest]
      rintro ⟨⟩
  | admitLost message now idle kind accepts =>
      have named :
          Kept takings account (party.become (party.game.identify env.silenced.sha256) []) :=
        kept.same rfl rfl (fun _ => id) rfl rfl id id
      exact ⟨account, named.finish _ rfl⟩
  | admitted message now idle kind accepts =>
      have silent := accepts.silent (by simp [kind])
      exact ⟨account, kept.moved silent rfl rfl rfl rfl rfl (by rintro ⟨⟩)⟩
  | accepted message idle kind accepts | configRefused message reason idle kind accepts
  | configHeard message idle kind accepts | ackHeard message idle kind accepts =>
      have silent := accepts.silent (by simp [kind])
      exact ⟨account, kept.moved silent rfl rfl rfl rfl rfl (by rintro ⟨⟩)⟩
  | decided | unstarted =>
      exact ⟨account, kept.same rfl rfl (fun _ => id) (List.append_nil _).symm rfl id id⟩
  | addressed | reasoned | pauseEchoed | pauseFollowed | confirmed | startIdle | submitted
  | announced | asked | joined | ignored | readyHeard | inputHeard | digestHeard =>
      exact ⟨account, kept.same rfl rfl (fun _ => id) rfl rfl id id⟩

theorem Kept.moves
    {first second : Station (Played State)}
    {allowed : Label → Prop}
    (kept : ∃ account, Kept takings account first.party)
    (emulated : env.runtime = playback core outside)
    (orderly : first.Orderly)
    (walk : Walk env.silenced allowed first second) :
    ∃ account, Kept takings account second.party := by
  have preserved :
      ∀ label before later,
        allowed label → before.Orderly →
        (∃ account, Kept takings account before.party) →
        Move env.silenced label before later →
        ∃ account, Kept takings account later.party := by
    rintro label before later _ orderly ⟨account, kept⟩ move
    rcases move.acts orderly with ⟨_, same⟩ | ⟨output, act⟩
    · exact ⟨account, same ▸ kept⟩
    · exact kept.act emulated act
  exact walk.invariant preserved orderly kept

end Acts

/-! ## What a pull takes -/

/-- What is available, by the counters, is what the account has left. -/
theorem due_of_available
    {game : Game (Played State)}
    {account : AudioAccount}
    (accounted : game.Accounted account)
    (available : wrap64 (game.pcmProduced + (2 ^ 64 - game.pcmConsumed)) ≠ 0) :
    account.consumed < account.produced := by
  refine Nat.lt_of_le_of_ne account.ordered ?_
  intro same
  apply available
  rw [accounted.produced, accounted.consumed, same]
  unfold wrap64
  omega

section Pulls

variable {core : NesCore State} {outside : Outside State} {env : Env (Played State)}
variable {session : Session (Played State)} {account : AudioAccount} {capacity : Nat}

/-- As long as something is available, a pull takes the oldest samples of the ring. -/
theorem pullPcm_available
    {played : Played State}
    (emulated : env.runtime = playback core outside)
    (accounted : session.Accounted account)
    (loaded : session.runtime = some played)
    (available : wrap64 (session.pcmProduced + (2 ^ 64 - session.pcmConsumed)) ≠ 0)
    (asked : capacity ≠ 0) :
    ∃ samples pulled block,
      ∃ within : played.oldest + block.sampleCount ≤ account.produced,
        played.pullPcm samples = some (pulled, block) ∧
          0 < block.sampleCount ∧
          block.firstSampleSequence = wrap64 played.oldest ∧
          pulled.Fits (account.consume (played.oldest + block.sampleCount) within) ∧
          session.pullPcm env capacity =
            (some block,
              { session with
                runtime := some pulled
                pcmConsumed :=
                  wrap64 (block.firstSampleSequence + block.sampleCount) }) := by
  have due := due_of_available accounted available
  have positive :
      min (wrap64 (session.pcmProduced + (2 ^ 64 - session.pcmConsumed))) capacity ≠ 0 := by
    omega
  obtain ⟨pulled, block, within, pull, filled, first, fits⟩ :=
    (accounted.loaded played loaded).pull due positive
  refine ⟨_, pulled, block, within, pull, filled, first, fits, ?_⟩
  have pulls : env.runtime.pullPcm played _ = some (pulled, block) :=
    (congrArg (fun runtime : Runtime _ => runtime.pullPcm played _) emulated).trans pull
  unfold Session.pullPcm
  rw [loaded]
  dsimp only
  rw [if_neg available, pulls]

/-- A pull gives nothing and changes nothing, or takes the oldest samples of the ring. -/
theorem pullPcm_cases
    (emulated : env.runtime = playback core outside)
    (accounted : session.Accounted account)
    (asked : capacity ≠ 0) :
    ((session.pullPcm env capacity).2 = session ∧
        ∀ block, (session.pullPcm env capacity).1 = some block → block.sampleCount = 0) ∨
      ∃ played pulled block,
        ∃ within : played.oldest + block.sampleCount ≤ account.produced,
          session.runtime = some played ∧
            account.consumed < account.produced ∧
            0 < block.sampleCount ∧
            block.firstSampleSequence = wrap64 played.oldest ∧
            pulled.Fits (account.consume (played.oldest + block.sampleCount) within) ∧
            session.pullPcm env capacity =
              (some block,
                { session with
                  runtime := some pulled
                  pcmConsumed :=
                    wrap64 (block.firstSampleSequence + block.sampleCount) }) := by
  cases loaded : session.runtime with
  | none =>
      unfold Session.pullPcm
      rw [loaded]
      exact .inl ⟨rfl, by simp⟩
  | some played =>
      by_cases empty : wrap64 (session.pcmProduced + (2 ^ 64 - session.pcmConsumed)) = 0
      · unfold Session.pullPcm
        rw [loaded]
        dsimp only
        rw [if_pos empty]
        refine .inl ⟨rfl, ?_⟩
        rintro block same
        rw [← Option.some.inj same]
      · obtain ⟨_, pulled, block, within, _, filled, first, fits, pull⟩ :=
          pullPcm_available emulated accounted loaded empty asked
        exact .inr ⟨played, pulled, block, within, rfl, due_of_available accounted empty, filled,
          first, fits, pull⟩

end Pulls

/-- The block that a call takes out of the ring, with where it lies. -/
def taken
    (env : Env (Played State))
    (endpoint : Endpoint (Played State)) : Call → Option Taking
  | .pullPcm capacity =>
      match (endpoint.flyLanMvpPullPcm env capacity).1, (endpoint.pump env).runtime with
      | some block, some played =>
          if block.sampleCount = 0 then
            none
          else
            some
              { round := (roundTally (endpoint.pump env).log).round
                start := played.oldest
                block := block }
      | _, _ => none
  | _ => none

def takingsFrom
    (env : Env (Played State))
    (endpoint : Endpoint (Played State)) : List Call → List Taking
  | [] => []
  | call :: rest =>
      (taken env endpoint call).toList ++ takingsFrom env (endpoint.call env call) rest

/-- The blocks that a run has pulled. -/
def takings (env : Env (Played State)) (calls : List Call) : List Taking :=
  takingsFrom env {} calls

theorem takings_concat
    (env : Env (Played State))
    (calls : List Call)
    (call : Call) :
    takings env (calls ++ [call]) =
      takings env calls ++ (taken env (Endpoint.run env calls) call).toList := by
  unfold takings Endpoint.run
  generalize ({} : Endpoint (Played State)) = endpoint
  induction calls generalizing endpoint with
  | nil => simp [takingsFrom]
  | cons first rest inductionHypothesis =>
      rw [List.cons_append, takingsFrom, inductionHypothesis, takingsFrom, List.foldl_cons,
        List.append_assoc]

/-- The blocks of a run, and the account of the round that it has come to. -/
structure Audible
    (takings : List Taking)
    (endpoint : Endpoint (Played State)) : Prop where
  orderly : endpoint.station.Orderly
  kept : ∃ account, Kept takings account endpoint.station.party
  numbered :
    ∀ taking ∈ takings,
      0 < taking.block.sampleCount ∧
        taking.block.firstSampleSequence = wrap64 taking.start
  ordered :
    takings.Pairwise fun earlier later =>
      earlier.round = later.round → earlier.finish ≤ later.start

section Runs

variable {core : NesCore State} {outside : Outside State} {env : Env (Played State)}
variable {takings : List Taking} {endpoint : Endpoint (Played State)}

theorem Audible.quiet
    {call : Call}
    (audible : Audible takings endpoint)
    (emulated : env.runtime = playback core outside)
    (other : ∀ capacity, call ≠ .pullPcm capacity) :
    Audible takings (endpoint.call env call) := by
  rw [← endpoint.call_silenced other]
  by_cases theirs : ∃ event, call = .completion event
  · obtain ⟨event, rfl⟩ := theirs
    exact
      { audible with
        orderly := audible.orderly.of_same rfl rfl rfl rfl rfl rfl rfl }
  · have walk := endpoint.call_walk env.silenced audible.orderly call (by simpa using theirs)
    exact
      { audible with
        orderly := walk.orderly audible.orderly
        kept := Kept.moves audible.kept emulated audible.orderly walk }

theorem Audible.pumped
    (audible : Audible takings endpoint)
    (emulated : env.runtime = playback core outside) :
    Audible takings { session := endpoint.pump env } := by
  have walk := Walk.of_moves (fun _ quiet => quiet) (endpoint.pumped_moves env.silenced)
  rw [Endpoint.pump_silenced] at walk
  exact
    { audible with
      orderly := walk.orderly audible.orderly
      kept := Kept.moves audible.kept emulated audible.orderly walk }

variable {played : Played State} {block : PcmBlock}

/-- What a pull takes is counted as consumed. -/
theorem Kept.pull
    {account : AudioAccount}
    {session : Session (Played State)}
    {pulled : Played State}
    {within : played.oldest + block.sampleCount ≤ account.produced}
    (kept : Kept takings account (session.party none))
    (loaded : session.runtime = some played)
    (due : account.consumed < account.produced)
    (first : block.firstSampleSequence = wrap64 played.oldest)
    (fits : pulled.Fits (account.consume (played.oldest + block.sampleCount) within)) :
    Kept (takings ++ [⟨(roundTally session.log).round, played.oldest, block⟩])
      (account.consume (played.oldest + block.sampleCount) within)
      (Session.party none
        { session with
          runtime := some pulled
          pcmConsumed := wrap64 (block.firstSampleSequence + block.sampleCount) }) := by
  have before : account.consumed ≤ played.oldest :=
    (kept.accounted.loaded played loaded).consumed_le
  have earlier := kept.below (.inr (Nat.zero_lt_of_lt due))
  refine ⟨?_, kept.bounded, ?_, ?_⟩
  · exact
      { produced := kept.accounted.produced
        consumed := by
          change wrap64 (block.firstSampleSequence + block.sampleCount) = _
          rw [first]
          exact Nat.mod_add_mod _ _ _
        loaded := fun _ same => Option.some.inj same ▸ fits
        silent := kept.accounted.silent }
  · intro taking member
    rcases List.mem_append.mp member with old | new
    · exact kept.past taking old
    · rw [List.mem_singleton.mp new]
      exact Nat.le_refl _
  · intro _ taking member same
    change taking.finish ≤ played.oldest + block.sampleCount
    rcases List.mem_append.mp member with old | new
    · have finished := earlier taking old same
      omega
    · rw [List.mem_singleton.mp new]
      exact Nat.le_refl _

variable {capacity : Nat}

theorem call_pullPcm
    (asked : capacity ≠ 0) :
    endpoint.flyLanMvpPullPcm env capacity =
      (((endpoint.pump env).pullPcm env capacity).1,
        { session := ((endpoint.pump env).pullPcm env capacity).2 }) := by
  rw [Endpoint.flyLanMvpPullPcm, if_neg asked]

theorem taken_empty
    (asked : capacity ≠ 0)
    (empty :
      ∀ block, ((endpoint.pump env).pullPcm env capacity).1 = some block →
        block.sampleCount = 0) :
    taken env endpoint (.pullPcm capacity) = none := by
  simp only [taken, call_pullPcm asked]
  split
  · next block _ given _ => rw [if_pos (empty block given)]
  · rfl

theorem taken_filled
    (asked : capacity ≠ 0)
    (loaded : (endpoint.pump env).runtime = some played)
    (given : ((endpoint.pump env).pullPcm env capacity).1 = some block)
    (positive : 0 < block.sampleCount) :
    taken env endpoint (.pullPcm capacity) =
      some
        { round := (roundTally (endpoint.pump env).log).round
          start := played.oldest
          block := block } := by
  simp only [taken, call_pullPcm asked, loaded, given, if_neg positive.ne']

theorem Audible.pull
    (audible : Audible takings endpoint)
    (emulated : env.runtime = playback core outside)
    (capacity : Nat) :
    Audible (takings ++ (taken env endpoint (.pullPcm capacity)).toList)
      (endpoint.call env (.pullPcm capacity)) := by
  by_cases asked : capacity = 0
  · simpa [taken, Endpoint.call, Endpoint.flyLanMvpPullPcm, asked] using audible
  · have pumped := audible.pumped emulated
    have orderly :=
      (endpoint.call_walk env audible.orderly (.pullPcm capacity) (by simp)).orderly
        audible.orderly
    obtain ⟨account, kept⟩ := pumped.kept
    simp only [Endpoint.call, call_pullPcm asked] at orderly ⊢
    rcases pullPcm_cases emulated kept.accounted asked with
      ⟨same, empty⟩ | ⟨played, pulled, block, within, loaded, due, positive, first, fits, pull⟩
    · rw [taken_empty asked empty, same]
      simpa using pumped
    · have given := congrArg Prod.fst pull
      have later := congrArg Prod.snd pull
      have before := (kept.accounted.loaded played loaded).consumed_le
      have earlier := kept.below (.inr (Nat.zero_lt_of_lt due))
      rw [taken_filled asked loaded given positive]
      rw [later] at orderly ⊢
      refine ⟨orderly, ⟨_, kept.pull loaded due first fits⟩, ?_, ?_⟩
      · intro taking member
        rcases List.mem_append.mp member with old | new
        · exact audible.numbered taking old
        · rw [List.mem_singleton.mp new]
          exact ⟨positive, first⟩
      · refine List.pairwise_append.mpr ⟨audible.ordered, List.pairwise_singleton _ _, ?_⟩
        intro taking old _ new same
        rw [List.mem_singleton.mp new] at same ⊢
        exact (earlier taking old same).trans before

/-- The blocks of every run are accounted for. -/
theorem audible_run
    (emulated : env.runtime = playback core outside)
    (calls : List Call) :
    Audible (FlyNes.LanMvp.takings env calls) (Endpoint.run env calls) := by
  induction calls using List.reverseRecOn with
  | nil =>
      exact
        { orderly := Endpoint.initial_orderly
          kept :=
            ⟨.opened,
              { accounted := ⟨rfl, rfl, by rintro _ ⟨⟩, fun _ => rfl⟩
                bounded := Nat.le_refl 0
                past := by rintro _ ⟨⟩
                below := by rintro _ _ ⟨⟩ }⟩
          numbered := by rintro _ ⟨⟩
          ordered := List.Pairwise.nil }
  | append_singleton calls call inductionHypothesis =>
      have last :
          Endpoint.run env (calls ++ [call]) = (Endpoint.run env calls).call env call := by
        simp [Endpoint.run]
      rw [takings_concat, last]
      by_cases pulls : ∃ capacity, call = .pullPcm capacity
      · obtain ⟨capacity, rfl⟩ := pulls
        exact inductionHypothesis.pull emulated capacity
      · have other : ∀ capacity, call ≠ .pullPcm capacity := by simpa using pulls
        have nothing : taken env (Endpoint.run env calls) call = none := by
          cases call with
          | pullPcm capacity => exact absurd rfl (other capacity)
          | _ => rfl
        rw [nothing]
        simpa using inductionHypothesis.quiet emulated other

end Runs

/-- An environment with the runtime of the repository. -/
def playbackEnv
    (core : NesCore State)
    (outside : Outside State)
    (sha256 : Bytes → Hash)
    (clock : Nat → Nat)
    (answer : Nat → Int) : Env (Played State) where
  runtime := playback core outside
  sha256 := sha256
  clock := clock
  answer := answer

/-- What a position below 2^64 is counted as. -/
theorem wrap64_of_lt
    {value : Nat}
    (small : value < 2 ^ 64) :
    wrap64 value = value :=
  Nat.mod_eq_of_lt small

end FlyNes.LanMvp
