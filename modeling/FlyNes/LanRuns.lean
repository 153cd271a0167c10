import FlyNes.LanStation

namespace FlyNes.LanMvp

open ByteString
open Wire (Kind Message)

/-!
# Runs of one session

A run is a list of public calls and provider completions.  Every call is a walk
of the session's station, so whatever every move preserves holds after every
run.
-/

/-- A walk of a station whose moves carry admissible labels. -/
def Walk
    {R : Type}
    (env : Env R)
    (allowed : Label → Prop) : Station R → Station R → Prop :=
  Relation.ReflTransGen fun before after =>
    ∃ label, allowed label ∧ Move env label before after

/-- The selection a ROM stands for. -/
def Selects {R : Type} (env : Env R) (rom : Bytes) (label : Label) : Prop :=
  ∃ runtime romHash configHash,
    Session.loadCandidate env rom = some (some (runtime, romHash, configHash)) ∧
    label = .selected romHash configHash

/-- The decision a call can take. -/
def Call.Decision {R : Type} (env : Env R) : Call → Label → Prop
  | .host _ _, label => label = .opened .host
  | .join _ _, label => label = .opened .guest
  | .selectGame rom _, label => Selects env rom label
  | .confirm, label => label = .confirmed
  | _, _ => False

/-- The moves a call can consist of. -/
def Call.Allows {R : Type} (env : Env R) (call : Call) (label : Label) : Prop :=
  label.Quiet ∨ call.Decision env label

namespace Walk

variable
  {R : Type}
  {env : Env R}
  {allowed : Label → Prop}
  {before after : Station R}

theorem of_moves
    (quiet : ∀ label : Label, label.Quiet → allowed label)
    (moves : Moves env before after) :
    Walk env allowed before after := by
  induction moves with
  | refl =>
      exact Relation.ReflTransGen.refl
  | tail _ step inductionHypothesis =>
      obtain ⟨label, labelQuiet, move⟩ := step
      exact Relation.ReflTransGen.tail inductionHypothesis
        ⟨label, quiet label labelQuiet, move⟩

theorem of_decides
    {decision : Label → Prop}
    (quiet : ∀ label : Label, label.Quiet → allowed label)
    (decided : ∀ label, decision label → allowed label)
    (decides : Session.Decides env decision before after) :
    Walk env allowed before after := by
  rcases decides with moves | ⟨label, middle, decision, move, moves⟩
  · exact of_moves quiet moves
  · exact Relation.ReflTransGen.head ⟨label, decided label decision, move⟩
      (of_moves quiet moves)

/-- Pending operations stay in order along a walk. -/
theorem orderly
    (walk : Walk env allowed before after)
    (start : before.Orderly) :
    after.Orderly := by
  induction walk with
  | refl =>
      exact start
  | tail _ step inductionHypothesis =>
      obtain ⟨label, _, move⟩ := step
      exact move.orderly inductionHypothesis

/-- What every admissible move of an orderly station preserves, a walk does. -/
theorem invariant
    {property : Station R → Prop}
    (walk : Walk env allowed before after)
    (preserved :
      ∀ label first second,
        allowed label →
        first.Orderly →
        property first →
        Move env label first second →
        property second)
    (start : before.Orderly)
    (holds : property before) :
    property after := by
  induction walk with
  | refl =>
      exact holds
  | tail earlier step inductionHypothesis =>
      obtain ⟨label, admissible, move⟩ := step
      exact preserved label _ _ admissible (orderly earlier start)
        inductionHypothesis move

end Walk

namespace Endpoint

variable {R : Type} {env : Env R} {endpoint : Endpoint R}

/-- The station of an endpoint between two calls. -/
def station (endpoint : Endpoint R) : Station R :=
  endpoint.session.station none endpoint.events

theorem pumped_moves
    (env : Env R)
    (endpoint : Endpoint R) :
    Moves env endpoint.station ((endpoint.pump env).station none []) :=
  Session.pump_moves endpoint.events endpoint.session

/-- A selection is made by the pumped session. -/
theorem selectGame_walk
    (env : Env R)
    (endpoint : Endpoint R)
    (rom gameKey : Bytes) :
    (endpoint.call env (.selectGame rom gameKey)).station =
        endpoint.station ∨
      Session.Decides env ((Call.selectGame rom gameKey).Decision env)
        ((endpoint.pump env).station none [])
        (endpoint.call env (.selectGame rom gameKey)).station := by
  simp only [Endpoint.call, flyLanMvpSelectGame]
  by_cases bad : rom = [] ∨ gameKey.length ≥ peerGameKeySize
  · rw [if_pos bad]
    exact Or.inl rfl
  · rw [if_neg bad]
    have short : gameKey.length < peerGameKeySize := by
      simp only [not_or, Nat.not_le] at bad
      exact bad.2
    exact Or.inr (Session.selectGame_decides short _)

/-- A confirmation is made by the pumped session. -/
theorem confirm_walk
    (env : Env R)
    (endpoint : Endpoint R) :
    Session.Decides env (Call.confirm.Decision env)
      ((endpoint.pump env).station none [])
      (endpoint.call env .confirm).station :=
  Session.confirm_decides _

/-- Every call is a walk of the session's station. -/
theorem call_walk
    (env : Env R)
    (orderly : endpoint.station.Orderly)
    (call : Call)
    (ours : ∀ event, call ≠ .completion event) :
    Walk env (call.Allows env) endpoint.station
      (endpoint.call env call).station := by
  have quiet : ∀ label : Label, label.Quiet → call.Allows env label :=
    fun label labelQuiet => Or.inl labelQuiet
  have decided : ∀ label, call.Decision env label → call.Allows env label :=
    fun label decision => Or.inr decision
  have pumped : Walk env (call.Allows env) endpoint.station
      ((endpoint.pump env).station none []) :=
    Walk.of_moves quiet (pumped_moves env endpoint)
  have pumpedOrderly := pumped.orderly orderly
  cases call with
  | host hostIpv4 token =>
      exact Walk.of_decides quiet decided
        (Session.host_decides hostIpv4 token endpoint.session)
  | join localIpv4 qrText =>
      exact Walk.of_decides quiet decided
        (Session.join_decides localIpv4 qrText endpoint.session)
  | copyInvite =>
      have same :
          (endpoint.call env .copyInvite).station =
            (endpoint.pump env).station none [] := by
        simp only [Endpoint.call, flyLanMvpCopyInvite]
        split <;> rfl
      rw [same]
      exact pumped
  | snapshotRead =>
      exact pumped
  | selectGame rom gameKey =>
      rcases selectGame_walk env endpoint rom gameKey with same | decides
      · rw [same]
        exact Relation.ReflTransGen.refl
      · exact pumped.trans (Walk.of_decides quiet decided decides)
  | confirm =>
      exact pumped.trans
        (Walk.of_decides quiet decided (confirm_walk env endpoint))
  | submitInput buttons =>
      exact pumped.trans
        (Walk.of_moves quiet (Session.submitInput_moves buttons _))
  | setPaused paused =>
      exact pumped.trans
        (Walk.of_moves quiet (Session.setPaused_moves paused _))
  | returnLobby =>
      exact pumped.trans
        (Walk.of_moves quiet (Session.returnLobby_moves _))
  | copyLatestFrame capacity =>
      exact pumped
  | pullPcm sampleCapacity =>
      simp only [Endpoint.call, flyLanMvpPullPcm]
      split
      · exact Relation.ReflTransGen.refl
      · exact pumped.trans
          (Walk.of_moves quiet
            (Session.pullPcm_moves sampleCapacity _
              (fun ended => (pumpedOrderly.stopped ended).1)))
  | cancel =>
      exact Walk.of_moves quiet (Session.cancel_moves endpoint.session)
  | completion event =>
      exact absurd rfl (ours event)

theorem initial_orderly :
    (({} : Endpoint R).station).Orderly where
  stopped := by
    intro _
    exact ⟨rfl, rfl⟩
  chronicled := rfl
  closed := fun _ => rfl
  unopened := by
    intro _
    refine ⟨rfl, rfl, ?_, rfl, rfl, rfl⟩
    intro effect member
    cases member
  preparing := by
    intro operation kind member
    cases member
  reading := Exclusive.nil
  writing := Exclusive.nil
  handed := by
    intro _ raised
    cases raised

/-- What the moves and the arrival of a completion preserve, a call does. -/
theorem call_invariant
    (env : Env R)
    (property : Station R → Prop)
    (preserved :
      ∀ label first second,
        first.Orderly →
        property first →
        Move env label first second →
        property second)
    (arrival :
      ∀ first : Station R, ∀ event,
        property first →
        property { first with waiting := first.waiting ++ [event] })
    (orderly : endpoint.station.Orderly)
    (holds : property endpoint.station)
    (call : Call) :
    (endpoint.call env call).station.Orderly ∧
      property (endpoint.call env call).station := by
  by_cases theirs : ∃ event, call = .completion event
  · obtain ⟨event, rfl⟩ := theirs
    exact ⟨orderly.of_same rfl rfl rfl rfl rfl rfl rfl,
      arrival endpoint.station event holds⟩
  · have ours : ∀ event, call ≠ .completion event := by
      simpa using theirs
    have walk := call_walk env orderly call ours
    exact ⟨walk.orderly orderly,
      walk.invariant (fun label first second _ => preserved label first second)
        orderly holds⟩

/-- What the moves and the arrival of a completion preserve, every run does. -/
theorem run_invariant
    (env : Env R)
    (property : Station R → Prop)
    (preserved :
      ∀ label first second,
        first.Orderly →
        property first →
        Move env label first second →
        property second)
    (arrival :
      ∀ first : Station R, ∀ event,
        property first →
        property { first with waiting := first.waiting ++ [event] })
    (start : property (({} : Endpoint R).station))
    (calls : List Call) :
    (run env calls).station.Orderly ∧ property (run env calls).station := by
  induction calls using List.reverseRecOn with
  | nil =>
      exact ⟨initial_orderly, start⟩
  | append_singleton calls call inductionHypothesis =>
      obtain ⟨orderly, holds⟩ := inductionHypothesis
      have last :
          run env (calls ++ [call]) = (run env calls).call env call := by
        simp [run]
      rw [last]
      exact call_invariant env property preserved arrival orderly holds call

end Endpoint

end FlyNes.LanMvp
