import FlyNes.DualSchedulerFreeze

namespace FlyNes.Dual

/-!
# A refused begin

A `begin` that is refused keeps the window, the frontiers, the digests and the
outcome of the run so far.  A mode that is not implemented unloads the scheduler
and is remembered; any other refusal keeps the mode and the state as well.  The
worker is not asked to load before the mode and the key have been accepted.
-/

namespace DualRunScheduler

variable {Core : Type}

/-- What a refused `begin` leaves behind. -/
structure KeepsRun
    (port : DualRuntimePort Core)
    (mode : DualMode)
    (content : DualContentRef)
    (context : DualInputKey)
    (before after : DualRunScheduler Core) : Prop where
  kept : after =
    { before with
      core := after.core
      mode := after.mode
      state := after.state }
  supported : evaluateDualMode mode = .ok →
    after.mode = before.mode ∧ after.state = before.state
  unsupported : evaluateDualMode mode ≠ .ok →
    after.mode = mode ∧ after.state = .unloaded
  untouched :
    evaluateDualMode mode ≠ .ok ∨ dualInputKeyIsValid context = false →
      after.core = before.core
  notLoaded :
    evaluateDualMode mode = .ok →
      dualInputKeyIsValid context = true →
        (port.load content before.core).1 ≠ .ok →
          after.core = (port.load content before.core).2

/-- The worker is asked to load when the mode and the key are accepted. -/
theorem begin_core
    (port : DualRuntimePort Core)
    (mode : DualMode)
    (content : DualContentRef)
    (context : DualInputKey)
    (owners : Port → DualOwnerKey)
    (scheduler : DualRunScheduler Core) :
    (scheduler.begin_ port mode content context owners).2.core =
      if evaluateDualMode mode = .ok ∧ dualInputKeyIsValid context = true then
        (port.load content scheduler.core).2
      else
        scheduler.core := by
  unfold begin_
  split
  next unsupported => rw [if_neg fun both => unsupported both.1]
  next supported =>
    split
    next invalid =>
      rw [if_neg]
      rintro ⟨_, valid⟩
      simp [valid] at invalid
    next valid =>
      rw [if_pos ⟨not_not.mp supported, by simpa using valid⟩]
      dsimp only
      split
      · rfl
      · split <;> rfl

/--
A refused `begin` keeps the run.  The refusal of a mode that is not implemented
unloads the scheduler.
-/
theorem refused_begin_keeps_run
    (port : DualRuntimePort Core)
    (mode : DualMode)
    (content : DualContentRef)
    (context : DualInputKey)
    (owners : Port → DualOwnerKey)
    (scheduler : DualRunScheduler Core)
    (refused :
      (scheduler.begin_ port mode content context owners).1 ≠ .ok) :
    KeepsRun port mode content context scheduler
      (scheduler.begin_ port mode content context owners).2 := by
  have core := begin_core port mode content context owners scheduler
  refine
    { kept := ?_
      supported := ?_
      unsupported := ?_
      untouched := ?_
      notLoaded := ?_ }
  · obtain ⟨_, _, _, begun⟩ | ⟨_, _, unloaded⟩ | ⟨_, _, reloaded⟩ :=
      begin_cases port scheduler mode content context owners
    · rw [begun] at refused
      exact absurd rfl refused
    · rw [unloaded]
    · rw [reloaded]
  · intro supported
    obtain ⟨_, _, _, begun⟩ | ⟨_, unsupported, _⟩ | ⟨_, _, reloaded⟩ :=
      begin_cases port scheduler mode content context owners
    · rw [begun] at refused
      exact absurd rfl refused
    · exact absurd supported unsupported
    · rw [reloaded]
      exact ⟨rfl, rfl⟩
  · intro unsupported
    unfold begin_
    rw [if_pos unsupported]
    exact ⟨rfl, rfl⟩
  · rintro (unsupported | invalid)
    · rw [core, if_neg fun both => unsupported both.1]
    · rw [core, if_neg]
      rintro ⟨_, valid⟩
      rw [invalid] at valid
      cases valid
  · intro supported valid _
    rw [core, if_pos ⟨supported, valid⟩]

/-- A scheduler that two players have begun and that runs. -/
def startedScheduler : DualRunScheduler Unit :=
  (begin_ idlePort .dual {} plainContext twoPlayers
    { core := () }).2.announceRunning.2

/-- A key without an epoch is refused in the middle of a run. -/
theorem refused_begin_keeps_run_of_invalid_key :
    KeepsRun idlePort .dual {} {} startedScheduler
      (startedScheduler.begin_ idlePort .dual {} {} twoPlayers).2 :=
  refused_begin_keeps_run idlePort .dual {} {} twoPlayers startedScheduler
    (by decide)

/-- A mode that is not implemented unloads a run. -/
theorem refused_mode_unloads :
    ¬ ∀ (mode : DualMode) (scheduler : DualRunScheduler Unit),
      (scheduler.begin_ idlePort mode {} plainContext twoPlayers).1 ≠ .ok →
        (scheduler.begin_ idlePort mode {} plainContext twoPlayers).2 =
          scheduler := by
  intro keeps
  have same := keeps .hostStream startedScheduler (by decide)
  have state := congrArg DualRunScheduler.state same
  exact absurd state (by decide)

end DualRunScheduler

end FlyNes.Dual
