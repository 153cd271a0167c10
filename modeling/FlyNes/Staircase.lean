import Mathlib.Data.List.Basic
import Mathlib.Order.Nat

namespace Staircase

/-!
# Effects that are offered once on each level

A system moves through states, shows an effect while it is in them and stands on
a level that never falls.  If an effect that was not shown before can only appear
together with a rise of the level, then all that is shown on one level, at any
two moments of a run, is one effect.
-/

variable {State Effect Move : Type}

/-- What is watched of the states of a system. -/
structure View (State Effect : Type) where
  inv : State → Prop
  shows : State → Effect → Prop
  level : State → Nat
  single : ∀ {state first second}, shows state first → shows state second →
    first = second

namespace View

/--
A turn keeps the invariant, does not lower the level and shows an effect anew
only if it raises the level.
-/
def Turn (view : View State Effect) (before after : State) : Prop :=
  view.inv before →
    view.inv after ∧ view.level before ≤ view.level after ∧
      ∀ effect, view.shows after effect →
        view.shows before effect ∨ view.level before < view.level after

end View

namespace View.Turn

variable {view : View State Effect} {before middle after : State}

theorem refl
    (state : State) :
    view.Turn state state := by
  intro holds
  exact ⟨holds, le_rfl, fun effect shown => Or.inl shown⟩

theorem trans
    (first : view.Turn before middle)
    (second : view.Turn middle after) :
    view.Turn before after := by
  intro holds
  obtain ⟨middleHolds, firstRises, firstFresh⟩ := first holds
  obtain ⟨afterHolds, secondRises, secondFresh⟩ := second middleHolds
  refine ⟨afterHolds, firstRises.trans secondRises, ?_⟩
  intro effect shown
  rcases secondFresh effect shown with shownMiddle | risen
  · rcases firstFresh effect shownMiddle with shownBefore | risen
    · exact Or.inl shownBefore
    · exact Or.inr (risen.trans_le secondRises)
  · exact Or.inr (firstRises.trans_lt risen)

end View.Turn

/-- The state after the moves of a run. -/
def run (step : State → Move → State) (start : State) (moves : List Move) : State :=
  moves.foldl step start

theorem run_append
    (step : State → Move → State)
    (start : State)
    (first second : List Move) :
    run step start (first ++ second) =
      run step (run step start first) second :=
  List.foldl_append

/-- An effect is shown at some moment of a run. -/
def Offered
    (step : State → Move → State)
    (shows : State → Effect → Prop)
    (start : State)
    (moves : List Move)
    (effect : Effect) : Prop :=
  ∃ played rest, moves = played ++ rest ∧ shows (run step start played) effect

namespace View

variable
  {view : View State Effect}
  {step : State → Move → State}
  (turns : ∀ state move, view.Turn state (step state move))

include turns

/-- A whole run is a turn. -/
theorem turn_run
    (start : State)
    (moves : List Move) :
    view.Turn start (run step start moves) := by
  induction moves generalizing start with
  | nil =>
      exact Turn.refl start
  | cons move rest inductionHypothesis =>
      exact (turns start move).trans (inductionHypothesis (step start move))

/-- Two effects that are shown on one level of a run are the same. -/
theorem shown_eq
    {start : State}
    (holds : view.inv start)
    {sooner later soonerRest laterRest : List Move}
    (oneRun : sooner ++ soonerRest = later ++ laterRest)
    {first second : Effect}
    (firstShown : view.shows (run step start sooner) first)
    (secondShown : view.shows (run step start later) second)
    (same : view.level (run step start sooner) = view.level (run step start later)) :
    first = second := by
  -- One of the two moments is not after the other; from it on, the run stays on
  -- the level, so the effect of the later moment was already shown there.
  rcases List.append_eq_append_iff.mp oneRun with
    ⟨rest, rfl, -⟩ | ⟨rest, rfl, -⟩
  · have kept := (turn_run turns start sooner holds).1
    have onward := turn_run turns (run step start sooner) rest kept
    rw [run_append] at secondShown same
    rcases onward.2.2 second secondShown with early | risen
    · exact view.single firstShown early
    · exact absurd same risen.ne
  · have kept := (turn_run turns start later holds).1
    have onward := turn_run turns (run step start later) rest kept
    rw [run_append] at firstShown same
    rcases onward.2.2 first firstShown with early | risen
    · exact view.single early secondShown
    · exact absurd same.symm risen.ne

end View

end Staircase
