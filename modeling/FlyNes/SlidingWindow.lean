import Mathlib.Data.List.Basic

namespace SlidingWindow

/-!
# Limits over every window of time

A limiter stores the times of what it admitted and forgets those that lie a whole
lifetime back.  If it admits only while fewer than the limit are stored, and its
clock never goes back, then no half-open window of that length holds more
admissions than the limit.
-/

/-- The times within a window. -/
def windowed (lifetime first : Nat) (times : List Nat) : List Nat :=
  times.filter fun time => decide (first ≤ time) && decide (time < first + lifetime)

/-- No window holds more than the limit. -/
def Limited (lifetime limit : Nat) (times : List Nat) : Prop :=
  ∀ first, (windowed lifetime first times).length ≤ limit

/-- The times that do not lie a whole lifetime back. -/
def recent (lifetime now : Nat) (times : List Nat) : List Nat :=
  times.filter fun time => decide (now < time + lifetime)

variable {lifetime limit now pruned : Nat}
variable {times : List Nat}

theorem recent_recent
    (later : pruned ≤ now) :
    recent lifetime now (recent lifetime pruned times) = recent lifetime now times := by
  unfold recent
  rw [List.filter_filter]
  refine List.filter_congr fun time _ => ?_
  rw [Bool.and_eq_left_iff_imp]
  simp only [decide_eq_true_eq]
  omega

theorem recent_append
    (alive : 0 < lifetime) :
    recent lifetime now (times ++ [now]) = recent lifetime now times ++ [now] := by
  have stays : now < now + lifetime := Nat.lt_add_of_pos_right alive
  simp [recent, List.filter_append, stays]

theorem limited_nil : Limited lifetime limit [] := by
  intro first
  exact Nat.zero_le _

/-- A window that reaches the present lies in the recent times. -/
theorem windowed_le_recent
    {first : Nat}
    (times : List Nat)
    (reaches : now < first + lifetime) :
    (windowed lifetime first times).length ≤ (recent lifetime now times).length := by
  refine (List.monotone_filter_right times ?_).length_le
  intro time inside
  simp only [Bool.and_eq_true, decide_eq_true_eq] at inside ⊢
  omega

/-- One more admission while fewer than the limit are recent. -/
theorem Limited.concat
    (limited : Limited lifetime limit times)
    (room : (recent lifetime now times).length < limit) :
    Limited lifetime limit (times ++ [now]) := by
  intro first
  have split :
      windowed lifetime first (times ++ [now]) =
        windowed lifetime first times ++ windowed lifetime first [now] :=
    List.filter_append ..
  rw [split, List.length_append]
  by_cases inside : first ≤ now ∧ now < first + lifetime
  · have old := windowed_le_recent times inside.2
    have new : (windowed lifetime first [now]).length ≤ 1 :=
      List.length_filter_le ..
    omega
  · have outside : windowed lifetime first [now] = [] := by
      simp only [not_and, Nat.not_lt] at inside
      simpa [windowed] using inside
    rw [outside, List.length_nil, Nat.add_zero]
    exact limited first

end SlidingWindow
