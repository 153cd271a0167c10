import Mathlib.Data.List.Sort

namespace SortKeys

/-!
# Sorting by one key after another

An order looks at a first key, and at the rest only where that key is the same.  Such an
order leaves some values unordered; sorting puts them in any order among themselves.
-/

variable {Value Key : Type}

/-- Look at a key first. -/
def firstBy
    [LT Key] [DecidableLT Key] [DecidableEq Key]
    (key : Value → Key)
    (rest : Value → Value → Bool)
    (left right : Value) : Bool :=
  if key left ≠ key right then decide (key left < key right) else rest left right

/-- An order that a sort may use. -/
structure StrictWeak (before : Value → Value → Bool) : Prop where
  asymm : ∀ left right, before left right = true → before right left = false
  trans : ∀ first second third,
    before second first = false → before third second = false → before third first = false

section Keys

variable [LE Key] [LT Key] [DecidableLT Key]
variable [Std.IsLinearOrder Key] [Std.LawfulOrderLT Key]

/-- The last key. -/
theorem strictWeak_key (key : Value → Key) :
    StrictWeak fun left right => decide (key left < key right) := by
  constructor
  · intro left right less
    simp only [decide_eq_true_eq, decide_eq_false_iff_not] at less ⊢
    rw [Std.not_lt]
    exact Std.le_of_lt less
  · intro first second third upward upward'
    simp only [decide_eq_false_iff_not, Std.not_lt] at upward upward' ⊢
    exact Std.le_trans upward upward'

theorem strictWeak_firstBy
    [DecidableEq Key]
    (key : Value → Key)
    {rest : Value → Value → Bool}
    (weak : StrictWeak rest) :
    StrictWeak (firstBy key rest) := by
  constructor
  · intro left right less
    unfold firstBy at less ⊢
    by_cases same : key left = key right
    · rw [if_neg (not_not.mpr same)] at less
      rw [if_neg (not_not.mpr same.symm)]
      exact weak.asymm left right less
    · rw [if_pos same] at less
      rw [if_pos (Ne.symm same)]
      exact (strictWeak_key key).asymm left right less
  · intro first second third upward upward'
    have step (left right : Value) (before : firstBy key rest right left = false) :
        key left ≤ key right ∧ (key left = key right → rest right left = false) := by
      unfold firstBy at before
      by_cases same : key right = key left
      · rw [if_neg (not_not.mpr same)] at before
        exact ⟨Std.le_of_eq same.symm, fun _ => before⟩
      · rw [if_pos same] at before
        simp only [decide_eq_false_iff_not, Std.not_lt] at before
        exact ⟨before, fun same' => absurd same'.symm same⟩
    obtain ⟨le, tail⟩ := step first second upward
    obtain ⟨le', tail'⟩ := step second third upward'
    unfold firstBy
    by_cases same : key third = key first
    · have middle : key first = key second :=
        Std.le_antisymm le (same ▸ le')
      rw [if_neg (not_not.mpr same)]
      exact weak.trans first second third (tail middle) (tail' (middle.symm.trans same.symm))
    · rw [if_pos same]
      simp only [decide_eq_false_iff_not, Std.not_lt]
      exact Std.le_trans le le'

end Keys

/-- What is known of a sort: it keeps the values, and puts none in front of one that is
before it. -/
structure Sorting (before : Value → Value → Bool) where
  sort : List Value → List Value
  perm : ∀ values, (sort values).Perm values
  sorted : ∀ values,
    (sort values).Pairwise fun left right => before right left = false

/-- The sort that keeps values in their order where it can. -/
def mergeSorting {before : Value → Value → Bool} (weak : StrictWeak before) :
    Sorting before where
  sort values := values.mergeSort fun left right => !before right left
  perm values := List.mergeSort_perm values _
  sorted values := by
    have ordered :=
      @List.pairwise_mergeSort Value (fun left right => !before right left)
        (fun first second third upward upward' => by
          simp only [Bool.not_eq_true'] at upward upward' ⊢
          exact weak.trans first second third upward upward')
        (fun left right => by
          cases less : before left right with
          | false => simp
          | true => simp [weak.asymm left right less])
        values
    simpa using ordered

end SortKeys
