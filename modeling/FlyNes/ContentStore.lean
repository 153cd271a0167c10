import Mathlib.Logic.Function.Basic

namespace ContentStore

/-!
# Stores of values under their hashes

A store keeps every value under a key computed from it.  New values replace what
was kept under their keys, and one store may be laid over another.  A key then
leads to some value with that key, and to the one that was put there as long as no
two of the values used share a key.
-/

variable {Key Value : Type}

abbrev Objects (Key Value : Type) := Key → Option Value

def empty : Objects Key Value := fun _ => none

def put
    [DecidableEq Key]
    (hash : Value → Key)
    (objects : Objects Key Value)
    (value : Value) : Objects Key Value :=
  Function.update objects (hash value) (some value)

/-- What the upper store keeps hides what the lower one keeps under the same key. -/
def overlay (upper lower : Objects Key Value) : Objects Key Value :=
  fun key => (upper key).or (lower key)

/-- No two of the values have the same key. -/
def CollisionFree (hash : Value → Key) (used : List Value) : Prop :=
  ∀ first ∈ used, ∀ second ∈ used, hash first = hash second → first = second

/-- Every value stands under its key and is one of those used. -/
def Addressed
    (hash : Value → Key)
    (used : List Value)
    (objects : Objects Key Value) : Prop :=
  ∀ key value, objects key = some value → hash value = key ∧ value ∈ used

section Laws

variable
  {hash : Value → Key}
  {used : List Value}
  {objects : Objects Key Value}

theorem Addressed.empty :
    Addressed hash used empty := by
  intro key value found
  simp [ContentStore.empty] at found

variable {lower : Objects Key Value}

theorem Addressed.overlay
    (above : Addressed hash used objects)
    (below : Addressed hash used lower) :
    Addressed hash used (overlay objects lower) := by
  intro key value found
  rcases Option.or_eq_some_iff.1 found with upper | ⟨_, deeper⟩
  · exact above key value upper
  · exact below key value deeper

variable {value : Value}

/-- A key that leads somewhere leads to the value used that has this key. -/
theorem Addressed.read
    (addressed : Addressed hash used objects)
    (distinct : CollisionFree hash used)
    (member : value ∈ used)
    (kept : (objects (hash value)).isSome) :
    objects (hash value) = some value := by
  obtain ⟨other, found⟩ := Option.isSome_iff_exists.1 kept
  obtain ⟨same, otherMember⟩ := addressed _ other found
  rw [found, distinct other otherMember value member same]

theorem overlay_isSome_of_lower
    {upper : Objects Key Value}
    {key : Key}
    (kept : (lower key).isSome) :
    (overlay upper lower key).isSome := by
  simp [overlay, kept]

variable [DecidableEq Key]

theorem Addressed.put
    (addressed : Addressed hash used objects)
    (member : value ∈ used) :
    Addressed hash used (put hash objects value) := by
  intro key other found
  by_cases same : key = hash value
  · subst same
    simp only [ContentStore.put, Function.update_self, Option.some.injEq] at found
    subst found
    exact ⟨rfl, member⟩
  · simp only [ContentStore.put, ne_eq, same, not_false_eq_true,
      Function.update_of_ne] at found
    exact addressed key other found

@[simp] theorem put_self
    (value : Value) :
    put hash objects value (hash value) = some value := by
  simp [put]

end Laws

end ContentStore
