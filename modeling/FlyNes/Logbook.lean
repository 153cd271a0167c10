import Mathlib.Data.List.Induction

namespace Logbook

/-!
# Logs of the calls of a machine

A machine answers calls and moves on.  Its log keeps, for each call, the state in
which it was made and the answer to it.  An invariant of log and state that every
call keeps holds of every run, and a log may be divided into stages: key entries
that stand in a given order with only quiet entries around them.
-/

variable {State Call Answer : Type}

/-- A call with the state in which it was made and its answer. -/
structure Entry (State Call Answer : Type) where
  before : State
  call : Call
  answer : Answer

section Runs

variable (step : State → Call → Answer × State)

def after (state : State) (calls : List Call) : State :=
  calls.foldl (fun state call => (step state call).2) state

def entry (state : State) (call : Call) : Entry State Call Answer where
  before := state
  call := call
  answer := (step state call).1

def log (state : State) : List Call → List (Entry State Call Answer)
  | [] => []
  | call :: rest => entry step state call :: log (step state call).2 rest

@[simp] theorem after_append
    (state : State)
    (first second : List Call) :
    after step state (first ++ second) =
      after step (after step state first) second := by
  simp [after]

@[simp] theorem log_append
    (state : State)
    (first second : List Call) :
    log step state (first ++ second) =
      log step state first ++ log step (after step state first) second := by
  induction first generalizing state with
  | nil => rfl
  | cons call rest inductionHypothesis =>
      simp [log, after, inductionHypothesis]

theorem log_concat
    (state : State)
    (calls : List Call)
    (call : Call) :
    log step state (calls ++ [call]) =
      log step state calls ++ [entry step (after step state calls) call] := by
  simp [log]

theorem after_concat
    (state : State)
    (calls : List Call)
    (call : Call) :
    after step state (calls ++ [call]) = (step (after step state calls) call).2 := by
  simp [after]

@[simp] theorem log_calls
    (state : State)
    (calls : List Call) :
    (log step state calls).map Entry.call = calls := by
  induction calls generalizing state with
  | nil => rfl
  | cons call rest inductionHypothesis =>
      simp [log, entry, inductionHypothesis]

/-- An entry of a log was made behind the calls before it. -/
theorem log_split
    {state : State}
    {calls : List Call}
    {earlier later : List (Entry State Call Answer)}
    {found : Entry State Call Answer}
    (split : log step state calls = earlier ++ found :: later) :
    ∃ front call back,
      calls = front ++ call :: back ∧
        earlier = log step state front ∧
        found = entry step (after step state front) call := by
  induction calls generalizing state earlier with
  | nil => simp [log] at split
  | cons call rest inductionHypothesis =>
      cases earlier with
      | nil =>
          obtain ⟨first, -⟩ := List.cons.inj split
          exact ⟨[], call, rest, rfl, rfl, first.symm⟩
      | cons head tail =>
          obtain ⟨first, others⟩ := List.cons.inj split
          obtain ⟨front, next, back, rfl, rfl, rfl⟩ := inductionHypothesis others
          exact ⟨call :: front, next, back, rfl, by rw [log, first], rfl⟩

variable {initial : State}

/-- What the start has and every call keeps holds of every run. -/
theorem run_keeps
    (inv : List (Entry State Call Answer) → State → Prop)
    (start : inv [] initial)
    (keeps :
      ∀ entries state call,
        inv entries state →
        inv (entries ++ [entry step state call]) (step state call).2)
    (calls : List Call) :
    inv (log step initial calls) (after step initial calls) := by
  induction calls using List.reverseRecOn with
  | nil => exact start
  | append_singleton calls call inductionHypothesis =>
      simpa [log, after] using keeps _ _ call inductionHypothesis

/-- What the start has and every allowed call keeps holds after allowed calls. -/
theorem run_keeps_allowed
    (allowed : Entry State Call Answer → Prop)
    (inv : State → Prop)
    (start : inv initial)
    (keeps :
      ∀ state call,
        allowed (entry step state call) →
        inv state →
        inv (step state call).2)
    (calls : List Call)
    (every : ∀ entry ∈ log step initial calls, allowed entry) :
    inv (after step initial calls) := by
  induction calls using List.reverseRecOn with
  | nil => exact start
  | append_singleton calls call inductionHypothesis =>
      rw [log_concat] at every
      rw [after_concat]
      refine keeps _ _ (every _ (by simp)) (inductionHypothesis ?_)
      exact fun entry member => every entry (List.mem_append_left _ member)

end Runs

section Stages

variable {Item : Type}

/-- The keys have passed in their order, and every other item was quiet. -/
inductive Staged
    (quiet : Item → Prop) : List (Item → Prop) → List Item → Prop where
  | start : Staged quiet [] []
  | wait
      {keys : List (Item → Prop)}
      {items : List Item}
      {item : Item}
      (staged : Staged quiet keys items)
      (silent : quiet item) :
      Staged quiet keys (items ++ [item])
  | pass
      {keys : List (Item → Prop)}
      {items : List Item}
      {item : Item}
      {key : Item → Prop}
      (staged : Staged quiet keys items)
      (matching : key item) :
      Staged quiet (keys ++ [key]) (items ++ [item])

/-- The last item of a kind divides a list in one way. -/
theorem last_unique
    (kind : Item → Prop)
    {earlier earlier' later later' : List Item}
    {item item' : Item}
    (same : earlier ++ item :: later = earlier' ++ item' :: later')
    (matching : kind item)
    (matching' : kind item')
    (none : ∀ other ∈ later, ¬ kind other)
    (none' : ∀ other ∈ later', ¬ kind other) :
    earlier = earlier' ∧ item = item' ∧ later = later' := by
  rcases List.append_eq_append_iff.1 same with
    ⟨middle, rfl, shape⟩ | ⟨middle, rfl, shape⟩
  · cases middle with
    | nil =>
        obtain ⟨rfl, rfl⟩ := List.cons.inj shape
        exact ⟨by simp, rfl, rfl⟩
    | cons first rest =>
        obtain ⟨rfl, rfl⟩ := List.cons.inj shape
        exact (none item' (by simp) matching').elim
  · cases middle with
    | nil =>
        obtain ⟨rfl, rfl⟩ := List.cons.inj shape
        exact ⟨by simp, rfl, rfl⟩
    | cons first rest =>
        obtain ⟨rfl, rfl⟩ := List.cons.inj shape
        exact (none' item (by simp) matching).elim

end Stages

end Logbook
