import Mathlib.Logic.Basic

namespace Checking

/-!
# Programs that check and stop

A program returns a value or stops with a fault, and most of its statements are checks.
Four things are said of such programs: what one of them has checked when it returns, that
one accepts whatever another accepts, that one never stops with some kind of fault, and that
one does what another does except where it refuses more.
-/

variable {Fault Value Result : Type}

/-- Stop where something is wrong. -/
def refuse (wrong : Prop) [Decidable wrong] (fault : Fault) : Except Fault Unit :=
  if wrong then .error fault else .ok ()

/-- Run a program where it is called for, and have a value otherwise. -/
def provided
    (condition : Prop) [Decidable condition]
    (program : Except Fault Value)
    (otherwise : Value) : Except Fault Value :=
  if condition then program else .ok otherwise

/-! ### What was checked -/

variable {program : Except Fault Value} {result : Result}

theorem bind_eq_ok
    {rest : Value → Except Fault Result} :
    (program >>= rest) = .ok result ↔
      ∃ value, program = .ok value ∧ rest value = .ok result := by
  cases program with
  | error fault =>
      constructor
      · intro absurd
        cases absurd
      · rintro ⟨_, absurd, _⟩
        cases absurd
  | ok value =>
      constructor
      · exact fun returned => ⟨value, rfl, returned⟩
      · rintro ⟨_, same, returned⟩
        cases same
        exact returned

variable {fault : Fault}

@[simp] theorem refuse_eq_ok
    {wrong : Prop} [Decidable wrong]
    {done : Unit} :
    refuse wrong fault = .ok done ↔ ¬wrong := by
  unfold refuse
  split <;> simp_all

variable {fault : Fault}

theorem refuse_congr
    {wrong wrong' : Prop} [Decidable wrong] [Decidable wrong']
    (same : wrong ↔ wrong') :
    refuse wrong fault = refuse wrong' fault :=
  if_congr same rfl rfl

theorem refuse_bind_eq_ok
    {wrong : Prop} [Decidable wrong]
    {rest : Unit → Except Fault Result} :
    (refuse wrong fault >>= rest) = .ok result ↔ ¬wrong ∧ rest () = .ok result := by
  rw [bind_eq_ok]
  constructor
  · rintro ⟨⟨⟩, checked, returned⟩
    exact ⟨refuse_eq_ok.mp checked, returned⟩
  · exact fun ⟨right, returned⟩ => ⟨(), refuse_eq_ok.mpr right, returned⟩

variable {otherwise : Value}

theorem provided_eq_ok
    {condition : Prop} [Decidable condition]
    {value : Value} :
    provided condition program otherwise = .ok value ↔
      condition ∧ program = .ok value ∨ ¬condition ∧ otherwise = value := by
  unfold provided
  split <;> simp_all

theorem provided_congr
    {condition condition' : Prop} [Decidable condition] [Decidable condition']
    {program : Except Fault Value}
    (same : condition ↔ condition') :
    provided condition program otherwise = provided condition' program otherwise :=
  if_congr same rfl rfl

/-- A program that runs over a list returns only when it returns on each member. -/
theorem mapM_returns
    {Item : Type}
    {program : Item → Except Fault Value}
    {items : List Item}
    {values : List Value}
    (returned : items.mapM program = .ok values) :
    ∀ item ∈ items, ∃ value, program item = .ok value := by
  induction items generalizing values with
  | nil => simp
  | cons first rest inductionHypothesis =>
      rw [List.mapM_cons, bind_eq_ok] at returned
      obtain ⟨value, here, returned⟩ := returned
      rw [bind_eq_ok] at returned
      obtain ⟨_, later, _⟩ := returned
      intro item member
      obtain rfl | member := List.mem_cons.mp member
      · exact ⟨value, here⟩
      · exact inductionHypothesis later item member

/-! ### Accepting at least as much -/

/-- The second program returns whatever the first one returns. -/
def Accepts (strict lenient : Except Fault Value) : Prop :=
  ∀ value, strict = .ok value → lenient = .ok value

theorem Accepts.refl (program : Except Fault Value) : Accepts program program :=
  fun _ returned => returned

variable {strict lenient : Except Fault Value}
    {strictRest lenientRest : Value → Except Fault Result}

theorem Accepts.bind
    (first : Accepts strict lenient)
    (second : ∀ value, strict = .ok value → Accepts (strictRest value) (lenientRest value)) :
    Accepts (strict >>= strictRest) (lenient >>= lenientRest) := by
  intro result returned
  obtain ⟨value, checked, finished⟩ := bind_eq_ok.mp returned
  exact bind_eq_ok.mpr ⟨value, first value checked, second value checked result finished⟩

theorem Accepts.refuse
    {wrong wrong' : Prop} [Decidable wrong] [Decidable wrong']
    {fault' : Fault}
    (fewer : wrong' → wrong) :
    Accepts (refuse wrong fault) (refuse wrong' fault') := by
  intro _ returned
  exact refuse_eq_ok.mpr fun still => refuse_eq_ok.mp returned (fewer still)

/-- The same program first. -/
theorem Accepts.bind_refl
    (second : ∀ value, Accepts (strictRest value) (lenientRest value)) :
    Accepts (program >>= strictRest) (program >>= lenientRest) :=
  .bind (.refl program) fun value _ => second value

theorem Accepts.provided
    {condition : Prop} [Decidable condition]
    (accepts : condition → Accepts strict lenient) :
    Accepts (provided condition strict otherwise) (provided condition lenient otherwise) := by
  unfold Checking.provided
  split
  · next asked => exact accepts asked
  · exact .refl _

/-! ### Never stopping in a bad way -/

/-- A program does not stop with a fault of some kind. -/
def Avoids (bad : Fault → Prop) (program : Except Fault Value) : Prop :=
  ∀ fault, program = .error fault → ¬bad fault

section Avoiding

variable {bad : Fault → Prop}

theorem Avoids.ok (value : Value) : Avoids bad (Except.ok value : Except Fault Value) :=
  fun _ stopped => nomatch stopped

theorem Avoids.of_returns
    {program : Except Fault Value} {value : Value}
    (returns : program = .ok value) :
    Avoids bad program :=
  returns ▸ .ok value

variable {fault : Fault}

theorem Avoids.error
    (harmless : ¬bad fault) :
    Avoids bad (Except.error fault : Except Fault Value) := by
  intro _ stopped
  cases stopped
  exact harmless

variable {program : Except Fault Value}

theorem Avoids.bind
    {rest : Value → Except Fault Result}
    (first : Avoids bad program)
    (second : ∀ value, program = .ok value → Avoids bad (rest value)) :
    Avoids bad (program >>= rest) := by
  intro fault stopped
  cases shape : program with
  | error fault' =>
      rw [shape] at stopped
      cases stopped
      exact first fault shape
  | ok value =>
      rw [shape] at stopped
      exact second value shape fault stopped

theorem Avoids.refuse
    {wrong : Prop} [Decidable wrong]
    (harmless : ¬bad fault) :
    Avoids bad (refuse wrong fault) := by
  unfold Checking.refuse
  split
  · exact .error harmless
  · exact .ok ()

theorem Avoids.refuse_of_not
    {wrong : Prop} [Decidable wrong]
    (right : ¬wrong) :
    Avoids bad (Checking.refuse wrong fault) := by
  have done : Checking.refuse wrong fault = .ok () := refuse_eq_ok.mpr right
  exact .of_returns done

/-- After a check, what it checked is known. -/
theorem Avoids.refuse_bind
    {wrong : Prop} [Decidable wrong]
    {rest : Unit → Except Fault Result}
    (harmless : ¬bad fault)
    (second : ¬wrong → Avoids bad (rest ())) :
    Avoids bad (Checking.refuse wrong fault >>= rest) :=
  .bind (.refuse harmless) fun _ returned => second (refuse_eq_ok.mp returned)

theorem Avoids.provided
    {condition : Prop} [Decidable condition]
    {otherwise : Value}
    (safe : condition → Avoids bad program) :
    Avoids bad (provided condition program otherwise) := by
  unfold Checking.provided
  split
  · next asked => exact safe asked
  · exact .ok otherwise

end Avoiding

/-! ### Refusing more -/

section Narrowing

variable {Wide WideResult : Type}

/-- The first program returns what the second one returns, or what is related to it, where
that is kept; where it is not, the first one stops with a fault that is expected.  A fault
of the second program is one of the first, unless that has stopped as expected before. -/
def Narrows
    (expected : Fault → Prop)
    (related : Value → Wide → Prop)
    (kept : Wide → Prop) : Except Fault Value → Except Fault Wide → Prop
  | .ok value, .ok wide => related value wide ∧ kept wide
  | .ok _, .error _ => False
  | .error fault, .ok wide => expected fault ∧ ¬kept wide
  | .error fault, .error fault' => fault = fault' ∨ expected fault

variable {expected : Fault → Prop}

theorem Narrows.bind
    {related : Value → Wide → Prop} {related' : Result → WideResult → Prop}
    {kept : Wide → Prop} {kept' : WideResult → Prop}
    {program : Except Fault Value} {wide : Except Fault Wide}
    {rest : Value → Except Fault Result} {wideRest : Wide → Except Fault WideResult}
    (first : Narrows expected related kept program wide)
    (earlier : ∀ value result, wide = .ok value → wideRest value = .ok result →
      kept' result → kept value)
    (second : ∀ value value', program = .ok value → wide = .ok value' → related value value' →
      kept value' → Narrows expected related' kept' (rest value) (wideRest value')) :
    Narrows expected related' kept' (program >>= rest) (wide >>= wideRest) := by
  cases program with
  | ok value =>
      cases wide with
      | ok value' => exact second value value' rfl rfl first.1 first.2
      | error fault' => exact first.elim
  | error fault =>
      cases wide with
      | error fault' => exact first
      | ok value' =>
          change Narrows expected related' kept' (.error fault) (wideRest value')
          cases shape : wideRest value' with
          | error fault' => exact .inr first.1
          | ok result =>
              exact ⟨first.1, fun still => first.2 (earlier value' result rfl shape still)⟩

section SameKept

variable {related : Result → WideResult → Prop} {kept : WideResult → Prop}

/-- The same program first. -/
theorem Narrows.bind_eq
    {program program' : Except Fault Value}
    {rest : Value → Except Fault Result} {wideRest : Value → Except Fault WideResult}
    (same : program = program')
    (second : ∀ value, program' = .ok value →
      Narrows expected related kept (rest value) (wideRest value)) :
    Narrows expected related kept (program >>= rest) (program' >>= wideRest) := by
  subst same
  cases shape : program with
  | ok value => exact second value shape
  | error fault => exact .inl rfl

variable {rest : Unit → Except Fault Result} {wideRest : Unit → Except Fault WideResult}

/-- The same check first. -/
theorem Narrows.refuse_bind
    {wrong wrong' : Prop} [Decidable wrong] [Decidable wrong'] {fault : Fault}
    (same : wrong ↔ wrong')
    (second : ¬wrong' → Narrows expected related kept (rest ()) (wideRest ())) :
    Narrows expected related kept (refuse wrong fault >>= rest)
      (refuse wrong' fault >>= wideRest) := by
  by_cases stops : wrong'
  · have left : refuse wrong fault = .error fault := if_pos (same.mpr stops)
    have right : refuse wrong' fault = .error fault := if_pos stops
    rw [left, right]
    exact .inl rfl
  · have left : refuse wrong fault = .ok () := refuse_eq_ok.mpr fun wrong => stops (same.mp wrong)
    have right : refuse wrong' fault = .ok () := refuse_eq_ok.mpr stops
    rw [left, right]
    exact second stops

/-- A check that refuses more. -/
theorem Narrows.refuse_more_bind
    {wrong wrong' : Prop} [Decidable wrong] [Decidable wrong'] {fault fault' : Fault}
    (more : wrong' → wrong)
    (reported : expected fault)
    (unkept : wrong → ∀ result, wideRest () = .ok result → ¬kept result)
    (second : ¬wrong → Narrows expected related kept (rest ()) (wideRest ())) :
    Narrows expected related kept (refuse wrong fault >>= rest)
      (refuse wrong' fault' >>= wideRest) := by
  by_cases stops : wrong
  · have left : refuse wrong fault = .error fault := if_pos stops
    rw [left]
    cases shape : refuse wrong' fault' >>= wideRest with
    | error _ => exact .inr reported
    | ok result =>
        exact ⟨reported, unkept stops result (refuse_bind_eq_ok.mp shape).2⟩
  · have left : refuse wrong fault = .ok () := refuse_eq_ok.mpr stops
    have right : refuse wrong' fault' = .ok () :=
      refuse_eq_ok.mpr fun wrong' => stops (more wrong')
    rw [left, right]
    exact second stops

variable {result : Result}

theorem Narrows.ok
    {wide : WideResult}
    (same : related result wide)
    (keeps : kept wide) :
    Narrows expected related kept (Except.ok result) (Except.ok wide) :=
  ⟨same, keeps⟩

theorem Narrows.error (fault : Fault) :
    Narrows expected related kept (Except.error fault) (Except.error fault) :=
  .inl rfl

variable {program : Except Fault Result} {wide : Except Fault WideResult}

theorem Narrows.ite
    {condition condition' : Prop} [Decidable condition] [Decidable condition']
    {program' : Except Fault Result} {wide' : Except Fault WideResult}
    (same : condition ↔ condition')
    (yes : condition' → Narrows expected related kept program wide)
    (no : ¬condition' → Narrows expected related kept program' wide') :
    Narrows expected related kept (if condition then program else program')
      (if condition' then wide else wide') := by
  by_cases holds : condition'
  · rw [if_pos holds, if_pos (same.mpr holds)]
    exact yes holds
  · rw [if_neg holds, if_neg fun condition => holds (same.mp condition)]
    exact no holds

theorem Narrows.provided
    {condition : Prop} [Decidable condition]
    {otherwise : Result} {otherwise' : WideResult}
    (asked : condition → Narrows expected related kept program wide)
    (not : ¬condition → related otherwise otherwise' ∧ kept otherwise') :
    Narrows expected related kept (provided condition program otherwise)
      (provided condition wide otherwise') := by
  unfold Checking.provided
  split
  · next holds => exact asked holds
  · next fails => exact not fails

/-- What the narrower program returns. -/
theorem Narrows.returns
    (narrows : Narrows expected related kept program wide)
    (returned : program = .ok result) :
    ∃ value, wide = .ok value ∧ related result value ∧ kept value := by
  subst returned
  cases wide with
  | ok value => exact ⟨value, rfl, narrows⟩
  | error _ => exact narrows.elim

/-- The narrower program returns where the value of the other is kept. -/
theorem Narrows.of_returns
    {value : WideResult}
    (narrows : Narrows expected related kept program wide)
    (returned : wide = .ok value)
    (keeps : kept value) :
    ∃ result, program = .ok result ∧ related result value := by
  subst returned
  cases program with
  | ok result => exact ⟨result, rfl, narrows.1⟩
  | error _ => exact (narrows.2 keeps).elim

/-- What the wider program avoids is avoided, unless it is expected. -/
theorem Narrows.avoids
    {bad : Fault → Prop}
    (narrows : Narrows expected related kept program wide)
    (safe : Avoids bad wide)
    (harmless : ∀ fault, expected fault → ¬bad fault) :
    Avoids bad program := by
  rintro fault rfl
  cases wide with
  | ok _ => exact harmless fault narrows.1
  | error fault' =>
      rcases narrows with rfl | expects
      · exact safe fault rfl
      · exact harmless fault expects

end SameKept

end Narrowing

end Checking
