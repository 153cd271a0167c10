import Mathlib.Data.List.Basic

namespace Chronology

/-!
# Properties of growing lists

A list that only grows at its end is a record of what has happened.  A property
of each entry and of the entries before it is established when the entry is
made and kept from then on.  Two records of the same events, one of which may
lag behind the other, are compared entry by entry.
-/

section Every

variable {Entry : Type}

/-- Every entry has the property together with the entries before it. -/
def Every
    (property : List Entry → Entry → Prop)
    (entries : List Entry) : Prop :=
  ∀ earlier entry later,
    entries = earlier ++ entry :: later → property earlier entry

/-- Cutting a record at one entry: at its last one or before it. -/
theorem cut_concat
    {entries earlier later : List Entry}
    {last entry : Entry}
    (shape : entries ++ [last] = earlier ++ entry :: later) :
    (later = [] ∧ earlier = entries ∧ entry = last) ∨
      ∃ front,
        later = front ++ [last] ∧ entries = earlier ++ entry :: front := by
  rcases List.eq_nil_or_concat later with rfl | ⟨front, final, rfl⟩
  · obtain ⟨same, lastSame⟩ := List.append_inj' shape rfl
    simp only [List.cons.injEq, and_true] at lastSame
    exact Or.inl ⟨rfl, same.symm, lastSame.symm⟩
  · have cut :
        entries ++ [last] = (earlier ++ entry :: front) ++ [final] := by
      simpa using shape
    obtain ⟨same, lastSame⟩ := List.append_inj' cut rfl
    simp only [List.cons.injEq, and_true] at lastSame
    exact Or.inr ⟨front, by simp [lastSame], same⟩

namespace Every

variable {property : List Entry → Entry → Prop} {entries : List Entry}

theorem nil :
    Every property [] := by
  intro earlier entry later shape
  simp at shape

variable {entry : Entry}

/-- A new entry has to have the property when it is made. -/
theorem concat
    (holds : Every property entries)
    (last : property entries entry) :
    Every property (entries ++ [entry]) := by
  intro earlier other later shape
  rcases cut_concat shape with ⟨_, rfl, rfl⟩ | ⟨front, _, shorter⟩
  · exact last
  · exact holds earlier other front shorter

/-- Several new entries of which there is at most one. -/
theorem append_option
    {option : Option Entry}
    (holds : Every property entries)
    (last : ∀ entry, option = some entry → property entries entry) :
    Every property (entries ++ option.toList) := by
  cases option with
  | none =>
      simpa using holds
  | some entry =>
      exact holds.concat (last entry rfl)

theorem mono
    {weaker : List Entry → Entry → Prop}
    (holds : Every property entries)
    (implies : ∀ earlier entry, property earlier entry → weaker earlier entry) :
    Every weaker entries := by
  intro earlier entry later shape
  exact implies earlier entry (holds earlier entry later shape)

/-- What holds of an entry of the record. -/
theorem of_mem
    (holds : Every property entries)
    (member : entry ∈ entries) :
    ∃ earlier later,
      entries = earlier ++ entry :: later ∧ property earlier entry := by
  obtain ⟨earlier, later, shape⟩ := List.append_of_mem member
  exact ⟨earlier, later, shape, holds earlier entry later shape⟩

end Every

end Every

section Follows

variable {First Second Event : Type}

/--
The record `later` lags behind the record `sooner`: the events it has recorded
are the first events of the other.
-/
def Follows
    (event : First → Event)
    (other : Second → Event)
    (sooner : List First)
    (later : List Second) : Prop :=
  later.map other <+: sooner.map event

namespace Follows

variable
  {event : First → Event}
  {other : Second → Event}
  {sooner : List First}
  {later : List Second}

variable {entry : Second}

/-- The entry the lagging record will make next. -/
theorem split
    {front back : List Second}
    (follows : Follows event other sooner (front ++ entry :: back)) :
    ∃ before first after,
      sooner = before ++ first :: after ∧
        before.map event = front.map other ∧
        event first = other entry := by
  obtain ⟨rest, shape⟩ := follows
  rw [List.map_append, List.map_cons, List.append_assoc, List.cons_append]
    at shape
  obtain ⟨before, remaining, rfl, beforeSame, remainingSame⟩ :=
    List.map_eq_append_iff.mp shape.symm
  obtain ⟨first, after, rfl, firstSame, _⟩ :=
    List.map_eq_cons_iff.mp remainingSame
  exact ⟨before, first, after, rfl, beforeSame, firstSame⟩

theorem length_le
    (follows : Follows event other sooner later) :
    later.length ≤ sooner.length := by
  have bound := List.IsPrefix.length_le follows
  simpa using bound

variable {sooner : List First} {later : List Second}

/-- Entries beyond the length of the other list have no partner. -/
theorem zip_append_of_le
    (bound : later.length ≤ sooner.length)
    (more : List First) :
    (sooner ++ more).zip later = sooner.zip later := by
  induction later generalizing sooner with
  | nil =>
      simp
  | cons entry rest inductionHypothesis =>
      cases sooner with
      | nil =>
          simp at bound
      | cons first others =>
          have shorter : rest.length ≤ others.length := by
            simpa using bound
          simp [inductionHypothesis shorter]

/-- The leading record grows beyond what the lagging one has recorded. -/
theorem zip_grow
    (follows : Follows event other sooner later)
    (more : List First) :
    (sooner ++ more).zip later = sooner.zip later :=
  zip_append_of_le follows.length_le more

variable {first : First}

/-- The lagging record catches up by one entry. -/
theorem zip_concat
    {before after : List First}
    (shape : sooner = before ++ first :: after)
    (same : before.map event = later.map other) :
    sooner.zip (later ++ [entry]) = sooner.zip later ++ [(first, entry)] := by
  have length : before.length = later.length := by
    simpa using congrArg List.length same
  rw [shape, List.zip_append length, zip_append_of_le (Nat.le_of_eq length.symm)]
  simp

/-- Every entry of the lagging record has a partner. -/
theorem exists_partner
    (follows : Follows event other sooner later)
    (member : entry ∈ later) :
    ∃ first,
      event first = other entry ∧ (first, entry) ∈ sooner.zip later := by
  obtain ⟨front, back, rfl⟩ := List.append_of_mem member
  obtain ⟨before, first, after, rfl, same, partner⟩ := follows.split
  have length : before.length = front.length := by
    simpa using congrArg List.length same
  refine ⟨first, partner, ?_⟩
  rw [List.zip_append length]
  simp

/-- Partners stand at the same place of both records. -/
theorem of_mem_zip
    (follows : Follows event other sooner later)
    (paired : (first, entry) ∈ sooner.zip later) :
    ∃ before after front back,
      sooner = before ++ first :: after ∧
        later = front ++ entry :: back ∧
        before.map event = front.map other ∧
        event first = other entry := by
  obtain ⟨place, bound, same⟩ := List.mem_iff_getElem.mp paired
  have inside : place < later.length := by
    simp only [List.length_zip] at bound
    omega
  have shape : later = later.take place ++ entry :: later.drop (place + 1) := by
    have last : entry = later[place] := by
      simp only [List.getElem_zip, Prod.mk.injEq] at same
      exact same.2.symm
    rw [last, ← List.drop_eq_getElem_cons inside, List.take_append_drop]
  rw [shape] at follows
  obtain ⟨before, partner, after, rfl, beforeSame, partnerSame⟩ :=
    follows.split
  refine ⟨before, after, later.take place, later.drop (place + 1), ?_, shape,
    beforeSame, ?_⟩
  all_goals
    have length : before.length = place := by
      have lengths := congrArg List.length beforeSame
      simp only [List.length_map, List.length_take] at lengths
      omega
    have found : partner = first := by
      simp only [List.getElem_zip, Prod.mk.injEq] at same
      rw [← same.1, List.getElem_append_right (by omega)]
      simp [length]
  · rw [found]
  · rw [← found]
    exact partnerSame

/-- Partners that read alike give the same readings in the same order. -/
theorem filterMap_of_zip
    {Reading : Type}
    {read : First → Option Reading}
    {note : Second → Option Reading}
    (bound : later.length ≤ sooner.length)
    (alike :
      ∀ first entry,
        (first, entry) ∈ sooner.zip later → read first = note entry) :
    later.filterMap note = (sooner.take later.length).filterMap read := by
  induction later generalizing sooner with
  | nil =>
      simp
  | cons entry rest inductionHypothesis =>
      cases sooner with
      | nil =>
          simp at bound
      | cons first others =>
          have shorter : rest.length ≤ others.length := by
            simpa using bound
          have same := alike first entry (by simp)
          have tails := inductionHypothesis shorter
            (fun other partner paired =>
              alike other partner (by simp [paired]))
          simp [List.filterMap_cons, same, tails]

end Follows

end Follows

end Chronology
