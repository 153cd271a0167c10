import Mathlib.Data.List.Basic

namespace Framing

/-!
# Self-delimiting streams

Items are written one after another with a code in which no code word starts
another.  A stream that has been read up to some point then determines the list
of items read: whenever the encoding of one list is an initial part of the
encoding of another, the first list is an initial part of the second.
-/

/-- Items in `valid` have nonempty code words, none of which starts another. -/
structure PrefixFree
    {Item Symbol : Type}
    (encode : Item → List Symbol)
    (valid : Item → Prop) : Prop where
  nonempty :
    ∀ {item}, valid item → encode item ≠ []
  determined :
    ∀ {first second : Item} {firstRest secondRest : List Symbol},
      valid first →
      valid second →
      encode first ++ firstRest = encode second ++ secondRest →
      first = second

/-- The stream that carries a list of items. -/
def stream
    {Item Symbol : Type}
    (encode : Item → List Symbol)
    (items : List Item) : List Symbol :=
  items.flatMap encode

section Stream

variable {Item Symbol : Type} {encode : Item → List Symbol}

@[simp] theorem stream_nil :
    stream encode [] = [] :=
  rfl

@[simp] theorem stream_append
    (first second : List Item) :
    stream encode (first ++ second) =
      stream encode first ++ stream encode second := by
  simp [stream]

@[simp] theorem stream_singleton
    (item : Item) :
    stream encode [item] = encode item := by
  simp [stream]

/-- Symbols that do not start with a whole code word. -/
def Stuck
    (encode : Item → List Symbol)
    (valid : Item → Prop)
    (symbols : List Symbol) : Prop :=
  ∀ item rest, valid item → symbols ≠ encode item ++ rest

/-- The whole items in front of some symbols, and the symbols behind them. -/
structure Parsed
    (encode : Item → List Symbol)
    (valid : Item → Prop)
    (symbols : List Symbol)
    (items : List Item)
    (rest : List Symbol) : Prop where
  sound : ∀ item ∈ items, valid item
  shape : symbols = stream encode items ++ rest
  stuck : Stuck encode valid rest

/-- What has been read of a self-delimiting stream is what was written first. -/
theorem PrefixFree.prefix_of_stream_within
    {valid : Item → Prop}
    (code : PrefixFree encode valid)
    {read written : List Item}
    (readValid : ∀ item ∈ read, valid item)
    (writtenValid : ∀ item ∈ written, valid item)
    (within : stream encode read <+: stream encode written) :
    read <+: written := by
  induction read generalizing written with
  | nil =>
      exact List.nil_prefix
  | cons item rest inductionHypothesis =>
      have itemValid : valid item := readValid item (by simp)
      obtain ⟨unread, shape⟩ := within
      cases written with
      | nil =>
          have empty : encode item = [] := by
            simp [stream] at shape
            exact shape.1
          exact (code.nonempty itemValid empty).elim
      | cons head tail =>
          have headValid : valid head := writtenValid head (by simp)
          have aligned :
              encode item ++ (stream encode rest ++ unread) =
                encode head ++ stream encode tail := by
            simpa [stream] using shape
          have same : item = head :=
            code.determined itemValid headValid aligned
          subst same
          have restWithin :
              stream encode rest <+: stream encode tail :=
            ⟨unread, List.append_cancel_left aligned⟩
          have restPrefix : rest <+: tail :=
            inductionHypothesis
              (fun later member => readValid later (by simp [member]))
              (fun later member => writtenValid later (by simp [member]))
              restWithin
          exact (List.prefix_cons_inj item).mpr restPrefix

namespace Parsed

variable
  {valid : Item → Prop}
  {symbols rest : List Symbol}
  {items : List Item}

/-- Symbols that start with a list of whole items start with all whole items. -/
theorem within
    (code : PrefixFree encode valid)
    (parsed : Parsed encode valid symbols items rest)
    {read : List Item}
    {unread : List Symbol}
    (readValid : ∀ item ∈ read, valid item)
    (shape : symbols = stream encode read ++ unread) :
    ∃ later,
      items = read ++ later ∧ unread = stream encode later ++ rest := by
  have whole := parsed.shape
  have itemsValid := parsed.sound
  rw [shape] at whole
  clear shape
  induction read generalizing items symbols with
  | nil =>
      exact ⟨items, rfl, whole⟩
  | cons item earlier inductionHypothesis =>
      have itemValid : valid item := readValid item (by simp)
      cases items with
      | nil =>
          refine (parsed.stuck item (stream encode earlier ++ unread)
            itemValid ?_).elim
          simpa [stream] using whole.symm
      | cons head tail =>
          have aligned :
              encode item ++ (stream encode earlier ++ unread) =
                encode head ++ (stream encode tail ++ rest) := by
            simpa [stream] using whole
          have same : item = head :=
            code.determined itemValid (itemsValid head (by simp)) aligned
          subst same
          have tailValid : ∀ later ∈ tail, valid later :=
            fun later member => itemsValid later (by simp [member])
          have tailParsed :
              Parsed encode valid (stream encode tail ++ rest) tail rest :=
            ⟨tailValid, rfl, parsed.stuck⟩
          obtain ⟨later, tailShape, unreadShape⟩ :=
            inductionHypothesis
              tailParsed
              (fun later member => readValid later (by simp [member]))
              (List.append_cancel_left aligned)
              tailValid
          exact ⟨later, by rw [tailShape, List.cons_append], unreadShape⟩

/-- There is only one way to read symbols as whole items. -/
theorem unique
    (code : PrefixFree encode valid)
    {others : List Item}
    {remaining : List Symbol}
    (first : Parsed encode valid symbols items rest)
    (second : Parsed encode valid symbols others remaining) :
    items = others ∧ rest = remaining := by
  obtain ⟨later, itemsShape, restShape⟩ :=
    first.within code second.sound second.shape
  cases later with
  | nil =>
      exact ⟨by simpa using itemsShape, by simpa using restShape.symm⟩
  | cons item later =>
      refine (second.stuck item (stream encode later ++ rest)
        (first.sound item (by simp [itemsShape])) ?_).elim
      simpa [stream] using restShape

/-- Reading on behind the whole items. -/
theorem append
    {more remaining : List Symbol}
    {later : List Item}
    (before : Parsed encode valid symbols items rest)
    (after : Parsed encode valid (rest ++ more) later remaining) :
    Parsed encode valid (symbols ++ more) (items ++ later) remaining where
  sound := by
    intro item member
    rcases List.mem_append.mp member with old | new
    · exact before.sound item old
    · exact after.sound item new
  shape := by
    rw [before.shape, List.append_assoc, after.shape, stream_append,
      List.append_assoc]
  stuck := after.stuck

/-- All symbols can be read as whole items and a rest. -/
theorem total
    (code : PrefixFree encode valid)
    (symbols : List Symbol) :
    ∃ items rest, Parsed encode valid symbols items rest := by
  generalize size : symbols.length = count
  induction count using Nat.strongRecOn generalizing symbols with
  | ind count inductionHypothesis =>
      by_cases stuck : Stuck encode valid symbols
      · exact ⟨[], symbols, by simp, rfl, stuck⟩
      · unfold Stuck at stuck
        push Not at stuck
        obtain ⟨item, rest, itemValid, shape⟩ := stuck
        have shorter : rest.length < count := by
          have nonempty : 0 < (encode item).length :=
            List.length_pos_iff.mpr (code.nonempty itemValid)
          rw [← size, shape, List.length_append]
          omega
        obtain ⟨items, remaining, parsed⟩ :=
          inductionHypothesis rest.length shorter rest rfl
        refine ⟨item :: items, remaining, ?_, ?_, parsed.stuck⟩
        · intro later member
          rcases List.mem_cons.mp member with rfl | old
          · exact itemValid
          · exact parsed.sound later old
        · rw [shape, parsed.shape]
          simp [stream]

end Parsed

end Stream

variable {Symbol : Type} {size : Nat} {frames : List (List Symbol)}

/--
Frames of one size: what has been read of them starts with the first frame, or
is a proper part of it.
-/
theorem flatten_cases
    {front rest : List Symbol}
    (positive : 0 < size)
    (sized : ∀ frame ∈ frames, frame.length = size)
    (shape : frames.flatten = front ++ rest) :
    (front.length < size ∧
        (front = [] ∨
          ∃ frame tail, frames = frame :: tail ∧
            front = frame.take front.length)) ∨
      ∃ frame tail back,
        frames = frame :: tail ∧ front = frame ++ back ∧
          tail.flatten = back ++ rest := by
  cases frames with
  | nil =>
      have empty : front = [] := by
        simp only [List.flatten_nil] at shape
        exact (List.append_eq_nil_iff.mp shape.symm).1
      subst empty
      exact Or.inl ⟨positive, Or.inl rfl⟩
  | cons frame tail =>
      have frameSize : frame.length = size := sized frame (by simp)
      rw [List.flatten_cons] at shape
      obtain ⟨back, whole, remaining⟩ | ⟨missing, part, remaining⟩ :=
        List.append_eq_append_iff.mp shape
      · exact Or.inr ⟨frame, tail, back, rfl, whole, remaining⟩
      · by_cases complete : missing = []
        · subst complete
          refine Or.inr ⟨frame, tail, [], rfl, ?_, ?_⟩
          · rw [part]
            simp
          · rw [remaining]
            simp
        · have longer : 0 < missing.length :=
            List.length_pos_iff.mpr complete
          have lengths := congrArg List.length part
          rw [List.length_append, frameSize] at lengths
          refine Or.inl ⟨by omega, Or.inr ⟨frame, tail, rfl, ?_⟩⟩
          rw [part, List.take_left']
          rfl

theorem length_flatten_of_sized
    (sized : ∀ frame ∈ frames, frame.length = size) :
    frames.flatten.length = frames.length * size := by
  induction frames with
  | nil => simp
  | cons frame tail inductionHypothesis =>
      have tailSized : ∀ later ∈ tail, later.length = size :=
        fun later member => sized later (List.mem_cons_of_mem frame member)
      rw [List.flatten_cons, List.length_append, List.length_cons,
        inductionHypothesis tailSized, sized frame List.mem_cons_self,
        Nat.succ_mul, Nat.add_comm]

end Framing
