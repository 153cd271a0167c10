import FlyNes.LanBarrier

namespace FlyNes.LanMvp

open Lockstep (wrap64 Frame Buffer)
open Wire (Kind Message)

/-!
# The ledger of a round

A side's history tells for each round which inputs it has sent, which it has
taken from its peer and which frames it has run.  Frames are run in order, and
each with masks that were sent and taken for it; the first two frames of a round
run with empty masks.
-/

/-- The frame and the mask an input message carries. -/
def inputOf (message : Message) : Option (Nat × UInt32) :=
  if message.kind = .input then
    some (bigEndianU64 message.payload,
      bigEndianU32 (message.payload.drop 8))
  else
    none

/-- What a side has sent in a round. -/
def sentIn
    {Item : Type}
    (read : Message → Option Item)
    (round : Nat)
    (posts : List Letter) : List Item :=
  posts.filterMap fun letter =>
    if letter.stamp.round = round then read letter.message else none

/-- What a side has taken in a round, while it was running. -/
def takenIn
    {Item : Type}
    (read : Message → Option Item)
    (round : Nat)
    (mail : List Receipt) : List Item :=
  mail.filterMap fun receipt =>
    if receipt.state = .running ∧ receipt.stamp.round = round then
      read receipt.message
    else
      none

/-- The frames a side has run in a round. -/
def stepsIn (round : Nat) (steps : List (Nat × FrameInput)) : List FrameInput :=
  steps.filterMap fun step => if step.1 = round then some step.2 else none

section Views

variable {Item : Type} {read : Message → Option Item} {round : Nat}

@[simp] theorem sentIn_append
    (first second : List Letter) :
    sentIn read round (first ++ second) =
      sentIn read round first ++ sentIn read round second := by
  simp [sentIn]

@[simp] theorem takenIn_append
    (first second : List Receipt) :
    takenIn read round (first ++ second) =
      takenIn read round first ++ takenIn read round second := by
  simp [takenIn]

@[simp] theorem stepsIn_append
    (first second : List (Nat × FrameInput)) :
    stepsIn round (first ++ second) =
      stepsIn round first ++ stepsIn round second := by
  simp [stepsIn]

variable {stamp : Stamp}

/-- Letters that carry nothing of the kind add nothing. -/
theorem sentIn_of_quiet
    {output : Option Message}
    (posts : List Letter)
    (quiet : ∀ message ∈ output, read message = none) :
    sentIn read round
        (posts ++ output.toList.map (fun message => ⟨stamp, message⟩)) =
      sentIn read round posts := by
  cases output with
  | none =>
      simp
  | some message =>
      simp [sentIn, quiet message rfl]

theorem takenIn_of_quiet
    {state : State}
    {label : Label}
    (mail : List Receipt)
    (quiet :
      ∀ message ∈ label.input,
        state = .running → read message = none) :
    takenIn read round
        (mail ++ label.input.map (fun message => ⟨state, stamp, message⟩)) =
      takenIn read round mail := by
  rcases label.input_cases with empty | ⟨message, single⟩
  · simp [empty]
  · rw [single] at quiet ⊢
    by_cases running : state = .running
    · simp [takenIn, quiet message (by simp) running]
    · simp [takenIn, running]

/-- Nothing has been sent in a round that has not begun. -/
theorem sentIn_of_lt
    {posts : List Letter}
    (bound : ∀ letter ∈ posts, letter.stamp.round < round) :
    sentIn read round posts = [] := by
  refine List.filterMap_eq_nil_iff.mpr ?_
  intro letter member
  exact if_neg (Nat.ne_of_lt (bound letter member))

theorem takenIn_of_lt
    {mail : List Receipt}
    (bound : ∀ receipt ∈ mail, receipt.stamp.round < round) :
    takenIn read round mail = [] := by
  refine List.filterMap_eq_nil_iff.mpr ?_
  intro receipt member
  exact if_neg (fun present => Nat.ne_of_lt (bound receipt member) present.2)

theorem stepsIn_of_lt
    {steps : List (Nat × FrameInput)}
    (bound : ∀ step ∈ steps, step.1 < round) :
    stepsIn round steps = [] := by
  refine List.filterMap_eq_nil_iff.mpr ?_
  intro step member
  exact if_neg (Nat.ne_of_lt (bound step member))

end Views

theorem inputOf_of_kind
    {message : Message}
    (other : message.kind ≠ .input) :
    inputOf message = none :=
  if_neg other

/-- What an act means for the round it happens in. -/
inductive Turn
    {R : Type}
    (label : Label)
    (output : Option Message)
    (party after : Party R) : Prop where
  /-- Nothing is run, sent or taken; the round may end. -/
  | rest :
      (accountOf after.log).steps = (accountOf party.log).steps →
      after.stamp.round = party.stamp.round →
      (∀ message ∈ output, message.kind ≠ .input) →
      (∀ message ∈ label.input,
        message.kind = .input → party.game.state ≠ .running) →
      after.game.inputs = none ∨
        (after.game.inputs = party.game.inputs ∧
          after.game.completedFrames = party.game.completedFrames ∧
          after.game.nextSubmitFrame = party.game.nextSubmitFrame) →
      Turn label output party after
  /-- A round begins, unless something keeps it from beginning. -/
  | begin :
      (accountOf after.log).steps = (accountOf party.log).steps →
      after.stamp.round = party.stamp.round + 1 →
      (∀ message ∈ output, message.kind ≠ .input) →
      (∀ message ∈ label.input, message.kind ≠ .input) →
      after.game.inputs = none ∨
        (after.game.inputs = some Game.delayedInputs ∧
          after.game.completedFrames = 0 ∧
          after.game.nextSubmitFrame = kInputDelay) →
      Turn label output party after
  | frame (frame : Frame) (before rest : Buffer) :
      party.game.state = .running →
      party.game.inputs = some before →
      before.popReady = some (frame, rest) →
      (accountOf after.log).steps =
        (accountOf party.log).steps ++
          [(party.stamp.round, party.game.frameInput frame)] →
      after.stamp.round = party.stamp.round →
      (∀ message ∈ output, message.kind ≠ .input) →
      label.input = [] →
      after.game.inputs = none ∨
        (after.game.inputs = some rest ∧
          after.game.completedFrames = wrap64 (frame.index + 1) ∧
          after.game.nextSubmitFrame = party.game.nextSubmitFrame) →
      Turn label output party after
  | submit (before rest : Buffer) (buttons : UInt32) :
      party.game.inputs = some before →
      party.game.nextSubmitFrame <
        wrap64 (party.game.completedFrames + kInputDelay) →
      before.putLocal party.game.nextSubmitFrame buttons =
        (.accepted, rest) →
      (accountOf after.log).steps = (accountOf party.log).steps →
      after.stamp.round = party.stamp.round →
      output =
        some ⟨.input,
          appendU64 party.game.nextSubmitFrame ++ appendU32 buttons⟩ →
      label.input = [] →
      after.game.inputs = some rest →
      after.game.completedFrames = party.game.completedFrames →
      after.game.nextSubmitFrame = wrap64 (party.game.nextSubmitFrame + 1) →
      Turn label output party after
  | take (message : Message) :
      message.kind = .input →
      party.game.state = .running →
      label.input = [message] →
      output = none →
      (accountOf after.log).steps = (accountOf party.log).steps →
      after.stamp.round = party.stamp.round →
      after.game.inputs = none ∨
        (∃ before result rest,
          party.game.inputs = some before ∧
          before.putRemote (bigEndianU64 message.payload)
            (bigEndianU32 (message.payload.drop 8)) = (result, rest) ∧
          after.game.inputs = some rest ∧
          after.game.completedFrames = party.game.completedFrames ∧
          after.game.nextSubmitFrame = party.game.nextSubmitFrame) →
      Turn label output party after

/-- The mask of one end in a frame's input. -/
def FrameInput.maskOf (input : FrameInput) : Side → UInt32
  | .host => input.buttons.1
  | .guest => input.buttons.2

/-- A frame's mask is listed, or empty in the frames of the input delay. -/
def Known
    (entries : List (Nat × UInt32))
    (frame : Nat)
    (mask : UInt32) : Prop :=
  (frame < kInputDelay ∧ mask = 0) ∨ (frame, mask) ∈ entries

theorem Known.mono
    {entries : List (Nat × UInt32)}
    {frame : Nat}
    {mask : UInt32}
    (known : Known entries frame mask)
    (more : List (Nat × UInt32)) :
    Known (entries ++ more) frame mask :=
  known.imp_right (List.mem_append_left more)

/-- One round of one side: what it has run, sent and taken. -/
structure Book
    (side : Side)
    (steps : List FrameInput)
    (sent taken : List (Nat × UInt32)) : Prop where
  frames : steps.map FrameInput.frameIndex = List.range steps.length
  inputs : sent.map Prod.fst = List.range' kInputDelay sent.length
  lead : sent.length ≤ steps.length
  ours :
    ∀ input ∈ steps, Known sent input.frameIndex (input.maskOf side)
  theirs :
    ∀ input ∈ steps, Known taken input.frameIndex (input.maskOf side.other)

/-- How a round's buffer and counters fit what has been run, sent and taken. -/
structure Live
    {R : Type}
    (game : Game R)
    (buffer : Buffer)
    (steps : List FrameInput)
    (sent taken : List (Nat × UInt32)) : Prop where
  window : buffer.window = kInputWindow
  nextFrame : buffer.nextFrame = steps.length
  completed : game.completedFrames = steps.length
  nextSubmit : game.nextSubmitFrame = kInputDelay + sent.length
  bounded : kInputDelay + sent.length < 2 ^ 64
  ours : ∀ frame mask, buffer.mask true frame = some mask → Known sent frame mask
  theirs :
    ∀ frame mask, buffer.mask false frame = some mask → Known taken frame mask

/-- The rounds of one side. -/
structure Party.Ledger {R : Type} (side : Side) (party : Party R) : Prop where
  stepped :
    ∀ step ∈ (accountOf party.log).steps, step.1 ≤ party.stamp.round
  sent :
    ∀ letter ∈ (accountOf party.log).posts,
      letter.stamp.round ≤ party.stamp.round
  taken :
    ∀ receipt ∈ (accountOf party.log).mail,
      receipt.stamp.round ≤ party.stamp.round
  book :
    ∀ round,
      Book side (stepsIn round (accountOf party.log).steps)
        (sentIn inputOf round (accountOf party.log).posts)
        (takenIn inputOf round (accountOf party.log).mail)
  live :
    ∀ buffer,
      party.game.inputs = some buffer →
      Live party.game buffer
        (stepsIn party.stamp.round (accountOf party.log).steps)
        (sentIn inputOf party.stamp.round (accountOf party.log).posts)
        (takenIn inputOf party.stamp.round (accountOf party.log).mail)

namespace Book

variable
  {side : Side}
  {steps : List FrameInput}
  {sent taken : List (Nat × UInt32)}

theorem empty :
    Book side [] [] [] := by
  constructor <;> simp

/-- The inputs a side has sent are numbered from the input delay on. -/
theorem bounds_of_sent
    (book : Book side steps sent taken)
    {frame : Nat}
    {mask : UInt32}
    (listed : (frame, mask) ∈ sent) :
    kInputDelay ≤ frame ∧ frame < kInputDelay + sent.length := by
  have member : frame ∈ sent.map Prod.fst := List.mem_map.mpr ⟨_, listed, rfl⟩
  rwa [book.inputs, List.mem_range'_1] at member

/-- The next frame is run. -/
theorem step
    (book : Book side steps sent taken)
    {input : FrameInput}
    (next : input.frameIndex = steps.length)
    (ours : Known sent input.frameIndex (input.maskOf side))
    (theirs : Known taken input.frameIndex (input.maskOf side.other)) :
    Book side (steps ++ [input]) sent taken := by
  constructor
  · simp [book.frames, next, List.range_succ]
  · exact book.inputs
  · have lead := book.lead
    simp only [List.length_append, List.length_singleton]
    omega
  · intro other member
    rcases List.mem_append.mp member with old | new
    · exact book.ours other old
    · rw [List.mem_singleton.mp new]
      exact ours
  · intro other member
    rcases List.mem_append.mp member with old | new
    · exact book.theirs other old
    · rw [List.mem_singleton.mp new]
      exact theirs

/-- The next input is sent. -/
theorem send
    (book : Book side steps sent taken)
    (lead : sent.length < steps.length)
    (mask : UInt32) :
    Book side steps (sent ++ [(kInputDelay + sent.length, mask)]) taken := by
  constructor
  · exact book.frames
  · simp [book.inputs, List.range'_concat]
  · simp only [List.length_append, List.length_singleton]
    omega
  · intro input member
    exact (book.ours input member).mono _
  · exact book.theirs

/-- Inputs are taken from the peer. -/
theorem take
    (book : Book side steps sent taken)
    (more : List (Nat × UInt32)) :
    Book side steps sent (taken ++ more) := by
  constructor
  · exact book.frames
  · exact book.inputs
  · exact book.lead
  · exact book.ours
  · intro input member
    exact (book.theirs input member).mono _

end Book

/-- A fresh round holds empty masks for the frames of the input delay. -/
theorem mask_delayedInputs
    (side : Bool)
    (frame : Nat)
    (mask : UInt32)
    (present : Game.delayedInputs.mask side frame = some mask) :
    frame < kInputDelay ∧ mask = 0 := by
  have entries :
      Game.delayedInputs.slots.entries =
        [⟨1, ⟨some 0, some 0⟩⟩, ⟨0, ⟨some 0, some 0⟩⟩] := by
    decide
  unfold Buffer.mask Buffer.slot AList.lookup at present
  rw [entries] at present
  by_cases first : frame = 1
  · subst first
    cases side <;> simp_all [Lockstep.Slot.mask, kInputDelay]
  · by_cases second : frame = 0
    · subst second
      cases side <;> simp_all [Lockstep.Slot.mask, kInputDelay, List.dlookup_cons_ne]
    · have notFirst : 1 ≠ frame := Ne.symm first
      have notSecond : 0 ≠ frame := Ne.symm second
      cases side <;> simp_all [Lockstep.Slot.mask, List.dlookup_cons_ne]

namespace Live

variable
  {R : Type}
  {game after : Game R}
  {buffer rest : Buffer}
  {steps : List FrameInput}
  {sent taken : List (Nat × UInt32)}

theorem fresh
    (completed : game.completedFrames = 0)
    (nextSubmit : game.nextSubmitFrame = kInputDelay) :
    Live game Game.delayedInputs [] [] [] where
  window := by decide
  nextFrame := by decide
  completed := completed
  nextSubmit := nextSubmit
  bounded := by decide
  ours := fun frame mask present =>
    Or.inl (mask_delayedInputs true frame mask present)
  theirs := fun frame mask present =>
    Or.inl (mask_delayedInputs false frame mask present)

variable {frame : Frame}

/-- The frame that is popped is the next one, with masks known for it. -/
theorem popped
    (live : Live game buffer steps sent taken)
    (pop : buffer.popReady = some (frame, rest)) :
    frame.index = steps.length ∧
      Known sent frame.index frame.localMask ∧
      Known taken frame.index frame.remoteMask := by
  obtain ⟨index, ours, theirs, _⟩ := Buffer.popReady_eq_some pop
  rw [index]
  exact ⟨live.nextFrame, live.ours _ _ ours, live.theirs _ _ theirs⟩

variable {side : Side}

/-- No frame can be run whose number does not fit its counter. -/
theorem index_bounded
    (live : Live game buffer steps sent taken)
    (book : Book side steps sent taken)
    {frame : Nat}
    {mask : UInt32}
    (known : Known sent frame mask) :
    frame + 1 < 2 ^ 64 := by
  have bounded := live.bounded
  rcases known with ⟨early, _⟩ | listed
  · unfold kInputDelay at early
    omega
  · have bounds := book.bounds_of_sent listed
    omega

theorem step
    (live : Live game buffer steps sent taken)
    (book : Book side steps sent taken)
    (pop : buffer.popReady = some (frame, rest))
    (completed : after.completedFrames = wrap64 (frame.index + 1))
    (nextSubmit : after.nextSubmitFrame = game.nextSubmitFrame)
    (input : FrameInput) :
    Live after rest (steps ++ [input]) sent taken := by
  obtain ⟨index, ours, _⟩ := live.popped pop
  obtain ⟨_, _, _, rfl⟩ := Buffer.popReady_eq_some pop
  have fits : wrap64 (steps.length + 1) = steps.length + 1 := by
    have bound := live.index_bounded book ours
    rw [index] at bound
    exact Nat.mod_eq_of_lt bound
  have kept :
      ∀ side frame mask,
        ({ buffer with
            nextFrame := wrap64 (buffer.nextFrame + 1)
            slots := buffer.slots.erase buffer.nextFrame } : Buffer).mask
          side frame = some mask →
        buffer.mask side frame = some mask := by
    intro side frame mask present
    rw [Buffer.mask_of_erase] at present
    split at present
    · cases present
    · exact present
  constructor
  · exact live.window
  · change wrap64 (buffer.nextFrame + 1) = _
    rw [live.nextFrame, fits]
    simp
  · rw [completed, index, fits]
    simp
  · rw [nextSubmit]
    exact live.nextSubmit
  · exact live.bounded
  · intro frame mask present
    exact live.ours frame mask (kept true frame mask present)
  · intro frame mask present
    exact live.theirs frame mask (kept false frame mask present)

variable {stored : UInt32} {index : Nat} {result : Lockstep.Put}

/-- An accepted mask is listed; nothing else changes. -/
theorem masks_of_put
    {isLocal : Bool}
    (put : buffer.put index stored isLocal = (result, rest)) :
    rest.window = buffer.window ∧ rest.nextFrame = buffer.nextFrame ∧
      ∀ side frame mask,
        rest.mask side frame = some mask →
        buffer.mask side frame = some mask ∨
          (side = isLocal ∧ frame = index ∧ mask = stored) := by
  by_cases accepted : result = .accepted
  · subst accepted
    obtain ⟨_, _, _, rfl⟩ := Buffer.put_accepted put
    refine ⟨rfl, rfl, ?_⟩
    intro side frame mask present
    rw [Buffer.mask_of_insert] at present
    split at present
    · next same =>
        exact Or.inr ⟨same.2, same.1, (Option.some.inj present).symm⟩
    · exact Or.inl present
  · obtain rfl := Buffer.put_refused put accepted
    exact ⟨rfl, rfl, fun _ _ _ present => Or.inl present⟩

/-- What the next input message carries. -/
theorem inputOf_next
    (live : Live game buffer steps sent taken)
    (buttons : UInt32) :
    inputOf
        ⟨.input, appendU64 game.nextSubmitFrame ++ appendU32 buttons⟩ =
      some (kInputDelay + sent.length, buttons) := by
  have fits : wrap64 game.nextSubmitFrame = kInputDelay + sent.length := by
    rw [live.nextSubmit]
    exact Nat.mod_eq_of_lt live.bounded
  simp [inputOf, fits]

theorem send
    (live : Live game buffer steps sent taken)
    {buttons : UInt32}
    (lead :
      game.nextSubmitFrame < wrap64 (game.completedFrames + kInputDelay))
    (put :
      buffer.putLocal game.nextSubmitFrame buttons = (.accepted, rest))
    (completed : after.completedFrames = game.completedFrames)
    (nextSubmit :
      after.nextSubmitFrame = wrap64 (game.nextSubmitFrame + 1)) :
    sent.length < steps.length ∧
      Live after rest steps
        (sent ++ [(kInputDelay + sent.length, buttons)]) taken := by
  have modulus : wrap64 (game.completedFrames + kInputDelay) < 2 ^ 64 :=
    Nat.mod_lt _ (by decide)
  have below :
      wrap64 (game.completedFrames + kInputDelay) ≤
        game.completedFrames + kInputDelay :=
    Nat.mod_le _ _
  rw [live.nextSubmit] at lead nextSubmit
  rw [live.completed] at lead below modulus
  have fits :
      wrap64 (kInputDelay + sent.length + 1) =
        kInputDelay + sent.length + 1 :=
    Nat.mod_eq_of_lt (by omega)
  obtain ⟨window, nextFrame, masks⟩ := masks_of_put put
  refine ⟨by omega, ?_⟩
  constructor
  · rw [window]
    exact live.window
  · rw [nextFrame]
    exact live.nextFrame
  · rw [completed]
    exact live.completed
  · rw [nextSubmit, fits]
    simp
    omega
  · simp only [List.length_append, List.length_singleton]
    omega
  · intro frame mask present
    rcases masks true frame mask present with old | ⟨_, rfl, rfl⟩
    · exact (live.ours frame mask old).mono _
    · rw [live.nextSubmit]
      exact Or.inr (by simp)
  · intro frame mask present
    rcases masks false frame mask present with old | ⟨impossible, _⟩
    · exact live.theirs frame mask old
    · cases impossible

theorem take
    (live : Live game buffer steps sent taken)
    (put : buffer.putRemote index stored = (result, rest))
    (completed : after.completedFrames = game.completedFrames)
    (nextSubmit : after.nextSubmitFrame = game.nextSubmitFrame) :
    Live after rest steps sent (taken ++ [(index, stored)]) := by
  obtain ⟨window, nextFrame, masks⟩ := masks_of_put put
  constructor
  · rw [window]
    exact live.window
  · rw [nextFrame]
    exact live.nextFrame
  · rw [completed]
    exact live.completed
  · rw [nextSubmit]
    exact live.nextSubmit
  · exact live.bounded
  · intro frame mask present
    rcases masks true frame mask present with old | ⟨impossible, _⟩
    · exact live.ours frame mask old
    · cases impossible
  · intro frame mask present
    rcases masks false frame mask present with old | ⟨_, rfl, rfl⟩
    · exact (live.theirs frame mask old).mono _
    · exact Or.inr (by simp)

/-- A round that is not touched goes on. -/
theorem of_same
    (live : Live game buffer steps sent taken)
    (completed : after.completedFrames = game.completedFrames)
    (nextSubmit : after.nextSubmitFrame = game.nextSubmitFrame) :
    Live after buffer steps sent taken where
  window := live.window
  nextFrame := live.nextFrame
  completed := completed.trans live.completed
  nextSubmit := nextSubmit.trans live.nextSubmit
  bounded := live.bounded
  ours := live.ours
  theirs := live.theirs

end Live

namespace Act

variable
  {R : Type}
  {env : Env R}
  {label : Label}
  {side : Side}
  {party after : Party R}
  {output : Option Message}

/-- Every act is one turn of its round. -/
theorem turn
    (act : Act env label party output after)
    (stopped : party.Stopped)
    (steady : party.Steady)
    (fresh :
      party.game.state = .returning →
      ∀ message ∈ label.input,
        message.kind = .start → party.game.inputs = none) :
    Turn label output party after := by
  cases act with
  | drift next ours theirs owed ended =>
      exact .rest rfl rfl (by simp) (by simp [Label.input])
        (Or.inl (stopped ended).2)
  | @frame _ frame inputs runtime ran result ready step due =>
      obtain ⟨buffer, present, popped⟩ := ready.popped
      exact .frame frame buffer inputs ready.running present popped
        (by simp [Account.add, Party.stamp]) (by simp [Account.add, Party.stamp])
        (by simp) rfl (Or.inr ⟨rfl, rfl, rfl⟩)
  | @digest _ frame inputs runtime ran result hash ready step due copied
      agreement =>
      obtain ⟨buffer, present, popped⟩ := ready.popped
      exact .frame frame buffer inputs ready.running present popped
        (by simp [Account.add, Party.stamp])
        (by simp [Account.add, Party.stamp, nextRound])
        (by simp) rfl (Or.inr ⟨rfl, rfl, rfl⟩)
  | @clash _ frame inputs runtime ran result hash reason ready step due copied
      clash cause =>
      obtain ⟨buffer, present, popped⟩ := ready.popped
      exact .frame frame buffer inputs ready.running present popped
        (by simp [Account.add, Party.stamp])
        (by simp [Account.add, Party.stamp, nextRound])
        (by simp) rfl (Or.inl rfl)
  | @frameFailed _ frame inputs runtime ready failed =>
      obtain ⟨buffer, present, popped⟩ := ready.popped
      exact .frame frame buffer inputs ready.running present popped
        (by simp [Account.add, Party.stamp])
        (by simp [Account.add, Party.stamp])
        (by simp) rfl (Or.inl rfl)
  | @digestFailed _ frame inputs runtime ran result ready step due failed =>
      obtain ⟨buffer, present, popped⟩ := ready.popped
      exact .frame frame buffer inputs ready.running present popped
        (by simp [Account.add, Party.stamp])
        (by simp [Account.add, Party.stamp])
        (by simp) rfl (Or.inl rfl)
  | @submitted _ before rest buttons owed running unpaused lead present stored =>
      exact .submit before rest buttons present lead stored
        (by simp [Account.add]) (by simp [Account.add, Party.stamp, nextRound])
        rfl rfl rfl rfl rfl
  | started owed home startable loaded =>
      exact .begin (by simp [Account.add])
        (by simp [Account.add, Party.stamp, nextRound]) (by simp)
        (by simp [Label.input]) (Or.inr ⟨rfl, rfl, rfl⟩)
  | startLost owed home startable refuses =>
      exact .begin (by simp [Account.add])
        (by simp [Account.add, Party.stamp, nextRound]) (by simp)
        (by simp [Label.input]) (Or.inl rfl)
  | startIdle owed home startable unloaded =>
      have configured : party.game.localConfigured = true := by
        simp_all [Game.Startable, Game.configsMatch]
      have alive : party.game.state ≠ .ended := by
        rcases home with state | state <;> simp [state]
      have loaded := steady.loaded alive configured
      simp [unloaded] at loaded
  | startHeard message owed kind accepts loaded =>
      exact .begin (by simp [Account.add])
        (by simp [Account.add, Party.stamp, nextRound, kind]) (by simp)
        (by simp [Label.input, kind]) (Or.inr ⟨rfl, rfl, rfl⟩)
  | @inputHeard _ before rest result message owed kind accepts present stored
      unconflicted inside =>
      have running : party.game.state = .running := by
        simp_all [Game.Accepts]
      exact .take message kind running rfl rfl (by simp [Account.add])
        (by simp [Account.add, Party.stamp, nextRound, kind])
        (Or.inr ⟨before, result, rest, present, stored, rfl, rfl, rfl⟩)
  | @inputRefused _ before rest result message owed kind accepts present stored
      bad =>
      have running : party.game.state = .running := by
        simp_all [Game.Accepts]
      exact .take message kind running rfl rfl (by simp [Account.add])
        (by simp [Account.add, Party.stamp, nextRound, kind]) (Or.inl rfl)
  | ignored message owed alive ignores =>
      by_cases start : message.kind = .start
      · have returning := ignores.returning_of_start start (steady.loaded alive)
        exact .begin (by simp [Account.add])
          (by simp [Account.add, Party.stamp, nextRound, start]) (by simp)
          (by simp [Label.input, start])
          (Or.inl (fresh returning message (by simp [Label.input]) start))
      · have idle : message.kind = .input → party.game.state ≠ .running := by
          intro kind running
          cases ignores <;> simp_all
        exact .rest (by simp [Account.add])
          (by simp [Account.add, Party.stamp, nextRound, start]) (by simp)
          (by simpa [Label.input] using idle) (Or.inr ⟨rfl, rfl, rfl⟩)
  | refused message reason owed alive home refusal blames =>
      by_cases start : message.kind = .start
      · exact .begin (by simp [Account.add])
          (by simp [Account.add, Party.stamp, nextRound, start]) (by simp)
          (by simp [Label.input, start]) (Or.inl rfl)
      · by_cases taken :
          message.kind = .input ∧ party.game.state = .running
        · exact .take message taken.1 taken.2 rfl rfl (by simp [Account.add])
            (by simp [Account.add, Party.stamp, nextRound, start]) (Or.inl rfl)
        · exact .rest (by simp [Account.add])
            (by simp [Account.add, Party.stamp, nextRound, start]) (by simp)
            (by simpa [Label.input] using taken) (Or.inl rfl)
  | _ =>
      refine .rest ?_ ?_ ?_ ?_ ?_ <;>
        simp_all [Account.add, Party.stamp, nextRound, Label.input]

/-- What an act adds to the records of a side fits its round. -/
theorem ledger_bounds
    (act : Act env label party output after)
    (turn : Turn label output party after)
    (before : party.Ledger side) :
    (∀ step ∈ (accountOf after.log).steps, step.1 ≤ after.stamp.round) ∧
      (∀ letter ∈ (accountOf after.log).posts,
        letter.stamp.round ≤ after.stamp.round) ∧
      (∀ receipt ∈ (accountOf after.log).mail,
        receipt.stamp.round ≤ after.stamp.round) := by
  have later : party.stamp.round ≤ after.stamp.round := by
    cases turn <;> omega
  refine ⟨?_, ?_, ?_⟩
  · intro step member
    have known :
        step ∈ (accountOf party.log).steps ∨ step.1 = party.stamp.round := by
      cases turn with
      | frame frame buffer rest running present popped steps =>
          rw [steps] at member
          rcases List.mem_append.mp member with old | new
          · exact Or.inl old
          · rw [List.mem_singleton.mp new]
            exact Or.inr rfl
      | rest steps =>
          exact Or.inl (steps ▸ member)
      | begin steps =>
          exact Or.inl (steps ▸ member)
      | submit buffer rest buttons present lead put steps =>
          exact Or.inl (steps ▸ member)
      | take message kind running taken sent steps =>
          exact Or.inl (steps ▸ member)
    rcases known with old | new
    · exact (before.stepped step old).trans later
    · omega
  · intro letter member
    rw [act.posts_eq] at member
    rcases List.mem_append.mp member with old | new
    · exact (before.sent letter old).trans later
    · obtain ⟨message, _, rfl⟩ := List.mem_map.mp new
      exact Nat.le_refl _
  · intro receipt member
    rw [act.mail_eq] at member
    rcases List.mem_append.mp member with old | new
    · exact (before.taken receipt old).trans later
    · obtain ⟨message, _, rfl⟩ := List.mem_map.mp new
      exact later

variable {Item : Type} {read : Message → Option Item}

theorem sent_same
    (act : Act env label party output after)
    (quiet : ∀ message ∈ output, read message = none)
    (round : Nat) :
    sentIn read round (accountOf after.log).posts =
      sentIn read round (accountOf party.log).posts := by
  rw [act.posts_eq]
  exact sentIn_of_quiet _ quiet

theorem taken_same
    (act : Act env label party output after)
    (quiet :
      ∀ message ∈ label.input,
        party.game.state = .running → read message = none)
    (round : Nat) :
    takenIn read round (accountOf after.log).mail =
      takenIn read round (accountOf party.log).mail := by
  rw [act.mail_eq]
  exact takenIn_of_quiet _ quiet

/-- Every round of a side stays as it should. -/
theorem ledger_book
    (act : Act env label party output after)
    (turn : Turn label output party after)
    (seated : party.Seated side)
    (before : party.Ledger side)
    (round : Nat) :
    Book side (stepsIn round (accountOf after.log).steps)
      (sentIn inputOf round (accountOf after.log).posts)
      (takenIn inputOf round (accountOf after.log).mail) := by
  have book := before.book round
  cases turn with
  | rest steps _ noOutput noInput inputs =>
      rw [steps,
        act.sent_same (fun message sent =>
          inputOf_of_kind (noOutput message sent)),
        act.taken_same (fun message taken running =>
          inputOf_of_kind (fun kind => noInput message taken kind running))]
      exact book
  | begin steps _ noOutput noInput inputs =>
      rw [steps,
        act.sent_same (fun message sent =>
          inputOf_of_kind (noOutput message sent)),
        act.taken_same (fun message taken _ =>
          inputOf_of_kind (noInput message taken))]
      exact book
  | frame frame buffer rest running present popped steps _ noOutput deaf
      inputs =>
      rw [steps,
        act.sent_same (fun message sent =>
          inputOf_of_kind (noOutput message sent)),
        act.taken_same (by simp [deaf]), stepsIn_append]
      by_cases current : party.stamp.round = round
      · subst current
        obtain ⟨index, ours, theirs⟩ := (before.live buffer present).popped popped
        have role : party.game.role = side.role := by
          rcases seated with ⟨role, _⟩ | ⟨state, _⟩
          · exact role
          · simp [running] at state
        have shape :
            stepsIn party.stamp.round
                [(party.stamp.round, party.game.frameInput frame)] =
              [party.game.frameInput frame] := by
          simp [stepsIn]
        rw [shape]
        refine book.step index ?_ ?_
        · cases side <;>
            simpa [Game.frameInput, FrameInput.maskOf, role, Side.role]
              using ours
        · cases side <;>
            simpa [Game.frameInput, FrameInput.maskOf, role, Side.role,
              Side.other] using theirs
      · simpa [stepsIn, current] using book
  | submit buffer rest buttons present lead put steps same sends deaf inputs
      completed nextSubmit =>
      rw [steps, act.taken_same (by simp [deaf]), act.posts_eq, sends]
      by_cases current : party.stamp.round = round
      · subst current
        have live := before.live buffer present
        obtain ⟨behind, _⟩ := live.send lead put completed nextSubmit
        have shape :
            sentIn inputOf party.stamp.round
                [⟨after.stamp, ⟨.input,
                  appendU64 party.game.nextSubmitFrame ++
                    appendU32 buttons⟩⟩] =
              [(kInputDelay +
                (sentIn inputOf party.stamp.round
                  (accountOf party.log).posts).length, buttons)] := by
          simp [sentIn, same, live.inputOf_next buttons]
        simp only [Option.toList_some, List.map_singleton, sentIn_append,
          shape]
        exact book.send behind buttons
      · simpa [sentIn, same, current] using book
  | take message kind running taken sends steps same inputs =>
      rw [steps, act.sent_same (by simp [sends]), act.mail_eq, takenIn_append]
      exact book.take _

/-- A round that goes on stays as it should. -/
theorem ledger_live
    (act : Act env label party output after)
    (turn : Turn label output party after)
    (before : party.Ledger side)
    (buffer : Buffer)
    (present : after.game.inputs = some buffer) :
    Live after.game buffer
      (stepsIn after.stamp.round (accountOf after.log).steps)
      (sentIn inputOf after.stamp.round (accountOf after.log).posts)
      (takenIn inputOf after.stamp.round (accountOf after.log).mail) := by
  cases turn with
  | rest steps same noOutput noInput inputs =>
      rcases inputs with none | ⟨kept, completed, nextSubmit⟩
      · rw [none] at present
        cases present
      · rw [steps, same,
          act.sent_same (fun message sent =>
            inputOf_of_kind (noOutput message sent)),
          act.taken_same (fun message taken running =>
            inputOf_of_kind (fun kind => noInput message taken kind running))]
        exact (before.live buffer (kept ▸ present)).of_same completed
          nextSubmit
  | begin steps next noOutput noInput inputs =>
      rcases inputs with none | ⟨fresh, completed, nextSubmit⟩
      · rw [none] at present
        cases present
      · rw [fresh] at present
        cases present
        rw [steps, next,
          act.sent_same (fun message sent =>
            inputOf_of_kind (noOutput message sent)),
          act.taken_same (fun message taken _ =>
            inputOf_of_kind (noInput message taken)),
          stepsIn_of_lt (fun step member =>
            Nat.lt_succ_of_le (before.stepped step member)),
          sentIn_of_lt (fun letter member =>
            Nat.lt_succ_of_le (before.sent letter member)),
          takenIn_of_lt (fun receipt member =>
            Nat.lt_succ_of_le (before.taken receipt member))]
        exact Live.fresh completed nextSubmit
  | frame frame old rest running had popped steps same noOutput deaf inputs =>
      rcases inputs with none | ⟨kept, completed, nextSubmit⟩
      · rw [none] at present
        cases present
      · rw [kept] at present
        cases present
        rw [steps, same,
          act.sent_same (fun message sent =>
            inputOf_of_kind (noOutput message sent)),
          act.taken_same (by simp [deaf]), stepsIn_append]
        have shape :
            stepsIn party.stamp.round
                [(party.stamp.round, party.game.frameInput frame)] =
              [party.game.frameInput frame] := by
          simp [stepsIn]
        rw [shape]
        exact (before.live old had).step (before.book _) popped completed
          nextSubmit _
  | submit old rest buttons had lead put steps same sends deaf inputs completed
      nextSubmit =>
      rw [inputs] at present
      cases present
      have live := before.live old had
      rw [steps, same, act.taken_same (by simp [deaf]), act.posts_eq, sends,
        sentIn_append]
      have shape :
          sentIn inputOf party.stamp.round
              ((some (⟨.input,
                appendU64 party.game.nextSubmitFrame ++
                  appendU32 buttons⟩ : Message)).toList.map
                  (fun message => ⟨after.stamp, message⟩)) =
            [(kInputDelay +
              (sentIn inputOf party.stamp.round
                (accountOf party.log).posts).length, buttons)] := by
        simp [sentIn, same, live.inputOf_next buttons]
      rw [shape]
      exact (live.send lead put completed nextSubmit).2
  | take message kind running taken sends steps same inputs =>
      rcases inputs with none | ⟨old, result, rest, had, put, kept, completed,
        nextSubmit⟩
      · rw [none] at present
        cases present
      · rw [kept] at present
        cases present
        rw [steps, same, act.sent_same (by simp [sends]), act.mail_eq, taken,
          takenIn_append]
        have shape :
            takenIn inputOf party.stamp.round
                ([message].map
                  (fun message => ⟨party.game.state, party.stamp, message⟩)) =
              [(bigEndianU64 message.payload,
                bigEndianU32 (message.payload.drop 8))] := by
          simp [takenIn, inputOf, running, kind]
        rw [shape]
        exact (before.live old had).take put completed nextSubmit

/-- A side keeps its ledger. -/
theorem ledger
    (act : Act env label party output after)
    (turn : Turn label output party after)
    (seated : party.Seated side)
    (before : party.Ledger side) :
    after.Ledger side := by
  obtain ⟨stepped, sent, taken⟩ := act.ledger_bounds turn before
  refine ⟨stepped, sent, taken, ?_, ?_⟩
  · intro round
    exact act.ledger_book turn seated before round
  · intro buffer present
    exact act.ledger_live turn before buffer present

end Act

end FlyNes.LanMvp
