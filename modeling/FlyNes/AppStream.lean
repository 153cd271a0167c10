import FlyNes.AppFrame

namespace FlyNes.Wire

open ByteString
open FlyNes.Dual (WireStatus loadAt)

/-!
# Assembling a stream of records

The assembler buffers the bytes of a reliable stream, chunk by chunk, and hands
out each record as soon as it is whole.  Its buffer has room for one record of the
largest size.  A cursor over the whole stream is the other way to read the same
records: this module proves that every way of cutting a stream into chunks that
fit the free room of the buffer gives the records that the cursor gives.
-/

inductive StreamAssemblyResult where
  | needMore
  | produced
  | cleanFin
  | closed
  | backpressure
  | protocolViolation
  | invalidArgument
deriving DecidableEq

/-- A record that was handed out. -/
structure OwnedAppFrame where
  frameTypeTag : Nat
  typeNamespace : FrameTypeNamespace
  typeName : String
  objectBytes : Bytes
  objectHash : Block 32
  appFrameHash : Block 32
deriving DecidableEq

def AppFrame.owned (frame : AppFrame) : OwnedAppFrame where
  frameTypeTag := frame.frameTypeTag
  typeNamespace := frame.typeNamespace
  typeName := frame.typeName
  objectBytes := frame.objectBytes
  objectHash := frame.objectHash
  appFrameHash := frame.appFrameHash.getD (Block.zero 32)

/-- What stands at the front of a buffer. -/
inductive BufferFront where
  | incomplete
  | failed (result : StreamAssemblyResult)
  | whole (parsed : AppFrame) (total : Nat)

/-- Look at the front of a buffer for a whole record. -/
def frontOf (channel : QuicChannel) (buffer : Bytes) : BufferFront :=
  if buffer.length < 4 then
    .incomplete
  else
    let frameLength := loadAt 4 0 buffer
    if frameLength < 2 then
      .failed .protocolViolation
    else if frameLength - 2 > maxObjectBytes channel then
      .failed .backpressure
    else if buffer.length < 4 + frameLength then
      .incomplete
    else
      match parseAppFrame channel (buffer.take (4 + frameLength)) with
      | .error _ => .failed .protocolViolation
      | .ok parsed => .whole parsed (4 + frameLength)

variable {channel : QuicChannel}

/-- A whole record at the front is a part of the buffer. -/
theorem frontOf_whole
    {buffer : Bytes}
    {parsed : AppFrame}
    {total : Nat}
    (front : frontOf channel buffer = .whole parsed total) :
    4 ≤ buffer.length ∧ total = 4 + loadAt 4 0 buffer ∧
      total ≤ buffer.length ∧
      ¬ loadAt 4 0 buffer < 2 ∧
      ¬ loadAt 4 0 buffer - 2 > maxObjectBytes channel ∧
      parseAppFrame channel (buffer.take total) = .ok parsed := by
  unfold frontOf at front
  dsimp only at front
  split at front
  · cases front
  · split at front
    · cases front
    · split at front
      · cases front
      · split at front
        · cases front
        · split at front
          · cases front
          · rename_i enough declared fits inside _ _ found
            cases front
            exact ⟨Nat.le_of_not_lt enough, rfl, Nat.le_of_not_lt inside,
              declared, fits, found⟩

/-- What is taken out of a buffer: records, the bytes left, and how it failed. -/
structure Drained where
  frames : List OwnedAppFrame
  rest : Bytes
  failure : Option StreamAssemblyResult

/-- Put a record in front of those that are taken out later. -/
def Drained.cons (frame : OwnedAppFrame) (later : Drained) : Drained :=
  { later with frames := frame :: later.frames }

/-- Take whole records out of a buffer, one after another. -/
def drain (channel : QuicChannel) (buffer : Bytes) : Drained :=
  match _front : frontOf channel buffer with
  | .incomplete => ⟨[], buffer, none⟩
  | .failed result => ⟨[], [], some result⟩
  | .whole parsed total =>
      (drain channel (buffer.drop total)).cons parsed.owned
termination_by buffer.length
decreasing_by
  have bounds := frontOf_whole _front
  rw [List.length_drop]
  omega

structure AppStreamAssembler where
  channel : QuicChannel
  buffer : Bytes := []
  closed : Bool := false

namespace AppStreamAssembler

/-- How many bytes the buffer may hold. -/
def hardLimit (self : AppStreamAssembler) : Nat :=
  maxObjectBytes self.channel + 6

/-- Drop the buffer and close the stream. -/
def fail (self : AppStreamAssembler) : AppStreamAssembler :=
  { self with buffer := [], closed := true }

/-- Take a chunk: the records it completes, and the result. -/
def data
    (self : AppStreamAssembler)
    (bytes : Bytes) :
    AppStreamAssembler × StreamAssemblyResult × List OwnedAppFrame :=
  if self.closed then
    (self, .closed, [])
  else if bytes.length > self.hardLimit ∨
      self.buffer.length > self.hardLimit - bytes.length then
    (self.fail, .backpressure, [])
  else
    let drained := drain self.channel (self.buffer ++ bytes)
    match drained.failure with
    | some failure => (self.fail, failure, drained.frames)
    | none =>
        ({ self with buffer := drained.rest },
          if drained.frames = [] then .needMore else .produced, drained.frames)

/-- End the stream. -/
def finish
    (self : AppStreamAssembler) : AppStreamAssembler × StreamAssemblyResult :=
  if self.closed then
    (self, .closed)
  else if self.buffer ≠ [] then
    (self.fail, .protocolViolation)
  else
    ({ self with closed := true }, .cleanFin)

/-- Take chunks one after another: the results and all records, in order. -/
def feed :
    AppStreamAssembler → List Bytes →
      AppStreamAssembler × List StreamAssemblyResult × List OwnedAppFrame
  | self, [] => (self, [], [])
  | self, chunk :: later =>
      let taken := self.data chunk
      let final := feed taken.1 later
      (final.1, taken.2.1 :: final.2.1, taken.2.2 ++ final.2.2)

/-- A chunk fits the free room of the buffer, if the stream is still open. -/
def Fits (self : AppStreamAssembler) (chunk : Bytes) : Prop :=
  self.closed = true ∨ self.buffer.length + chunk.length ≤ self.hardLimit

/-- Every chunk fits when its turn comes. -/
def FitsAll : AppStreamAssembler → List Bytes → Prop
  | _, [] => True
  | self, chunk :: later =>
      self.Fits chunk ∧ FitsAll (self.data chunk).1 later

end AppStreamAssembler

variable {frame : AppFrame} {cursor following : AppFrameCursor}

/-- A cursor that read a record is behind it, and inside its bytes. -/
theorem nextAppFrame_advances
    (next : nextAppFrame cursor = .ok (some (frame, following))) :
    cursor.offset < cursor.bytes.length ∧
      ∃ consumed,
        decodeRecord (some cursor.channel) (cursor.bytes.drop cursor.offset) =
            .ok (frame, consumed) ∧
          following = { cursor with offset := cursor.offset + consumed } := by
  unfold nextAppFrame at next
  split at next
  · cases next
  · split at next
    · cases next
    · rename_i inside unfinished
      split at next
      · cases next
      · rename_i frame consumed decoded
        cases next
        exact ⟨by omega, consumed, decoded, rfl⟩

variable {cursor : AppFrameCursor}

/-- A cursor fails in front of bytes that are no record. -/
theorem nextAppFrame_failed
    {status : WireStatus}
    (failed : nextAppFrame cursor = .error status) :
    cursor.offset ≠ cursor.bytes.length ∧
      ∀ result,
        decodeRecord (some cursor.channel) (cursor.bytes.drop cursor.offset) ≠
          .ok result := by
  unfold nextAppFrame at failed
  split at failed
  · rename_i outside
    refine ⟨Nat.ne_of_gt outside, ?_⟩
    rw [List.drop_eq_nil_of_le (Nat.le_of_lt outside)]
    intro result decoded
    simp [decodeRecord] at decoded
  · split at failed
    · cases failed
    · rename_i unfinished
      refine ⟨unfinished, ?_⟩
      split at failed
      · rename_i undecoded
        intro result decoded
        rw [undecoded] at decoded
        cases decoded
      · cases failed

/-- A stream ends at the end of its bytes. -/
theorem nextAppFrame_ended
    (ended : nextAppFrame cursor = .ok none) :
    cursor.offset = cursor.bytes.length := by
  unfold nextAppFrame at ended
  split at ended
  · cases ended
  · split at ended
    · rename_i finished
      exact finished
    · split at ended
      · cases ended
      · cases ended

/-- All records that a cursor reads, and how it fails unless the stream ends. -/
def readFrames (cursor : AppFrameCursor) : List AppFrame × Option WireStatus :=
  match _next : nextAppFrame cursor with
  | .error status => ([], some status)
  | .ok none => ([], none)
  | .ok (some (frame, following)) =>
      let later := readFrames following
      (frame :: later.1, later.2)
termination_by cursor.bytes.length - cursor.offset
decreasing_by
  obtain ⟨inside, consumed, decoded, rfl⟩ := nextAppFrame_advances _next
  have length := (decodeRecord_ok decoded).2.1
  dsimp only
  omega

/-- At the end of its bytes a cursor reads nothing. -/
theorem readFrames_ended
    (ended : nextAppFrame cursor = .ok none) :
    readFrames cursor = ([], none) := by
  rw [readFrames]
  split
  · rename_i found
    rw [ended] at found
    cases found
  · rfl
  · rename_i found
    rw [ended] at found
    cases found

/-- A cursor reads one record and then those behind it. -/
theorem readFrames_advanced
    (next : nextAppFrame cursor = .ok (some (frame, following))) :
    readFrames cursor =
      (frame :: (readFrames following).1, (readFrames following).2) := by
  rw [readFrames]
  split
  · rename_i found
    rw [next] at found
    cases found
  · rename_i found
    rw [next] at found
    cases found
  · rename_i found
    rw [next] at found
    cases found
    rfl

section Draining

variable {channel : QuicChannel} {buffer : Bytes} {parsed : AppFrame} {total : Nat}

/-- The length field does not change when bytes follow it. -/
theorem loadAt_append
    {width : Nat}
    (enough : width ≤ buffer.length)
    (later : Bytes) :
    loadAt width 0 (buffer ++ later) = loadAt width 0 buffer := by
  simp [loadAt, List.take_append_of_le_length enough]

/-- A whole record stays at the front when bytes follow it. -/
theorem frontOf_whole_append
    (front : frontOf channel buffer = .whole parsed total)
    (later : Bytes) :
    frontOf channel (buffer ++ later) = .whole parsed total := by
  obtain ⟨enough, size, inside, declared, fits, found⟩ := frontOf_whole front
  subst size
  have length : (buffer ++ later).length = buffer.length + later.length :=
    List.length_append
  unfold frontOf
  simp only [loadAt_append enough, length]
  rw [if_neg (by omega), if_neg declared, if_neg fits, if_neg (by omega),
    List.take_append_of_le_length inside, found]

variable {result : StreamAssemblyResult}

/-- A failure stays when bytes follow it. -/
theorem frontOf_failed_append
    (front : frontOf channel buffer = .failed result)
    (later : Bytes) :
    frontOf channel (buffer ++ later) = .failed result := by
  have length : (buffer ++ later).length = buffer.length + later.length :=
    List.length_append
  unfold frontOf at front ⊢
  dsimp only at front ⊢
  split at front
  · cases front
  · rename_i enough
    simp only [loadAt_append (Nat.le_of_not_lt enough), length]
    rw [if_neg (by omega)]
    split at front
    · rename_i short
      rw [if_pos short]
      exact front
    · rename_i declared
      rw [if_neg declared]
      split at front
      · rename_i large
        rw [if_pos large]
        exact front
      · rename_i fits
        rw [if_neg fits]
        split at front
        · cases front
        · rename_i inside
          rw [if_neg (by omega),
            List.take_append_of_le_length (Nat.le_of_not_lt inside)]
          exact front

/-- Nothing is taken out of a buffer without a whole record. -/
theorem drain_incomplete
    (front : frontOf channel buffer = .incomplete) :
    drain channel buffer = ⟨[], buffer, none⟩ := by
  rw [drain]
  split
  · rfl
  · rename_i found
    rw [front] at found
    cases found
  · rename_i found
    rw [front] at found
    cases found

theorem drain_failed
    (front : frontOf channel buffer = .failed result) :
    drain channel buffer = ⟨[], [], some result⟩ := by
  rw [drain]
  split
  · rename_i found
    rw [front] at found
    cases found
  · rename_i found
    rw [front] at found
    cases found
    rfl
  · rename_i found
    rw [front] at found
    cases found

/-- A whole record is taken out, and the rest after it. -/
theorem drain_whole
    (front : frontOf channel buffer = .whole parsed total) :
    drain channel buffer =
      (drain channel (buffer.drop total)).cons parsed.owned := by
  rw [drain]
  split
  · rename_i found
    rw [front] at found
    cases found
  · rename_i found
    rw [front] at found
    cases found
  · rename_i found
    rw [front] at found
    cases found
    rfl

/-- What is taken out of more bytes, after a first part was drained. -/
def Drained.andThen
    (first : Drained)
    (channel : QuicChannel)
    (later : Bytes) : Drained :=
  match first.failure with
  | some _ => first
  | none =>
      let second := drain channel (first.rest ++ later)
      { second with frames := first.frames ++ second.frames }

theorem Drained.cons_andThen
    (first : Drained)
    (frame : OwnedAppFrame)
    (channel : QuicChannel)
    (later : Bytes) :
    (first.cons frame).andThen channel later =
      (first.andThen channel later).cons frame := by
  obtain ⟨frames, rest, failure⟩ := first
  cases failure with
  | none =>
      rfl
  | some result =>
      rfl

/-- Draining a buffer in one go, or a first part of it and then the rest. -/
theorem drain_append
    (channel : QuicChannel)
    (buffer later : Bytes) :
    drain channel (buffer ++ later) =
      (drain channel buffer).andThen channel later := by
  induction size : buffer.length using Nat.strongRecOn generalizing buffer with
  | ind length inductionHypothesis =>
      cases front : frontOf channel buffer with
      | incomplete =>
          rw [drain_incomplete front]
          rfl
      | failed result =>
          rw [drain_failed front,
            drain_failed (frontOf_failed_append front later)]
          rfl
      | whole parsed total =>
          obtain ⟨enough, _, inside, _⟩ := frontOf_whole front
          have shorter : (buffer.drop total).length < length := by
            have bounds := frontOf_whole front
            rw [List.length_drop]
            omega
          have tail := inductionHypothesis _ shorter (buffer.drop total) rfl
          rw [drain_whole front, drain_whole (frontOf_whole_append front later),
            List.drop_append_of_le_length inside, tail, Drained.cons_andThen]

/-- A cursor in front of a whole record reads it. -/
theorem decodeRecord_of_whole
    (front : frontOf channel buffer = .whole parsed total) :
    decodeRecord (some channel) buffer = .ok (parsed, total) := by
  obtain ⟨_, _, inside, _, _, found⟩ := frontOf_whole front
  obtain ⟨record, fits, classified⟩ := decodeExactly_eq_ok_iff.mp found
  obtain ⟨_, _, info, known, _⟩ := classifyRecord_ok classified
  have decoded :=
    decodeRecord_recordBytes (frameTagInfo_lt known) fits (buffer.drop total)
  have length : total = 6 + parsed.objectBytes.length := by
    have taken := congrArg List.length record
    rw [List.length_take_of_le inside, length_recordBytes] at taken
    exact taken
  rw [← record, List.take_append_drop, classified] at decoded
  rw [decoded, length]
  rfl

/-- A cursor reads no record where the assembler sees none. -/
theorem whole_of_decodeRecord
    (decoded : decodeRecord (some channel) buffer = .ok (parsed, total)) :
    frontOf channel buffer = .whole parsed total := by
  obtain ⟨shape, length, fits, classified⟩ := decodeRecord_ok decoded
  obtain ⟨_, _, info, known, _⟩ := classifyRecord_ok classified
  have limit := maxBody_le (some channel)
  unfold absoluteMaxObjectBytes at limit
  have declared : loadAt 4 0 buffer = 2 + parsed.objectBytes.length := by
    rw [shape]
    exact loadAt_recordBytes_length (by omega) _
  have size : 6 + parsed.objectBytes.length ≤ buffer.length := by
    have counted := congrArg List.length shape
    rw [List.length_append, length_recordBytes] at counted
    omega
  have whole : 4 + (2 + parsed.objectBytes.length) = total := by
    omega
  have taken :
      buffer.take total =
        recordBytes parsed.frameTypeTag parsed.objectBytes := by
    rw [shape, List.take_left']
    rw [length_recordBytes, length]
  have found : parseAppFrame channel (buffer.take total) = .ok parsed :=
    decodeExactly_eq_ok_iff.mpr ⟨taken, fits, classified⟩
  have small : parsed.objectBytes.length ≤ maxObjectBytes channel := fits
  unfold frontOf
  simp only [declared, whole, found]
  rw [if_neg (by omega), if_neg (by omega), if_neg (by omega), if_neg (by omega)]

/-- Where no whole record stands in front, no record is taken out. -/
theorem drain_frames_nil
    (nowhere : ∀ parsed total, frontOf channel buffer ≠ .whole parsed total) :
    (drain channel buffer).frames = [] ∧
      ((drain channel buffer).failure = none →
        (drain channel buffer).rest = buffer) := by
  cases front : frontOf channel buffer with
  | incomplete =>
      rw [drain_incomplete front]
      exact ⟨rfl, fun _ => rfl⟩
  | failed result =>
      rw [drain_failed front]
      exact ⟨rfl, fun failure => by cases failure⟩
  | whole parsed total =>
      exact (nowhere parsed total front).elim

/--
The records of a cursor are those that are taken out of its bytes, and the stream
ends cleanly exactly if nothing is left and nothing failed.
-/
theorem readFrames_eq_drain
    (cursor : AppFrameCursor)
    (inside : cursor.offset ≤ cursor.bytes.length) :
    let drained := drain cursor.channel (cursor.bytes.drop cursor.offset)
    (readFrames cursor).1.map AppFrame.owned = drained.frames ∧
      ((readFrames cursor).2 = none ↔
        drained.failure = none ∧ drained.rest = []) := by
  induction size : cursor.bytes.length - cursor.offset using Nat.strongRecOn
    generalizing cursor with
  | ind length inductionHypothesis =>
      dsimp only
      rw [readFrames]
      split
      · rename_i status failed
        obtain ⟨unfinished, undecoded⟩ := nextAppFrame_failed failed
        obtain ⟨frames, rest⟩ :=
          drain_frames_nil fun parsed total front =>
            undecoded (parsed, total) (decodeRecord_of_whole front)
        refine ⟨frames.symm, ?_⟩
        constructor
        · intro clean
          cases clean
        · rintro ⟨failure, empty⟩
          rw [rest failure, List.drop_eq_nil_iff] at empty
          omega
      · rename_i ended
        have empty : cursor.bytes.drop cursor.offset = [] := by
          rw [nextAppFrame_ended ended, List.drop_length]
        have front : frontOf cursor.channel [] = .incomplete := by
          simp [frontOf]
        rw [empty, drain_incomplete front]
        simp
      · rename_i frame following advanced
        obtain ⟨_, consumed, decoded, rfl⟩ := nextAppFrame_advances advanced
        obtain ⟨shape, counted, _⟩ := decodeRecord_ok decoded
        have bounded : cursor.offset + consumed ≤ cursor.bytes.length := by
          have lengths := congrArg List.length shape
          rw [List.length_append, length_recordBytes, List.length_drop,
            List.length_drop, List.length_drop] at lengths
          omega
        have shorter :
            cursor.bytes.length - (cursor.offset + consumed) < length := by
          omega
        have tail := inductionHypothesis _ shorter
          { cursor with offset := cursor.offset + consumed } bounded rfl
        rw [drain_whole (whole_of_decodeRecord decoded), List.drop_drop]
        refine ⟨?_, tail.2⟩
        rw [List.map_cons, tail.1]
        rfl

end Draining

namespace AppStreamAssembler

variable {self : AppStreamAssembler}

/-- What an assembler holds after the bytes of a stream. -/
structure Holds
    (assembler : AppStreamAssembler)
    (channel : QuicChannel)
    (stream : Bytes)
    (output : List OwnedAppFrame) : Prop where
  onChannel : assembler.channel = channel
  handedOut : output = (drain channel stream).frames
  running :
    assembler.closed = false →
      (drain channel stream).failure = none ∧
        assembler.buffer = (drain channel stream).rest
  stopped :
    assembler.closed = true → (drain channel stream).failure ≠ none

/-- A result that does not end the stream. -/
def GoesOn (result : StreamAssemblyResult) : Prop :=
  result = .needMore ∨ result = .produced

variable {channel : QuicChannel} {stream : Bytes} {output : List OwnedAppFrame}

/-- One chunk that fits: the assembler goes on with the stream, or stops. -/
theorem Holds.data
    (holds : self.Holds channel stream output)
    (chunk : Bytes)
    (fits : self.Fits chunk) :
    (self.data chunk).1.Holds channel (stream ++ chunk)
        (output ++ (self.data chunk).2.2) ∧
      ((drain channel (stream ++ chunk)).failure = none →
        GoesOn (self.data chunk).2.1) := by
  have split := drain_append channel stream chunk
  have same := holds.onChannel
  have frames := holds.handedOut
  subst same frames
  cases shut : self.closed with
  | true =>
      -- A stopped assembler answers nothing, and the stream stays failed.
      obtain ⟨failure, failed⟩ := Option.ne_none_iff_exists'.mp (holds.stopped shut)
      have whole :
          drain self.channel (stream ++ chunk) = drain self.channel stream := by
        rw [split, Drained.andThen, failed]
      rw [AppStreamAssembler.data, if_pos shut, whole, failed]
      refine ⟨⟨rfl, ?_, ?_, ?_⟩, ?_⟩
      · rw [List.append_nil, whole]
      · intro running
        rw [shut] at running
        cases running
      · intro _
        rw [whole]
        exact holds.stopped shut
      · intro clean
        cases clean
  | false =>
      obtain ⟨unfailed, buffer⟩ := holds.running shut
      have fitting :
          ¬ (chunk.length > self.hardLimit ∨
            self.buffer.length > self.hardLimit - chunk.length) := by
        rcases fits with closed | room
        · rw [shut] at closed
          cases closed
        · omega
      rw [Drained.andThen, unfailed] at split
      dsimp only at split
      rw [← buffer] at split
      rw [AppStreamAssembler.data, if_neg (by simp [shut]), if_neg fitting, split]
      dsimp only
      cases outcome :
          (drain self.channel (self.buffer ++ chunk)).failure with
      | some failure =>
          refine ⟨⟨rfl, ?_, ?_, ?_⟩, ?_⟩
          · rw [split]
          · intro running
            cases running
          · intro _
            rw [split]
            simp [outcome]
          · intro clean
            cases clean
      | none =>
          refine ⟨⟨rfl, ?_, ?_, ?_⟩, ?_⟩
          · rw [split]
          · intro _
            rw [split]
            exact ⟨outcome, rfl⟩
          · intro closed
            dsimp only at closed
            rw [shut] at closed
            cases closed
          · intro _
            simp only [GoesOn]
            by_cases empty :
                (drain self.channel (self.buffer ++ chunk)).frames = []
            · exact Or.inl (if_pos empty)
            · exact Or.inr (if_neg empty)

/-- All chunks: the assembler goes on with the stream, or has stopped. -/
theorem Holds.feed
    (holds : self.Holds channel stream output)
    (chunks : List Bytes)
    (fits : self.FitsAll chunks) :
    (self.feed chunks).1.Holds channel (stream ++ chunks.flatten)
        (output ++ (self.feed chunks).2.2) ∧
      ((drain channel (stream ++ chunks.flatten)).failure = none →
        ∀ result ∈ (self.feed chunks).2.1, GoesOn result) := by
  induction chunks generalizing self stream output with
  | nil =>
      refine ⟨?_, ?_⟩
      · simpa [AppStreamAssembler.feed] using holds
      · intro _ result member
        exact absurd member List.not_mem_nil
  | cons chunk later inductionHypothesis =>
      obtain ⟨next, goesOn⟩ := holds.data chunk fits.1
      obtain ⟨final, restGoesOn⟩ := inductionHypothesis next fits.2
      rw [List.flatten_cons, ← List.append_assoc]
      refine ⟨?_, ?_⟩
      · rw [List.append_assoc output] at final
        exact final
      · intro clean result member
        rcases List.mem_cons.mp member with first | rest
        · subst first
          apply goesOn
          -- A stream that failed early would have failed as a whole.
          by_contra failed
          rw [drain_append, Drained.andThen] at clean
          obtain ⟨failure, stopped⟩ := Option.ne_none_iff_exists'.mp failed
          rw [stopped] at clean
          dsimp only at clean
          rw [stopped] at clean
          cases clean
        · exact restGoesOn clean result rest

/-- A new assembler holds an empty stream. -/
theorem Holds.fresh
    (channel : QuicChannel) :
    ({ channel } : AppStreamAssembler).Holds channel [] [] := by
  have front : frontOf channel [] = .incomplete := by
    simp [frontOf]
  have empty := drain_incomplete front
  refine ⟨rfl, ?_, ?_, ?_⟩
  · rw [empty]
  · intro _
    rw [empty]
    exact ⟨rfl, rfl⟩
  · intro closed
    cases closed

/-- Ending the stream is clean exactly if all its bytes were whole records. -/
theorem Holds.finish_clean_iff
    (holds : self.Holds channel stream output) :
    self.finish.2 = .cleanFin ↔
      (drain channel stream).failure = none ∧ (drain channel stream).rest = [] := by
  unfold AppStreamAssembler.finish
  cases shut : self.closed with
  | true =>
      rw [if_pos rfl]
      constructor
      · intro clean
        cases clean
      · rintro ⟨unfailed, _⟩
        exact (holds.stopped shut unfailed).elim
  | false =>
      obtain ⟨unfailed, buffer⟩ := holds.running shut
      rw [if_neg Bool.false_ne_true, buffer]
      by_cases empty : (drain channel stream).rest = []
      · rw [if_neg (not_not_intro empty)]
        exact ⟨fun _ => ⟨unfailed, empty⟩, fun _ => rfl⟩
      · rw [if_pos empty]
        constructor
        · intro clean
          cases clean
        · rintro ⟨_, nothing⟩
          exact (empty nothing).elim

end AppStreamAssembler

/-- The bytes of a record that was parsed. -/
def AppFrame.bytes (frame : AppFrame) : Bytes :=
  recordBytes frame.frameTypeTag frame.objectBytes

/-- A record is legal on a channel if its bytes parse to it. -/
def AppFrame.Legal (channel : QuicChannel) (frame : AppFrame) : Prop :=
  parseAppFrame channel frame.bytes = .ok frame

/-- A cursor in front of a legal record reads it. -/
theorem AppFrame.Legal.decodeRecord
    (legal : frame.Legal channel)
    (rest : Bytes) :
    Wire.decodeRecord (some channel) (frame.bytes ++ rest) =
      .ok (frame, frame.bytes.length) := by
  obtain ⟨_, fits, classified⟩ := decodeExactly_eq_ok_iff.mp legal
  obtain ⟨_, _, info, known, _⟩ := classifyRecord_ok classified
  rw [AppFrame.bytes,
    decodeRecord_recordBytes (frameTagInfo_lt known) fits rest, classified,
    length_recordBytes]
  rfl

/-- A cursor reads exactly the legal records of a stream, and ends. -/
theorem readFrames_legal
    {frames : List AppFrame}
    (legal : ∀ frame ∈ frames, frame.Legal channel)
    (cursor : AppFrameCursor)
    (onChannel : cursor.channel = channel)
    (inside : cursor.offset ≤ cursor.bytes.length)
    (remaining :
      cursor.bytes.drop cursor.offset = frames.flatMap AppFrame.bytes) :
    readFrames cursor = (frames, none) := by
  induction frames generalizing cursor with
  | nil =>
      have ended : cursor.offset = cursor.bytes.length := by
        have length := congrArg List.length remaining
        rw [List.length_drop, List.flatMap_nil, List.length_nil] at length
        omega
      have next : nextAppFrame cursor = .ok none := by
        rw [nextAppFrame, if_neg (by omega), if_pos ended]
      exact readFrames_ended next
  | cons frame later inductionHypothesis =>
      have own : frame.Legal cursor.channel := by
        rw [onChannel]
        exact legal frame List.mem_cons_self
      rw [List.flatMap_cons] at remaining
      have decoded := own.decodeRecord (later.flatMap AppFrame.bytes)
      rw [← remaining] at decoded
      have size := length_recordBytes frame.frameTypeTag frame.objectBytes
      have length := congrArg List.length remaining
      rw [List.length_drop, List.length_append, AppFrame.bytes, size] at length
      have next :
          nextAppFrame cursor =
            .ok (some (frame,
              { cursor with offset := cursor.offset + frame.bytes.length })) := by
        rw [nextAppFrame, if_neg (by omega), if_neg (by omega), decoded]
      have tail :=
        inductionHypothesis
          (fun other member => legal other (List.mem_cons_of_mem frame member))
          { cursor with offset := cursor.offset + frame.bytes.length } onChannel
          (by
            dsimp only
            rw [AppFrame.bytes, size]
            omega)
          (by
            dsimp only
            rw [← List.drop_drop, remaining, List.drop_left])
      rw [readFrames_advanced next, tail]

/--
Assembly does not depend on the chunks: however a stream is cut into chunks that
fit the free room of the buffer, the assembler hands out the records that a cursor
reads from the whole stream.  Legal records are handed out all, without
backpressure, and the stream then ends cleanly; on any other stream both fail
after the same records.
-/
theorem assembly_is_chunking_independent
    (channel : QuicChannel)
    (chunks : List Bytes)
    (fits : ({ channel } : AppStreamAssembler).FitsAll chunks) :
    let fed := ({ channel } : AppStreamAssembler).feed chunks
    let read := readFrames { channel, bytes := chunks.flatten }
    fed.2.2 = read.1.map AppFrame.owned ∧
      (read.2 = none ↔ fed.1.finish.2 = .cleanFin) ∧
      ∀ frames : List AppFrame,
        (∀ frame ∈ frames, frame.Legal channel) →
        chunks.flatten = frames.flatMap AppFrame.bytes →
          read = (frames, none) ∧
            fed.2.2 = frames.map AppFrame.owned ∧
            (∀ result ∈ fed.2.1, AppStreamAssembler.GoesOn result) ∧
            fed.1.finish.2 = .cleanFin := by
  intro fed read
  obtain ⟨holds, goesOn⟩ :=
    (AppStreamAssembler.Holds.fresh channel).feed chunks fits
  rw [List.nil_append] at holds goesOn
  have reading :=
    readFrames_eq_drain { channel, bytes := chunks.flatten } (Nat.zero_le _)
  dsimp only at reading
  rw [List.drop_zero] at reading
  have same : fed.2.2 = read.1.map AppFrame.owned := by
    rw [reading.1]
    exact holds.handedOut
  have ends : read.2 = none ↔ fed.1.finish.2 = .cleanFin := by
    rw [holds.finish_clean_iff]
    exact reading.2
  refine ⟨same, ends, ?_⟩
  intro frames legal whole
  have all : read = (frames, none) :=
    readFrames_legal legal _ rfl (Nat.zero_le _) whole
  have clean : read.2 = none := by
    rw [all]
  refine ⟨all, ?_, ?_, ends.mp clean⟩
  · rw [same, all]
  · exact goesOn (reading.2.mp clean).1

/-- A few bytes are kept by a new assembler. -/
theorem AppStreamAssembler.data_short
    (channel : QuicChannel)
    {chunk : Bytes}
    (short : chunk.length < 4) :
    ({ channel } : AppStreamAssembler).data chunk =
      ({ channel, buffer := chunk }, .needMore, []) := by
  have front : frontOf channel chunk = .incomplete := by
    rw [frontOf, if_pos short]
  have fitting :
      ¬ (chunk.length > ({ channel } : AppStreamAssembler).hardLimit ∨
        ({ channel } : AppStreamAssembler).buffer.length >
          ({ channel } : AppStreamAssembler).hardLimit - chunk.length) := by
    simp only [AppStreamAssembler.hardLimit, List.length_nil]
    omega
  have drained :
      drain channel (({ channel } : AppStreamAssembler).buffer ++ chunk) =
        ⟨[], chunk, none⟩ :=
    drain_incomplete front
  rw [AppStreamAssembler.data, if_neg Bool.false_ne_true, if_neg fitting, drained]
  rfl

variable {bytes : Bytes}

/-- A record that may be cut behind its first byte. -/
theorem AppStreamAssembler.fitsAll_cut
    (sized : bytes.length ≤ maxObjectBytes channel + 6) :
    ({ channel } : AppStreamAssembler).FitsAll [bytes.take 1, bytes.drop 1] := by
  have short : (bytes.take 1).length < 4 := by
    rw [List.length_take]
    omega
  have first := AppStreamAssembler.data_short channel short
  refine ⟨Or.inr ?_, ?_, trivial⟩
  · simp only [List.length_nil, AppStreamAssembler.hardLimit, List.length_take]
    omega
  · rw [first]
    refine Or.inr ?_
    simp only [AppStreamAssembler.hardLimit, List.length_take, List.length_drop]
    omega

/-- An intent to suspend is handed out though it is cut behind its first byte. -/
theorem cut_suspend_intent_is_assembled :
    ∃ frame : AppFrame,
      frame.objectBytes = blankSuspendIntent ∧
        (({ channel := .control } : AppStreamAssembler).feed
          [frame.bytes.take 1, frame.bytes.drop 1]).2.2 = [frame.owned] := by
  have known :
      frameTagInfo 0x0210 = some ⟨0x0210, .objectKind, "0x0210"⟩ := by
    decide
  have allowed : isAllowed (some .control) "0x0210" = true := by
    decide
  have checked :
      check "0x0210" blankSuspendIntent =
        .ok (writeHash "flynes-suspend-intent-v1" blankSuspendIntent) := by
    decide +kernel
  obtain ⟨frame, classified, tag, object⟩ :=
    classifyRecord_eq_ok known allowed checked
  have bytes : frame.bytes = recordBytes 0x0210 blankSuspendIntent := by
    rw [AppFrame.bytes, tag, object]
  have length : blankSuspendIntent.length = 240 := by
    decide +kernel
  have legal : frame.Legal .control := by
    refine decodeExactly_eq_ok_iff.mpr ⟨rfl, ?_, ?_⟩
    · rw [object, length]
      decide
    · rw [tag, object, classified]
  have sized : frame.bytes.length ≤ maxObjectBytes .control + 6 := by
    rw [bytes, length_recordBytes, length]
    decide
  have run :=
    assembly_is_chunking_independent .control
      [frame.bytes.take 1, frame.bytes.drop 1]
      (AppStreamAssembler.fitsAll_cut sized)
  have joined :
      [frame.bytes.take 1, frame.bytes.drop 1].flatten =
        [frame].flatMap AppFrame.bytes := by
    simp only [List.flatten_cons, List.flatten_nil, List.append_nil,
      List.take_append_drop, List.flatMap_cons, List.flatMap_nil]
  have whole := run.2.2 [frame] (by simpa using legal) joined
  exact ⟨frame, object, whole.2.1⟩

/-- A transition frame passes its check by its size alone. -/
theorem check_transitionFrame
    (sized : bytes.length = 245760) :
    check "0x000b" bytes = .ok (writeHash "" bytes) := by
  simp [check, require, lengthStatus, sized, bind, Except.bind, pure, Except.pure]

/--
It is not enough that no chunk is larger than the buffer: behind the first byte of
a largest record, a chunk as large as the buffer is answered with backpressure.
-/
theorem full_chunk_finds_no_room :
    ¬ ∀ (channel : QuicChannel) (chunks : List Bytes) (frames : List AppFrame),
      (∀ chunk ∈ chunks, chunk.length ≤ maxObjectBytes channel + 6) →
      (∀ frame ∈ frames, frame.Legal channel) →
      chunks.flatten = frames.flatMap AppFrame.bytes →
        StreamAssemblyResult.backpressure ∉
          (({ channel } : AppStreamAssembler).feed chunks).2.1 := by
  intro claimed
  obtain ⟨object, sized⟩ : ∃ object : Bytes, object.length = 245760 :=
    ⟨List.replicate 245760 0, List.length_replicate⟩
  have known :
      frameTagInfo 0x000B = some ⟨0x000B, .objectKind, "0x000b"⟩ := by
    decide
  have allowed : isAllowed (some .bulk) "0x000b" = true := by
    decide
  obtain ⟨frame, classified, tag, own⟩ :=
    classifyRecord_eq_ok known allowed (check_transitionFrame sized)
  have legal : frame.Legal .bulk := by
    refine decodeExactly_eq_ok_iff.mpr ⟨rfl, ?_, ?_⟩
    · rw [own, sized]
      decide
    · rw [tag, own, classified]
  have length : frame.bytes.length = 245766 := by
    rw [AppFrame.bytes, length_recordBytes, own, sized]
  let first := frame.bytes.take 1
  let second := frame.bytes.drop 1 ++ frame.bytes.take 1
  have firstLength : first.length = 1 := by
    simp [first, length]
  have secondLength : second.length = 245766 := by
    simp [second, length]
  have results :
      StreamAssemblyResult.backpressure ∈
        (({ channel := .bulk } : AppStreamAssembler).feed
          [first, second, frame.bytes.drop 1]).2.1 := by
    have short : first.length < 4 := by
      omega
    have kept := AppStreamAssembler.data_short .bulk short
    have full :
        second.length >
            ({ channel := .bulk, buffer := first } :
              AppStreamAssembler).hardLimit ∨
          first.length >
            ({ channel := .bulk, buffer := first } :
              AppStreamAssembler).hardLimit - second.length := by
      rw [firstLength, secondLength]
      exact Or.inr (by simp [AppStreamAssembler.hardLimit, maxObjectBytes])
    have refused :
        (({ channel := .bulk, buffer := first } :
          AppStreamAssembler).data second).2.1 = .backpressure := by
      rw [AppStreamAssembler.data, if_neg Bool.false_ne_true, if_pos full]
    simp only [AppStreamAssembler.feed, kept, refused]
    simp
  refine claimed .bulk [first, second, frame.bytes.drop 1] [frame, frame] ?_ ?_ ?_
    results
  · intro chunk member
    have bounded : chunk.length ≤ 245766 := by
      simp only [List.mem_cons, List.not_mem_nil, or_false] at member
      rcases member with rfl | rfl | rfl
      · omega
      · omega
      · rw [List.length_drop]
        omega
    exact bounded
  · simpa using legal
  · simp only [first, second, List.flatten_cons, List.flatten_nil, List.append_nil,
      List.flatMap_cons, List.flatMap_nil]
    rw [← List.append_assoc, ← List.append_assoc, List.take_append_drop,
      List.append_assoc, List.take_append_drop]

end FlyNes.Wire
