import Mathlib.Data.List.Induction
import FlyNes.LanWire

namespace FlyNes.LanMvp.Wire

open ByteString
open Framing (Stuck Parsed)

/-!
# Chunks of a stream

A stream arrives in chunks, and after every chunk the decoder is drained.  The
frames it hands out and its failure flag are computed here from the stream
alone, except for one frame: when a chunk brings the last byte of a frame
together with the whole malformed length field behind it, the frame is lost.
-/

/-- A whole length field that no frame has. -/
def Malformed (bytes : Bytes) : Prop :=
  2 ≤ bytes.length ∧
    (announced bytes = 0 ∨ announced bytes > kMaxBodySize)

instance (bytes : Bytes) : Decidable (Malformed bytes) :=
  inferInstanceAs (Decidable (_ ∧ _))

/-- The frames in front of a stream and the bytes behind them. -/
def Reads (bytes : Bytes) (messages : List Message) (rest : Bytes) : Prop :=
  Parsed Message.frame Message.Fits bytes messages rest

theorem announced_append
    {bytes : Bytes}
    (more : Bytes)
    (enough : 2 ≤ bytes.length) :
    announced (bytes ++ more) = announced bytes := by
  match bytes, enough with
  | first :: second :: tail, _ =>
      rfl

namespace Malformed

variable {bytes : Bytes}

theorem append
    (malformed : Malformed bytes)
    (more : Bytes) :
    Malformed (bytes ++ more) := by
  obtain ⟨enough, bad⟩ := malformed
  refine ⟨by rw [List.length_append]; omega, ?_⟩
  rw [announced_append more enough]
  exact bad

/-- No frame starts with a malformed length field. -/
theorem stuck
    (malformed : Malformed bytes) :
    Stuck Message.frame Message.Fits bytes := by
  intro message rest fits shape
  obtain ⟨_, bad⟩ := malformed
  have bound : message.bodySize ≤ kMaxBodySize := fits
  have positive : 0 < message.bodySize := Nat.succ_pos _
  rw [shape, announced_frame fits rest] at bad
  omega

end Malformed

theorem Message.frame_length
    (message : Message) :
    message.frame.length = message.bodySize + 2 := by
  simp [Message.frame, Message.bodySize]

namespace Decoder

/-- Take frames off the buffer until a call returns false. -/
def drain : Nat → Decoder → List Message × Decoder
  | 0, decoder => ([], decoder)
  | fuel + 1, decoder =>
      match decoder.pop with
      | (none, rest) => ([], rest)
      | (some message, rest) =>
          let (messages, rest) := drain fuel rest
          (message :: messages, rest)

/-- Push one chunk and drain the decoder. -/
def feed (decoder : Decoder) (chunk : Bytes) : List Message × Decoder :=
  let pushed := (decoder.push chunk).2
  pushed.drain (pushed.bytes.length + 1)

/-- Feed a list of chunks to a new decoder. -/
def decode (chunks : List Bytes) : List Message × Decoder :=
  chunks.foldl
    (fun (sofar : List Message × Decoder) chunk =>
      let (messages, decoder) := sofar.2.feed chunk
      (sofar.1 ++ messages, decoder)) ([], {})

/-- The decoder after it has met a malformed length field. -/
def broken : Decoder :=
  { bytes := [], failed := true }

theorem validateFront_eq
    (bytes : Bytes) :
    validateFront { bytes := bytes } =
      if Malformed bytes then (false, broken)
      else (true, { bytes := bytes }) := by
  unfold validateFront
  by_cases malformed : Malformed bytes
  · have enough : ¬ bytes.length < 2 := Nat.not_lt.mpr malformed.1
    rw [if_neg (by simpa using enough), if_pos malformed.2,
      if_pos malformed]
    rfl
  · rw [if_neg malformed]
    by_cases short : bytes.length < 2
    · rw [if_pos (Or.inr short)]
      rfl
    · have good :
          ¬ (announced bytes = 0 ∨ announced bytes > kMaxBodySize) :=
        fun bad => malformed ⟨Nat.not_lt.mp short, bad⟩
      rw [if_neg (by simpa using short), if_neg good]

variable {bytes : Bytes}

/-- A malformed front breaks the decoder. -/
theorem pop_of_malformed
    (malformed : Malformed bytes) :
    pop { bytes := bytes } = (none, broken) := by
  unfold pop
  rw [validateFront_eq, if_pos malformed]
  rfl

/-- Without a whole frame in front the decoder waits for more. -/
theorem pop_of_stuck
    (wellFormed : ¬ Malformed bytes)
    (stuck : Stuck Message.frame Message.Fits bytes) :
    pop { bytes := bytes } = (none, { bytes := bytes }) := by
  unfold pop
  rw [validateFront_eq, if_neg wellFormed]
  dsimp only
  by_cases short : bytes.length < 2
  · rw [if_pos (Or.inr short)]
  · rw [if_neg (by simpa using short)]
    have incomplete : bytes.length < announced bytes + 2 := by
      by_contra whole
      unfold Malformed at wellFormed
      have nonzero : announced bytes ≠ 0 := by
        omega
      obtain ⟨fits, shape⟩ := frame_of_front nonzero (by omega) (by omega)
      exact stuck _ _ fits shape
    rw [if_pos incomplete]

/--
A whole frame in front is handed out unless a malformed length field stands
right behind it.
-/
theorem pop_of_frame
    {message : Message}
    (fits : message.Fits)
    (rest : Bytes) :
    pop { bytes := message.frame ++ rest } =
      if Malformed rest then (none, broken)
      else (some message, { bytes := rest }) := by
  have wellFormed : ¬ Malformed (message.frame ++ rest) := by
    intro malformed
    exact malformed.stuck message rest fits rfl
  have size : announced (message.frame ++ rest) = message.bodySize :=
    announced_frame fits rest
  have dropped :
      (message.frame ++ rest).drop (message.bodySize + 2) = rest := by
    rw [← message.frame_length, List.drop_left]
  have taken :
      (message.frame ++ rest).take (message.bodySize + 2) =
        message.frame := by
    rw [← message.frame_length, List.take_left]
  have long : ¬ (message.frame ++ rest).length < 2 := by
    rw [List.length_append, message.frame_length]
    omega
  have whole :
      ¬ (message.frame ++ rest).length < message.bodySize + 2 := by
    rw [List.length_append, message.frame_length]
    omega
  unfold pop
  rw [validateFront_eq, if_neg wellFormed]
  dsimp only
  rw [if_neg (by simpa using long), size, if_neg whole, taken, dropped,
    validateFront_eq]
  split
  · rfl
  · simp [Message.frame]

@[simp] theorem feed_broken
    (chunk : Bytes) :
    broken.feed chunk = ([], broken) := by
  rfl

variable {bytes rest : Bytes} {messages : List Message}

/-- What draining hands out and leaves behind. -/
theorem drain_eq
    {fuel : Nat}
    (reads : Reads bytes messages rest)
    (enough : messages.length < fuel) :
    drain fuel { bytes := bytes } =
      if Malformed rest then (messages.dropLast, broken)
      else (messages, { bytes := rest }) := by
  induction messages generalizing fuel bytes with
  | nil =>
      obtain ⟨fuel, rfl⟩ : ∃ less, fuel = less + 1 :=
        ⟨fuel - 1, by omega⟩
      have same : bytes = rest := by simpa using reads.shape
      subst same
      unfold drain
      by_cases malformed : Malformed bytes
      · rw [pop_of_malformed malformed, if_pos malformed]
        rfl
      · rw [pop_of_stuck malformed reads.stuck, if_neg malformed]
  | cons message later inductionHypothesis =>
      obtain ⟨fuel, rfl⟩ : ∃ less, fuel = less + 1 :=
        ⟨fuel - 1, by omega⟩
      have fits : message.Fits := reads.sound message (by simp)
      have laterReads :
          Reads (Framing.stream Message.frame later ++ rest) later rest :=
        ⟨fun other member => reads.sound other (by simp [member]), rfl,
          reads.stuck⟩
      have shape :
          bytes =
            message.frame ++ (Framing.stream Message.frame later ++ rest) := by
        rw [reads.shape]
        simp [Framing.stream]
      rw [shape]
      unfold drain
      rw [pop_of_frame fits]
      cases later with
      | nil =>
          rw [Framing.stream_nil, List.nil_append]
          by_cases malformed : Malformed rest
          · rw [if_pos malformed, if_pos malformed]
            rfl
          · rw [if_neg malformed, if_neg malformed]
            have restReads : Reads rest [] rest := laterReads
            dsimp only
            rw [inductionHypothesis restReads (by simpa using enough),
              if_neg malformed]
      | cons second others =>
          have wellFormed :
              ¬ Malformed
                (Framing.stream Message.frame (second :: others) ++ rest) := by
            intro malformed
            refine malformed.stuck second
              (Framing.stream Message.frame others ++ rest)
              (laterReads.sound second (by simp)) ?_
            simp [Framing.stream]
          rw [if_neg wellFormed]
          dsimp only
          rw [inductionHypothesis laterReads (by simpa using enough)]
          split
          · rw [List.dropLast_cons_cons]
          · rfl

/-- A frame has at least one byte. -/
theorem length_le_of_reads
    (reads : Reads bytes messages rest) :
    messages.length ≤ bytes.length := by
  rw [reads.shape]
  clear reads
  induction messages with
  | nil =>
      simp
  | cons message later inductionHypothesis =>
      simp only [Framing.stream, List.flatMap_cons, List.length_append,
        List.length_cons, message.frame_length] at inductionHypothesis ⊢
      omega

/-- One chunk in a decoder that has not failed. -/
theorem feed_eq
    {pending chunk rest : Bytes}
    (reads : Reads (pending ++ chunk) messages rest) :
    feed { bytes := pending } chunk =
      if Malformed rest then (messages.dropLast, broken)
      else (messages, { bytes := rest }) := by
  have pushed :
      (push { bytes := pending } chunk).2 =
        if Malformed (pending ++ chunk) then broken
        else { bytes := pending ++ chunk } := by
    unfold push
    rw [if_neg Bool.false_ne_true, validateFront_eq]
    split <;> rfl
  unfold feed
  rw [pushed]
  by_cases malformed : Malformed (pending ++ chunk)
  · -- the front fails at once, and no frame was in front of it
    have none : Reads (pending ++ chunk) [] (pending ++ chunk) :=
      ⟨by simp, rfl, malformed.stuck⟩
    obtain ⟨rfl, rfl⟩ := reads.unique frame_prefixFree none
    rw [if_pos malformed, if_pos malformed]
    rfl
  · rw [if_neg malformed]
    exact drain_eq reads (Nat.lt_succ_of_le (length_le_of_reads reads))

theorem decode_append
    (chunks : List Bytes)
    (chunk : Bytes) :
    decode (chunks ++ [chunk]) =
      ((decode chunks).1 ++ ((decode chunks).2.feed chunk).1,
        ((decode chunks).2.feed chunk).2) := by
  simp [decode]

end Decoder

/--
A chunk brings the last byte of a frame together with the whole malformed
length field behind it.
-/
def Swallowed (earlier chunk : Bytes) : Prop :=
  ∃ messages rest,
    Reads (earlier ++ chunk) messages rest ∧
    Malformed rest ∧
    earlier.length < (Framing.stream Message.frame messages).length

/-- Some chunk swallows the frame in front of a malformed length field. -/
def Swallows (chunks : List Bytes) : Prop :=
  ∃ before chunk after,
    chunks = before ++ chunk :: after ∧ Swallowed before.flatten chunk

variable {chunk pending rest : Bytes} {later : List Message}

/-- The chunk that completes a frame brings more than what was pending. -/
theorem Reads.pending_lt
    {message : Message}
    (stuck : Stuck Message.frame Message.Fits pending)
    (reads : Reads (pending ++ chunk) (message :: later) rest) :
    pending.length <
      (Framing.stream Message.frame (message :: later)).length := by
  have shape :
      pending ++ chunk =
        message.frame ++ (Framing.stream Message.frame later ++ rest) := by
    simpa [Framing.stream] using reads.shape
  have short : pending.length < message.frame.length := by
    by_contra long
    have within : message.frame <+: pending :=
      List.prefix_of_prefix_length_le ⟨_, shape.symm⟩
        (List.prefix_append pending chunk) (by omega)
    obtain ⟨more, front⟩ := within
    exact stuck message more (reads.sound message (by simp)) front.symm
  have size :
      (Framing.stream Message.frame (message :: later)).length =
        message.frame.length +
          (Framing.stream Message.frame later).length := by
    simp [Framing.stream]
  omega

/-- A frame is swallowed when it is completed together with a bad field. -/
theorem swallowed_iff
    {earlier : Bytes}
    {before : List Message}
    (beforeReads : Reads earlier before pending)
    (laterReads : Reads (pending ++ chunk) later rest) :
    Swallowed earlier chunk ↔ Malformed rest ∧ later ≠ [] := by
  have joined : Reads (earlier ++ chunk) (before ++ later) rest :=
    beforeReads.append laterReads
  have sizes :
      earlier.length =
        (Framing.stream Message.frame before).length + pending.length := by
    rw [beforeReads.shape, List.length_append]
  constructor
  · rintro ⟨found, remaining, foundReads, malformed, short⟩
    obtain ⟨rfl, rfl⟩ := foundReads.unique frame_prefixFree joined
    refine ⟨malformed, ?_⟩
    rintro rfl
    rw [List.append_nil] at short
    omega
  · rintro ⟨malformed, nonempty⟩
    refine ⟨before ++ later, rest, joined, malformed, ?_⟩
    cases later with
    | nil =>
        exact absurd rfl nonempty
    | cons message others =>
        have short := laterReads.pending_lt beforeReads.stuck
        rw [Framing.stream_append, List.length_append]
        omega

namespace Swallows

variable {chunks : List Bytes}

theorem append_iff
    {chunk : Bytes} :
    Swallows (chunks ++ [chunk]) ↔
      Swallows chunks ∨ Swallowed chunks.flatten chunk := by
  constructor
  · rintro ⟨before, middle, after, shape, swallowed⟩
    rcases List.eq_nil_or_concat after with rfl | ⟨init, last, rfl⟩
    · obtain ⟨rfl, same⟩ := List.append_inj' shape rfl
      rw [List.singleton_inj.mp same]
      exact Or.inr swallowed
    · have split : chunks ++ [chunk] = (before ++ middle :: init) ++ [last] := by
        simpa using shape
      have earlier : chunks = before ++ middle :: init :=
        (List.append_inj' split rfl).1
      exact Or.inl ⟨before, middle, init, earlier, swallowed⟩
  · rintro (⟨before, middle, after, rfl, swallowed⟩ | swallowed)
    · exact ⟨before, middle, after ++ [chunk], by simp, swallowed⟩
    · exact ⟨chunks, chunk, [], rfl, swallowed⟩

/-- Where a frame is swallowed, the stream has a malformed length field. -/
theorem malformed
    {messages : List Message}
    {rest : Bytes}
    (swallows : Swallows chunks)
    (reads : Reads chunks.flatten messages rest) :
    Malformed rest ∧ messages ≠ [] := by
  obtain ⟨before, chunk, after, rfl, found, remaining, earlierReads, malformed,
    short⟩ := swallows
  have whole :
      Reads (before ++ chunk :: after).flatten found
        (remaining ++ after.flatten) :=
    ⟨earlierReads.sound, by
      simpa using congrArg (· ++ after.flatten) earlierReads.shape,
      (malformed.append after.flatten).stuck⟩
  obtain ⟨rfl, rfl⟩ := reads.unique frame_prefixFree whole
  refine ⟨malformed.append after.flatten, ?_⟩
  rintro rfl
  simp at short

end Swallows

variable {chunks : List Bytes} {messages : List Message} {rest : Bytes}

/-- What a decoder has handed out and what it is left with after any chunks. -/
theorem Decoder.decode_eq
    (reads : Reads chunks.flatten messages rest) :
    (decode chunks).2 =
        (if Malformed rest then broken else { bytes := rest }) ∧
      (Swallows chunks → (decode chunks).1 = messages.dropLast) ∧
      (¬ Swallows chunks → (decode chunks).1 = messages) := by
  induction chunks using List.reverseRecOn generalizing messages rest with
  | nil =>
      have empty : Reads [] [] [] :=
        ⟨by simp, rfl, fun message rest fits shape => by
          simp [Message.frame] at shape⟩
      obtain ⟨rfl, rfl⟩ := reads.unique frame_prefixFree empty
      simp [decode, Malformed]
  | append_singleton chunks chunk inductionHypothesis =>
      obtain ⟨before, pending, beforeReads⟩ :=
        Parsed.total frame_prefixFree chunks.flatten
      obtain ⟨state, lost, kept⟩ := inductionHypothesis beforeReads
      rw [decode_append]
      by_cases malformed : Malformed pending
      · -- the decoder has failed before, and this chunk changes nothing
        have whole :
            Reads (chunks ++ [chunk]).flatten before (pending ++ chunk) :=
          ⟨beforeReads.sound, by simp [beforeReads.shape],
            (malformed.append chunk).stuck⟩
        obtain ⟨rfl, rfl⟩ := reads.unique frame_prefixFree whole
        have notNow : ¬ Swallowed chunks.flatten chunk := by
          rintro ⟨found, remaining, foundReads, _, short⟩
          have same : Reads (chunks.flatten ++ chunk) messages
              (pending ++ chunk) := by
            simpa using whole
          obtain ⟨rfl, rfl⟩ := foundReads.unique frame_prefixFree same
          rw [beforeReads.shape, List.length_append] at short
          omega
        rw [state, if_pos malformed, feed_broken,
          if_pos (malformed.append chunk), Swallows.append_iff]
        simpa [notNow] using ⟨lost, kept⟩
      · -- no frame has been lost so far, and this chunk is drained at once
        have notBefore : ¬ Swallows chunks :=
          fun swallows => malformed (swallows.malformed beforeReads).1
        obtain ⟨later, remaining, laterReads⟩ :=
          Parsed.total frame_prefixFree (pending ++ chunk)
        have whole :
            Reads (chunks ++ [chunk]).flatten (before ++ later) remaining := by
          simpa [Reads] using beforeReads.append laterReads
        obtain ⟨rfl, rfl⟩ := reads.unique frame_prefixFree whole
        rw [state, if_neg malformed, feed_eq laterReads, kept notBefore,
          Swallows.append_iff]
        have swallowed :
            Swallowed chunks.flatten chunk ↔ Malformed rest ∧ later ≠ [] :=
          swallowed_iff beforeReads laterReads
        by_cases broken : Malformed rest
        · rw [if_pos broken, if_pos broken]
          cases later with
          | nil =>
              simp_all
          | cons message others =>
              simp_all [List.dropLast_append_of_ne_nil]
        · rw [if_neg broken, if_neg broken]
          simp_all

/--
Two ways of cutting a stream hand out the same messages, fail alike, and hand
out all whole frames in front of the stream.
-/
structure Agree (first second : List Bytes) : Prop where
  messages : (Decoder.decode first).1 = (Decoder.decode second).1
  failed :
    (Decoder.decode first).2.failed = (Decoder.decode second).2.failed
  delivered :
    ∀ (messages : List Message) (rest : Bytes),
      (∀ message ∈ messages, message.Fits) →
      first.flatten = Framing.stream Message.frame messages ++ rest →
      messages <+: (Decoder.decode first).1 ∧
        messages <+: (Decoder.decode second).1

/-- A cutting that swallows a frame does not hand out all whole frames. -/
theorem Swallows.undelivered
    (swallows : Swallows chunks)
    (reads : Reads chunks.flatten messages rest) :
    ¬ messages <+: (Decoder.decode chunks).1 := by
  obtain ⟨_, nonempty⟩ := swallows.malformed reads
  rw [(Decoder.decode_eq reads).2.1 swallows]
  intro within
  have short := within.length_le
  have positive : 0 < messages.length := List.length_pos_iff.mpr nonempty
  rw [List.length_dropLast] at short
  omega

/--
However a stream is cut, the decoder hands out the same messages, all whole
frames in front among them, and fails alike, if and only if no chunk of either
cutting brings the last byte of a frame together with the whole malformed
length field behind it.
-/
theorem agree_iff_not_swallows
    (first second : List Bytes)
    (same : first.flatten = second.flatten) :
    Agree first second ↔ ¬ Swallows first ∧ ¬ Swallows second := by
  obtain ⟨messages, rest, reads⟩ :=
    Parsed.total frame_prefixFree first.flatten
  have secondReads : Reads second.flatten messages rest := by
    rw [← same]
    exact reads
  obtain ⟨firstState, _, firstKept⟩ := Decoder.decode_eq reads
  obtain ⟨secondState, _, secondKept⟩ := Decoder.decode_eq secondReads
  constructor
  · intro agree
    obtain ⟨inFirst, inSecond⟩ :=
      agree.delivered messages rest reads.sound reads.shape
    exact ⟨fun swallows => swallows.undelivered reads inFirst,
      fun swallows => swallows.undelivered secondReads inSecond⟩
  · rintro ⟨firstWhole, secondWhole⟩
    refine ⟨?_, ?_, ?_⟩
    · rw [firstKept firstWhole, secondKept secondWhole]
    · rw [firstState, secondState]
    · intro read unread fits shape
      obtain ⟨later, split, _⟩ :=
        reads.within frame_prefixFree fits shape
      rw [firstKept firstWhole, secondKept secondWhole, split]
      exact ⟨List.prefix_append read later, List.prefix_append read later⟩

/-- A frame and the bad field behind it, cut at two places. -/
theorem agree_iff_of_cut_field :
    [[0, 1], [9, 0], [0]].flatten = [[0, 1, 9], [(0 : UInt8), 0]].flatten ∧
      (Agree [[0, 1], [9, 0], [0]] [[0, 1, 9], [0, 0]] ↔
        ¬ Swallows [[0, 1], [9, 0], [0]] ∧ ¬ Swallows [[0, 1, 9], [0, 0]]) :=
  ⟨rfl, agree_iff_not_swallows _ _ rfl⟩

/-- One read that brings the frame and the field together loses the frame. -/
theorem frame_lost_in_one_chunk :
    ¬ ∀ first second : List Bytes,
      (∀ chunk ∈ first, chunk ≠ []) →
      (∀ chunk ∈ second, chunk ≠ []) →
      first.flatten = second.flatten →
      Agree first second := by
  intro independent
  have agree : Agree [[0, 1, 9, 0, 0]] [[0, 1, 9], [0, 0]] :=
    independent _ _ (by decide) (by decide) rfl
  have differ :
      (Decoder.decode [[0, 1, 9, 0, 0]]).1 ≠
        (Decoder.decode [[0, 1, 9], [0, 0]]).1 := by
    decide
  exact differ agree.messages

end FlyNes.LanMvp.Wire
