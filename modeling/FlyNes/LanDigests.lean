import FlyNes.LanAgreement

namespace FlyNes.LanMvp

open ByteString
open Chronology
open Lockstep (wrap64 Frame Buffer)
open Wire (Kind Message)

/-!
# Desync detection

A side publishes the digest of every sixtieth frame right after it has run it,
and compares it with its peer's as soon as both are there.  An input is sent
only after the frame two before it has been run, so the peer's digest of that
frame arrives before the input does.
-/

/-- The frame and the digest a digest message carries. -/
def digestOf (message : Message) : Option (Nat × Hash) :=
  if message.kind = .digest then
    some (bigEndianU64 message.payload,
      Block.copy 32 (message.payload.drop 8))
  else
    none

/-- The digests a side has published in a round. -/
def digestsIn
    (round : Nat)
    (digests : List (Nat × Nat × Hash)) : List (Nat × Hash) :=
  digests.filterMap fun entry =>
    if entry.1 = round then some entry.2 else none

@[simp] theorem digestsIn_append
    (round : Nat)
    (first second : List (Nat × Nat × Hash)) :
    digestsIn round (first ++ second) =
      digestsIn round first ++ digestsIn round second := by
  simp [digestsIn]

/-- The frames whose digest is published. -/
def Sampled (frame : Nat) : Prop :=
  (frame + 1) % kDigestInterval = 0

theorem digestOf_of_kind
    {message : Message}
    (other : message.kind ≠ .digest) :
    digestOf message = none :=
  if_neg other

theorem digestOf_ofRound
    (message : Message)
    (quiet : ¬ Plays message) :
    digestOf message = none :=
  digestOf_of_kind (fun kind => quiet (Or.inr (Or.inl kind)))

/-- One side's digests after a frame has been compared with the other's. -/
def settled (frame : Nat) (ours theirs : Digests) : Digests :=
  if (ours.lookup frame).isSome ∧ (theirs.lookup frame).isSome then
    ours.erase frame
  else
    ours

/-- How the digests that wait for their partner fit those of the round. -/
structure Compared
    (ours theirs : Digests)
    (published taken : List (Nat × Hash)) : Prop where
  mine :
    ∀ frame digest,
      ours.lookup frame = some digest → (frame, digest) ∈ published
  yours :
    ∀ frame digest,
      theirs.lookup frame = some digest → (frame, digest) ∈ taken
  kept :
    ∀ frame digest,
      (frame, digest) ∈ published →
      ours.lookup frame = some digest ∨ (frame, digest) ∈ taken
  met :
    ∀ frame digest,
      (frame, digest) ∈ taken →
      theirs.lookup frame = some digest ∨ (frame, digest) ∈ published
  apart : ∀ frame, ours.lookup frame = none ∨ theirs.lookup frame = none

namespace Compared

variable
  {ours theirs : Digests}
  {published taken : List (Nat × Hash)}
  {frame : Nat}
  {digest : Hash}

theorem empty :
    Compared ∅ ∅ [] [] := by
  constructor <;> simp

theorem symm
    (compared : Compared ours theirs published taken) :
    Compared theirs ours taken published where
  mine := compared.yours
  yours := compared.mine
  kept := compared.met
  met := compared.kept
  apart := fun frame => (compared.apart frame).symm

/-- A new digest without a partner waits for it. -/
theorem keep
    (compared : Compared ours theirs published taken)
    (fresh : ∀ other, (frame, other) ∉ published)
    (alone : theirs.lookup frame = none) :
    Compared (ours.insert frame digest) theirs
      (published ++ [(frame, digest)]) taken := by
  have elsewhere :
      ∀ other, other ≠ frame →
        (ours.insert frame digest).lookup other = ours.lookup other :=
    fun other differs => AList.lookup_insert_ne differs
  have here : (ours.insert frame digest).lookup frame = some digest :=
    AList.lookup_insert _
  constructor
  · intro other value found
    by_cases same : other = frame
    · subst same
      rw [here, Option.some.injEq] at found
      simp [found]
    · rw [elsewhere other same] at found
      exact List.mem_append_left _ (compared.mine other value found)
  · exact compared.yours
  · intro other value member
    rcases List.mem_append.mp member with old | new
    · have differs : other ≠ frame := by
        rintro rfl
        exact fresh value old
      rw [elsewhere other differs]
      exact compared.kept other value old
    · obtain ⟨rfl, rfl⟩ := Prod.mk.inj (List.mem_singleton.mp new)
      exact Or.inl here
  · intro other value member
    exact (compared.met other value member).imp_right
      (List.mem_append_left _)
  · intro other
    by_cases same : other = frame
    · subst same
      exact Or.inr alone
    · rw [elsewhere other same]
      exact compared.apart other

/-- A new digest that equals its partner is done with. -/
theorem match_up
    (compared : Compared ours theirs published taken)
    (fresh : ∀ other, (frame, other) ∉ published)
    (partner : theirs.lookup frame = some digest) :
    Compared ((ours.insert frame digest).erase frame) (theirs.erase frame)
      (published ++ [(frame, digest)]) taken := by
  have elsewhere :
      ∀ other, other ≠ frame →
        ((ours.insert frame digest).erase frame).lookup other =
          ours.lookup other := by
    intro other differs
    rw [AList.lookup_erase_ne differs, AList.lookup_insert_ne differs]
  have theirsElsewhere :
      ∀ other, other ≠ frame →
        (theirs.erase frame).lookup other = theirs.lookup other :=
    fun other differs => AList.lookup_erase_ne differs
  constructor
  · intro other value found
    by_cases same : other = frame
    · subst same
      simp at found
    · rw [elsewhere other same] at found
      exact List.mem_append_left _ (compared.mine other value found)
  · intro other value found
    by_cases same : other = frame
    · subst same
      simp at found
    · rw [theirsElsewhere other same] at found
      exact compared.yours other value found
  · intro other value member
    rcases List.mem_append.mp member with old | new
    · have differs : other ≠ frame := by
        rintro rfl
        exact fresh value old
      rw [elsewhere other differs]
      exact compared.kept other value old
    · obtain ⟨rfl, rfl⟩ := Prod.mk.inj (List.mem_singleton.mp new)
      exact Or.inr (compared.yours other value partner)
  · intro other value member
    by_cases same : other = frame
    · subst same
      right
      rcases compared.met other value member with waiting | known
      · rw [partner, Option.some.injEq] at waiting
        simp [waiting]
      · exact absurd known (fresh value)
    · rw [theirsElsewhere other same]
      exact (compared.met other value member).imp_right
        (List.mem_append_left _)
  · intro other
    by_cases same : other = frame
    · subst same
      simp
    · rw [elsewhere other same, theirsElsewhere other same]
      exact compared.apart other

/-- A new digest is entered and compared with its partner. -/
theorem enter
    (compared : Compared ours theirs published taken)
    (fresh : ∀ other, (frame, other) ∉ published)
    (agree : ∀ other, theirs.lookup frame = some other → other = digest) :
    Compared (settled frame (ours.insert frame digest) theirs)
      (settled frame theirs (ours.insert frame digest))
      (published ++ [(frame, digest)]) taken := by
  have here : (ours.insert frame digest).lookup frame = some digest :=
    AList.lookup_insert _
  cases partner : theirs.lookup frame with
  | none =>
      have kept := @keep _ _ _ _ _ digest compared fresh partner
      simpa [settled, here, partner] using kept
  | some other =>
      have same := agree other partner
      subst same
      have matched := compared.match_up fresh partner
      simpa [settled, here, partner] using matched

/-- Digests that were compared and not found different are the same. -/
theorem agree
    (compared : Compared ours theirs published taken)
    (publishedOnce :
      ∀ frame first second,
        (frame, first) ∈ published → (frame, second) ∈ published →
        first = second)
    (takenOnce :
      ∀ frame first second,
        (frame, first) ∈ taken → (frame, second) ∈ taken → first = second)
    {other : Hash}
    (mine : (frame, digest) ∈ published)
    (yours : (frame, other) ∈ taken) :
    digest = other := by
  rcases compared.kept frame digest mine with waiting | known
  · rcases compared.met frame other yours with awaited | told
    · rcases compared.apart frame with none | none
      · rw [none] at waiting
        cases waiting
      · rw [none] at awaited
        cases awaited
    · exact publishedOnce frame digest other mine told
  · exact takenOnce frame digest other known yours

end Compared

namespace Game

variable {R : Type} {game : Game R} {frame : Nat}

theorem settleDigest_maps
    (game : Game R)
    (frame : Nat) :
    (game.settleDigest frame).localDigests =
        LanMvp.settled frame game.localDigests game.remoteDigests ∧
      (game.settleDigest frame).remoteDigests =
        LanMvp.settled frame game.remoteDigests game.localDigests := by
  unfold settleDigest digestPair LanMvp.settled
  cases game.localDigests.lookup frame <;>
    cases game.remoteDigests.lookup frame <;> simp

/-- Without a clash, both sides' digests of a frame are the same. -/
theorem eq_of_not_clash
    (agreement : ¬ game.DigestClash frame)
    {ours theirs : Hash}
    (mine : game.localDigests.lookup frame = some ours)
    (yours : game.remoteDigests.lookup frame = some theirs) :
    ours = theirs := by
  by_contra differ
  exact agreement ⟨ours, theirs, by simp [digestPair, mine, yours], differ⟩

end Game

/-- What an act means for the digests of its round. -/
inductive DigestTurn
    {R : Type}
    (label : Label)
    (output : Option Message)
    (party after : Party R) : Prop where
  | rest :
      (accountOf after.log).steps = (accountOf party.log).steps →
      (accountOf after.log).digests = (accountOf party.log).digests →
      after.stamp.round = party.stamp.round →
      (∀ message ∈ output, message.kind ≠ .digest) →
      (∀ message ∈ label.input,
        message.kind = .digest → party.game.state ≠ .running) →
      (after.game.inputs.isSome →
        party.game.inputs.isSome ∧
          after.game.localDigests = party.game.localDigests ∧
          after.game.remoteDigests = party.game.remoteDigests) →
      DigestTurn label output party after
  | begin :
      (accountOf after.log).steps = (accountOf party.log).steps →
      (accountOf after.log).digests = (accountOf party.log).digests →
      after.stamp.round = party.stamp.round + 1 →
      (∀ message ∈ output, message.kind ≠ .digest) →
      (∀ message ∈ label.input, message.kind ≠ .digest) →
      (after.game.inputs.isSome →
        after.game.localDigests = ∅ ∧ after.game.remoteDigests = ∅) →
      DigestTurn label output party after
  /-- A frame without a digest is run, or a digest could not be taken. -/
  | frame (frame : Frame) (buffer rest : Buffer) (input : FrameInput) :
      party.game.inputs = some buffer →
      buffer.popReady = some (frame, rest) →
      input.frameIndex = frame.index →
      (accountOf after.log).steps =
        (accountOf party.log).steps ++ [(party.stamp.round, input)] →
      (accountOf after.log).digests = (accountOf party.log).digests →
      after.stamp.round = party.stamp.round →
      (∀ message ∈ output, message.kind ≠ .digest) →
      label.input = [] →
      (after.game.inputs.isSome →
        ¬ digestDue frame ∧
          after.game.localDigests = party.game.localDigests ∧
          after.game.remoteDigests = party.game.remoteDigests) →
      DigestTurn label output party after
  | publish (frame : Frame) (buffer rest : Buffer) (input : FrameInput)
      (digest : Hash) :
      party.game.inputs = some buffer →
      buffer.popReady = some (frame, rest) →
      input.frameIndex = frame.index →
      digestDue frame →
      (accountOf after.log).steps =
        (accountOf party.log).steps ++ [(party.stamp.round, input)] →
      (accountOf after.log).digests =
        (accountOf party.log).digests ++
          [(party.stamp.round, frame.index, digest)] →
      after.stamp.round = party.stamp.round →
      output = some ⟨.digest, appendU64 frame.index ++ digest.bytes⟩ →
      label.input = [] →
      (after.game.state = .ended ∧ after.game.reason = .desync) ∨
        (after.game.inputs.isSome ∧
          ∃ game : Game R,
          game.localDigests = party.game.localDigests.insert frame.index digest ∧
          game.remoteDigests = party.game.remoteDigests ∧
          ¬ game.DigestClash frame.index ∧
          after.game.localDigests =
            (game.settleDigest frame.index).localDigests ∧
          after.game.remoteDigests =
            (game.settleDigest frame.index).remoteDigests) →
      DigestTurn label output party after
  | hear (message : Message) :
      message.kind = .digest →
      party.game.state = .running →
      label.input = [message] →
      output = none →
      (accountOf after.log).steps = (accountOf party.log).steps →
      (accountOf after.log).digests = (accountOf party.log).digests →
      after.stamp.round = party.stamp.round →
      (after.game.state = .ended ∧
          (message.payload.length = 40 → after.game.reason = .desync)) ∨
        (party.game.inputs = after.game.inputs ∧
          ∃ game : Game R,
          game.localDigests = party.game.localDigests ∧
          game.remoteDigests =
            party.game.remoteDigests.insert (bigEndianU64 message.payload)
              (Block.copy 32 (message.payload.drop 8)) ∧
          ¬ game.DigestClash (bigEndianU64 message.payload) ∧
          after.game.localDigests =
            (game.settleDigest (bigEndianU64 message.payload)).localDigests ∧
          after.game.remoteDigests =
            (game.settleDigest
              (bigEndianU64 message.payload)).remoteDigests) →
      DigestTurn label output party after

namespace Act

variable
  {R : Type}
  {env : Env R}
  {label : Label}
  {side : Side}
  {party after : Party R}
  {output : Option Message}

/-- Every act is one turn for the digests of its round. -/
theorem digestTurn
    (act : Act env label party output after)
    (stopped : party.Stopped)
    (steady : party.Steady)
    (accepting : ¬ env.Refuses)
    (fresh :
      party.game.state = .returning →
      ∀ message ∈ label.input,
        message.kind = .start → party.game.inputs = none) :
    DigestTurn label output party after := by
  cases act with
  | drift next ours theirs owed ended =>
      exact .rest rfl rfl rfl (by simp) (by simp [Label.input])
        (by simp [(stopped ended).2])
  | @frame _ frame inputs runtime ran result ready step due =>
      obtain ⟨buffer, present, popped⟩ := ready.popped
      exact .frame frame buffer inputs (party.game.frameInput frame) present
        popped rfl (by simp [Account.add, Party.stamp]) (by simp [Account.add])
        (by simp [Account.add, Party.stamp]) (by simp) rfl
        (fun _ => ⟨due, rfl, rfl⟩)
  | @digest _ frame inputs runtime ran result hash ready step due copied
      agreement =>
      obtain ⟨buffer, present, popped⟩ := ready.popped
      exact .publish frame buffer inputs (party.game.frameInput frame) hash
        present popped rfl due (by simp [Account.add, Party.stamp])
        (by simp [Account.add, Party.stamp])
        (by simp [Account.add, Party.stamp, nextRound]) rfl rfl
        (Or.inr ⟨rfl, (party.game.ranFrame frame inputs ran result).keepDigest
          frame.index hash, rfl, rfl, agreement, rfl, rfl⟩)
  | @clash _ frame inputs runtime ran result hash reason ready step due copied
      clash cause =>
      obtain ⟨buffer, present, popped⟩ := ready.popped
      have desync : reason = .desync :=
        cause.resolve_right (fun lost => accepting lost.2)
      exact .publish frame buffer inputs (party.game.frameInput frame) hash
        present popped rfl due (by simp [Account.add, Party.stamp])
        (by simp [Account.add, Party.stamp])
        (by simp [Account.add, Party.stamp, nextRound]) rfl rfl
        (Or.inl ⟨rfl, desync⟩)
  | @frameFailed _ frame inputs runtime ready failed =>
      obtain ⟨buffer, present, popped⟩ := ready.popped
      exact .frame frame buffer inputs (party.game.frameInput frame) present
        popped rfl (by simp [Account.add, Party.stamp]) (by simp [Account.add])
        (by simp [Account.add, Party.stamp]) (by simp) rfl (by simp)
  | @digestFailed _ frame inputs runtime ran result ready step due failed =>
      obtain ⟨buffer, present, popped⟩ := ready.popped
      exact .frame frame buffer inputs (party.game.frameInput frame) present
        popped rfl (by simp [Account.add, Party.stamp]) (by simp [Account.add])
        (by simp [Account.add, Party.stamp]) (by simp) rfl (by simp)
  | started owed home startable loaded =>
      exact .begin (by simp [Account.add]) (by simp [Account.add])
        (by simp [Account.add, Party.stamp, nextRound]) (by simp)
        (by simp [Label.input]) (fun _ => ⟨rfl, rfl⟩)
  | startLost owed home startable refuses =>
      exact absurd refuses accepting
  | startIdle owed home startable unloaded =>
      have configured : party.game.localConfigured = true := by
        simp_all [Game.Startable, Game.configsMatch]
      have alive : party.game.state ≠ .ended := by
        rcases home with state | state <;> simp [state]
      have loaded := steady.loaded alive configured
      simp [unloaded] at loaded
  | startHeard message owed kind accepts loaded =>
      exact .begin (by simp [Account.add]) (by simp [Account.add])
        (by simp [Account.add, Party.stamp, nextRound, kind]) (by simp)
        (by simp [Label.input, kind]) (fun _ => ⟨rfl, rfl⟩)
  | ignored message owed alive ignores =>
      by_cases start : message.kind = .start
      · have returning := ignores.returning_of_start start (steady.loaded alive)
        have none := fresh returning message (by simp [Label.input]) start
        exact .begin (by simp [Account.add]) (by simp [Account.add])
          (by simp [Account.add, Party.stamp, nextRound, start]) (by simp)
          (by simp [Label.input, start]) (by simp [none])
      · have idle : message.kind = .digest → party.game.state ≠ .running := by
          intro kind running
          cases ignores <;> simp_all
        exact .rest (by simp [Account.add]) (by simp [Account.add])
          (by simp [Account.add, Party.stamp, nextRound, start]) (by simp)
          (by simpa [Label.input] using idle)
          (fun present => ⟨present, rfl, rfl⟩)
  | refused message reason owed alive home refusal blames =>
      by_cases start : message.kind = .start
      · exact .begin (by simp [Account.add]) (by simp [Account.add])
          (by simp [Account.add, Party.stamp, nextRound, start]) (by simp)
          (by simp [Label.input, start]) (by simp)
      · by_cases taken :
          message.kind = .digest ∧ party.game.state = .running
        · exact .hear message taken.1 taken.2 rfl rfl (by simp [Account.add])
            (by simp [Account.add])
            (by simp [Account.add, Party.stamp, nextRound, start])
            (Or.inl ⟨rfl, blames taken.1 taken.2⟩)
        · exact .rest (by simp [Account.add]) (by simp [Account.add])
            (by simp [Account.add, Party.stamp, nextRound, start]) (by simp)
            (by simpa [Label.input] using taken) (by simp)
  | digestHeard message owed kind accepts =>
      have accepted := accepts
      simp only [Game.Accepts, kind] at accepted
      obtain ⟨running, _, agreement⟩ := accepted
      exact .hear message kind running rfl rfl (by simp [Account.add])
        (by simp [Account.add])
        (by simp [Account.add, Party.stamp, nextRound, kind])
        (Or.inr ⟨rfl, { party.game with
          remoteDigests := party.game.remoteDigests.insert
            (bigEndianU64 message.payload)
            (Block.copy 32 (message.payload.drop 8)) },
          rfl, rfl, agreement, rfl, rfl⟩)
  | _ =>
      refine .rest ?_ ?_ ?_ ?_ ?_ ?_ <;>
        simp_all [Account.add, Party.stamp, nextRound, Label.input]

end Act

/-- The digests of one round of one side. -/
structure DigestBook
    (steps : List FrameInput)
    (published taken : List (Nat × Hash)) : Prop where
  ran :
    ∀ frame digest,
      (frame, digest) ∈ published → frame < steps.length ∧ Sampled frame
  once : (published.map Prod.fst).Nodup
  takenOnce : (taken.map Prod.fst).Nodup

namespace DigestBook

variable
  {steps : List FrameInput}
  {published taken : List (Nat × Hash)}

theorem empty :
    DigestBook [] [] [] := by
  constructor <;> simp

theorem unique_of_nodup
    {entries : List (Nat × Hash)}
    (once : (entries.map Prod.fst).Nodup)
    (frame : Nat)
    (first second : Hash)
    (firstIn : (frame, first) ∈ entries)
    (secondIn : (frame, second) ∈ entries) :
    first = second :=
  (Prod.mk.inj (List.inj_on_of_nodup_map once firstIn secondIn rfl)).2

theorem step
    (book : DigestBook steps published taken)
    (input : FrameInput) :
    DigestBook (steps ++ [input]) published taken where
  ran := by
    intro frame digest member
    obtain ⟨bound, sampled⟩ := book.ran frame digest member
    simp only [List.length_append, List.length_singleton]
    exact ⟨by omega, sampled⟩
  once := book.once
  takenOnce := book.takenOnce

/-- A frame that has just been run has no digest yet. -/
theorem fresh
    (book : DigestBook steps published taken)
    (digest : Hash) :
    (steps.length, digest) ∉ published := by
  intro member
  have bound := (book.ran steps.length digest member).1
  omega

theorem publish
    (book : DigestBook steps published taken)
    (input : FrameInput)
    (digest : Hash)
    (sampled : Sampled steps.length) :
    DigestBook (steps ++ [input]) (published ++ [(steps.length, digest)])
      taken where
  ran := by
    intro frame other member
    simp only [List.length_append, List.length_singleton]
    rcases List.mem_append.mp member with old | new
    · obtain ⟨bound, due⟩ := book.ran frame other old
      exact ⟨by omega, due⟩
    · obtain ⟨rfl, rfl⟩ := Prod.mk.inj (List.mem_singleton.mp new)
      exact ⟨by omega, sampled⟩
  once := by
    rw [List.map_append, List.nodup_append]
    refine ⟨book.once, by simp, ?_⟩
    intro frame member other single
    obtain ⟨⟨_, digest⟩, listed, rfl⟩ := List.mem_map.mp member
    have bound := (book.ran _ digest listed).1
    simp only [List.map_cons, List.map_nil, List.mem_singleton] at single
    omega
  takenOnce := book.takenOnce

theorem take
    (book : DigestBook steps published taken)
    {frame : Nat}
    {digest : Hash}
    (news : ∀ other, (frame, other) ∉ taken) :
    DigestBook steps published (taken ++ [(frame, digest)]) where
  ran := book.ran
  once := book.once
  takenOnce := by
    rw [List.map_append, List.nodup_append]
    refine ⟨book.takenOnce, by simp, ?_⟩
    intro other member single inSingle
    obtain ⟨⟨_, value⟩, listed, rfl⟩ := List.mem_map.mp member
    simp only [List.map_cons, List.map_nil, List.mem_singleton] at inSingle
    subst inSingle
    rintro rfl
    exact news value listed

end DigestBook

/-- The digests of all rounds of one side. -/
structure Party.Digested {R : Type} (party : Party R) : Prop where
  formed :
    ∀ message ∈ posted party.log,
      message.kind = .digest → message.payload.length = 40
  equipped : party.game.state = .running → party.game.inputs.isSome
  rounds :
    ∀ entry ∈ (accountOf party.log).digests, entry.1 ≤ party.stamp.round
  sent :
    ∀ round,
      sentIn digestOf round (accountOf party.log).posts =
        digestsIn round (accountOf party.log).digests
  book :
    ∀ round,
      DigestBook (stepsIn round (accountOf party.log).steps)
        (digestsIn round (accountOf party.log).digests)
        (takenIn digestOf round (accountOf party.log).mail)
  complete :
    party.game.inputs.isSome →
    ∀ frame,
      frame < (stepsIn party.stamp.round (accountOf party.log).steps).length →
      Sampled frame →
      ∃ digest,
        (frame, digest) ∈
          digestsIn party.stamp.round (accountOf party.log).digests
  compared :
    party.game.inputs.isSome →
    Compared party.game.localDigests party.game.remoteDigests
      (digestsIn party.stamp.round (accountOf party.log).digests)
      (takenIn digestOf party.stamp.round (accountOf party.log).mail)
  found :
    ∀ round frame ours theirs,
      (frame, ours) ∈ digestsIn round (accountOf party.log).digests →
      (frame, theirs) ∈ takenIn digestOf round (accountOf party.log).mail →
      ours ≠ theirs →
      party.game.state = .ended ∧ party.game.reason = .desync
  ahead :
    Every
      (fun earlier letter =>
        ∀ frame mask,
          inputOf letter.message = some (frame + kInputDelay, mask) →
          Sampled frame →
          ∃ digest,
            (frame, digest) ∈ sentIn digestOf letter.stamp.round earlier)
      (accountOf party.log).posts

namespace Act

variable
  {R : Type}
  {env : Env R}
  {label : Label}
  {side : Side}
  {party after : Party R}
  {output : Option Message}

/-- A running side takes in digests of frames for which it has none. -/
def NewDigests (label : Label) (party : Party R) : Prop :=
  ∀ message ∈ label.input,
    message.kind = .digest →
    party.game.state = .running →
    ∀ digest,
      (bigEndianU64 message.payload, digest) ∉
        takenIn digestOf party.stamp.round (accountOf party.log).mail

/-- A running side has a buffer for its inputs. -/
theorem equipped
    (act : Act env label party output after)
    (stopped : party.Stopped)
    (before : party.game.state = .running → party.game.inputs.isSome)
    (running : after.game.state = .running) :
    after.game.inputs.isSome := by
  by_cases ended : party.game.state = .ended
  · have still := (act.of_ended ended stopped).2.2.2.1
    simp [still] at running
  · cases act with
    | opened role target invite owed idle side =>
        rcases side with ⟨_, rfl⟩ | ⟨_, rfl⟩ <;> simp at running
    | frame ready ran due =>
        rfl
    | digest ready ran due copied agreement =>
        rfl
    | _ =>
        simp_all

theorem digest_formed
    (act : Act env label party output after)
    (before :
      ∀ message ∈ posted party.log,
        message.kind = .digest → message.payload.length = 40) :
    ∀ message ∈ posted after.log,
      message.kind = .digest → message.payload.length = 40 := by
  have sent :
      ∀ message ∈ output,
        message.kind = .digest → message.payload.length = 40 := by
    cases act with
    | @digest _ frame inputs runtime ran result hash ready step due copied
        agreement =>
        simp [hash.sized]
    | @clash _ frame inputs runtime ran result hash reason ready step due copied
        clash cause =>
        simp [hash.sized]
    | _ =>
        simp_all
  rw [act.posted_eq]
  intro message member
  rcases List.mem_append.mp member with old | new
  · exact before message old
  · exact sent message (by simpa using new)

theorem digested_rounds
    (turn : DigestTurn label output party after)
    (before : party.Digested) :
    ∀ entry ∈ (accountOf after.log).digests, entry.1 ≤ after.stamp.round := by
  intro entry member
  cases turn with
  | rest steps digests round noOutput noInput kept =>
      rw [round]
      exact before.rounds entry (digests ▸ member)
  | begin steps digests round noOutput noInput kept =>
      rw [round]
      exact Nat.le_succ_of_le (before.rounds entry (digests ▸ member))
  | frame frame buffer rest input present popped index steps digests round
      noOutput deaf kept =>
      rw [round]
      exact before.rounds entry (digests ▸ member)
  | publish frame buffer rest input digest present popped index due steps
      digests round sends deaf outcome =>
      rw [digests] at member
      rw [round]
      rcases List.mem_append.mp member with old | new
      · exact before.rounds entry old
      · rw [List.mem_singleton.mp new]
  | hear message kind running taken sends steps digests round outcome =>
      rw [round]
      exact before.rounds entry (digests ▸ member)

/-- What a digest message of a frame carries. -/
theorem digestOf_published
    {frame : Nat}
    (bound : frame < 2 ^ 64)
    (digest : Hash) :
    digestOf ⟨.digest, appendU64 frame ++ digest.bytes⟩ =
      some (frame, digest) := by
  have fits : wrap64 frame = frame := Nat.mod_eq_of_lt bound
  simp [digestOf, fits]

variable {frame : Frame}

/-- A frame that can be run is the next of its round, and its number fits. -/
theorem next_frame
    (ledger : party.Ledger side)
    {buffer rest : Buffer}
    (present : party.game.inputs = some buffer)
    (popped : buffer.popReady = some (frame, rest)) :
    frame.index =
        (stepsIn party.stamp.round (accountOf party.log).steps).length ∧
      frame.index + 1 < 2 ^ 64 := by
  have live := ledger.live buffer present
  obtain ⟨index, known, _⟩ := live.popped popped
  exact ⟨index, live.index_bounded (ledger.book _) known⟩

theorem sampled_iff
    (bound : frame.index + 1 < 2 ^ 64) :
    digestDue frame ↔ Sampled frame.index := by
  unfold digestDue Sampled wrap64
  rw [Nat.mod_eq_of_lt bound]

/-- What a side publishes is what it sends. -/
theorem digested_sent
    (act : Act env label party output after)
    (turn : DigestTurn label output party after)
    (ledger : party.Ledger side)
    (before : party.Digested)
    (round : Nat) :
    sentIn digestOf round (accountOf after.log).posts =
      digestsIn round (accountOf after.log).digests := by
  cases turn with
  | rest steps digests same noOutput noInput kept =>
      rw [digests, act.sent_same (fun message sent =>
        digestOf_of_kind (noOutput message sent))]
      exact before.sent round
  | begin steps digests same noOutput noInput kept =>
      rw [digests, act.sent_same (fun message sent =>
        digestOf_of_kind (noOutput message sent))]
      exact before.sent round
  | frame frame buffer rest input present popped index steps digests same
      noOutput deaf kept =>
      rw [digests, act.sent_same (fun message sent =>
        digestOf_of_kind (noOutput message sent))]
      exact before.sent round
  | publish frame buffer rest input digest present popped index due steps
      digests same sends deaf outcome =>
      have fits := (next_frame ledger present popped).2
      have carried := digestOf_published (Nat.lt_of_succ_lt fits) digest
      rw [digests, act.posts_eq, sends, sentIn_append, digestsIn_append,
        before.sent]
      congr 1
      by_cases current : party.stamp.round = round
      · simp [sentIn, digestsIn, same, current, carried]
      · simp [sentIn, digestsIn, same, current]
  | hear message kind running taken sends steps digests same outcome =>
      rw [digests, act.sent_same (by simp [sends])]
      exact before.sent round

/-- What a running side hears of a digest. -/
theorem takenIn_heard
    {message : Message}
    (act : Act env label party output after)
    (kind : message.kind = .digest)
    (running : party.game.state = .running)
    (taken : label.input = [message])
    (round : Nat) :
    takenIn digestOf round (accountOf after.log).mail =
      takenIn digestOf round (accountOf party.log).mail ++
        if party.stamp.round = round then
          [(bigEndianU64 message.payload,
            Block.copy 32 (message.payload.drop 8))]
        else
          [] := by
  rw [act.mail_eq, taken, takenIn_append]
  congr 1
  by_cases current : party.stamp.round = round
  · simp [takenIn, running, current, digestOf, kind]
  · simp [takenIn, current]

theorem digested_book
    (act : Act env label party output after)
    (turn : DigestTurn label output party after)
    (ledger : party.Ledger side)
    (news : NewDigests label party)
    (before : party.Digested)
    (round : Nat) :
    DigestBook (stepsIn round (accountOf after.log).steps)
      (digestsIn round (accountOf after.log).digests)
      (takenIn digestOf round (accountOf after.log).mail) := by
  have book := before.book round
  cases turn with
  | rest steps digests same noOutput noInput kept =>
      rw [steps, digests,
        act.taken_same (fun message taken running =>
          digestOf_of_kind (fun kind => noInput message taken kind running))]
      exact book
  | begin steps digests same noOutput noInput kept =>
      rw [steps, digests,
        act.taken_same (fun message taken _ =>
          digestOf_of_kind (noInput message taken))]
      exact book
  | frame frame buffer rest input present popped index steps digests same
      noOutput deaf kept =>
      rw [steps, digests, act.taken_same (by simp [deaf]), stepsIn_append]
      by_cases current : party.stamp.round = round
      · have shape :
            stepsIn round [(party.stamp.round, input)] = [input] := by
          simp [stepsIn, current]
        rw [shape]
        exact book.step input
      · simpa [stepsIn, current] using book
  | publish frame buffer rest input digest present popped index due steps
      digests same sends deaf outcome =>
      rw [steps, digests, act.taken_same (by simp [deaf]), stepsIn_append,
        digestsIn_append]
      obtain ⟨next, fits⟩ := next_frame ledger present popped
      by_cases current : party.stamp.round = round
      · subst current
        have shape :
            stepsIn party.stamp.round [(party.stamp.round, input)] =
              [input] := by
          simp [stepsIn]
        have entry :
            digestsIn party.stamp.round
                [(party.stamp.round, frame.index, digest)] =
              [(frame.index, digest)] := by
          simp [digestsIn]
        rw [shape, entry, next]
        exact book.publish input digest (next ▸ (sampled_iff fits).mp due)
      · simpa [stepsIn, digestsIn, current] using book
  | hear message kind running taken sends steps digests same outcome =>
      rw [steps, digests, act.takenIn_heard kind running taken round]
      split
      · next current =>
          subst current
          exact book.take (news message (by simp [taken]) kind running)
      · simpa using book

/-- As long as a round goes on, every sampled frame has its digest. -/
theorem digested_complete
    (turn : DigestTurn label output party after)
    (ledger : party.Ledger side)
    (stopped : after.Stopped)
    (before : party.Digested)
    (survives : after.game.inputs.isSome) :
    ∀ frame,
      frame < (stepsIn after.stamp.round (accountOf after.log).steps).length →
      Sampled frame →
      ∃ digest,
        (frame, digest) ∈
          digestsIn after.stamp.round (accountOf after.log).digests := by
  intro frame ran sampled
  cases turn with
  | rest steps digests same noOutput noInput kept =>
      rw [steps, same] at ran
      rw [digests, same]
      exact before.complete (kept survives).1 frame ran sampled
  | begin steps digests next noOutput noInput kept =>
      rw [steps, next, stepsIn_of_lt (fun step member =>
        Nat.lt_succ_of_le (ledger.stepped step member))] at ran
      cases ran
  | frame popping buffer rest input present popped index steps digests same
      noOutput deaf kept =>
      obtain ⟨next, fits⟩ := next_frame ledger present popped
      have undue := (kept survives).1
      rw [sampled_iff fits, next] at undue
      rw [steps, same, stepsIn_append] at ran
      rw [digests, same]
      refine before.complete (by simp [present]) frame ?_ sampled
      have last : frame ≠
          (stepsIn party.stamp.round (accountOf party.log).steps).length := by
        rintro rfl
        exact undue sampled
      simp [stepsIn] at ran last ⊢
      omega
  | publish popping buffer rest input digest present popped index due steps
      digests same sends deaf outcome =>
      obtain ⟨next, fits⟩ := next_frame ledger present popped
      rw [steps, same, stepsIn_append] at ran
      rw [digests, same, digestsIn_append]
      by_cases last : frame = popping.index
      · subst last
        exact ⟨digest, by simp [digestsIn]⟩
      · have earlier : frame <
            (stepsIn party.stamp.round (accountOf party.log).steps).length := by
          rw [next] at last
          simp [stepsIn] at ran last ⊢
          omega
        obtain ⟨known, listed⟩ :=
          before.complete (by simp [present]) frame earlier sampled
        exact ⟨known, List.mem_append_left _ listed⟩
  | hear message kind running taken sends steps digests same outcome =>
      rw [steps, same] at ran
      rw [digests, same]
      refine before.complete ?_ frame ran sampled
      rcases outcome with ⟨ended, _⟩ | ⟨inputs, _⟩
      · simp [(stopped ended).2] at survives
      · rw [inputs]
        exact survives

/-- As long as a round goes on, its digests are compared as they come. -/
theorem digested_compared
    (act : Act env label party output after)
    (turn : DigestTurn label output party after)
    (ledger : party.Ledger side)
    (stopped : after.Stopped)
    (news : NewDigests label party)
    (before : party.Digested)
    (survives : after.game.inputs.isSome) :
    Compared after.game.localDigests after.game.remoteDigests
      (digestsIn after.stamp.round (accountOf after.log).digests)
      (takenIn digestOf after.stamp.round (accountOf after.log).mail) := by
  cases turn with
  | rest steps digests same noOutput noInput kept =>
      obtain ⟨present, ours, theirs⟩ := kept survives
      rw [digests, same, ours, theirs,
        act.taken_same (fun message taken running =>
          digestOf_of_kind (fun kind => noInput message taken kind running))]
      exact before.compared present
  | begin steps digests next noOutput noInput kept =>
      obtain ⟨ours, theirs⟩ := kept survives
      have unpublished :
          digestsIn (party.stamp.round + 1) (accountOf party.log).digests =
            [] := by
        refine List.filterMap_eq_nil_iff.mpr ?_
        intro entry member
        exact if_neg (Nat.ne_of_lt
          (Nat.lt_succ_of_le (before.rounds entry member)))
      rw [digests, next, ours, theirs, unpublished,
        act.taken_same (fun message taken _ =>
          digestOf_of_kind (noInput message taken)),
        takenIn_of_lt (fun receipt member =>
          Nat.lt_succ_of_le (ledger.taken receipt member))]
      exact Compared.empty
  | frame frame buffer rest input present popped index steps digests same
      noOutput deaf kept =>
      obtain ⟨_, ours, theirs⟩ := kept survives
      rw [digests, same, ours, theirs, act.taken_same (by simp [deaf])]
      exact before.compared (by simp [present])
  | publish frame buffer rest input digest present popped index due steps
      digests same sends deaf outcome =>
      rcases outcome with ⟨ended, _⟩ | ⟨_, game, ours, theirs, agreement,
        settledOurs, settledTheirs⟩
      · simp [(stopped ended).2] at survives
      · have compared := before.compared (by simp [present])
        obtain ⟨next, _⟩ := next_frame ledger present popped
        have fresh : ∀ other, (frame.index, other) ∉
            digestsIn party.stamp.round (accountOf party.log).digests := by
          intro other
          rw [next]
          exact (before.book _).fresh other
        have entry :
            digestsIn party.stamp.round
                [(party.stamp.round, frame.index, digest)] =
              [(frame.index, digest)] := by
          simp [digestsIn]
        obtain ⟨localShape, remoteShape⟩ := game.settleDigest_maps frame.index
        rw [settledOurs, settledTheirs, localShape, remoteShape, digests, same,
          digestsIn_append, entry, act.taken_same (by simp [deaf]), ours,
          theirs]
        refine compared.enter fresh ?_
        intro other found
        have mine : game.localDigests.lookup frame.index = some digest := by
          rw [ours]
          exact AList.lookup_insert _
        rw [← theirs] at found
        exact (Game.eq_of_not_clash agreement mine found).symm
  | hear message kind running taken sends steps digests same outcome =>
      rcases outcome with ⟨ended, _⟩ | ⟨inputs, game, ours, theirs, agreement,
        settledOurs, settledTheirs⟩
      · simp [(stopped ended).2] at survives
      · have compared := before.compared (by rw [inputs]; exact survives)
        obtain ⟨localShape, remoteShape⟩ :=
          game.settleDigest_maps (bigEndianU64 message.payload)
        rw [settledOurs, settledTheirs, localShape, remoteShape, digests, same,
          act.takenIn_heard kind running taken, if_pos rfl, ours, theirs]
        refine (compared.symm.enter
          (news message (by simp [taken]) kind running) ?_).symm
        intro other found
        have yours :
            game.remoteDigests.lookup (bigEndianU64 message.payload) =
              some (Block.copy 32 (message.payload.drop 8)) := by
          rw [theirs]
          exact AList.lookup_insert _
        rw [← ours] at found
        exact Game.eq_of_not_clash agreement found yours

/-- An input is sent after the digest of the frame the input delay before it. -/
theorem digested_ahead
    (act : Act env label party output after)
    (turn : Turn label output party after)
    (ledger : party.Ledger side)
    (before : party.Digested) :
    Every
      (fun earlier letter =>
        ∀ frame mask,
          inputOf letter.message = some (frame + kInputDelay, mask) →
          Sampled frame →
          ∃ digest,
            (frame, digest) ∈ sentIn digestOf letter.stamp.round earlier)
      (accountOf after.log).posts := by
  rw [act.posts_eq, ← Option.toList_map]
  refine before.ahead.append_option ?_
  intro letter new frame mask carried sampled
  obtain ⟨message, sent, rfl⟩ := Option.map_eq_some_iff.mp new
  have kind : message.kind = .input := by
    by_contra other
    rw [inputOf_of_kind other] at carried
    cases carried
  cases turn with
  | rest steps same noOutput =>
      exact absurd kind (noOutput message sent)
  | begin steps next noOutput =>
      exact absurd kind (noOutput message sent)
  | frame popping buffer rest running present popped steps same noOutput =>
      exact absurd kind (noOutput message sent)
  | take heard heardKind running taken sends =>
      rw [sends] at sent
      cases sent
  | submit buffer rest buttons present lead put steps same sends deaf inputs
      completed nextSubmit =>
      have live := ledger.live buffer present
      obtain ⟨behind, _⟩ := live.send lead put completed nextSubmit
      rw [sends, Option.some.injEq] at sent
      rw [← sent, live.inputOf_next buttons] at carried
      have index : frame =
          (sentIn inputOf party.stamp.round
            (accountOf party.log).posts).length := by
        have numbers := (Prod.mk.inj (Option.some.inj carried)).1
        omega
      obtain ⟨digest, listed⟩ :=
        before.complete (by simp [present]) frame (by omega) sampled
      refine ⟨digest, ?_⟩
      rw [same, before.sent]
      exact listed

/-- Digests that differ have ended the session. -/
theorem digested_found
    (act : Act env label party output after)
    (turn : DigestTurn label output party after)
    (alive : party.game.state ≠ .ended)
    (formed :
      ∀ message ∈ label.input,
        message.kind = .digest → message.payload.length = 40)
    (before : party.Digested)
    (book :
      ∀ round,
        DigestBook (stepsIn round (accountOf after.log).steps)
          (digestsIn round (accountOf after.log).digests)
          (takenIn digestOf round (accountOf after.log).mail))
    (compared :
      after.game.inputs.isSome →
      Compared after.game.localDigests after.game.remoteDigests
        (digestsIn after.stamp.round (accountOf after.log).digests)
        (takenIn digestOf after.stamp.round (accountOf after.log).mail)) :
    ∀ round frame ours theirs,
      (frame, ours) ∈ digestsIn round (accountOf after.log).digests →
      (frame, theirs) ∈ takenIn digestOf round (accountOf after.log).mail →
      ours ≠ theirs →
      after.game.state = .ended ∧ after.game.reason = .desync := by
  intro round frame ours theirs published taken differ
  have earlier :
      (frame, ours) ∈ digestsIn round (accountOf party.log).digests →
      (frame, theirs) ∈ takenIn digestOf round (accountOf party.log).mail →
      False := by
    intro known heard
    exact alive (before.found round frame ours theirs known heard differ).1
  have agreed :
      ∀ round,
        (frame, ours) ∈ digestsIn round (accountOf after.log).digests →
        (frame, theirs) ∈ takenIn digestOf round (accountOf after.log).mail →
        after.game.inputs.isSome →
        (round ≠ after.stamp.round → False) →
        ours = theirs := by
    intro round published taken survives elsewhere
    have current : round = after.stamp.round := not_not.mp elsewhere
    subst current
    exact (compared survives).agree
      (DigestBook.unique_of_nodup (book _).once)
      (DigestBook.unique_of_nodup (book _).takenOnce) published taken
  cases turn with
  | rest steps digests same noOutput noInput kept =>
      rw [digests] at published
      rw [act.taken_same (fun message taken running =>
        digestOf_of_kind (fun kind => noInput message taken kind running))]
        at taken
      exact (earlier published taken).elim
  | begin steps digests next noOutput noInput kept =>
      rw [digests] at published
      rw [act.taken_same (fun message taken _ =>
        digestOf_of_kind (noInput message taken))] at taken
      exact (earlier published taken).elim
  | frame popping buffer rest input present popped index steps digests same
      noOutput deaf kept =>
      rw [digests] at published
      rw [act.taken_same (by simp [deaf])] at taken
      exact (earlier published taken).elim
  | publish popping buffer rest input digest present popped index due steps
      digests same sends deaf outcome =>
      rcases outcome with clash | ⟨survives, _⟩
      · exact clash
      · exact absurd (agreed round published taken survives (by
          intro other
          rw [digests, digestsIn_append] at published
          rw [act.taken_same (by simp [deaf])] at taken
          rw [same] at other
          have kept : (frame, ours) ∈
              digestsIn round (accountOf party.log).digests := by
            simpa [digestsIn, other.symm] using published
          exact earlier kept taken)) differ
  | hear message kind running heard sends steps digests same outcome =>
      rcases outcome with ⟨ended, desync⟩ | ⟨inputs, _⟩
      · exact ⟨ended, desync (formed message (by simp [heard]) kind)⟩
      · have survives : after.game.inputs.isSome := by
          rw [← inputs]
          exact before.equipped running
        exact absurd (agreed round published taken survives (by
          intro other
          rw [digests] at published
          rw [act.takenIn_heard kind running heard, if_neg (by
            rw [same] at other
            exact fun current => other current.symm), List.append_nil] at taken
          exact earlier published taken)) differ

/-- The digests of a side stay as they should. -/
theorem digested
    (act : Act env label party output after)
    (turn : Turn label output party after)
    (digestTurn : DigestTurn label output party after)
    (stopped : party.Stopped)
    (ledger : party.Ledger side)
    (formed :
      ∀ message ∈ label.input,
        message.kind = .digest → message.payload.length = 40)
    (news : NewDigests label party)
    (before : party.Digested) :
    after.Digested := by
  have stoppedAfter := act.stopped stopped
  have book := act.digested_book digestTurn ledger news before
  have compared :=
    act.digested_compared digestTurn ledger stoppedAfter news before
  refine ⟨act.digest_formed before.formed,
    act.equipped stopped before.equipped,
    digested_rounds digestTurn before, act.digested_sent digestTurn ledger before,
    book, digested_complete digestTurn ledger stoppedAfter before, compared, ?_,
    act.digested_ahead turn ledger before⟩
  by_cases ended : party.game.state = .ended
  · obtain ⟨_, _, log, still, reason, _⟩ := act.of_ended ended stopped
    intro round frame ours theirs published taken differ
    rw [log] at published taken
    rw [still, reason]
    exact ⟨rfl,
      (before.found round frame ours theirs published taken differ).2⟩
  · exact act.digested_found digestTurn ended formed before book compared

end Act

theorem World.env_accepts
    {R : Type}
    (world : World R)
    (side : Side) :
    ¬ (world.env side).Refuses := by
  rintro ⟨operation, refused⟩
  exact refused rfl

namespace Duo

variable
  {R : Type}
  {world : World R}
  {careful : Duo R → Side → Label → Prop}
  {side : Side}
  {label : Label}
  {duo after : Duo R}

/-- A message of a round that is taken now comes next in that round. -/
theorem next_of_round
    {Item : Type}
    {read : Message → Option Item}
    (reaches : Reaches world careful {} duo)
    (ofRound : ∀ message, ¬ Plays message → read message = none)
    (step : Step world side label duo after)
    (allowed : label.Decides → careful duo side label)
    {message : Message}
    (taken : label.input = [message])
    (plays : Plays message)
    (running : (duo.party side).game.state = .running)
    {item : Item}
    (reading : read message = some item) :
    ∃ later,
      sentIn read (duo.party side).stamp.round
          (accountOf (duo.party side.other).log).posts =
        takenIn read (duo.party side).stamp.round
          (accountOf (duo.party side).log).mail ++ item :: later := by
  have coherent := Coherent.reaches reaches
  have afterReaches : Reaches world careful {} after :=
    reaches.tail ⟨side, label, step, allowed⟩
  obtain ⟨before, letter, later, rfl, posts, length, paired⟩ :=
    coherent.next_letter step taken
  have round : letter.stamp.round = (duo.party side).stamp.round := by
    rcases plays_received afterReaches paired plays with
      ⟨_, rounds⟩ | ⟨returning, _⟩
    · exact rounds
    · rw [running] at returning
      cases returning
  have takenSent := taken_eq_sent reaches ofRound running rfl
  rw [posts, ← length, List.take_left] at takenSent
  refine ⟨sentIn read (duo.party side).stamp.round later, ?_⟩
  rw [posts, takenSent, sentIn_append]
  congr 1
  simp [sentIn, round, reading]

/-- No digest of a frame comes twice in a round. -/
theorem digest_news
    (reaches : Reaches world careful {} duo)
    (peer : (duo.party side.other).Digested)
    (step : Step world side label duo after)
    (allowed : label.Decides → careful duo side label) :
    Act.NewDigests label (duo.party side) := by
  intro message member kind running digest old
  rcases label.input_cases with empty | ⟨single, taken⟩
  · rw [empty] at member
    cases member
  · rw [taken, List.mem_singleton] at member
    subst member
    have reading :
        digestOf message =
          some (bigEndianU64 message.payload,
            Block.copy 32 (message.payload.drop 8)) := by
      simp [digestOf, kind]
    obtain ⟨later, sent⟩ :=
      next_of_round reaches digestOf_ofRound step allowed taken
        (Or.inr (Or.inl kind)) running reading
    have once := (peer.book (duo.party side).stamp.round).once
    rw [← peer.sent, sent, List.map_append, List.nodup_append] at once
    exact once.2.2 _ (List.mem_map.mpr ⟨_, old, rfl⟩) _ (by simp) rfl

theorem digested
    (reaches : Reaches world careful {} duo) :
    ∀ side, (duo.party side).Digested := by
  induction reaches with
  | refl =>
      have initial : (({} : Party R)).Digested := by
        refine ⟨?_, ?_, ?_, fun _ => rfl, fun _ => DigestBook.empty, ?_, ?_, ?_,
          Every.nil⟩
        · intro message member
          cases member
        · intro running
          cases running
        · intro entry member
          cases member
        · intro present
          cases present
        · intro present
          cases present
        · intro round frame ours theirs member
          cases member
      intro side
      cases side <;> exact initial
  | @tail duo after reaches step inductionHypothesis =>
      obtain ⟨side, label, step, allowed⟩ := step
      have coherent := Coherent.reaches reaches
      have kept := Kept.reaches reaches
      have news :=
        digest_news reaches (inductionHypothesis side.other) step allowed
      cases step with
      | @act party output acted sound opens deaf hears =>
          have within := acted.heard_within hears
          have fresh := coherent.fresh kept.informed within
          have turn := acted.turn (coherent.stopped side)
            (coherent.steady side) (fun _ => fresh)
          have digestTurn := acted.digestTurn (coherent.stopped side)
            (coherent.steady side) (world.env_accepts side) (fun _ => fresh)
          have digested := acted.digested turn digestTurn
            (coherent.stopped side) (kept.ledger side)
            (fun message member kind =>
              (inductionHypothesis side.other).formed message
                (within.subset (List.mem_append_right _ member)) kind)
            news (inductionHypothesis side)
          intro other
          by_cases mine : other = side
          · subst mine
            rw [party_set]
            exact digested
          · have theirs : other = side.other := by
              cases side <;> cases other <;> simp_all [Side.other]
            subst theirs
            rw [party_set_other]
            exact inductionHypothesis side.other

/-- A side that can run a frame has compared the digest of the one before. -/
theorem compared_before
    (reaches : Reaches world careful {} duo)
    (running : (duo.party side).game.state = .running)
    {buffer rest : Buffer}
    {frame : Frame}
    (present : (duo.party side).game.inputs = some buffer)
    (popped : buffer.popReady = some (frame, rest))
    {earlier : Nat}
    (later : frame.index = earlier + kInputDelay)
    (sampled : Sampled earlier) :
    ∃ digest,
      (earlier, digest) ∈
          digestsIn (duo.party side).stamp.round
            (accountOf (duo.party side).log).digests ∧
        (earlier, digest) ∈
          digestsIn (duo.party side).stamp.round
            (accountOf (duo.party side.other).log).digests := by
  have kept := Kept.reaches reaches
  have own := digested reaches side
  have peer := digested reaches side.other
  have live := (kept.ledger side).live buffer present
  obtain ⟨index, _, known⟩ := live.popped popped
  have delay : 0 < kInputDelay := by
    decide
  obtain ⟨ours, published⟩ :=
    own.complete (by simp [present]) earlier (by omega) sampled
  -- The input of this frame has come, and before it the peer's digest.
  have taken :
      (frame.index, frame.remoteMask) ∈
        takenIn inputOf (duo.party side).stamp.round
          (accountOf (duo.party side).log).mail := by
    rcases known with ⟨early, _⟩ | listed
    · omega
    · exact listed
  rw [taken_eq_sent reaches inputOf_ofRound running rfl] at taken
  obtain ⟨letter, member, reading⟩ := List.mem_filterMap.mp taken
  obtain ⟨front, back, shape⟩ := List.append_of_mem member
  split at reading
  · next round =>
      rw [later] at reading
      obtain ⟨theirs, listed⟩ :=
        peer.ahead front letter
          (back ++ (accountOf (duo.party side.other).log).posts.drop
            (accountOf (duo.party side).log).mail.length)
          (by
            rw [← List.cons_append, ← List.append_assoc, ← shape,
              List.take_append_drop]) earlier frame.remoteMask reading sampled
      rw [round] at listed
      have heard :
          (earlier, theirs) ∈
            takenIn digestOf (duo.party side).stamp.round
              (accountOf (duo.party side).log).mail := by
        rw [taken_eq_sent reaches digestOf_ofRound running rfl, shape,
          sentIn_append]
        exact List.mem_append_left _ listed
      have same : ours = theirs := by
        by_contra differ
        have ended :=
          (own.found _ earlier ours theirs published heard differ).1
        rw [running] at ended
        cases ended
      subst same
      refine ⟨ours, published, ?_⟩
      rw [← peer.sent]
      exact sent_of_taken reaches digestOf_ofRound heard
  · cases reading

/-- What has been published stays published. -/
theorem digests_grow
    {party next : Party R}
    {output : Option Message}
    (turn : DigestTurn label output party next)
    {round : Nat}
    {entry : Nat × Hash}
    (member : entry ∈ digestsIn round (accountOf party.log).digests) :
    entry ∈ digestsIn round (accountOf next.log).digests := by
  cases turn with
  | rest steps digests =>
      rwa [digests]
  | begin steps digests =>
      rwa [digests]
  | frame frame buffer rest input present popped index steps digests =>
      rwa [digests]
  | publish frame buffer rest input digest present popped index due steps
      digests =>
      rw [digests, digestsIn_append]
      exact List.mem_append_left _ member
  | hear message kind running taken sends steps digests =>
      rwa [digests]

/--
A side that has run a frame the input delay after a sampled one has published
the same digest of that frame as its peer.
-/
def Verified (duo : Duo R) : Prop :=
  ∀ side round earlier input,
    Sampled earlier →
    input ∈ stepsIn round (accountOf (duo.party side).log).steps →
    input.frameIndex = earlier + kInputDelay →
    ∃ digest,
      (earlier, digest) ∈
          digestsIn round (accountOf (duo.party side).log).digests ∧
        (earlier, digest) ∈
          digestsIn round (accountOf (duo.party side.other).log).digests

theorem verified
    (reaches : Reaches world careful {} duo) :
    duo.Verified := by
  induction reaches with
  | refl =>
      intro side round earlier input _ ran
      cases side <;> cases ran
  | @tail duo after reaches step inductionHypothesis =>
      obtain ⟨side, label, step, allowed⟩ := step
      have coherent := Coherent.reaches reaches
      have kept := Kept.reaches reaches
      cases step with
      | @act party output acted sound opens deaf hears =>
          have within := acted.heard_within hears
          have fresh := coherent.fresh kept.informed within
          have turn := acted.turn (coherent.stopped side)
            (coherent.steady side) (fun _ => fresh)
          have digestTurn := acted.digestTurn (coherent.stopped side)
            (coherent.steady side) (world.env_accepts side) (fun _ => fresh)
          have grows :
              ∀ other round entry,
                entry ∈ digestsIn round
                    (accountOf (duo.party other).log).digests →
                entry ∈ digestsIn round
                    (accountOf ((duo.set party side).party other).log).digests :=
            by
              intro other round entry member
              by_cases mine : other = side
              · subst mine
                rw [party_set]
                exact digests_grow digestTurn member
              · have theirs : other = side.other := by
                  cases side <;> cases other <;> simp_all [Side.other]
                subst theirs
                rwa [party_set_other]
          have before :
              ∀ other round earlier input,
                Sampled earlier →
                input ∈ stepsIn round
                    (accountOf (duo.party other).log).steps →
                input.frameIndex = earlier + kInputDelay →
                ∃ digest,
                  (earlier, digest) ∈
                      digestsIn round
                        (accountOf
                          ((duo.set party side).party other).log).digests ∧
                    (earlier, digest) ∈
                      digestsIn round
                        (accountOf ((duo.set party side).party
                          other.other).log).digests := by
            intro other round earlier input sampled ran index
            obtain ⟨digest, ours, theirs⟩ :=
              inductionHypothesis other round earlier input sampled ran index
            exact ⟨digest, grows other round _ ours,
              grows other.other round _ theirs⟩
          intro other round earlier input sampled ran index
          by_cases mine : other = side
          · subst mine
            rw [party_set] at ran
            cases turn with
            | frame frame buffer rest running present popped steps =>
                rw [steps, stepsIn_append] at ran
                rcases List.mem_append.mp ran with old | new
                · exact before other round earlier input sampled old index
                · by_cases current : (duo.party other).stamp.round = round
                  · subst current
                    have same :
                        input = (duo.party other).game.frameInput frame := by
                      simpa [stepsIn] using new
                    rw [same] at index
                    obtain ⟨digest, ours, theirs⟩ :=
                      compared_before reaches running present popped index
                        sampled
                    exact ⟨digest, grows other _ _ ours,
                      grows other.other _ _ theirs⟩
                  · simp [stepsIn, current] at new
            | rest steps =>
                rw [steps] at ran
                exact before other round earlier input sampled ran index
            | begin steps =>
                rw [steps] at ran
                exact before other round earlier input sampled ran index
            | submit buffer rest buttons present lead put steps =>
                rw [steps] at ran
                exact before other round earlier input sampled ran index
            | take message kind running taken sends steps =>
                rw [steps] at ran
                exact before other round earlier input sampled ran index
          · have theirs : other = side.other := by
              cases side <;> cases other <;> simp_all [Side.other]
            subst theirs
            rw [party_set_other] at ran
            exact before side.other round earlier input sampled ran index

end Duo

namespace Net

variable {R : Type}

/-- The digests one end has published in a round. -/
def digestsOf (net : Net R) (side : Side) (round : Nat) : List (Nat × Hash) :=
  digestsIn round (net.account side).digests

/-- The digests of its peer that one end has acted on in a round. -/
def digestsHeard
    (net : Net R)
    (side : Side)
    (round : Nat) : List (Nat × Hash) :=
  takenIn digestOf round (net.account side).mail

/--
Whatever happens, if the ends publish different digests of a sampled frame of a
round, neither runs the second frame after it in that round; an end that has
published a digest and has acted on another one of its peer's for that frame has
ended with a desync; and a running end never holds both sides' digests of a
frame.
-/
theorem desync_detection
    (world : World R)
    (happenings : List Happening) :
    let net := run world happenings
    (∀ round frame ours theirs,
      Sampled frame →
      (frame, ours) ∈ net.digestsOf .host round →
      (frame, theirs) ∈ net.digestsOf .guest round →
      ours ≠ theirs →
      ∀ side,
        ∀ input ∈ net.stepsOf side round, input.frameIndex ≠ frame + 2) ∧
      (∀ side round frame ours theirs,
        (frame, ours) ∈ net.digestsOf side round →
        (frame, theirs) ∈ net.digestsHeard side round →
        ours ≠ theirs →
        (net.endpoint side).session.state = .ended ∧
          (net.endpoint side).session.reason = .desync) ∧
      (∀ side,
        (net.endpoint side).session.state = .running →
        ∀ frame,
          (net.endpoint side).session.localDigests.lookup frame = none ∨
            (net.endpoint side).session.remoteDigests.lookup frame = none) := by
  intro net
  have reaches := run_reaches_any world happenings
  have digested := Duo.digested reaches
  refine ⟨?_, ?_, ?_⟩
  · intro round frame ours theirs sampled host guest differ side input ran index
    have verified := Duo.verified reaches side round frame input sampled
    rw [← account_duo, ← account_duo] at verified
    obtain ⟨digest, mine, yours⟩ := verified ran index
    have once : ∀ end',
        ((net.digestsOf end' round).map Prod.fst).Nodup := by
      intro end'
      have book := (digested end').book round
      rw [← account_duo] at book
      exact book.once
    have hostSame := DigestBook.unique_of_nodup (once .host) frame ours
    have guestSame := DigestBook.unique_of_nodup (once .guest) frame theirs
    cases side with
    | host =>
        exact differ ((hostSame digest host mine).trans
          (guestSame digest guest yours).symm)
    | guest =>
        exact differ ((hostSame digest host yours).trans
          (guestSame digest guest mine).symm)
  · intro side round frame ours theirs published heard differ
    have found := (digested side).found round frame ours theirs
    rw [← account_duo, duo_party] at found
    exact found published heard differ
  · intro side running frame
    have own := digested side
    rw [duo_party] at own
    exact (own.compared (own.equipped running)).apart frame

end Net

end FlyNes.LanMvp
